import Mathlib.Data.List.Sort
import Mathlib.Data.Int.Notation

/-!
# Service categories

`service_classifier`: a service belongs to the category whose keyword its unit name contains, else
to that of the process or the port of a listen socket that is its own.  Comparisons of text are made
in lower case.
-/

namespace AssessmentEngine

/-! ## Text -/

/-- What the language knows of characters: lower case and the classes that patterns use. -/
structure Unicode where
  lower : String → String
  /-- The value of a decimal digit. -/
  decimal : Char → Option ℕ
  /-- `isdigit`, which holds of more than the decimal digits. -/
  isDigit : Char → Bool
  /-- `\s`. -/
  isSpace : Char → Bool
  /-- `\w`. -/
  isWord : Char → Bool
  /-- Two characters are the same but for their case. -/
  sameLetter : Char → Char → Bool

/-- `\d`. -/
def Unicode.isDecimal (u : Unicode) (c : Char) : Bool := (u.decimal c).isSome

/-- The letters and digits of ASCII. -/
def asciiText : Unicode where
  lower text := String.ofList (text.toList.map Char.toLower)
  decimal c := if c.isDigit then some (c.toNat - 48) else none
  isDigit := Char.isDigit
  isSpace := Char.isWhitespace
  isWord c := c.isAlphanum || decide (c = '_')
  sameLetter a b := decide (a.toLower = b.toLower)

/-- `keyword in text`. -/
def hasSubstring (keyword text : String) : Bool :=
  text.toList.tails.any fun rest => keyword.toList.isPrefixOf rest

/-- `s.removesuffix(suffix)`. -/
def removeSuffix (suffix s : String) : String :=
  if suffix.toList.isSuffixOf s.toList then
    String.ofList (s.toList.take (s.toList.length - suffix.toList.length))
  else s

/-! ## The catalogue -/

/-- A category and what it is recognised by. -/
structure CategoryDef where
  key : String
  nameKeywords : List String
  portNames : List (String × List ℤ)
  singleInstance : Bool
  deriving DecidableEq, Repr

/-- `SERVICE_CATALOG`: earlier categories go first. -/
def serviceCatalog : List CategoryDef :=
  [{ key := "web"
     nameKeywords := ["nginx", "httpd", "apache", "caddy", "lighttpd", "traefik", "haproxy",
       "w3svc", "iis", "openresty", "tomcat", "jetty", "php-fpm", "gunicorn", "uwsgi"]
     portNames := [("nginx", [80, 443]), ("apache2", [80, 443]), ("httpd", [80, 443]),
       ("caddy", [80, 443]), ("lighttpd", [80, 443]), ("haproxy", [80, 443]),
       ("traefik", [80, 443, 8080]), ("tomcat", [8080])]
     singleInstance := false },
   { key := "db"
     nameKeywords := ["postgresql", "postgres", "mariadb", "mysqld", "mysql", "mongod", "mongodb",
       "cassandra", "influxdb", "sqlservr", "mssql", "oracle", "elasticsearch", "opensearch",
       "clickhouse", "db2"]
     portNames := [("postgresql", [5432]), ("postgres", [5432]), ("mysqld", [3306]),
       ("mysql", [3306]), ("mariadb", [3306]), ("mongod", [27017]), ("cassandra", [9042, 9160]),
       ("influxdb", [8086]), ("oracle", [1521]), ("sqlservr", [1433]), ("mssql", [1433]),
       ("elasticsearch", [9200, 9300]), ("opensearch", [9200, 9300]),
       ("clickhouse", [8123, 9000]), ("db2", [50000])]
     singleInstance := false },
   { key := "cache"
     nameKeywords := ["redis", "memcached", "varnish", "valkey", "keydb", "dragonfly"]
     portNames := [("redis-server", [6379]), ("redis", [6379]), ("memcached", [11211]),
       ("varnish", [6081, 6082]), ("valkey", [6379]), ("keydb", [6379]), ("dragonfly", [6379])]
     singleInstance := false },
   { key := "mq"
     nameKeywords := ["rabbitmq", "kafka", "activemq", "nats", "mosquitto", "pulsar", "redpanda",
       "emqx", "artemis"]
     portNames := [("rabbitmq-server", [5672, 15672]), ("rabbitmq", [5672, 15672]),
       ("kafka", [9092]), ("nats-server", [4222, 8222]), ("activemq", [61616, 8161]),
       ("mosquitto", [1883, 8883]), ("pulsar", [6650]), ("emqx", [1883])]
     singleInstance := false },
   { key := "container"
     nameKeywords := ["docker", "containerd", "kubelet", "podman", "crio", "k3s", "k0s"]
     portNames := []
     singleInstance := true },
   { key := "monitor"
     nameKeywords := ["prometheus", "grafana", "datadog", "node_exporter", "zabbix", "telegraf",
       "collectd", "fluentd", "fluent-bit", "filebeat", "victoriametrics", "loki", "netdata",
       "alertmanager"]
     portNames := [("prometheus", [9090]), ("node_exporter", [9100]), ("zabbix", [10050, 10051]),
       ("alertmanager", [9093]), ("victoriametrics", [8428]), ("loki", [3100]),
       ("netdata", [19999])]
     singleInstance := false },
   { key := "remote"
     nameKeywords := ["sshd", "ssh", "openssh", "rdp", "termservice", "umrdpservice", "winrm",
       "wsmprovhost", "tigervnc", "x11vnc", "vino", "vncserver", "teamviewer", "anydesk",
       "telnetd"]
     portNames := [("sshd", [22]), ("rdp", [3389]), ("termservice", [3389]),
       ("winrm", [5985, 5986]), ("vncserver", [5900, 5901]), ("tigervnc", [5900, 5901]),
       ("telnetd", [23])]
     singleInstance := false },
   { key := "file"
     nameKeywords := ["nfsd", "nfs", "rpc.mountd", "rpcbind", "smbd", "samba", "nmbd", "vsftpd",
       "proftpd", "pure-ftpd", "glusterd", "ceph-osd", "minio", "iscsid", "tgtd"]
     portNames := [("nfsd", [2049]), ("rpc.mountd", [20048]), ("rpcbind", [111]),
       ("smbd", [445, 139]), ("samba", [445, 139]), ("vsftpd", [21]), ("proftpd", [21]),
       ("pure-ftpd", [21]), ("minio", [9001]), ("iscsid", [3260]), ("tgtd", [3260])]
     singleInstance := false },
   { key := "mail"
     nameKeywords := ["postfix", "sendmail", "exim", "exim4", "dovecot", "cyrus", "opendkim",
       "rspamd", "amavis", "zimbra"]
     portNames := [("postfix", [25, 587, 465]), ("sendmail", [25]), ("exim", [25]),
       ("exim4", [25]), ("dovecot", [143, 993, 110, 995]), ("cyrus", [143, 993])]
     singleInstance := false },
   { key := "infra"
     nameKeywords := ["named", "dnsmasq", "unbound", "pdns", "coredns", "knot", "dhcpd", "dhcp",
       "kea", "chronyd", "ntpd", "slapd", "sssd", "winbind", "squid", "privoxy", "snmpd",
       "keepalived"]
     portNames := [("named", [53]), ("dnsmasq", [53]), ("unbound", [53]), ("coredns", [53]),
       ("dhcpd", [67]), ("ntpd", [123]), ("chronyd", [123]), ("slapd", [389, 636]),
       ("squid", [3128]), ("snmpd", [161, 162])]
     singleInstance := false }]

/-- `_NAME_INDEX`. -/
def nameIndex : List (String × String) :=
  serviceCatalog.flatMap fun d => d.nameKeywords.map fun keyword => (keyword, d.key)

/-- `_NAME_PORTS`: of two entries with one name the later counts. -/
def namePorts (name : String) : List ℤ :=
  ((serviceCatalog.flatMap CategoryDef.portNames).reverse.lookup name).getD []

/-- `_PORT_INDEX`: of two categories with one port the earlier counts. -/
def portIndex (port : ℤ) : Option String :=
  (serviceCatalog.find? fun d => d.portNames.any fun named => decide (port ∈ named.2)).map
    CategoryDef.key

/-- `_match_keyword`. -/
def matchKeyword (text : String) : Option String :=
  if text = "" then none
  else (nameIndex.find? fun entry => hasSubstring entry.1 text).map Prod.snd

/-! ## Listen sockets -/

/-- A listen socket as the inventory has it; `none` is a key that is not there. -/
structure ListenPort where
  proto : Option String
  addr : Option String
  port : Option ℤ
  uid : Option ℤ
  pid : Option ℤ
  comm : Option String
  deriving DecidableEq, Repr

structure MatchedPort where
  proto : String
  port : ℤ
  deriving DecidableEq, Repr

/-- `p.get("proto", "")` with `p.get("port", 0)`. -/
def ListenPort.matched (p : ListenPort) : MatchedPort where
  proto := p.proto.getD ""
  port := p.port.getD 0

/-- `(p.get("comm") or "").lower()`. -/
def ListenPort.lowerComm (u : Unicode) (p : ListenPort) : String :=
  u.lower (p.comm.getD "")

/-- The order by port, then by protocol. -/
def portLe (a b : MatchedPort) : Bool :=
  decide (a.port < b.port) || (decide (a.port = b.port) && decide (a.proto ≤ b.proto))

/-- `sorted(listen_ports, key=…)`. -/
def sortedPorts (ports : List ListenPort) : List ListenPort :=
  ports.mergeSort fun a b => portLe a.matched b.matched

/-- The sockets that are selected, each protocol and port once. -/
def firstOfEach (select : ListenPort → Bool) (ports : List ListenPort) : List ListenPort :=
  ports.foldl
    (fun result p =>
      if p.matched ∈ result.map ListenPort.matched ∨ select p = false then result
      else result ++ [p]) []

/-- The process of the socket and the unit have one name in the other.  A socket that the service
manager itself holds says nothing about its unit. -/
def commMatches (name comm : String) : Bool :=
  decide (comm ≠ "") && decide (comm ≠ "systemd") &&
    (hasSubstring name comm || hasSubstring comm name)

/-- `_attributed_ports`. -/
def attributedPorts (u : Unicode) (unit : String) (listenPorts : List ListenPort)
    (pid : Option ℤ) : List ListenPort :=
  match pid with
  | some own => firstOfEach (fun p => decide (p.pid = some own)) (sortedPorts listenPorts)
  | none =>
    let name := u.lower (removeSuffix ".service" unit)
    firstOfEach
      (fun p => commMatches name (p.lowerComm u) || decide (p.matched.port ∈ namePorts name))
      (sortedPorts listenPorts)

/-! ## Classification -/

/-- The first category that one of the sockets is evidence of: by process, else by port. -/
def categoryOfPorts (u : Unicode) (attributed : List ListenPort) : Option String :=
  (attributed.findSome? fun p => matchKeyword (p.lowerComm u)).or
    (attributed.findSome? fun p => portIndex p.matched.port)

/-- `classify`. -/
def classify (u : Unicode) (unit : String) (listenPorts : List ListenPort) (pid : Option ℤ) :
    String :=
  ((matchKeyword (removeSuffix ".service" (u.lower unit))).or
    (categoryOfPorts u (attributedPorts u unit listenPorts pid))).getD "unknown"

/-- The socket is the unit's: by its process, or, when it has none, by the category. -/
def ownsPort (category : String) (pid : Option ℤ) (p : ListenPort) : Bool :=
  match p.pid with
  | some owner => decide (pid = some owner)
  | none => decide (category ≠ "unknown") && decide (portIndex p.matched.port = some category)

/-- `matched_ports`: the category is that of the unit without its process. -/
def matchedPorts (u : Unicode) (unit : String) (listenPorts : List ListenPort) (pid : Option ℤ) :
    List MatchedPort :=
  (firstOfEach (ownsPort (classify u unit listenPorts none) pid) (sortedPorts listenPorts)).map
    ListenPort.matched

/-- `_detect`: the category that a socket is evidence of by itself. -/
def listenCategory (u : Unicode) (p : ListenPort) : Option String :=
  (matchKeyword (p.lowerComm u)).or (portIndex p.matched.port)

/-- A list under each key, in the order in which the keys first appear. -/
def appendUnder {α : Type*} (key : String) (a : α) : List (String × List α) → List (String × List α)
  | [] => [(key, [a])]
  | (k, as) :: rest =>
    if k = key then (k, as ++ [a]) :: rest else (k, as) :: appendUnder key a rest

/-- The socket goes under its category, if it has one. -/
def addSocket (u : Unicode) (out : List (String × List MatchedPort)) (p : ListenPort) :
    List (String × List MatchedPort) :=
  match listenCategory u p with
  | some category => appendUnder category p.matched out
  | none => out

/-- `detect_listen_categories`. -/
def detectListenCategories (u : Unicode) (listenPorts : List ListenPort) :
    List (String × List MatchedPort) :=
  (firstOfEach (fun p => (listenCategory u p).isSome) (sortedPorts listenPorts)).foldl
    (addSocket u) []

/-! ## Workloads -/

/-- A service of the inventory as it is stored; `none` is a key that is not there, or null. -/
structure InventoryService where
  unit : Option String
  sub : Option String
  pid : Option ℤ
  exe : Option String
  deriving DecidableEq, Repr

/-- `_BASELINE_KEYWORDS`. -/
def baselineKeywords : List String :=
  ["sshd", "ssh", "openssh", "rdp", "termservice", "umrdpservice", "winrm", "wsmprovhost",
    "tigervnc", "x11vnc", "vino", "vncserver", "telnetd", "chronyd", "ntpd", "ntpdate", "timesyncd",
    "resolved", "rpcbind", "gssproxy", "sssd", "winbind", "systemd-"]

/-- `_BASELINE_PORTS`. -/
def baselinePorts : List ℤ := [22, 23, 3389, 5985, 5986, 5900, 5901, 123, 111]

/-- `is_baseline_service`. -/
def isBaselineService (u : Unicode) (name : Option String) : Bool :=
  baselineKeywords.any fun keyword => hasSubstring keyword (u.lower (name.getD ""))

/-- `is_baseline_socket`. -/
def isBaselineSocket (u : Unicode) (p : ListenPort) : Bool :=
  isBaselineService u p.comm || decide (p.port.getD 0 ∈ baselinePorts)

/-- The category of a service that counts as a workload. -/
def workloadCategory (u : Unicode) (listenPorts : List ListenPort) (s : InventoryService) :
    Option String :=
  match s.unit with
  | none => none
  | some unit =>
    if unit = "" ∨ isBaselineService u (some unit) = true then none
    else (some (classify u unit listenPorts s.pid)).filter fun cat => decide (cat ≠ "unknown")

/-- `compute_service_categories`. -/
def computeServiceCategories (u : Unicode) (services : Option (List InventoryService))
    (listenPorts : List ListenPort) : List String :=
  (((services.getD []).filterMap (workloadCategory u listenPorts) ++
    (detectListenCategories u (listenPorts.filter fun p => !isBaselineSocket u p)).map
      Prod.fst).eraseDups).mergeSort fun a b => decide (a ≤ b)

/-! ## Categories are those of the catalogue -/

/-- The keys of the categories. -/
def categoryKeys : List String := serviceCatalog.map CategoryDef.key

lemma matchKeyword_mem {text category : String} (h : matchKeyword text = some category) :
    category ∈ categoryKeys := by
  unfold matchKeyword at h
  split_ifs at h
  obtain ⟨entry, hentry, rfl⟩ := Option.map_eq_some_iff.mp h
  obtain ⟨d, hd, hkeyword⟩ := List.mem_flatMap.mp (List.mem_of_find?_eq_some hentry)
  obtain ⟨keyword, _, rfl⟩ := List.mem_map.mp hkeyword
  exact List.mem_map_of_mem hd

lemma portIndex_mem {port : ℤ} {category : String} (h : portIndex port = some category) :
    category ∈ categoryKeys := by
  obtain ⟨d, hd, rfl⟩ := Option.map_eq_some_iff.mp h
  exact List.mem_map_of_mem (List.mem_of_find?_eq_some hd)

lemma categoryOfPorts_mem {u : Unicode} {ports : List ListenPort} {category : String}
    (h : categoryOfPorts u ports = some category) : category ∈ categoryKeys := by
  rcases Option.or_eq_some_iff.mp h with hcomm | ⟨_, hport⟩
  · obtain ⟨p, _, hp⟩ := List.exists_of_findSome?_eq_some hcomm
    exact matchKeyword_mem hp
  · obtain ⟨p, _, hp⟩ := List.exists_of_findSome?_eq_some hport
    exact portIndex_mem hp

/-- A service is in a category of the catalogue or in "unknown". -/
lemma classify_mem (u : Unicode) (unit : String) (listenPorts : List ListenPort)
    (pid : Option ℤ) : classify u unit listenPorts pid ∈ "unknown" :: categoryKeys := by
  unfold classify
  cases hfound : (matchKeyword (removeSuffix ".service" (u.lower unit))).or
      (categoryOfPorts u (attributedPorts u unit listenPorts pid)) with
  | none => exact List.mem_cons_self
  | some category =>
    apply List.mem_cons_of_mem
    rcases Option.or_eq_some_iff.mp hfound with hname | ⟨_, hports⟩
    · exact matchKeyword_mem hname
    · exact categoryOfPorts_mem hports

lemma classify_ne_empty (u : Unicode) (unit : String) (listenPorts : List ListenPort)
    (pid : Option ℤ) : classify u unit listenPorts pid ≠ "" := by
  have hkeys : ∀ key ∈ "unknown" :: categoryKeys, key ≠ "" := by decide
  exact hkeys _ (classify_mem u unit listenPorts pid)

lemma mem_appendUnder {α : Type*} {key k : String} {a : α} {groups : List (String × List α)}
    (h : k ∈ (appendUnder key a groups).map Prod.fst) : k = key ∨ k ∈ groups.map Prod.fst := by
  induction groups with
  | nil => exact Or.inl (List.mem_singleton.mp h)
  | cons group groups ih =>
    obtain ⟨k', as⟩ := group
    unfold appendUnder at h
    split_ifs at h with hkey
    · exact Or.inr h
    · rcases List.mem_cons.mp h with rfl | htail
      · exact Or.inr List.mem_cons_self
      · exact (ih htail).imp_right (List.mem_cons_of_mem _)

lemma mem_addSocket {u : Unicode} {groups : List (String × List MatchedPort)} {p : ListenPort}
    {k : String} (h : k ∈ (addSocket u groups p).map Prod.fst) :
    k ∈ categoryKeys ∨ k ∈ groups.map Prod.fst := by
  unfold addSocket at h
  cases hcategory : listenCategory u p with
  | none =>
    rw [hcategory] at h
    exact Or.inr h
  | some category =>
    rw [hcategory] at h
    have hmem : category ∈ categoryKeys := by
      rcases Option.or_eq_some_iff.mp hcategory with hcomm | ⟨_, hport⟩
      · exact matchKeyword_mem hcomm
      · exact portIndex_mem hport
    rcases mem_appendUnder h with rfl | hold
    · exact Or.inl hmem
    · exact Or.inr hold

lemma mem_foldl_addSocket {u : Unicode} {ports : List ListenPort}
    {groups : List (String × List MatchedPort)} {k : String}
    (h : k ∈ (ports.foldl (addSocket u) groups).map Prod.fst) :
    k ∈ categoryKeys ∨ k ∈ groups.map Prod.fst := by
  induction ports generalizing groups with
  | nil => exact Or.inr h
  | cons p ports ih =>
    rcases ih h with hmem | hgroups
    · exact Or.inl hmem
    · exact mem_addSocket hgroups

/-- The categories of sockets are those of the catalogue. -/
lemma detectListenCategories_mem {u : Unicode} {ports : List ListenPort} {k : String}
    (h : k ∈ (detectListenCategories u ports).map Prod.fst) : k ∈ categoryKeys := by
  rcases mem_foldl_addSocket h with hmem | hnone
  · exact hmem
  · exact absurd hnone List.not_mem_nil

/-- The workloads of a host are in categories of the catalogue. -/
lemma computeServiceCategories_mem {u : Unicode} {services : Option (List InventoryService)}
    {listenPorts : List ListenPort} {k : String}
    (h : k ∈ computeServiceCategories u services listenPorts) : k ∈ categoryKeys := by
  unfold computeServiceCategories at h
  rw [List.mem_mergeSort, List.mem_eraseDups, List.mem_append] at h
  rcases h with hservices | hlisten
  · obtain ⟨s, _, hs⟩ := List.mem_filterMap.mp hservices
    unfold workloadCategory at hs
    cases hunit : s.unit with
    | none => simp [hunit] at hs
    | some unit =>
      simp only [hunit] at hs
      split_ifs at hs
      obtain ⟨hclassify, hknown⟩ := Option.filter_eq_some_iff.mp hs
      cases hclassify
      rcases List.mem_cons.mp (classify_mem u unit listenPorts s.pid) with hunknown | hmem
      · exact absurd hunknown (of_decide_eq_true hknown)
      · exact hmem
  · exact detectListenCategories_mem hlisten

end AssessmentEngine
