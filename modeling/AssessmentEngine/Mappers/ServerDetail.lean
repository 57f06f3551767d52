import AssessmentEngine.Library.IsoFormat
import AssessmentEngine.Mappers.Devices
import AssessmentEngine.Services.ServiceClassifier

/-!
# Server details

`to_server_detail` makes the view of one server from its inventory; `enrich_server_detail` derives
from the view what is only there to be shown.  The derivation overwrites what it derives and reads
nothing of it, so that it may be repeated.
-/

namespace AssessmentEngine

/-! ## The inventory of a server -/

structure NetAddress where
  address : Option String
  prefixLength : Option ℤ
  family : Option String
  deriving DecidableEq, Repr

structure NetInterface where
  kind : Option String
  addresses : List NetAddress
  deriving DecidableEq, Repr

/-- `outbound.ServerDetail`, as far as the view reads it. -/
structure ServerDetailDto where
  id : ℤ
  publicId : String
  agentId : String
  compositeId : Option String
  machineId : Option String
  hostname : String
  agentVersion : Option String
  osFamily : Option String
  osId : Option String
  osVersion : Option String
  osCodename : Option String
  kernelVersion : Option String
  cpuCores : Option ℤ
  cpuModel : Option String
  cpuArch : Option String
  cpuBits : Option ℤ
  memTotalBytes : Option ℤ
  bootTime : Option DateTime
  agentStartedAt : Option DateTime
  netInterfaces : List NetInterface
  ipExternal : Option (List String)
  blockDevices : List DeviceNode
  services : Option (List InventoryService)
  listenPorts : List ListenPort
  lastSeenAt : Option DateTime
  productName : Option String
  edition : Option String

/-! ## The view -/

structure DiskItem where
  name : String
  sizeGb : Option ℚ
  deriving DecidableEq, Repr

structure VolumeItem where
  mount : String
  fstype : Option String
  totalGb : Option ℚ
  deriving DecidableEq, Repr

structure IpAddr where
  value : String
  isIpv4 : Bool
  deriving DecidableEq, Repr

structure ServiceItem where
  unit : String
  sub : String
  category : String
  ports : List MatchedPort
  displayName : String := ""
  categoryCount : ℤ := 1
  deriving DecidableEq, Repr

structure ListenPortItem where
  proto : String
  addr : String
  port : ℤ
  uid : Option ℤ
  pid : Option ℤ
  comm : Option String
  isSignificant : Bool := false
  deriving DecidableEq, Repr

structure ServerDetailResponse where
  id : ℤ
  publicId : String
  agentId : String
  compositeId : Option String
  machineId : Option String
  hostname : String
  agentVersion : Option String
  osFamily : Option String
  osId : Option String
  osVersion : Option String
  osCodename : Option String
  kernelVersion : Option String
  cpuCores : Option ℤ
  cpuModel : Option String
  cpuArch : Option String
  cpuBits : Option ℤ
  memTotalGb : Option ℚ
  swapTotalGb : Option ℚ
  bootTime : Option DateTime
  agentStartedAt : Option DateTime
  ipInternal : List IpAddr
  ipExternal : Option (List IpAddr)
  disks : List DiskItem
  services : Option (List ServiceItem)
  listenPorts : List ListenPortItem
  lastSeenAt : Option DateTime
  productName : Option String := none
  edition : Option String := none
  sortedServices : List ServiceItem := []
  sortedListenPorts : List ListenPortItem := []
  knownServices : List ServiceItem := []
  showUnknownBadge : Bool := false
  keyListenPorts : List ListenPortItem := []
  osDisplay : String := ""
  cpuDisplay : String := ""
  diskTotalGb : Option ℚ := none
  diskUnallocatedGb : Option ℚ := none
  servicesCount : ℤ := 0
  listenPortsCount : ℤ := 0
  disksCount : ℤ := 0
  volumes : List VolumeItem := []
  volumeTotalGb : Option ℚ := none
  volumesCount : ℤ := 0

/-! ## The operating system -/

/-- What follows the literal, its letters in either case. -/
def afterLiteral (u : Unicode) : List Char → List Char → Option (List Char)
  | [], text => some text
  | c :: literal, t :: text => if u.sameLetter c t then afterLiteral u literal text else none
  | _ :: _, [] => none

/-- `_WIN_SERVER_YEAR_RE` at the start of the text, as the label that it gives. -/
def serverYear (u : Unicode) (text : List Char) : Option String :=
  match afterLiteral u "Windows Server ".toList text with
  | none => none
  | some rest =>
    let year := rest.take 4
    if year.length = 4 ∧ year.all u.isDecimal = true then
      let afterYear := rest.drop 4
      let word := afterYear.dropWhile u.isSpace
      if word.length < afterYear.length ∧ (afterLiteral u "R2".toList word).isSome = true then
        some (String.ofList year ++ " R2")
      else some (String.ofList year)
    else none

/-- `_WIN_CLIENT_GEN_RE` at the start of the text. -/
def clientGeneration (u : Unicode) (text : List Char) : Option String :=
  match afterLiteral u "Windows ".toList text with
  | none => none
  | some rest =>
    let generation := rest.take 2
    if (generation = "10".toList ∨ generation = "11".toList) ∧
        ((rest.drop 2).head?.any u.isWord) = false then
      some (String.ofList generation)
    else none

/-- `windows_short_label_from_product_name`: the year of a server, else the generation of a
client. -/
def windowsShortLabel (u : Unicode) : Option String → Option String
  | none => none
  | some productName =>
    (productName.toList.tails.findSome? (serverYear u)).or
      (productName.toList.tails.findSome? (clientGeneration u))

/-- `_WINDOWS_LEGACY_BUILD_LABEL`. -/
def windowsLegacyBuildLabel : String → Option String
  | "9600" => some "2012 R2"
  | "9200" => some "2012"
  | "7601" => some "2008 R2"
  | "6003" => some "2008"
  | "3790" => some "2003"
  | "2195" => some "2000"
  | _ => none

/-- `windows_legacy_version_from_build`. -/
def windowsLegacyVersion (kernelVersion : Option String) : Option String :=
  kernelVersion.bind fun version =>
    windowsLegacyBuildLabel (String.ofList (version.toList.takeWhile fun c => decide (c ≠ '.')))

/-- `" ".join(p for p in parts if p) or "-"`. -/
def joinParts (parts : List (Option String)) : String :=
  let shown := parts.filterMap fun part => part.filter fun p => decide (p ≠ "")
  if " ".intercalate shown = "" then "-" else " ".intercalate shown

/-- `_os_display`: the label of a Windows product goes before its version, which goes before the
label of a legacy build. -/
def osDisplayOf (u : Unicode) (osId osVersion kernelVersion productName : Option String) : String :=
  let ver :=
    if osId = some "windows" then
      match windowsShortLabel u productName with
      | some short => some short
      | none =>
        if osVersion.getD "" = "" then windowsLegacyVersion kernelVersion else osVersion
    else osVersion
  joinParts [osId, ver]

/-- `detail.cpu_display`. -/
def cpuDisplayOf (cpuModel : Option String) (cpuCores : Option ℤ) : String :=
  joinParts [cpuModel,
    cpuCores.bind fun cores => if cores = 0 then none else some (toString cores ++ " cores")]

/-! ## Badges -/

/-- `f"{p.proto}:{p.port}"`. -/
def chipKey (p : MatchedPort) : String := p.proto ++ ":" ++ toString p.port

/-- What the badges show so far: `seen_chip_keys`, `shown_port_numbers` and `known`. -/
structure Badges where
  seenChipKeys : List String
  shownPortNumbers : List ℤ
  known : List ServiceItem

/-- The port becomes a chip of the badge in the making unless there is one already. -/
def addChip (state : Badges × List MatchedPort) (p : MatchedPort) : Badges × List MatchedPort :=
  if chipKey p ∈ state.1.seenChipKeys then state
  else
    ({ state.1 with
        seenChipKeys := state.1.seenChipKeys ++ [chipKey p]
        shownPortNumbers := state.1.shownPortNumbers ++ [p.port] },
      state.2 ++ [p])

def addChips (badges : Badges) (ports : List MatchedPort) : Badges × List MatchedPort :=
  ports.foldl addChip (badges, [])

/-- `sorted(ports, key=lambda mp: (mp.port, mp.proto))`. -/
def sortChips (ports : List MatchedPort) : List MatchedPort := ports.mergeSort portLe

/-- The badge of a category of units: the ports of the units, then the sockets of the category. It
is named after the first unit with a port, else after the first unit. -/
def addCategory (listenByCat : List (String × List MatchedPort)) (badges : Badges)
    (group : String × List ServiceItem) : Badges :=
  let (shown, ports) := addChips badges
    (group.2.flatMap ServiceItem.ports ++ (listenByCat.lookup group.1).getD [])
  match (group.2.find? fun s => !s.ports.isEmpty).or group.2.head? with
  | some rep =>
    { shown with
      known := shown.known ++
        [{ unit := rep.unit, sub := rep.sub, category := group.1, ports := sortChips ports,
           displayName := rep.displayName }] }
  | none => shown

/-- The badge of a category that no unit is in. -/
def addListenOnly (knownCategories : List String) (badges : Badges)
    (group : String × List MatchedPort) : Badges :=
  if group.1 ∈ knownCategories then badges
  else
    let (shown, ports) := addChips badges group.2
    { shown with
      known := shown.known ++
        [{ unit := "", sub := "", category := group.1, ports := sortChips ports }] }

/-- `by_cat`. -/
def servicesByCategory (services : List ServiceItem) : List (String × List ServiceItem) :=
  (services.filter fun s => decide (s.category ≠ "unknown")).foldl
    (fun groups s => appendUnder s.category s groups) []

/-- `listen_dicts`. -/
def ListenPortItem.toListenPort (lp : ListenPortItem) : ListenPort where
  proto := some lp.proto
  addr := none
  port := some lp.port
  uid := none
  pid := none
  comm := lp.comm

/-- The two loops over the categories. -/
def collectBadges (u : Unicode) (services : List ServiceItem) (listenPorts : List ListenPortItem) :
    Badges :=
  let listenByCat := detectListenCategories u (listenPorts.map ListenPortItem.toListenPort)
  let ofUnits := (servicesByCategory services).foldl (addCategory listenByCat) ⟨[], [], []⟩
  listenByCat.foldl (addListenOnly (ofUnits.known.map ServiceItem.category)) ofUnits

def ListenPortItem.matched (lp : ListenPortItem) : MatchedPort where
  proto := lp.proto
  port := lp.port

/-- `sorted(…, key=lambda lp: (lp.port, lp.proto))`. -/
def sortListenPorts (listenPorts : List ListenPortItem) : List ListenPortItem :=
  listenPorts.mergeSort fun a b => portLe a.matched b.matched

/-- `enrich_server_detail`. -/
def enrichServerDetail (u : Unicode) (detail : ServerDetailResponse) : ServerDetailResponse :=
  let services := detail.services.getD []
  let badges := collectBadges u services detail.listenPorts
  let known := badges.known.mergeSort fun a b => decide (a.category ≤ b.category)
  { detail with
    knownServices := known
    showUnknownBadge := !services.isEmpty && known.isEmpty
    keyListenPorts := sortListenPorts
      (detail.listenPorts.filter fun lp =>
        lp.isSignificant && decide (lp.port ∉ badges.shownPortNumbers))
    sortedServices := services.mergeSort fun a b => decide (a.unit ≤ b.unit)
    sortedListenPorts := sortListenPorts detail.listenPorts
    osDisplay := osDisplayOf u detail.osId detail.osVersion detail.kernelVersion detail.productName
    cpuDisplay := cpuDisplayOf detail.cpuModel detail.cpuCores
    servicesCount := services.length
    listenPortsCount := detail.listenPorts.length
    disksCount := detail.disks.length
    volumesCount := detail.volumes.length }

/-! ## From the inventory -/

/-- IPv4 first. -/
def sortAddresses (items : List IpAddr) : List IpAddr :=
  items.mergeSort fun a b => a.isIpv4 || !b.isIpv4

/-- `_to_ip_addrs`: the addresses with their prefix, without those of the loopback. -/
def toIpAddrs (netInterfaces : List NetInterface) : List IpAddr :=
  sortAddresses
    ((netInterfaces.filter fun iface => decide (iface.kind ≠ some "loopback")).flatMap fun iface =>
      iface.addresses.map fun a =>
        { value :=
            match a.prefixLength with
            | some n => a.address.getD "" ++ "/" ++ toString n
            | none => a.address.getD ""
          isIpv4 := decide (a.family = some "ipv4") })

/-- `_ext_ip_addrs`. -/
def extIpAddrs (ips : List String) : List IpAddr :=
  sortAddresses (ips.map fun s => { value := s, isIpv4 := decide (':' ∉ s.toList) })

/-- `_to_volumes`. -/
def toVolumes (blockDevices : List DeviceNode) : List VolumeItem :=
  (blockDevices.filterMap fun d => d.dataPath.map fun path : String =>
    { mount := path, fstype := d.fstype, totalGb := bytesToGb d.sizeBytes }).mergeSort
      fun a b => decide (a.mount ≤ b.mount)

/-- `_to_disk_item`. -/
def toDiskItem (d : DeviceNode) : Option DiskItem :=
  if isPhysicalDisk d.type then some { name := d.name.getD "", sizeGb := bytesToGb d.sizeBytes }
  else none

/-- `DYNAMIC_PORT_MIN`. -/
def dynamicPortMin : ℤ := 49152

/-- `_to_listen_port_item`. -/
def toListenPortItem (p : ListenPort) : ListenPortItem where
  proto := p.proto.getD ""
  addr := p.addr.getD ""
  port := p.port.getD 0
  uid := p.uid
  pid := p.pid
  comm := p.comm
  isSignificant := decide (p.port.getD 0 < dynamicPortMin)

/-- `_to_service_item`. -/
def toServiceItem (u : Unicode) (listenPorts : List ListenPort) (s : InventoryService) :
    ServiceItem where
  unit := s.unit.getD ""
  sub := s.sub.getD ""
  category := classify u (s.unit.getD "") listenPorts s.pid
  ports := matchedPorts u (s.unit.getD "") listenPorts s.pid
  displayName := removeSuffix ".service" (s.unit.getD "")

/-- `to_server_detail`. -/
def toServerDetail (u : Unicode) (dto : ServerDetailDto) : ServerDetailResponse :=
  let (diskTotalGb, volumeTotalGb, diskUnallocatedGb) := storageLayersGb dto.blockDevices
  enrichServerDetail u
    { id := dto.id
      publicId := dto.publicId
      agentId := dto.agentId
      compositeId := dto.compositeId
      machineId := dto.machineId
      hostname := dto.hostname
      agentVersion := dto.agentVersion
      osFamily := dto.osFamily
      osId := dto.osId
      osVersion := dto.osVersion
      osCodename := dto.osCodename
      kernelVersion := dto.kernelVersion
      cpuCores := dto.cpuCores
      cpuModel := dto.cpuModel
      cpuArch := dto.cpuArch
      cpuBits := dto.cpuBits
      memTotalGb := bytesToGib dto.memTotalBytes
      swapTotalGb := bytesToGib (some (swapTotalBytes dto.blockDevices))
      bootTime := dto.bootTime
      agentStartedAt := dto.agentStartedAt
      ipInternal := toIpAddrs dto.netInterfaces
      ipExternal :=
        match dto.ipExternal with
        | some (ip :: ips) => some (extIpAddrs (ip :: ips))
        | _ => none
      disks := dto.blockDevices.filterMap toDiskItem
      services := dto.services.map fun raw => raw.map (toServiceItem u dto.listenPorts)
      listenPorts := dto.listenPorts.map toListenPortItem
      lastSeenAt := dto.lastSeenAt
      productName := dto.productName
      edition := dto.edition
      volumes := toVolumes dto.blockDevices
      diskTotalGb := diskTotalGb
      volumeTotalGb := volumeTotalGb
      diskUnallocatedGb := diskUnallocatedGb }

/-! ## Repetition -/

/-- Enriching a view again changes nothing. -/
theorem enrichServerDetail_idem (u : Unicode) (detail : ServerDetailResponse) :
    enrichServerDetail u (enrichServerDetail u detail) = enrichServerDetail u detail :=
  rfl

end AssessmentEngine
