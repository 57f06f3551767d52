import AssessmentEngine.Library.Codec
import AssessmentEngine.Mappers.ServerDetail
import AssessmentEngine.Reports.Snapshots

/-!
# The cache of the server pages

`cache_serializer`: the details of a server and its metric dashboard are kept as JSON.  What is only
shown of the details is derived again when they come from the cache.  A page is the same whether it
comes from the cache or not.
-/

namespace AssessmentEngine

open Dataclass Codec

/-! ## Items -/

/-- `DiskItem(name=d["name"], size_gb=d.get("size_gb"))`. -/
def DiskItem.codec : Codec ViewModel DiskItem where
  encode d := .dict [("name", str.encode d.name), ("size_gb", optionalFloat.encode d.sizeGb)]
  decode v := do
    let d ← entries v
    let name ← str.need "name" d
    let sizeGb ← optionalFloat.get "size_gb" none d
    return { name, sizeGb }
  decode_encode _ := entries_then (need_then rfl (get_then rfl rfl))

/-- `VolumeItem(**v)`. -/
def VolumeItem.codec : Codec ViewModel VolumeItem where
  encode v := .dict [("mount", str.encode v.mount), ("fstype", optionalStr.encode v.fstype),
    ("total_gb", optionalFloat.encode v.totalGb)]
  decode v := do
    let d ← entries v
    let d ← keywords ["mount", "fstype", "total_gb"] d
    let mount ← str.need "mount" d
    let fstype ← optionalStr.need "fstype" d
    let totalGb ← optionalFloat.need "total_gb" d
    return { mount, fstype, totalGb }
  decode_encode _ := entries_then <| keywords_then (List.Subset.refl _) <|
    need_then rfl <| need_then rfl <| need_then rfl rfl

/-- `IpAddr(**a)`. -/
def IpAddr.codec : Codec ViewModel IpAddr where
  encode a := .dict [("value", str.encode a.value), ("is_ipv4", bool.encode a.isIpv4)]
  decode v := do
    let d ← entries v
    let d ← keywords ["value", "is_ipv4"] d
    let value ← str.need "value" d
    let isIpv4 ← bool.need "is_ipv4" d
    return { value, isIpv4 }
  decode_encode _ := entries_then <| keywords_then (List.Subset.refl _) <|
    need_then rfl <| need_then rfl rfl

def IpAddr.optionalList : Codec ViewModel (Option (List IpAddr)) :=
  IpAddr.codec.list.nullable fun _ => rfl

/-- `MatchedPort(proto=p["proto"], port=p["port"])`. -/
def MatchedPort.codec : Codec ViewModel MatchedPort where
  encode p := .dict [("proto", str.encode p.proto), ("port", int.encode p.port)]
  decode v := do
    let d ← entries v
    let proto ← str.need "proto" d
    let port ← int.need "port" d
    return { proto, port }
  decode_encode _ := entries_then (need_then rfl (need_then rfl rfl))

/-- A socket that does not say whether it is significant is so below the dynamic ports. -/
def ListenPortItem.codec : Codec ViewModel ListenPortItem where
  encode p := .dict [("proto", str.encode p.proto), ("addr", str.encode p.addr),
    ("port", int.encode p.port), ("uid", optionalInt.encode p.uid),
    ("pid", optionalInt.encode p.pid), ("comm", optionalStr.encode p.comm),
    ("is_significant", bool.encode p.isSignificant)]
  decode v := do
    let d ← entries v
    let proto ← str.need "proto" d
    let addr ← str.need "addr" d
    let port ← int.need "port" d
    let uid ← optionalInt.get "uid" none d
    let pid ← optionalInt.get "pid" none d
    let comm ← optionalStr.get "comm" none d
    let isSignificant ← bool.get "is_significant" (decide (port < dynamicPortMin)) d
    return { proto, addr, port, uid, pid, comm, isSignificant }
  decode_encode _ := entries_then <| need_then rfl <| need_then rfl <| need_then rfl <|
    get_then rfl <| get_then rfl <| get_then rfl <| get_then rfl rfl

/-! ## Services -/

/-- `text or default`. -/
def textOr (text : Option String) (default : String) : String :=
  if text.getD "" = "" then default else text.getD ""

def ServiceItem.asdict (s : ServiceItem) : Vm :=
  .dict [("unit", str.encode s.unit), ("sub", str.encode s.sub),
    ("category", optionalStr.encode s.category), ("ports", MatchedPort.codec.list.encode s.ports),
    ("display_name", optionalStr.encode s.displayName),
    ("category_count", int.encode s.categoryCount)]

/-- A service without a category is of an unknown one; without a name it has that of its unit. -/
def serviceItemFromDict (v : Vm) : Option ServiceItem := do
  let s ← entries v
  let unit ← str.need "unit" s
  let sub ← str.need "sub" s
  let category ← optionalStr.get "category" none s
  let ports ← MatchedPort.codec.all "ports" s
  let displayName ← optionalStr.get "display_name" none s
  let categoryCount ← int.get "category_count" 1 s
  return {
    unit, sub, ports, categoryCount
    category := textOr category "unknown"
    displayName := textOr displayName (removeSuffix ".service" unit) }

def servicesJson : Option (List ServiceItem) → Vm
  | none => .null
  | some services => .list (services.map ServiceItem.asdict)

/-- The services of the cached details; `None` stays. -/
def servicesFromDict (data : Dict ViewModel) : Option (Option (List ServiceItem)) :=
  match data.lookup "services" with
  | some (.list raw) => (raw.mapM serviceItemFromDict).map some
  | some .null => some none
  | some _ => none
  | none => some none

/-! ## Details -/

/-- `dataclasses.asdict(v)` with the times as text. -/
def detailEntries (v : ServerDetailResponse) : Dict ViewModel :=
  [("id", int.encode v.id),
    ("public_id", str.encode v.publicId),
    ("agent_id", str.encode v.agentId),
    ("composite_id", optionalStr.encode v.compositeId),
    ("machine_id", optionalStr.encode v.machineId),
    ("hostname", str.encode v.hostname),
    ("agent_version", optionalStr.encode v.agentVersion),
    ("os_family", optionalStr.encode v.osFamily),
    ("os_id", optionalStr.encode v.osId),
    ("os_version", optionalStr.encode v.osVersion),
    ("os_codename", optionalStr.encode v.osCodename),
    ("kernel_version", optionalStr.encode v.kernelVersion),
    ("cpu_cores", optionalInt.encode v.cpuCores),
    ("cpu_model", optionalStr.encode v.cpuModel),
    ("cpu_arch", optionalStr.encode v.cpuArch),
    ("cpu_bits", optionalInt.encode v.cpuBits),
    ("mem_total_gb", optionalFloat.encode v.memTotalGb),
    ("swap_total_gb", optionalFloat.encode v.swapTotalGb),
    ("boot_time", optionalTime.encode v.bootTime),
    ("agent_started_at", optionalTime.encode v.agentStartedAt),
    ("ip_internal", IpAddr.codec.list.encode v.ipInternal),
    ("ip_external", IpAddr.optionalList.encode v.ipExternal),
    ("disks", DiskItem.codec.list.encode v.disks),
    ("services", servicesJson v.services),
    ("listen_ports", ListenPortItem.codec.list.encode v.listenPorts),
    ("last_seen_at", optionalTime.encode v.lastSeenAt),
    ("product_name", optionalStr.encode v.productName),
    ("edition", optionalStr.encode v.edition),
    ("sorted_services", .list (v.sortedServices.map ServiceItem.asdict)),
    ("sorted_listen_ports", ListenPortItem.codec.list.encode v.sortedListenPorts),
    ("known_services", .list (v.knownServices.map ServiceItem.asdict)),
    ("show_unknown_badge", bool.encode v.showUnknownBadge),
    ("key_listen_ports", ListenPortItem.codec.list.encode v.keyListenPorts),
    ("os_display", str.encode v.osDisplay),
    ("cpu_display", str.encode v.cpuDisplay),
    ("disk_total_gb", optionalFloat.encode v.diskTotalGb),
    ("disk_unallocated_gb", optionalFloat.encode v.diskUnallocatedGb),
    ("services_count", int.encode v.servicesCount),
    ("listen_ports_count", int.encode v.listenPortsCount),
    ("disks_count", int.encode v.disksCount),
    ("volumes", VolumeItem.codec.list.encode v.volumes),
    ("volume_total_gb", optionalFloat.encode v.volumeTotalGb),
    ("volumes_count", int.encode v.volumesCount)]

/-- The fields of `ServerDetailResponse`. -/
def serverDetailFields : List String :=
  ["id", "public_id", "agent_id", "composite_id", "machine_id", "hostname", "agent_version",
    "os_family", "os_id", "os_version", "os_codename", "kernel_version", "cpu_cores", "cpu_model",
    "cpu_arch", "cpu_bits", "mem_total_gb", "swap_total_gb", "boot_time", "agent_started_at",
    "ip_internal", "ip_external", "disks", "services", "listen_ports", "last_seen_at",
    "product_name", "edition", "sorted_services", "sorted_listen_ports", "known_services",
    "show_unknown_badge", "key_listen_ports", "os_display", "cpu_display", "disk_total_gb",
    "disk_unallocated_gb", "services_count", "listen_ports_count", "disks_count", "volumes",
    "volume_total_gb", "volumes_count"]

/-- `server_detail_to_json`. -/
def serverDetailToJson (v : ServerDetailResponse) : Vm := .dict (detailEntries v)

/-- `_DETAIL_DISPLAY_FIELDS`. -/
def detailDisplayFields : List String :=
  ["known_services", "show_unknown_badge", "key_listen_ports", "os_display", "cpu_display",
    "sorted_services", "sorted_listen_ports", "services_count", "listen_ports_count", "disks_count",
    "volumes_count"]

/-- `ServerDetailResponse(**data)`, with the nested items read from their dictionaries. -/
def serverDetailResponse (data : Dict ViewModel) : Option ServerDetailResponse := do
  let data ← keywords serverDetailFields data
  let id ← int.need "id" data
  let publicId ← str.get "public_id" "" data
  let agentId ← str.get "agent_id" "" data
  let compositeId ← optionalStr.get "composite_id" none data
  let machineId ← optionalStr.get "machine_id" none data
  let hostname ← str.need "hostname" data
  let agentVersion ← optionalStr.need "agent_version" data
  let osFamily ← optionalStr.get "os_family" none data
  let osId ← optionalStr.need "os_id" data
  let osVersion ← optionalStr.need "os_version" data
  let osCodename ← optionalStr.need "os_codename" data
  let kernelVersion ← optionalStr.need "kernel_version" data
  let cpuCores ← optionalInt.need "cpu_cores" data
  let cpuModel ← optionalStr.need "cpu_model" data
  let cpuArch ← optionalStr.need "cpu_arch" data
  let cpuBits ← optionalInt.need "cpu_bits" data
  let memTotalGb ← optionalFloat.need "mem_total_gb" data
  let swapTotalGb ← optionalFloat.need "swap_total_gb" data
  let bootTime ← optionalTime.need "boot_time" data
  let agentStartedAt ← optionalTime.need "agent_started_at" data
  let ipInternal ← IpAddr.codec.all "ip_internal" data
  let ipExternal ← IpAddr.optionalList.need "ip_external" data
  let disks ← DiskItem.codec.all "disks" data
  let services ← servicesFromDict data
  let listenPorts ← ListenPortItem.codec.all "listen_ports" data
  let lastSeenAt ← optionalTime.need "last_seen_at" data
  let productName ← optionalStr.get "product_name" none data
  let edition ← optionalStr.get "edition" none data
  let diskTotalGb ← optionalFloat.get "disk_total_gb" none data
  let diskUnallocatedGb ← optionalFloat.get "disk_unallocated_gb" none data
  let volumes ← VolumeItem.codec.all "volumes" data
  let volumeTotalGb ← optionalFloat.get "volume_total_gb" none data
  return { id, publicId, agentId, compositeId, machineId, hostname, agentVersion, osFamily, osId,
           osVersion, osCodename, kernelVersion, cpuCores, cpuModel, cpuArch, cpuBits, memTotalGb,
           swapTotalGb, bootTime, agentStartedAt, ipInternal, ipExternal, disks, services,
           listenPorts, lastSeenAt, productName, edition, diskTotalGb, diskUnallocatedGb, volumes,
           volumeTotalGb }

/-- `server_detail_from_json`. -/
def serverDetailFromJson (u : Unicode) (raw : Vm) : Option ServerDetailResponse := do
  let data ← entries raw
  let detail ← serverDetailResponse (without detailDisplayFields data)
  return enrichServerDetail u detail

/-! ## Dashboards -/

/-- `datetime.fromisoformat(x) if isinstance(x, str) else None`. -/
def timeOfText : Reader ViewModel
  | some (.str s) => (DateTime.fromisoformat s).map .datetime
  | _ => some .null

/-- `datetime.fromisoformat(x) if x else None`. -/
def timeIfAny : Reader ViewModel :=
  whenTruthy (fun | .str s => (DateTime.fromisoformat s).map .datetime | _ => none) fun _ => .null

/-- `_error_signal_from_dict`. -/
def errorSignalFromDict : Vm → Option Vm :=
  construct viewModelFields .errorSignal
    [("key", item),
      ("label", item),
      ("state", item),
      ("count", getOr .null),
      ("context", getOr .null),
      ("last_at", timeIfAny),
      ("window_label", getOr .null),
      ("detail", getOr .null)]

/-- `cls(**data)`. -/
def spreadVm (c : ViewModel) : Vm → Option Vm := spread viewModelFields c

/-- `dashboard_to_json`. -/
def dashboardToJson (v : Vm) : Vm := v.jsonable

/-- `dashboard_from_json`. -/
def dashboardFromJson : Vm → Option Vm :=
  construct viewModelFields .metricDashboard
    [("collected_at", timeOfText),
      ("cpu", whenTruthy (spreadVm .cpuSnapshot) fun _ => .null),
      ("memory", whenTruthy (spreadVm .memSnapshot) fun _ => .null),
      ("disk_io", each (spreadVm .diskIoSnapshot)),
      ("net_io", each (spreadVm .netIoSnapshot)),
      ("mounts", each (spreadVm .mountDashSnapshot)),
      ("disk_usage_pct", getOr .null),
      ("cpu_saturation", each (spreadVm .saturationSignal)),
      ("mem_saturation", each (spreadVm .saturationSignal)),
      ("disk_saturation", each (spreadVm .saturationSignal)),
      ("net_saturation", each (spreadVm .saturationSignal)),
      ("errors", each errorSignalFromDict),
      ("cpu_cores", each (spreadVm .cpuCoreSnapshot))]

/-! ## The details come back -/

section Details

/-- The service keeps its category and its name in the cache. -/
def ServiceItem.Kept (s : ServiceItem) : Prop :=
  s.category ≠ "" ∧ (s.displayName = "" → removeSuffix ".service" s.unit = "")

lemma textOr_some {text default : String} (h : text = "" → default = "") :
    textOr (some text) default = text := by
  unfold textOr
  split_ifs with hempty
  · exact (h hempty).trans hempty.symm
  · rfl

lemma serviceItemFromDict_asdict {s : ServiceItem} (h : s.Kept) :
    serviceItemFromDict s.asdict = some s := by
  rw [serviceItemFromDict, ServiceItem.asdict]
  refine entries_then <| need_then rfl <| need_then rfl <| get_then rfl <| all_then rfl <|
    get_then rfl <| get_then rfl ?_
  have hcategory : textOr (some s.category) "unknown" = s.category :=
    textOr_some fun hempty => absurd hempty h.1
  have hname : textOr (some s.displayName) (removeSuffix ".service" s.unit) = s.displayName :=
    textOr_some h.2
  rw [hcategory, hname]
  rfl

lemma servicesFromDict_json {services : Option (List ServiceItem)} {data : Dict ViewModel}
    (hdata : data.lookup "services" = some (servicesJson services))
    (h : ∀ s ∈ services.getD [], s.Kept) : servicesFromDict data = some services := by
  unfold servicesFromDict
  rw [hdata]
  cases services with
  | none => rfl
  | some services =>
    have hmap : (services.map ServiceItem.asdict).mapM serviceItemFromDict = some services := by
      rw [mapM_eq_some_iff, List.forall₂_map_left_iff, List.forall₂_same]
      exact fun s hs => serviceItemFromDict_asdict (h s hs)
    exact congrArg (Option.map some) hmap

/-- The view without what is derived. -/
def ServerDetailResponse.bare (v : ServerDetailResponse) : ServerDetailResponse :=
  { v with
    sortedServices := [], sortedListenPorts := [], knownServices := [], showUnknownBadge := false,
    keyListenPorts := [], osDisplay := "", cpuDisplay := "", servicesCount := 0,
    listenPortsCount := 0, disksCount := 0, volumesCount := 0 }

/-- Each member that is not derived is read back. -/
lemma serverDetailResponse_entries {v : ServerDetailResponse}
    (h : ∀ s ∈ v.services.getD [], s.Kept) :
    serverDetailResponse (without detailDisplayFields (detailEntries v)) = some v.bare := by
  have hkept : ∀ {k : String} {w : Vm}, k ∉ detailDisplayFields →
      (detailEntries v).lookup k = some w →
      (without detailDisplayFields (detailEntries v)).lookup k = some w :=
    fun hk hw => (lookup_without hk _).trans hw
  have hservices : servicesFromDict (without detailDisplayFields (detailEntries v)) =
      some v.services :=
    servicesFromDict_json (hkept (by decide) rfl) h
  have hkeys : (detailEntries v).map Prod.fst = serverDetailFields := rfl
  rw [serverDetailResponse]
  refine keywords_then (fun k hk => hkeys ▸ keys_without_subset _ _ hk) ?_
  -- the members are read in the order of the fields
  repeat first
    | refine need_then (hkept (by decide) rfl) ?_
    | refine get_then (hkept (by decide) rfl) ?_
    | refine all_then (hkept (by decide) rfl) ?_
    | refine Option.bind_eq_some_iff.mpr ⟨_, hservices, ?_⟩
  rfl

/-- Nothing but what is derived is lost on the way, and that is derived again. -/
lemma serverDetailFromJson_toJson (u : Unicode) {v : ServerDetailResponse}
    (h : ∀ s ∈ v.services.getD [], s.Kept) :
    serverDetailFromJson u (serverDetailToJson v) = some (enrichServerDetail u v) := by
  have hderived : enrichServerDetail u v.bare = enrichServerDetail u v := rfl
  rw [serverDetailFromJson, serverDetailToJson, ← hderived]
  exact entries_then (Option.bind_eq_some_iff.mpr ⟨_, serverDetailResponse_entries h, rfl⟩)

end Details

/-- The services of a server come with a category and under the names of their units. -/
lemma toServerDetail_kept (u : Unicode) (dto : ServerDetailDto) :
    ∀ s ∈ (toServerDetail u dto).services.getD [], s.Kept := by
  intro s hs
  have hservices : (toServerDetail u dto).services =
      dto.services.map fun raw => raw.map (toServiceItem u dto.listenPorts) := rfl
  rw [hservices] at hs
  cases hraw : dto.services with
  | none =>
    rw [hraw] at hs
    exact absurd hs List.not_mem_nil
  | some raw =>
    rw [hraw] at hs
    obtain ⟨service, _, rfl⟩ := List.mem_map.mp hs
    exact ⟨classify_ne_empty _ _ _ _, id⟩

/-! ## Dashboards come back -/

section Dashboards

variable {c c' : ViewModel} {v : Vm} {k : String}

/-- A record of plain fields comes back. -/
lemma OfClass.spread (h : OfClass c v)
    (hcovers : Covers viewModelFields c [] (fun g => g.ty.plain) []) :
    Restores (spreadVm c) v :=
  (restores_spread_iff h).mpr (h.buildVm hcovers)

lemma isoformat_ne_empty (t : DateTime) : t.isoformat ≠ "" := by
  intro hempty
  have hread := DateTime.fromisoformat_isoformat t
  rw [hempty] at hread
  have hnone : DateTime.fromisoformat "" = none := by decide
  exact absurd (hnone.symm.trans hread) (by simp)

lemma OfClass.null_or_datetime (h : OfClass c v) (hk : TimeField c k) :
    v.attr k = .null ∨ ∃ t, v.attr k = .datetime t := by
  obtain ⟨⟨t, b⟩, hty, rfl⟩ := Option.map_eq_some_iff.mp hk
  obtain ⟨g, hg, _, hadmits⟩ := h.admits hty
  rcases hadmits with ⟨_, hnull⟩ | hfits
  · exact Or.inl hnull
  · rw [hg] at hfits
    cases hattr : v.attr k with
    | datetime t => exact Or.inr ⟨t, rfl⟩
    | _ => simp [hattr, fits] at hfits

lemma OfClass.timeOfText (h : OfClass c v) (hk : TimeField c k) :
    RestoresEntry timeOfText (v.attr k) := by
  rcases h.null_or_datetime hk with hnull | ⟨t, ht⟩
  · rw [hnull, RestoresEntry, Value.jsonable]
    rfl
  · rw [ht, RestoresEntry, Value.jsonable]
    exact congrArg (Option.map Value.datetime) (DateTime.fromisoformat_isoformat t)

lemma OfClass.timeIfAny (h : OfClass c v) (hk : TimeField c k) :
    RestoresEntry timeIfAny (v.attr k) := by
  rcases h.null_or_datetime hk with hnull | ⟨t, ht⟩
  · rw [hnull, RestoresEntry, Value.jsonable]
    rfl
  · rw [ht, RestoresEntry, Value.jsonable]
    have htruthy : (Value.str t.isoformat : Vm).truthy = true :=
      decide_eq_true (isoformat_ne_empty t)
    exact (if_pos htruthy).trans
      (congrArg (Option.map Value.datetime) (DateTime.fromisoformat_isoformat t))

lemma restores_errorSignal (h : OfClass .errorSignal v) : Restores errorSignalFromDict v := by
  refine (h.construct_iff (by decide)).mpr ?_
  simp only [List.forall_mem_cons, List.not_mem_nil, false_implies, implies_true, and_true]
  exact ⟨h.item rfl, h.item rfl, h.item rfl, h.getOr rfl, h.getOr rfl, h.timeIfAny rfl,
    h.getOr rfl, h.getOr rfl⟩

/-- A dashboard comes back whole. -/
lemma restores_dashboard (h : OfClass .metricDashboard v) : Restores dashboardFromJson v := by
  have hsaturation : ∀ k, fieldType (viewModelFields .metricDashboard) k =
      some (.list (.cls .saturationSignal), false) →
      RestoresEntry (each (spreadVm .saturationSignal)) (v.attr k) :=
    fun k hk => h.each hk fun _ hx => hx.spread (by decide)
  refine (h.construct_iff (by decide)).mpr ?_
  simp only [List.forall_mem_cons, List.not_mem_nil, false_implies, implies_true, and_true]
  exact ⟨h.timeOfText rfl,
    (h.whenTruthy_iff rfl rfl).mpr fun hcpu => hcpu.spread (by decide),
    (h.whenTruthy_iff rfl rfl).mpr fun hmemory => hmemory.spread (by decide),
    h.each rfl fun _ hx => hx.spread (by decide),
    h.each rfl fun _ hx => hx.spread (by decide),
    h.each rfl fun _ hx => hx.spread (by decide),
    h.getOr rfl, hsaturation _ rfl, hsaturation _ rfl, hsaturation _ rfl, hsaturation _ rfl,
    h.each rfl fun _ => restores_errorSignal,
    h.each rfl fun _ hx => hx.spread (by decide)⟩

end Dashboards

/-- From the cache come the same details and the same dashboard, and deriving what is shown a second
time changes nothing. -/
theorem cache_transparent (u : Unicode) :
    (∀ dto : ServerDetailDto, serverDetailFromJson u (serverDetailToJson (toServerDetail u dto)) =
        some (toServerDetail u dto)) ∧
      (∀ detail : ServerDetailResponse, enrichServerDetail u (enrichServerDetail u detail) =
        enrichServerDetail u detail) ∧
      ∀ v : Instance .metricDashboard,
        dashboardFromJson (dashboardToJson v.value) = some v.value := by
  refine ⟨fun dto => ?_, enrichServerDetail_idem u, fun v => restores_dashboard v.fits⟩
  have henriched : enrichServerDetail u (toServerDetail u dto) = toServerDetail u dto :=
    enrichServerDetail_idem u _
  rw [serverDetailFromJson_toJson u (toServerDetail_kept u dto), henriched]

end AssessmentEngine
