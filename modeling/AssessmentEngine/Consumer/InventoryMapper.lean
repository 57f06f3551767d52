import AssessmentEngine.Consumer.Schemas
import AssessmentEngine.Library.SqlColumn
import AssessmentEngine.Services.ServiceClassifier

/-!
# From inventory messages to rows

`to_inventory_create` and `build_placeholder_inventory`, with the columns of JSON as values.
-/

namespace AssessmentEngine

open Sql

/-! ## Values -/

variable {minLength maxLength : ℕ}

def textJson (s : WireText minLength maxLength) : Json := .str s.1

def optionalTextJson (s : Option (WireText minLength maxLength)) : Json := .ofOption textJson s

def sizeJson (n : Option ℕ) : Json := .ofOption (fun n : ℕ => .int n) n

def integerJson (n : Option ℤ) : Json := .ofOption .int n

def flagJson (b : Option Bool) : Json := .ofOption .bool b

def percentJson (x : Option Double) : Json := .ofOption .float x

def textsJson (ss : List String) : Json := .arr (ss.map .str)

def optionalTextsJson (ss : Option (List String)) : Json := .ofOption textsJson ss

def AttrValue.json : AttrValue → Json
  | str s => .str s
  | int n => .int n

/-- The members of an object. -/
abbrev JsonMembers := List (String × Json)

/-- A list of objects. -/
def objectsJson {α : Type} (members : α → JsonMembers) (as : List α) : Json :=
  .arr (as.map fun a => .obj (members a))

/-- `_sparse`. -/
def sparse (d : JsonMembers) : JsonMembers := d.filter fun member => !member.2.isNull

/-! ## Documents -/

/-- What `_bd_layout` makes sparse. -/
def BlockDeviceInfo.layout (b : BlockDeviceInfo) : JsonMembers :=
  [("partition_table", optionalTextJson b.partitionTable),
    ("sector_size", sizeJson b.sectorSize),
    ("serial", optionalTextJson b.serial),
    ("wwn", optionalTextJson b.wwn),
    ("rotational", flagJson b.rotational),
    ("part_number", sizeJson b.partNumber),
    ("part_start_bytes", sizeJson b.partStartBytes),
    ("part_type", optionalTextJson b.partType),
    ("part_name", optionalTextJson b.partName),
    ("part_flags", optionalTextsJson b.partFlags),
    ("fs_uuid", optionalTextJson b.fsUuid),
    ("fs_label", optionalTextJson b.fsLabel),
    ("block_size", sizeJson b.blockSize),
    ("mount_options", optionalTextsJson b.mountOptions),
    ("fs_freq", integerJson b.fsFreq),
    ("fs_passno", integerJson b.fsPassno),
    ("lvm_vg", optionalTextJson b.lvmVg),
    ("lvm_lv", optionalTextJson b.lvmLv),
    ("lvm_segtype", optionalTextJson b.lvmSegtype),
    ("lvm_stripes", sizeJson b.lvmStripes),
    ("lvm_stripe_size_kib", sizeJson b.lvmStripeSizeKib),
    ("raid_level", .ofOption AttrValue.json b.raidLevel),
    ("raid_chunk_kib", sizeJson b.raidChunkKib),
    ("raid_metadata", optionalTextJson b.raidMetadata),
    ("raid_uuid", optionalTextJson b.raidUuid),
    ("crypt_type", optionalTextJson b.cryptType)]

/-- An entry of `block_devices`. -/
def BlockDeviceInfo.members (b : BlockDeviceInfo) : JsonMembers :=
  [("name", textJson b.name),
    ("type", textJson b.type),
    ("size_bytes", sizeJson b.sizeBytes),
    ("fstype", optionalTextJson b.fstype),
    ("mountpoint", optionalTextJson b.mountpoint),
    ("parent", optionalTextJson b.parent),
    ("id", optionalTextJson b.id),
    ("id_type", optionalTextJson b.idType)] ++ sparse b.layout

/-- An address; its origin is left out where there is none. -/
def NetAddressInfo.members (a : NetAddressInfo) : JsonMembers :=
  [("address", textJson a.address),
    ("prefix", .ofOption (fun n : Fin 129 => .int n.val) a.prefixLength),
    ("family", .str a.family.text)] ++ sparse [("origin", optionalTextJson a.origin)]

def RouteInfo.members (r : RouteInfo) : JsonMembers :=
  [("dest", textJson r.dest), ("via", optionalTextJson r.via)]

/-- `routes`, which is null for no routes. -/
def routesJson : Option (List RouteInfo) → Json
  | none => .null
  | some [] => .null
  | some (r :: rs) => objectsJson RouteInfo.members (r :: rs)

/-- What `_ni_layout` makes sparse. -/
def NetInterfaceInfo.layout (n : NetInterfaceInfo) : JsonMembers :=
  [("mtu", sizeJson n.mtu),
    ("dns", optionalTextsJson n.dns),
    ("routes", routesJson n.routes),
    ("bond_mode", optionalTextJson n.bondMode),
    ("vlan_id", sizeJson n.vlanId)]

/-- An entry of `net_interfaces`. -/
def NetInterfaceInfo.members (n : NetInterfaceInfo) : JsonMembers :=
  [("name", textJson n.name),
    ("id", optionalTextJson n.id),
    ("id_type", optionalTextJson n.idType),
    ("kind", optionalTextJson n.kind),
    ("speed_mbps", sizeJson n.speedMbps),
    ("addresses", objectsJson NetAddressInfo.members n.addresses),
    ("gateway", optionalTextJson n.gateway)] ++ sparse n.layout

/-- What `_vg_layout` makes sparse. -/
def LvmVgInfo.layout (v : LvmVgInfo) : JsonMembers :=
  [("vg_uuid", optionalTextJson v.vgUuid),
    ("extent_size_bytes", sizeJson v.extentSizeBytes),
    ("pv_ids", optionalTextsJson v.pvIds)]

/-- An entry of `lvm_vgs`. -/
def LvmVgInfo.members (v : LvmVgInfo) : JsonMembers :=
  [("name", textJson v.name),
    ("size_bytes", sizeJson v.sizeBytes),
    ("free_bytes", sizeJson v.freeBytes),
    ("data_percent", percentJson v.dataPercent),
    ("metadata_percent", percentJson v.metadataPercent)] ++ sparse v.layout

/-- An entry of `_svc_dicts`. -/
def InventoryServiceInfo.members (s : InventoryServiceInfo) : JsonMembers :=
  [("unit", textJson s.unit), ("sub", textJson s.sub), ("pid", sizeJson s.pid),
    ("exe", optionalTextJson s.exe)]

/-- An entry of `_lp_dicts`. -/
def InventoryListenPortInfo.members (p : InventoryListenPortInfo) : JsonMembers :=
  [("proto", .str p.proto.text), ("addr", textJson p.addr), ("port", .int p.port.val),
    ("uid", sizeJson p.uid), ("pid", integerJson p.pid), ("comm", optionalTextJson p.comm)]

def BootInfo.members (b : BootInfo) : JsonMembers :=
  [("kernel_cmdline", optionalTextJson b.kernelCmdline),
    ("root_ref_type", optionalTextJson b.rootRefType),
    ("grub_install_target", optionalTextJson b.grubInstallTarget)]

/-- An entry of `nonblock_mounts`. -/
def NonblockMountInfo.members (m : NonblockMountInfo) : JsonMembers :=
  [("source", textJson m.source), ("target", textJson m.target),
    ("fstype", optionalTextJson m.fstype), ("options", optionalTextsJson m.options),
    ("fs_freq", integerJson m.fsFreq), ("fs_passno", integerJson m.fsPassno)]

/-! ## What is classified -/

/-- A service as `classify` reads it. -/
def InventoryServiceInfo.service (s : InventoryServiceInfo) : InventoryService where
  unit := some s.unit.1
  sub := some s.sub.1
  pid := s.pid.map fun n : ℕ => (n : ℤ)
  exe := s.exe.map Subtype.val

def InventoryListenPortInfo.listenPort (p : InventoryListenPortInfo) : ListenPort where
  proto := some p.proto.text
  addr := some p.addr.1
  port := some p.port.val
  uid := p.uid.map fun n : ℕ => (n : ℤ)
  pid := p.pid
  comm := p.comm.map Subtype.val

/-! ## The message -/

/-- `ServerInventoryCreate` with its columns of JSON as values. -/
structure Inbound.ServerInventoryCreate where
  agentId : String
  compositeId : Option String
  machineId : Option String
  hostname : String
  agentVersion : Option String
  collectedAt : ℤ
  bootTime : Option ℤ
  agentStartedAt : Option ℤ
  osFamily : String
  osId : Option String
  osVersion : Option String
  osCodename : Option String
  kernelVersion : Option String
  cpuCores : Option ℕ
  cpuModel : Option String
  memTotalBytes : Option ℕ
  blockDevices : Json
  netInterfaces : Json
  lvmVgs : Json
  ipExternal : Option (List String)
  services : Json
  listenPorts : Json
  serviceCategories : List String
  arch : Option String
  bits : Option ℕ
  bootFirmware : Option String
  secureBoot : Option Bool
  edition : Option String
  productName : Option String
  timezone : Option String
  rtcUtc : Option Bool
  boot : Json
  nonblockMounts : Json

/-- The text without its bounds. -/
def plainText (s : Option (WireText minLength maxLength)) : Option String := s.map Subtype.val

/-- `to_inventory_create`. -/
def toInventoryCreate (u : Unicode) (data : InventoryInput) : Inbound.ServerInventoryCreate where
  agentId := data.agentId.1
  compositeId := plainText data.compositeId
  machineId := plainText data.machineId
  hostname := data.hostname.1
  agentVersion := plainText data.agentVersion
  collectedAt := data.collectedAt
  bootTime := data.bootTime
  agentStartedAt := data.agentStartedAt
  osFamily := data.osFamily.text
  osId := plainText data.osId
  osVersion := plainText data.osVersion
  osCodename := plainText data.osCodename
  kernelVersion := plainText data.kernelVersion
  cpuCores := data.cpuCores
  cpuModel := plainText data.cpuModel
  memTotalBytes := data.memTotalBytes
  blockDevices := objectsJson BlockDeviceInfo.members data.blockDevices
  netInterfaces := objectsJson NetInterfaceInfo.members data.netInterfaces
  lvmVgs := objectsJson LvmVgInfo.members data.lvmVgs
  ipExternal := data.ipExternal
  services := .ofOption (objectsJson InventoryServiceInfo.members) data.services
  listenPorts := objectsJson InventoryListenPortInfo.members data.listenPorts
  serviceCategories :=
    computeServiceCategories u (data.services.map fun ss => ss.map InventoryServiceInfo.service)
      (data.listenPorts.map InventoryListenPortInfo.listenPort)
  arch := plainText data.arch
  bits := data.bits
  bootFirmware := plainText data.bootFirmware
  secureBoot := data.secureBoot
  edition := plainText data.edition
  productName := plainText data.productName
  timezone := plainText data.timezone
  rtcUtc := data.rtcUtc
  boot := .ofOption (fun b : BootInfo => .obj b.members) data.boot
  nonblockMounts := .ofOption (objectsJson NonblockMountInfo.members) data.nonblockMounts

/-- `build_placeholder_inventory`, for a metrics message of a host that is not known. -/
def placeholderInventory (data : AgentMessageBase) : Inbound.ServerInventoryCreate where
  agentId := data.agentId.1
  compositeId := plainText data.compositeId
  machineId := plainText data.machineId
  hostname := data.agentId.1
  agentVersion := plainText data.agentVersion
  collectedAt := data.collectedAt
  bootTime := data.bootTime
  agentStartedAt := data.agentStartedAt
  osFamily := data.osFamily.text
  osId := none
  osVersion := none
  osCodename := none
  kernelVersion := none
  cpuCores := none
  cpuModel := none
  memTotalBytes := none
  blockDevices := .arr []
  netInterfaces := .arr []
  lvmVgs := .arr []
  ipExternal := none
  services := .null
  listenPorts := .arr []
  serviceCategories := []
  arch := none
  bits := none
  bootFirmware := none
  secureBoot := none
  edition := none
  productName := none
  timezone := none
  rtcUtc := none
  boot := .null
  nonblockMounts := .null

end AssessmentEngine
