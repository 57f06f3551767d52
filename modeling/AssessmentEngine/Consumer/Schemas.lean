import AssessmentEngine.Library.Double
import AssessmentEngine.Tasks.ResultPolicy

/-!
# Wire schemas

The messages that the inbound models accept, as far as the mappers read them.  The lengths of texts
and the ranges of numbers that the models check are part of the types; where a model checks nothing,
there is any text, any integer and any double, the infinities and what is not a number included.
Addresses are any texts, whatever their syntax.  Times are microseconds since the epoch.
-/

namespace AssessmentEngine

/-- A text whose length is in the bounds. -/
abbrev WireText (minLength maxLength : ℕ) :=
  { s : String // minLength ≤ s.length ∧ s.length ≤ maxLength }

/-- The characters of the text of a UUID. -/
def uuidChars : List Char := "0123456789abcdef-".toList

/-- `str(uuid)`. -/
abbrev UuidText := { s : String // s.length = 36 ∧ ∀ c ∈ s.toList, c ∈ uuidChars }

/-- `Literal["linux", "windows"]`. -/
inductive OsFamily
  | linux
  | windows
  deriving DecidableEq, Repr

def OsFamily.text : OsFamily → String
  | linux => "linux"
  | windows => "windows"

/-- `AgentMessageBase`; the versions and the id of a message are not written. -/
structure AgentMessageBase where
  agentId : UuidText
  compositeId : Option (WireText 0 64)
  machineId : Option (WireText 0 64)
  agentVersion : Option (WireText 1 32)
  collectedAt : ℤ
  bootTime : Option ℤ
  agentStartedAt : Option ℤ
  osFamily : OsFamily
  deriving DecidableEq, Repr

/-! ## Metrics -/

/-- The value of an attribute. -/
inductive AttrValue
  | str (s : String)
  | int (n : ℤ)
  deriving DecidableEq, Repr

structure Datapoint where
  attr : List (String × AttrValue)
  value : Option Double
  deriving DecidableEq, Repr

/-- `Metric`; its type and its unit are not read. -/
structure Metric where
  points : List Datapoint
  deriving DecidableEq, Repr

/-- The metrics of a namespace by their names. -/
abbrev Namespace := List (String × Metric)

structure MetricsInput extends AgentMessageBase where
  systemCpu : Option Namespace
  systemMemory : Option Namespace
  systemDisk : Option Namespace
  systemNetwork : Option Namespace
  systemPaging : Option Namespace
  systemFilesystem : Option Namespace
  systemPressure : Option Namespace
  deriving DecidableEq, Repr

/-! ## Inventory -/

structure BlockDeviceInfo where
  name : WireText 0 128
  type : WireText 0 32
  sizeBytes : Option ℕ
  fstype : Option (WireText 0 64)
  mountpoint : Option (WireText 0 255)
  parent : Option (WireText 0 128)
  id : Option (WireText 0 128)
  idType : Option (WireText 0 16)
  partitionTable : Option (WireText 0 8)
  sectorSize : Option ℕ
  serial : Option (WireText 0 128)
  wwn : Option (WireText 0 64)
  rotational : Option Bool
  partNumber : Option ℕ
  partStartBytes : Option ℕ
  partType : Option (WireText 0 64)
  partName : Option (WireText 0 128)
  partFlags : Option (List String)
  fsUuid : Option (WireText 0 64)
  fsLabel : Option (WireText 0 128)
  blockSize : Option ℕ
  mountOptions : Option (List String)
  fsFreq : Option ℤ
  fsPassno : Option ℤ
  lvmVg : Option (WireText 0 128)
  lvmLv : Option (WireText 0 128)
  lvmSegtype : Option (WireText 0 32)
  lvmStripes : Option ℕ
  lvmStripeSizeKib : Option ℕ
  raidLevel : Option AttrValue
  raidChunkKib : Option ℕ
  raidMetadata : Option (WireText 0 16)
  raidUuid : Option (WireText 0 64)
  cryptType : Option (WireText 0 16)

/-- `Literal["ipv4", "ipv6"]`. -/
inductive AddressFamily
  | ipv4
  | ipv6
  deriving DecidableEq, Repr

def AddressFamily.text : AddressFamily → String
  | ipv4 => "ipv4"
  | ipv6 => "ipv6"

structure NetAddressInfo where
  address : WireText 1 64
  prefixLength : Option (Fin 129)
  family : AddressFamily
  origin : Option (WireText 0 16)

structure RouteInfo where
  dest : WireText 1 64
  via : Option (WireText 0 64)

structure NetInterfaceInfo where
  name : WireText 0 256
  id : Option (WireText 0 64)
  idType : Option (WireText 0 16)
  kind : Option (WireText 0 32)
  speedMbps : Option ℕ
  addresses : List NetAddressInfo
  gateway : Option (WireText 0 64)
  mtu : Option ℕ
  dns : Option (List String)
  routes : Option (List RouteInfo)
  bondMode : Option (WireText 0 32)
  vlanId : Option ℕ

/-- `LvmVgInfo`; the percentages are checked not to be negative. -/
structure LvmVgInfo where
  name : WireText 0 128
  sizeBytes : Option ℕ
  freeBytes : Option ℕ
  dataPercent : Option Double
  metadataPercent : Option Double
  vgUuid : Option (WireText 0 64)
  extentSizeBytes : Option ℕ
  pvIds : Option (List String)

structure InventoryServiceInfo where
  unit : WireText 1 255
  sub : WireText 0 64
  pid : Option ℕ
  exe : Option (WireText 0 255)

/-- `Literal["tcp", "tcp6", "udp", "udp6"]`. -/
inductive ListenProto
  | tcp
  | tcp6
  | udp
  | udp6
  deriving DecidableEq, Repr

def ListenProto.text : ListenProto → String
  | tcp => "tcp"
  | tcp6 => "tcp6"
  | udp => "udp"
  | udp6 => "udp6"

structure InventoryListenPortInfo where
  proto : ListenProto
  addr : WireText 0 64
  port : Fin 65536
  uid : Option ℕ
  pid : Option ℤ
  comm : Option (WireText 0 64)

structure BootInfo where
  kernelCmdline : Option (WireText 0 4096)
  rootRefType : Option (WireText 0 16)
  grubInstallTarget : Option (WireText 0 128)

structure NonblockMountInfo where
  source : WireText 1 512
  target : WireText 1 512
  fstype : Option (WireText 0 64)
  options : Option (List String)
  fsFreq : Option ℤ
  fsPassno : Option ℤ

structure InventoryInput extends AgentMessageBase where
  hostname : WireText 1 255
  osId : Option (WireText 0 64)
  osVersion : Option (WireText 0 64)
  osCodename : Option (WireText 0 64)
  kernelVersion : Option (WireText 0 64)
  cpuModel : Option (WireText 0 255)
  cpuCores : Option ℕ
  memTotalBytes : Option ℕ
  ipExternal : Option (List String)
  arch : Option (WireText 0 32)
  bits : Option ℕ
  bootFirmware : Option (WireText 0 8)
  secureBoot : Option Bool
  edition : Option (WireText 0 64)
  productName : Option (WireText 0 128)
  timezone : Option (WireText 0 64)
  rtcUtc : Option Bool
  boot : Option BootInfo
  nonblockMounts : Option (List NonblockMountInfo)
  blockDevices : List BlockDeviceInfo
  netInterfaces : List NetInterfaceInfo
  lvmVgs : List LvmVgInfo
  services : Option (List InventoryServiceInfo)
  listenPorts : List InventoryListenPortInfo

/-! ## Task results -/

/-- `TaskResultInput` with the length of its failure reason, which is that of the column. -/
structure AcceptedTaskResult extends TaskResultInput where
  failureReason_length : ∀ reason ∈ failureReason, reason.length ≤ 32

end AssessmentEngine
