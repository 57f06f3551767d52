import AssessmentEngine.Mappers.MetricsCalculator
import AssessmentEngine.Mappers.Topology
import AssessmentEngine.Queries.TrendWindow

/-!
# The live dashboard

`build_dashboard` on the latest samples of a server: the rates of its disks and interfaces between
two samples of the counters, and the usage of its file systems.  A disk or an interface is shown
when the inventory has it as a physical one, under its stable key or under its name.
-/

namespace AssessmentEngine

open FixedPoint SetDefault

/-! ## Samples -/

/-- A `MetricPairRaw` with the time of the sample. -/
structure MetricPairAt extends MetricPairRaw where
  collectedAt : ℤ
  deriving DecidableEq, Repr

/-- The fields of `outbound.DiskIoRaw` that the dashboard reads. -/
structure DiskIoRaw where
  deviceId : String
  collectedAt : ℤ
  ioReadBytes : Option ℤ
  ioWriteBytes : Option ℤ
  opsRead : Option ℤ
  opsWrite : Option ℤ
  deviceName : Option String
  bootTime : Option ℤ
  deriving DecidableEq, Repr

/-- The fields of `outbound.NetIoRaw` that the dashboard reads. -/
structure NetIoRaw where
  ifaceId : String
  collectedAt : ℤ
  rxBytes : Option ℤ
  txBytes : Option ℤ
  rxPackets : Option ℤ
  txPackets : Option ℤ
  ifaceName : Option String
  bootTime : Option ℤ
  deriving DecidableEq, Repr

/-- The fields of `outbound.MountUsageRaw` that the dashboard reads. -/
structure MountUsageRaw where
  mountpoint : String
  usedBytes : Option ℤ
  freeBytes : Option ℤ
  fstype : Option String
  deriving DecidableEq, Repr

/-- The fields of `outbound.DashboardRaw` that `build_dashboard` reads. -/
structure DashboardRaw where
  metrics : List MetricPairAt
  diskIo : List DiskIoRaw
  netIo : List NetIoRaw
  filesystems : List MountUsageRaw
  blockDevices : Option (List InventoryDevice)
  netInterfaces : Option (List InventoryIface)
  cpuCores : List CpuCoreRaw
  deriving DecidableEq, Repr

/-! ## Names of physical devices -/

/-- The parts of an element of the inventory that name it. -/
structure NodeIdent where
  idType : Option String
  id : Option String
  name : Option String
  deriving DecidableEq, Repr

def InventoryDevice.ident (bd : InventoryDevice) : NodeIdent := ⟨bd.idType, bd.id, bd.name⟩

def InventoryIface.ident (ni : InventoryIface) : NodeIdent := ⟨ni.idType, ni.id, ni.name⟩

/-- A text that passes a test of truth: it is there and not empty. -/
def truthyText (text : Option String) : Option String := text.filter (· ≠ "")

/-- `_composite_dev_id`. -/
def compositeDevId (node : NodeIdent) : Option String :=
  stableKey (truthyText node.idType) (truthyText node.id)

/-- The keys under which `_physical_dev_names` registers a node, with the name that is shown. -/
def NodeIdent.entries (node : NodeIdent) : List (String × String) :=
  let name := truthyText node.name
  let cid := compositeDevId node
  match name.or cid with
  | none => []
  | some display =>
    (cid.map fun cid => (cid, display)).toList ++
      (name.map fun name => ("name:" ++ name, display)).toList

/-- `_physical_dev_names`; a key that comes again takes the later name. -/
def physicalDevNames {ν : Type*} (ident : ν → NodeIdent) (keep : ν → Bool)
    (nodes : Option (List ν)) : Option (List (String × String)) :=
  match nodes.getD [] with
  | [] => none
  | nodes =>
    some (fill Prod.fst Prod.snd (fun entry _ => entry.2)
      ((nodes.filter keep).flatMap fun n => (ident n).entries) [])

/-! ## Rates -/

/-- `_delta_rate`. -/
def deltaRate (cur prev : Option ℤ) (dt : ℚ) : Option ℚ := do
  let cur ← cur
  let prev ← prev
  let d := cur - prev
  if d < 0 then none else some (roundTo 1 (d / dt))

/-- `_delta_kbps`. -/
def deltaKbps (cur prev : Option ℤ) (dt : ℚ) : Option ℚ := do
  let cur ← cur
  let prev ← prev
  let d := cur - prev
  if d < 0 then none else some (roundTo 1 (d / 1024 / dt))

/-- The samples between which the rates of a device are taken, with the seconds from one to the
other; there are none after a restart. -/
def ratePair {ρ : Type*} (collectedAt : ρ → ℤ) (bootTime : ρ → Option ℤ) :
    List ρ → Option (ρ × ρ × ℚ)
  | cur :: prev :: _ =>
    let dt := epochSeconds (collectedAt cur) (collectedAt prev)
    if dt ≤ 0 then none
    else if isCounterReset (bootTime cur) (bootTime prev) then none
    else some (cur, prev, dt)
  | _ => none

/-- `(names or {}).get(key) or name or key`. -/
def deviceDisplay (names : Option (List (String × String))) (key : String) (name : Option String) :
    String :=
  ((truthyText ((names.getD []).lookup key)).or (truthyText name)).getD key

structure DiskIoSnapshot where
  device : String
  readIops : Option ℚ
  writeIops : Option ℚ
  readKbps : Option ℚ
  writeKbps : Option ℚ
  deriving DecidableEq, Repr

structure NetIoSnapshot where
  interface : String
  rxKbps : Option ℚ
  txKbps : Option ℚ
  rxPps : Option ℚ
  txPps : Option ℚ
  deriving DecidableEq, Repr

/-- `_disk_io_snapshot`; there is none of no rows. -/
def diskIoSnapshot (names : Option (List (String × String))) (rows : List DiskIoRaw) :
    Option DiskIoSnapshot :=
  rows.head?.map fun row =>
    let device := deviceDisplay names row.deviceId row.deviceName
    match ratePair DiskIoRaw.collectedAt DiskIoRaw.bootTime rows with
    | none => ⟨device, none, none, none, none⟩
    | some (cur, prev, dt) =>
      { device
        readIops := deltaRate cur.opsRead prev.opsRead dt
        writeIops := deltaRate cur.opsWrite prev.opsWrite dt
        readKbps := deltaKbps cur.ioReadBytes prev.ioReadBytes dt
        writeKbps := deltaKbps cur.ioWriteBytes prev.ioWriteBytes dt }

/-- `_net_io_snapshot`; there is none of no rows. -/
def netIoSnapshot (names : Option (List (String × String))) (rows : List NetIoRaw) :
    Option NetIoSnapshot :=
  rows.head?.map fun row =>
    let interface := deviceDisplay names row.ifaceId row.ifaceName
    match ratePair NetIoRaw.collectedAt NetIoRaw.bootTime rows with
    | none => ⟨interface, none, none, none, none⟩
    | some (cur, prev, dt) =>
      { interface
        rxKbps := deltaKbps cur.rxBytes prev.rxBytes dt
        txKbps := deltaKbps cur.txBytes prev.txBytes dt
        rxPps := deltaRate cur.rxPackets prev.rxPackets dt
        txPps := deltaRate cur.txPackets prev.txPackets dt }

/-- The samples of the devices that have a name, by device and in the order of their keys; without
an inventory, of all devices. -/
def deviceGroups {ρ : Type*} (key : ρ → String) (names : Option (List (String × String)))
    (pairs : List ρ) : List (String × List ρ) :=
  let pairs :=
    match names with
    | none => pairs
    | some names => pairs.filter fun r => (names.lookup (key r)).isSome
  (groupByDim key pairs).mergeSort fun a b => decide (a.1 ≤ b.1)

/-- `compute_disk_io`. -/
def computeDiskIo (pairs : List DiskIoRaw) (names : Option (List (String × String))) :
    List DiskIoSnapshot :=
  (deviceGroups DiskIoRaw.deviceId names pairs).filterMap fun group => diskIoSnapshot names group.2

/-- `compute_net_io`. -/
def computeNetIo (pairs : List NetIoRaw) (names : Option (List (String × String))) :
    List NetIoSnapshot :=
  (deviceGroups NetIoRaw.ifaceId names pairs).filterMap fun group => netIoSnapshot names group.2

/-! ## File systems -/

structure MountDashSnapshot where
  mount : String
  totalGb : Option ℚ
  usedGb : Option ℚ
  availGb : Option ℚ
  usagePct : Option ℚ
  deriving DecidableEq, Repr

/-- `compute_mounts`. -/
def computeMounts (mounts : List MountUsageRaw) : List MountDashSnapshot :=
  let sorted := mounts.mergeSort fun a b => decide (a.mountpoint ≤ b.mountpoint)
  (sorted.filter fun m => isDataVolume m.fstype m.mountpoint).map fun m =>
    let total := do
      let used ← m.usedBytes
      let free ← m.freeBytes
      return used + free
    { mount := m.mountpoint
      totalGb := bytesToGb total
      usedGb := bytesToGb m.usedBytes
      availGb := bytesToGb m.freeBytes
      usagePct := usagePct m.usedBytes total }

/-- `_aggregate_disk_usage`; a total of zero counts as none. -/
def aggregateDiskUsage (mounts : List MountDashSnapshot) : Option ℚ :=
  let sized := mounts.filter fun m => decide (m.totalGb.getD 0 ≠ 0)
  let total := (sized.map fun m => m.totalGb.getD 0).sum
  let used := (sized.map fun m => m.usedGb.getD 0).sum
  if 0 < total then some (roundTo 1 (used / total * 100)) else none

/-! ## The dashboard -/

/-- The fields of `MetricDashboard` that `build_dashboard` fills. -/
structure MetricDashboard where
  collectedAt : Option ℤ
  cpu : Option CpuSnapshot
  memory : Option MemSnapshot
  diskIo : List DiskIoSnapshot
  netIo : List NetIoSnapshot
  mounts : List MountDashSnapshot
  diskUsagePct : Option ℚ
  cpuCores : List CpuCoreSnapshot
  deriving DecidableEq, Repr

namespace DashboardRaw

/-- `phys_disks`. -/
def physDisks (raw : DashboardRaw) : Option (List (String × String)) :=
  physicalDevNames InventoryDevice.ident (fun bd => isPhysicalDisk bd.type) raw.blockDevices

/-- `phys_ifaces`. -/
def physIfaces (raw : DashboardRaw) : Option (List (String × String)) :=
  physicalDevNames InventoryIface.ident (fun ni => !isVirtualInterface ni.kind) raw.netInterfaces

end DashboardRaw

/-- `build_dashboard`. -/
def buildDashboard (raw : DashboardRaw) : MetricDashboard :=
  let cur := raw.metrics[0]?
  let prev := raw.metrics[1]?
  let mounts := computeMounts raw.filesystems
  { collectedAt := cur.map MetricPairAt.collectedAt
    cpu := computeCpu (cur.map MetricPairAt.toMetricPairRaw)
      (prev.map MetricPairAt.toMetricPairRaw)
    memory := computeMem (cur.map MetricPairAt.toMetricPairRaw)
    diskIo := computeDiskIo raw.diskIo raw.physDisks
    netIo := computeNetIo raw.netIo raw.physIfaces
    mounts := mounts
    diskUsagePct := aggregateDiskUsage mounts
    cpuCores := computeCpuCores raw.cpuCores }

end AssessmentEngine
