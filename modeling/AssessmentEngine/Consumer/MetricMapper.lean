import AssessmentEngine.Consumer.Schemas
import AssessmentEngine.Ingest.Series
import AssessmentEngine.Services.ServiceClassifier

/-!
# From metrics messages to rows

`to_metric_create`: each column is read from the first point of a metric that has the attributes of
the column.  The mapper raises, which is `none`, where a number that is to be an integer is not
finite and where the label of a core is not the text of an integer.
-/

namespace AssessmentEngine

/-! ## Points -/

/-- `str(v)`. -/
def AttrValue.text : AttrValue → String
  | str s => s
  | int n => toString n

/-- `_attr_key(p.attr.get(key))`. -/
def Datapoint.attrKey (p : Datapoint) (key : String) : Option String :=
  (p.attr.lookup key).map AttrValue.text

/-- Attributes that a point is to have; under `none` it is to have no such attribute. -/
abbrev Wanted := List (String × Option String)

/-- The point has the attributes. -/
def Datapoint.matches (p : Datapoint) (attrs : Wanted) : Bool :=
  attrs.all fun want => decide (p.attrKey want.1 = want.2)

/-- `_points`. -/
def pointsOf (ns : Option Namespace) (metric : String) : List Datapoint :=
  match ns with
  | none => []
  | some ns => ((ns.lookup metric).map Metric.points).getD []

/-- `_match`. -/
def matchValue (pts : List Datapoint) (attrs : Wanted) : Option Double :=
  (pts.find? fun p => p.matches attrs).bind Datapoint.value

/-- `_scalar`. -/
def scalarValue (ns : Option Namespace) (metric : String) : Option Double :=
  (pointsOf ns metric).head?.bind Datapoint.value

/-- The readings of the state. -/
def stateValues (pts : List Datapoint) (state : String) : List Double :=
  (pts.filter fun p => p.matches [("state", some state)]).filterMap Datapoint.value

/-- `_state_sum`. -/
def stateSum (pts : List Datapoint) (state : String) : Option Double :=
  if stateValues pts state = [] then none else some (Double.sum (stateValues pts state))

/-- `_attr_of`. -/
def attrOf (ptsLists : List (List Datapoint)) (key : String) (attrs : Wanted) : Option String :=
  (ptsLists.flatten.filter fun p => p.matches attrs).findSome? fun p => p.attrKey key

/-- `_distinct`. -/
def distinctKeys (ptsLists : List (List Datapoint)) (key : String) : List String :=
  (ptsLists.flatten.filterMap fun p => p.attrKey key).eraseDups

/-! ## Integers -/

/-- `int(x)`. -/
def truncateDouble : Double → Option ℤ
  | .finite q => some (FixedPoint.truncate q)
  | _ => none

/-- `_int`. -/
def intOf : Option Double → Option (Option ℤ)
  | none => some none
  | some x => (truncateDouble x).map some

/-- `s.isdigit()`. -/
def isDigits (u : Unicode) (s : String) : Bool := decide (s ≠ "") && s.toList.all u.isDigit

/-- The length of the longest text that `int` takes. -/
def maxStrDigits : ℕ := 4300

/-- The number that decimal digits stand for. -/
def decimalValue (u : Unicode) (digits : List Char) : Option ℕ :=
  digits.foldlM (fun n c => (u.decimal c).map fun d => 10 * n + d) 0

/-- `int(s)` for a text of digits. -/
def parseDigits (u : Unicode) (s : String) : Option ℤ :=
  if s.length ≤ maxStrDigits then (decimalValue u s.toList).map fun n : ℕ => (n : ℤ) else none

/-! ## Entries -/

/-- `_build_disk_io` for one device. -/
def diskIoEntry (disk : Option Namespace) (dev : String) : Option DiskIoEntry := do
  let io := pointsOf disk "disk.io"
  let ops := pointsOf disk "disk.operations"
  let ioTime := pointsOf disk "disk.io_time"
  let opTime := pointsOf disk "disk.operation_time"
  let pending := pointsOf disk "disk.pending_operations"
  let device := ("device", some dev)
  let ioReadBytes ← intOf (matchValue io [device, ("direction", some "read")])
  let ioWriteBytes ← intOf (matchValue io [device, ("direction", some "write")])
  let opsRead ← intOf (matchValue ops [device, ("direction", some "read")])
  let opsWrite ← intOf (matchValue ops [device, ("direction", some "write")])
  return {
    deviceId := dev
    deviceName := none
    ioReadBytes, ioWriteBytes, opsRead, opsWrite
    ioTimeS := matchValue ioTime [device]
    opReadTimeS := matchValue opTime [device, ("direction", some "read")]
    opWriteTimeS := matchValue opTime [device, ("direction", some "write")]
    pendingOps := matchValue pending [device] }

/-- The devices of `_build_disk_io`. -/
def diskDevices (disk : Option Namespace) : List String :=
  distinctKeys [pointsOf disk "disk.io", pointsOf disk "disk.operations",
    pointsOf disk "disk.io_time", pointsOf disk "disk.operation_time",
    pointsOf disk "disk.pending_operations"] "device"

/-- `_build_disk_io`. -/
def buildDiskIo (disk : Option Namespace) : Option (List DiskIoEntry) :=
  (diskDevices disk).mapM (diskIoEntry disk)

/-- `_build_disk_errors` for one point of some kind. -/
def diskErrorEntry (kind : String) (p : Datapoint) : Option DiskErrorEntry := do
  let count ← intOf p.value
  return {
    deviceId := (p.attrKey "device").getD ""
    errorKind := kind
    errorClass := (p.attrKey "class").getD ""
    member := p.attrKey "member"
    count }

/-- `_build_disk_errors`: points without a kind are left out. -/
def buildDiskErrors (disk : Option Namespace) : Option (List DiskErrorEntry) :=
  ((pointsOf disk "disk.errors").filterMap fun p =>
    (p.attrKey "kind").map fun kind => (kind, p)).mapM fun (kind, p) => diskErrorEntry kind p

/-- `_build_net_io` for one interface. -/
def netIoEntry (net : Option Namespace) (dev : String) : Option NetIoEntry := do
  let io := pointsOf net "network.io"
  let pkts := pointsOf net "network.packets"
  let errs := pointsOf net "network.errors"
  let drop := pointsOf net "network.dropped"
  let speed := pointsOf net "network.link.speed"
  let receive : Wanted := [("device", some dev), ("direction", some "receive")]
  let transmit : Wanted := [("device", some dev), ("direction", some "transmit")]
  let rxBytes ← intOf (matchValue io receive)
  let txBytes ← intOf (matchValue io transmit)
  let rxPackets ← intOf (matchValue pkts receive)
  let txPackets ← intOf (matchValue pkts transmit)
  let rxErrors ← intOf (matchValue errs receive)
  let txErrors ← intOf (matchValue errs transmit)
  let rxDropped ← intOf (matchValue drop receive)
  let txDropped ← intOf (matchValue drop transmit)
  let linkSpeedBps ← intOf (matchValue speed [("device", some dev)])
  return {
    ifaceId := dev
    ifaceName := none
    rxBytes, txBytes, rxPackets, txPackets, rxErrors, txErrors, rxDropped, txDropped, linkSpeedBps }

/-- The interfaces of `_build_net_io`. -/
def netDevices (net : Option Namespace) : List String :=
  distinctKeys [pointsOf net "network.io", pointsOf net "network.packets",
    pointsOf net "network.errors", pointsOf net "network.dropped",
    pointsOf net "network.link.speed"] "device"

/-- `_build_net_io`. -/
def buildNetIo (net : Option Namespace) : Option (List NetIoEntry) :=
  (netDevices net).mapM (netIoEntry net)

/-- `_build_filesystems` for one mount point. -/
def filesystemEntry (fs : Option Namespace) (mp : String) : Option FilesystemEntry := do
  let usage := pointsOf fs "filesystem.usage"
  let inodes := pointsOf fs "filesystem.inodes.usage"
  let used : Wanted := [("mountpoint", some mp), ("state", some "used")]
  let free : Wanted := [("mountpoint", some mp), ("state", some "free")]
  let usedBytes ← intOf (matchValue usage used)
  let freeBytes ← intOf (matchValue usage free)
  let inodesUsed ← intOf (matchValue inodes used)
  let inodesFree ← intOf (matchValue inodes free)
  return {
    mountpoint := mp
    deviceId := attrOf [usage, inodes] "device" [("mountpoint", some mp)]
    fstype := attrOf [usage] "type" [("mountpoint", some mp)]
    usedBytes, freeBytes, inodesUsed, inodesFree }

/-- The mount points of `_build_filesystems`. -/
def mountpointsOf (fs : Option Namespace) : List String :=
  distinctKeys [pointsOf fs "filesystem.usage", pointsOf fs "filesystem.inodes.usage"] "mountpoint"

/-- `_build_filesystems`. -/
def buildFilesystems (fs : Option Namespace) : Option (List FilesystemEntry) :=
  (mountpointsOf fs).mapM (filesystemEntry fs)

/-- `_build_cpu_cores` for one label. -/
def cpuCoreEntry (u : Unicode) (cpuTime : List Datapoint) (c : String) : Option CpuCoreEntry := do
  let seconds (state : String) : Option Double :=
    matchValue cpuTime [("cpu", some c), ("state", some state)]
  let coreId ← parseDigits u c
  return {
    coreId
    cpuUserS := seconds "user"
    cpuNiceS := seconds "nice"
    cpuSystemS := seconds "system"
    cpuIdleS := seconds "idle"
    cpuIowaitS := seconds "iowait"
    cpuIrqS := seconds "irq"
    cpuSoftirqS := seconds "softirq"
    cpuStealS := seconds "steal" }

/-- The labels of `_build_cpu_cores`; those that are no digits are left out. -/
def coreLabels (u : Unicode) (cpuTime : List Datapoint) : List String :=
  (distinctKeys [cpuTime] "cpu").filter fun c => isDigits u c

/-- `_build_cpu_cores`. -/
def buildCpuCores (u : Unicode) (cpuTime : List Datapoint) : Option (List CpuCoreEntry) :=
  (coreLabels u cpuTime).mapM (cpuCoreEntry u cpuTime)

/-- `_build_pressure` for one resource and scope. -/
def pressureEntry (pressure : Option Namespace) (key : String × String) : PressureEntry :=
  let ratio := pointsOf pressure "pressure.stall.ratio"
  let time := pointsOf pressure "pressure.stall.time"
  let stall : Wanted := [("resource", some key.1), ("scope", some key.2)]
  { resource := key.1
    scope := key.2
    stallTimeS := matchValue time stall
    ratioAvg10 := matchValue ratio (stall ++ [("window", some "10")])
    ratioAvg60 := matchValue ratio (stall ++ [("window", some "60")])
    ratioAvg300 := matchValue ratio (stall ++ [("window", some "300")]) }

/-- The resource and the scope of a point that has both. -/
def Datapoint.pressureKey (p : Datapoint) : Option (String × String) :=
  match p.attrKey "resource", p.attrKey "scope" with
  | some r, some sc => some (r, sc)
  | _, _ => none

/-- The keys of `_build_pressure`. -/
def pressureKeys (pressure : Option Namespace) : List (String × String) :=
  ((pointsOf pressure "pressure.stall.ratio" ++ pointsOf pressure "pressure.stall.time").filterMap
    Datapoint.pressureKey).eraseDups

/-- `_build_pressure`. -/
def buildPressure (pressure : Option Namespace) : List PressureEntry :=
  (pressureKeys pressure).map (pressureEntry pressure)

/-! ## The message -/

/-- The host-wide columns of `to_metric_create`. -/
def toScalarMetrics (data : MetricsInput) : Option ScalarMetrics := do
  let cpuTime := pointsOf data.systemCpu "cpu.time"
  let memUsage := pointsOf data.systemMemory "memory.usage"
  let paging := pointsOf data.systemPaging "paging.operations"
  let cpuLogicalCount ← intOf (scalarValue data.systemCpu "cpu.logical.count")
  let cpuMce ← intOf (scalarValue data.systemCpu "cpu.mce")
  let memFreeBytes ← intOf (matchValue memUsage [("state", some "free")])
  let memCachedBytes ← intOf (matchValue memUsage [("state", some "cached")])
  let memBufferedBytes ← intOf (matchValue memUsage [("state", some "buffered")])
  let memAvailableBytes ← intOf (matchValue memUsage [("state", some "available")])
  let memUsedBytes ← intOf (matchValue memUsage [("state", some "used")])
  let memLimitBytes ← intOf (scalarValue data.systemMemory "memory.limit")
  let memCommitUsageBytes ← intOf (scalarValue data.systemMemory "memory.commit.usage")
  let memCommitLimitBytes ← intOf (scalarValue data.systemMemory "memory.commit.limit")
  let memHardwareCorruptedBytes ← intOf (scalarValue data.systemMemory "memory.hardware_corrupted")
  let memOomKill ← intOf (scalarValue data.systemMemory "memory.oom_kill")
  let pagingIn ← intOf (matchValue paging [("direction", some "in"), ("type", none)])
  let pagingOut ← intOf (matchValue paging [("direction", some "out"), ("type", none)])
  let pagingMajor ← intOf (matchValue paging [("direction", some "in"), ("type", some "major")])
  let netTcpRetransmits ← intOf (scalarValue data.systemNetwork "network.tcp.retransmits")
  let netConntrackUsage ← intOf (scalarValue data.systemNetwork "network.conntrack.usage")
  let netConntrackLimit ← intOf (scalarValue data.systemNetwork "network.conntrack.limit")
  return {
    bootTime := data.bootTime
    agentStartedAt := data.agentStartedAt
    cpuUserS := stateSum cpuTime "user"
    cpuNiceS := stateSum cpuTime "nice"
    cpuSystemS := stateSum cpuTime "system"
    cpuIdleS := stateSum cpuTime "idle"
    cpuIowaitS := stateSum cpuTime "iowait"
    cpuIrqS := stateSum cpuTime "irq"
    cpuSoftirqS := stateSum cpuTime "softirq"
    cpuStealS := stateSum cpuTime "steal"
    cpuLogicalCount
    cpuRunQueue := scalarValue data.systemCpu "cpu.run_queue"
    cpuBlocked := scalarValue data.systemCpu "cpu.blocked"
    cpuMce, memFreeBytes, memCachedBytes, memBufferedBytes, memAvailableBytes, memUsedBytes
    memLimitBytes, memCommitUsageBytes, memCommitLimitBytes, memHardwareCorruptedBytes, memOomKill
    pagingIn, pagingOut, pagingMajor, netTcpRetransmits, netConntrackUsage, netConntrackLimit }

/-- `to_metric_create`. -/
def toMetricCreate (u : Unicode) (data : MetricsInput) : Option ServerMetricCreate := do
  let scalars ← toScalarMetrics data
  let diskIo ← buildDiskIo data.systemDisk
  let netIo ← buildNetIo data.systemNetwork
  let filesystems ← buildFilesystems data.systemFilesystem
  let cpuPerCore ← buildCpuCores u (pointsOf data.systemCpu "cpu.time")
  let diskErrors ← buildDiskErrors data.systemDisk
  return {
    collectedAt := data.collectedAt
    scalars, diskIo, netIo, filesystems, cpuPerCore, diskErrors
    pressure := buildPressure data.systemPressure }

end AssessmentEngine
