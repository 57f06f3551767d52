import AssessmentEngine.Library.CounterSpread
import AssessmentEngine.Library.Percentile
import AssessmentEngine.Queries.LatestDashboard
import AssessmentEngine.Queries.MemoryFlags
import AssessmentEngine.Queries.TrendWindow

/-!
# Five-minute buckets

The continuous aggregates over the tables of samples, from which the reports are made: each counter
is kept as its readings in the bucket, each gauge as its average and its greatest value.
-/

namespace AssessmentEngine

open CounterSpread Nullable RowGroups TimeSeries

/-! ## Counters -/

/-- `counter_agg(collected_at, …)`: the readings in the order of time, null when there is none. -/
abbrev CounterAgg := List (ℤ × ℚ)

namespace CounterAgg

/-- The readings of a column in the rows of a bucket. -/
def read {ρ : Type} (time : ρ → ℤ) (value : ρ → Option ℚ) (rows : List ρ) : CounterAgg :=
  rows.filterMap fun r => (value r).map fun v => (time r, v)

/-- `delta(…)`, in which a fall counts as a restart from zero. -/
def delta (ca : CounterAgg) : Option ℚ :=
  if ca = [] then none else some (rises (ca.map Prod.snd)).sum

/-- `time_delta(…)`, in seconds. -/
def timeDelta (ca : CounterAgg) : Option ℚ := do
  let first ← ca.head?
  let last ← ca.getLast?
  return epochSeconds last.1 first.1

end CounterAgg

/-- `time_bucket('5 minutes', collected_at)`. -/
def timeBucket5m (t : ℤ) : ℤ := t / bucketWidth * bucketWidth

/-! ## The tables -/

/-- A row of `server_filesystem` with its inodes. -/
structure VolumeRow extends FilesystemRow where
  inodesUsed : Option ℤ
  inodesFree : Option ℤ
  deriving DecidableEq, Repr

def VolumeRow.key (r : VolumeRow) : ℕ ×ₗ String ×ₗ ℤ := r.toFilesystemRow.key

/-! ## `server_metrics_5m` -/

structure ServerMetrics5m where
  serverId : ℕ
  bucket : ℤ
  cpuTotalCa : CounterAgg
  cpuIdleCa : CounterAgg
  cpuUserCa : CounterAgg
  cpuSystemCa : CounterAgg
  cpuIowaitCa : CounterAgg
  cpuStealCa : CounterAgg
  pagingMajorCa : CounterAgg
  pagingInCa : CounterAgg
  oomKillCa : CounterAgg
  tcpRetransCa : CounterAgg
  memPctAvg : Option ℚ
  memPctMax : Option ℚ
  memAvailableAvg : Option ℚ
  memLimitAvg : Option ℚ
  memCachedPctAvg : Option ℚ
  memBufferedPctAvg : Option ℚ
  runQueueAvg : Option ℚ
  blockedAvg : Option ℚ
  conntrackRatioMax : Option ℚ
  deriving DecidableEq, Repr

/-- `(1 - mem_available_bytes::float / mem_limit_bytes) * 100`. -/
def MetricsRow.memPct (r : MetricsRow) : Option ℚ := do
  let limit ← r.memLimitBytes
  let available ← r.memAvailableBytes
  if 0 < limit then some ((1 - (available : ℚ) / limit) * 100) else none

/-- `net_conntrack_usage::float / net_conntrack_limit`. -/
def MetricsRow.conntrackRatio (r : MetricsRow) : Option ℚ := do
  let limit ← r.netConntrackLimit
  let usage ← r.netConntrackUsage
  if 0 < limit then some ((usage : ℚ) / limit) else none

/-- The bytes of a bound that is there and positive. -/
def MetricsRow.memLimit (r : MetricsRow) : Option ℚ :=
  (column r.memLimitBytes).bind fun limit => if 0 < limit then some limit else none

/-- What of it is free, when that was measured too. -/
def MetricsRow.memAvailable (r : MetricsRow) : Option ℚ :=
  r.memLimit.bind fun _ => column r.memAvailableBytes

/-- `part::float / mem_limit_bytes * 100`. -/
def MetricsRow.memSharePct (part : MetricsRow → Option ℤ) (r : MetricsRow) : Option ℚ := do
  let limit ← r.memLimitBytes
  let part ← part r
  if 0 < limit then some ((part : ℚ) / limit * 100) else none

/-- A bucket of a server. -/
def metricsBucket (k : ℕ × ℤ) (rows : List MetricsRow) : ServerMetrics5m :=
  let ca := CounterAgg.read fun r : MetricsRow => r.collectedAt
  { serverId := k.1
    bucket := k.2
    cpuTotalCa := ca (fun r => some (cpuTotalExpr id r.toCpuSeconds)) rows
    cpuIdleCa := ca (fun r => r.cpuIdleS) rows
    cpuUserCa := ca (fun r => r.cpuUserS) rows
    cpuSystemCa := ca (fun r => r.cpuSystemS) rows
    cpuIowaitCa := ca (fun r => r.cpuIowaitS) rows
    cpuStealCa := ca (fun r => r.cpuStealS) rows
    pagingMajorCa := ca (fun r => column r.pagingMajor) rows
    pagingInCa := ca (fun r => column r.pagingIn) rows
    oomKillCa := ca (fun r => column r.memOomKill) rows
    tcpRetransCa := ca (fun r => column r.netTcpRetransmits) rows
    memPctAvg := average (rows.filterMap MetricsRow.memPct)
    memPctMax := maxSome (rows.map MetricsRow.memPct)
    memAvailableAvg := average (rows.filterMap MetricsRow.memAvailable)
    memLimitAvg := average (rows.filterMap MetricsRow.memLimit)
    memCachedPctAvg := average (rows.filterMap (MetricsRow.memSharePct fun r => r.memCachedBytes))
    memBufferedPctAvg :=
      average (rows.filterMap (MetricsRow.memSharePct fun r => r.memBufferedBytes))
    runQueueAvg := average (rows.filterMap fun r => r.cpuRunQueue)
    blockedAvg := average (rows.filterMap fun r => r.cpuBlocked)
    conntrackRatioMax := maxSome (rows.map MetricsRow.conntrackRatio) }

def serverMetrics5m (rows : List MetricsRow) : List ServerMetrics5m :=
  groupBy (fun r : MetricsRow => (r.serverId, timeBucket5m r.collectedAt)) metricsBucket rows

/-! ## `server_filesystem_5m` -/

structure ServerFilesystem5m where
  serverId : ℕ
  mountpoint : String
  bucket : ℤ
  usedPctMax : Option ℚ
  usedPctAvg : Option ℚ
  totalBytesMax : Option ℤ
  freeFirst : Option ℤ
  freeLast : Option ℤ
  inodePctMax : Option ℚ
  inodeFreeFirst : Option ℤ
  inodeFreeLast : Option ℤ
  fstypeAny : Option String
  deriving DecidableEq, Repr

/-- `used::float / (used + free) * 100`, where there is something. -/
def sharePct (used free : Option ℤ) : Option ℚ := do
  let used ← used
  let free ← free
  if 0 < used + free then some ((used : ℚ) / (used + free : ℤ) * 100) else none

def VolumeRow.totalBytes (r : VolumeRow) : Option ℤ := do
  let used ← r.usedBytes
  let free ← r.freeBytes
  return used + free

def filesystemBucket (k : ℕ × String × ℤ) (rows : List VolumeRow) : ServerFilesystem5m where
  serverId := k.1
  mountpoint := k.2.1
  bucket := k.2.2
  usedPctMax := maxSome (rows.map fun r => sharePct r.usedBytes r.freeBytes)
  usedPctAvg := average (rows.filterMap fun r => sharePct r.usedBytes r.freeBytes)
  totalBytesMax := maxSome (rows.map VolumeRow.totalBytes)
  freeFirst := rows.head?.bind fun r => r.freeBytes
  freeLast := rows.getLast?.bind fun r => r.freeBytes
  inodePctMax := maxSome (rows.map fun r => sharePct r.inodesUsed r.inodesFree)
  inodeFreeFirst := rows.head?.bind fun r => r.inodesFree
  inodeFreeLast := rows.getLast?.bind fun r => r.inodesFree
  fstypeAny := rows.getLast?.bind fun r => r.fstype

def serverFilesystem5m (rows : List VolumeRow) : List ServerFilesystem5m :=
  groupBy (fun r : VolumeRow => (r.serverId, r.mountpoint, timeBucket5m r.collectedAt))
    filesystemBucket rows

/-- `_DATA_VOLUME_CAGG_FILTER`. -/
def ServerFilesystem5m.dataVolume (b : ServerFilesystem5m) : Bool :=
  isDataVolume b.fstypeAny (some b.mountpoint)

/-! ## `server_disk_io_5m` -/

structure ServerDiskIo5m where
  serverId : ℕ
  deviceId : String
  bucket : ℤ
  ioReadCa : CounterAgg
  ioWriteCa : CounterAgg
  opsReadCa : CounterAgg
  opsWriteCa : CounterAgg
  opRtimeCa : CounterAgg
  opWtimeCa : CounterAgg
  ioTimeCa : CounterAgg
  deriving DecidableEq, Repr

def diskIoBucket (k : ℕ × String × ℤ) (rows : List DiskIoRow) : ServerDiskIo5m :=
  let ca := CounterAgg.read fun r : DiskIoRow => r.collectedAt
  { serverId := k.1
    deviceId := k.2.1
    bucket := k.2.2
    ioReadCa := ca (fun r => column r.ioReadBytes) rows
    ioWriteCa := ca (fun r => column r.ioWriteBytes) rows
    opsReadCa := ca (fun r => column r.opsRead) rows
    opsWriteCa := ca (fun r => column r.opsWrite) rows
    opRtimeCa := ca (fun r => r.opReadTimeS) rows
    opWtimeCa := ca (fun r => r.opWriteTimeS) rows
    ioTimeCa := ca (fun r => r.ioTimeS) rows }

def serverDiskIo5m (rows : List DiskIoRow) : List ServerDiskIo5m :=
  groupBy (fun r : DiskIoRow => (r.serverId, r.deviceId, timeBucket5m r.collectedAt)) diskIoBucket
    rows

/-! ## `server_net_io_5m` -/

structure ServerNetIo5m where
  serverId : ℕ
  ifaceId : String
  bucket : ℤ
  rxCa : CounterAgg
  txCa : CounterAgg
  rxpCa : CounterAgg
  txpCa : CounterAgg
  rxdCa : CounterAgg
  txdCa : CounterAgg
  deriving DecidableEq, Repr

def netIoBucket (k : ℕ × String × ℤ) (rows : List NetIoRow) : ServerNetIo5m :=
  let ca := CounterAgg.read fun r : NetIoRow => r.collectedAt
  { serverId := k.1
    ifaceId := k.2.1
    bucket := k.2.2
    rxCa := ca (fun r => column r.rxBytes) rows
    txCa := ca (fun r => column r.txBytes) rows
    rxpCa := ca (fun r => column r.rxPackets) rows
    txpCa := ca (fun r => column r.txPackets) rows
    rxdCa := ca (fun r => column r.rxDropped) rows
    txdCa := ca (fun r => column r.txDropped) rows }

def serverNetIo5m (rows : List NetIoRow) : List ServerNetIo5m :=
  groupBy (fun r : NetIoRow => (r.serverId, r.ifaceId, timeBucket5m r.collectedAt)) netIoBucket rows

/-! ## `server_cpu_core_5m` -/

structure ServerCpuCore5m where
  serverId : ℕ
  coreId : ℤ
  bucket : ℤ
  cpuTotalCa : CounterAgg
  cpuIdleCa : CounterAgg
  deriving DecidableEq, Repr

def cpuCoreBucket (k : ℕ × ℤ × ℤ) (rows : List CpuCoreRow) : ServerCpuCore5m :=
  let ca := CounterAgg.read fun r : CpuCoreRow => r.collectedAt
  { serverId := k.1
    coreId := k.2.1
    bucket := k.2.2
    cpuTotalCa := ca (fun r => some (cpuTotalExpr id r.toCpuSeconds)) rows
    cpuIdleCa := ca (fun r => r.cpuIdleS) rows }

def serverCpuCore5m (rows : List CpuCoreRow) : List ServerCpuCore5m :=
  groupBy (fun r : CpuCoreRow => (r.serverId, r.coreId, timeBucket5m r.collectedAt)) cpuCoreBucket
    rows

end AssessmentEngine
