import AssessmentEngine.Queries.FiveMinuteBuckets
import AssessmentEngine.Queries.MountRunway

/-!
# The report query

`report_aggregate`, one common table expression after the other: the percentages of each bucket, the
statistics of each server over its buckets, and the servers with what there is about them, also when
that is nothing.
-/

namespace AssessmentEngine

open Nullable RowGroups TimeSeries

/-! ## The tables -/

/-- A row of `server_inventory` as the report query selects it; a block device is read for what it
is and for where it is mounted. -/
structure ReportServer where
  id : ℕ
  publicId : String
  hostname : String
  osFamily : Option String
  cpuCores : Option ℤ
  memTotalBytes : Option ℤ
  blockDevices : Option (List (InventoryDevice × BlockDevice))
  netInterfaces : Option (List InventoryIface)
  deriving DecidableEq

/-- The tables that the report query reads. -/
structure ReportTables where
  serverInventory : KeyedTable ReportServer.id
  serverMetrics : KeyedTable MetricsRow.key
  serverDiskIo : KeyedTable DiskIoRow.key
  serverNetIo : KeyedTable NetIoRow.key
  serverFilesystem : KeyedTable VolumeRow.key
  serverCpuCore : KeyedTable CpuCoreRow.key

/-- The arguments of the query, in microseconds. -/
structure ReportWindow where
  serverIds : List ℕ
  periodDays : ℚ
  start : ℤ
  stop : ℤ
  /-- `start = end - timedelta(days=period_days)`. -/
  length : (stop - start : ℤ) = periodDays * 86400000000

/-- `server_id = ANY(:sids) AND bucket >= :start AND bucket <= :end`. -/
def ReportWindow.Covers (w : ReportWindow) (sid : ℕ) (bucket : ℤ) : Prop :=
  sid ∈ w.serverIds ∧ w.start ≤ bucket ∧ bucket ≤ w.stop

instance (w : ReportWindow) (sid : ℕ) (bucket : ℤ) : Decidable (w.Covers sid bucket) :=
  inferInstanceAs (Decidable (_ ∧ _ ∧ _))

/-! ## `bkt` -/

/-- `CASE WHEN whole > 0 THEN GREATEST(0, …) END`; as `GREATEST` passes over what is null, a share
that is null counts as zero. -/
def shareOf (whole : Option ℚ) (share : ℚ → Option ℚ) : Option ℚ := do
  let whole ← whole
  if 0 < whole then some (max 0 ((share whole).getD 0)) else none

/-- `GREATEST(0, (1 - delta(idle) / delta(total)) * 100)`. -/
def busyPct (total idle : CounterAgg) : Option ℚ :=
  shareOf total.delta fun whole => idle.delta.map fun idle => (1 - idle / whole) * 100

/-- `GREATEST(0, delta(part) / delta(total) * 100)`. -/
def partPct (total part : CounterAgg) : Option ℚ :=
  shareOf total.delta fun whole => part.delta.map fun part => part / whole * 100

/-- A row of `bkt`. -/
structure BktRow where
  serverId : ℕ
  bucket : ℤ
  cpuPct : Option ℚ
  iowaitPct : Option ℚ
  stealPct : Option ℚ
  pagesInputRate : Option ℚ
  procsBlocked : Option ℚ
  procsRunning : Option ℚ
  pagingMajorDelta : Option ℚ
  oomDelta : Option ℚ
  retransDelta : Option ℚ
  conntrackRatio : Option ℚ
  memPctAvg : Option ℚ
  memPctMax : Option ℚ
  deriving DecidableEq, Repr

def ServerMetrics5m.bkt (b : ServerMetrics5m) : BktRow where
  serverId := b.serverId
  bucket := b.bucket
  cpuPct := busyPct b.cpuTotalCa b.cpuIdleCa
  iowaitPct := partPct b.cpuTotalCa b.cpuIowaitCa
  stealPct := partPct b.cpuTotalCa b.cpuStealCa
  pagesInputRate :=
    shareOf b.pagingInCa.timeDelta fun seconds =>
      b.pagingInCa.delta.map fun pages => pages / seconds
  procsBlocked := b.blockedAvg
  procsRunning := b.runQueueAvg
  pagingMajorDelta := b.pagingMajorCa.delta
  oomDelta := b.oomKillCa.delta
  retransDelta := b.tcpRetransCa.delta
  conntrackRatio := b.conntrackRatioMax
  memPctAvg := b.memPctAvg
  memPctMax := b.memPctMax

def ReportTables.bkt (db : ReportTables) (w : ReportWindow) : List BktRow :=
  ((serverMetrics5m db.serverMetrics.rows).filter fun b => w.Covers b.serverId b.bucket).map
    ServerMetrics5m.bkt

/-! ## The statistics of a server -/

/-- `percentile_cont(0.95) WITHIN GROUP (ORDER BY …)`. -/
def p95 {ρ : Type} (column : ρ → Option ℚ) (rows : List ρ) : Option ℚ :=
  percentileCont (95 / 100) (rows.filterMap column)

/-- `regr_slope(y, extract(epoch FROM bucket))`, over the rows that have a `y`. -/
def regrSlope (y : BktRow → Option ℚ) (rows : List BktRow) : Option ℚ :=
  let points := rows.filterMap fun r => (y r).map fun v => (epochSeconds r.bucket 0, v)
  let n : ℚ := points.length
  let sx := (points.map fun p => p.1).sum
  let sxx := (points.map fun p => p.1 * p.1).sum - sx * sx / n
  let sxy := (points.map fun p => p.1 * p.2).sum - sx * (points.map fun p => p.2).sum / n
  if points = [] ∨ sxx = 0 then none else some (sxy / sxx)

structure CpuStats where
  serverId : ℕ
  cpuP95 : Option ℚ
  cpuMedian : Option ℚ
  cpuAvg : Option ℚ
  cpuPeak : Option ℚ
  cpuSample : ℕ
  totalBuckets : ℕ
  iowaitP95 : Option ℚ
  iowaitPeak : Option ℚ
  cpuRunQueueP95 : Option ℚ
  memPagesInputRateP95 : Option ℚ
  deriving DecidableEq, Repr

def cpuStatsOf (sid : ℕ) (rows : List BktRow) : CpuStats where
  serverId := sid
  cpuP95 := p95 BktRow.cpuPct rows
  cpuMedian := percentileCont (1 / 2) (rows.filterMap BktRow.cpuPct)
  cpuAvg := average (rows.filterMap BktRow.cpuPct)
  cpuPeak := maxSome (rows.map BktRow.cpuPct)
  cpuSample := (rows.filterMap BktRow.cpuPct).length
  totalBuckets := rows.length
  iowaitP95 := p95 BktRow.iowaitPct rows
  iowaitPeak := maxSome (rows.map BktRow.iowaitPct)
  cpuRunQueueP95 := p95 BktRow.procsRunning rows
  memPagesInputRateP95 := p95 BktRow.pagesInputRate rows

structure MemStats where
  serverId : ℕ
  memP95 : Option ℚ
  memNearPeak : Option ℚ
  memAvg : Option ℚ
  memPeak : Option ℚ
  memSample : ℕ
  deriving DecidableEq, Repr

def memStatsOf (sid : ℕ) (rows : List BktRow) : MemStats where
  serverId := sid
  memP95 := p95 BktRow.memPctAvg rows
  memNearPeak := p95 BktRow.memPctMax rows
  memAvg := average (rows.filterMap BktRow.memPctAvg)
  memPeak := maxSome (rows.map BktRow.memPctMax)
  memSample := (rows.filterMap BktRow.memPctAvg).length

structure RsStats where
  serverId : ℕ
  cpuStealP95 : Option ℚ
  procsBlockedP95 : Option ℚ
  procsRunningP95 : Option ℚ
  swapPaging : Bool
  oomOccurred : Bool
  retransTotal : Option ℚ
  conntrackRatio : Option ℚ
  cpuTrendSlope : Option ℚ
  memTrendSlope : Option ℚ
  deriving DecidableEq, Repr

def rsStatsOf (sid : ℕ) (rows : List BktRow) : RsStats where
  serverId := sid
  cpuStealP95 := p95 BktRow.stealPct rows
  procsBlockedP95 := p95 BktRow.procsBlocked rows
  procsRunningP95 := p95 BktRow.procsRunning rows
  swapPaging := rows.any fun r => 0 < r.pagingMajorDelta.getD 0
  oomOccurred := rows.any fun r => 0 < r.oomDelta.getD 0
  retransTotal := sumSome (rows.map BktRow.retransDelta)
  conntrackRatio := maxSome (rows.map BktRow.conntrackRatio)
  cpuTrendSlope := (regrSlope BktRow.cpuPct rows).map (· * 86400)
  memTrendSlope := (regrSlope BktRow.memPctAvg rows).map (· * 86400)

def ReportTables.cpuStats (db : ReportTables) (w : ReportWindow) : List CpuStats :=
  groupBy BktRow.serverId cpuStatsOf (db.bkt w)

/-- The buckets without memory are left out. -/
def ReportTables.memStats (db : ReportTables) (w : ReportWindow) : List MemStats :=
  groupBy BktRow.serverId memStatsOf ((db.bkt w).filter fun r => r.memPctAvg.isSome)

def ReportTables.rsStats (db : ReportTables) (w : ReportWindow) : List RsStats :=
  groupBy BktRow.serverId rsStatsOf (db.bkt w)

/-! ## The mounts of a server -/

def firstOf (rows : List ServerFilesystem5m) : Option ServerFilesystem5m :=
  Table.latest (fun b : ServerFilesystem5m => -b.bucket) rows

def lastOf (rows : List ServerFilesystem5m) : Option ServerFilesystem5m :=
  Table.latest (fun b : ServerFilesystem5m => b.bucket) rows

/-- `first(…, bucket)` over the buckets of a mount. -/
def firstBucket {α : Type} (column : ServerFilesystem5m → Option α)
    (rows : List ServerFilesystem5m) : Option α :=
  (firstOf rows).bind column

/-- `last(…, bucket)`. -/
def lastBucket {α : Type} (column : ServerFilesystem5m → Option α)
    (rows : List ServerFilesystem5m) : Option α :=
  (lastOf rows).bind column

/-- A row of `mount_span`. -/
def mountSpanOf (rows : List ServerFilesystem5m) : MountSpan where
  avFirst := firstBucket ServerFilesystem5m.freeFirst rows
  avLast := lastBucket ServerFilesystem5m.freeLast rows
  totalBytes := maxSome (rows.map ServerFilesystem5m.totalBytesMax)
  inFirst := firstBucket ServerFilesystem5m.inodeFreeFirst rows
  inLast := lastBucket ServerFilesystem5m.inodeFreeLast rows
  spanDays :=
    match firstOf rows, lastOf rows with
    | some first, some last => epochSeconds last.bucket first.bucket / 86400
    | _, _ => 0

/-- `proj_30d_pct` of `mount_calc`. -/
def MountSpan.proj30dPct (s : MountSpan) : Option ℚ := do
  let first ← s.avFirst
  let last ← s.avLast
  let total ← s.totalBytes
  if 0 < first - last ∧ rsDiskRateMinSpanDays ≤ s.spanDays ∧ 0 < total then
    some ((1 - (last - rsDiskNearHorizonDays * ((first - last : ℤ) / s.spanDays)) / total) * 100)
  else none

/-- The mounts of a server: the whole history of each up to the end of the window (`mount_span`),
and the greatest shares within the window (`mount_max_raw`). -/
def ReportTables.mountFigures (db : ReportTables) (w : ReportWindow) (sid : ℕ) :
    List MountFigures :=
  let history := (serverFilesystem5m db.serverFilesystem.rows).filter fun b =>
    b.serverId = sid ∧ sid ∈ w.serverIds ∧ b.bucket ≤ w.stop ∧ b.dataVolume = true
  groupBy ServerFilesystem5m.mountpoint (fun mountpoint rows =>
    let inWindow := rows.filter fun b => w.start ≤ b.bucket
    { mountpoint := mountpoint
      span := mountSpanOf rows
      usedPctMax := maxSome (inWindow.map ServerFilesystem5m.usedPctMax)
      inodePctMax := maxSome (inWindow.map ServerFilesystem5m.inodePctMax) }) history

/-- `worst_mount`: of the mounts with the greatest share, the first by name. -/
def worstMount (ms : List MountFigures) : Option String :=
  (maxSome (ms.map MountFigures.usedPctMax)).bind fun worst =>
    ((ms.filter fun m => m.usedPctMax = some worst).map MountFigures.mountpoint).min?

/-! ## The disks, the interfaces and the cores of a server -/

/-- `_PHYS_DISK_SQL_FILTER`. -/
def ReportTables.physDisk (db : ReportTables) (sid : ℕ) (deviceId : String) : Bool :=
  listsDevice ReportServer.id ReportServer.blockDevices (·.1.IsDisk deviceId)
    db.serverInventory.rows sid

/-- `_PHYS_IFACE_SQL_FILTER`. -/
def ReportTables.physIface (db : ReportTables) (sid : ℕ) (ifaceId : String) : Bool :=
  listsDevice ReportServer.id ReportServer.netInterfaces (·.IsPhysical ifaceId)
    db.serverInventory.rows sid

/-- `a + b`, null when one of them is. -/
def plus (a b : Option ℚ) : Option ℚ := a.bind fun a => b.map fun b => a + b

/-- A row of `disk_dev`. -/
structure DiskDevRow where
  serverId : ℕ
  bucket : ℤ
  dIoTime : Option ℚ
  tdIoTime : Option ℚ
  dOptime : Option ℚ
  dOps : Option ℚ
  tdOps : Option ℚ
  deriving DecidableEq, Repr

def ServerDiskIo5m.dev (b : ServerDiskIo5m) : DiskDevRow where
  serverId := b.serverId
  bucket := b.bucket
  dIoTime := b.ioTimeCa.delta
  tdIoTime := b.ioTimeCa.timeDelta
  dOptime := plus b.opRtimeCa.delta b.opWtimeCa.delta
  dOps := plus b.opsReadCa.delta b.opsWriteCa.delta
  tdOps := b.opsReadCa.timeDelta

def ReportTables.diskDev (db : ReportTables) (w : ReportWindow) : List DiskDevRow :=
  ((serverDiskIo5m db.serverDiskIo.rows).filter fun b =>
    w.Covers b.serverId b.bucket ∧ db.physDisk b.serverId b.deviceId = true).map ServerDiskIo5m.dev

/-- `await_ms` of a device that was busy. -/
def DiskDevRow.awaitMs (d : DiskDevRow) : Option ℚ := do
  let util ← ratio d.dIoTime d.tdIoTime
  if rsDiskioUtilMin ≤ util then (ratio d.dOptime d.dOps).map (· * 1000) else none

/-- `disk_await` with `disk_await_stats`: the percentile over the worst device of each bucket. -/
def awaitP95Of (rows : List DiskDevRow) : Option ℚ :=
  p95 (fun worst : Option ℚ => worst)
    (groupBy DiskDevRow.bucket (fun _ devices => maxSome (devices.map DiskDevRow.awaitMs))
      (rows.filter fun d => d.awaitMs.isSome))

/-- `disk_io_base`. -/
def iopsBaselineOf (rows : List DiskDevRow) : Option ℚ :=
  let pb := (groupBy DiskDevRow.bucket (fun _ devices =>
    (sumSome (devices.map DiskDevRow.dOps), maxSome (devices.map DiskDevRow.tdOps))) rows).filter
      fun b => b.2.any (0 < ·)
  let seconds := sumSome (pb.map Prod.snd)
  if seconds.any (0 < ·) then ratio (sumSome (pb.map Prod.fst)) seconds else none

/-- `net_quality`. -/
structure NetTotals where
  dropsTotal : Option ℚ
  packetsTotal : Option ℚ
  txPacketsTotal : Option ℚ
  deriving DecidableEq, Repr

def netTotalsOf (rows : List ServerNetIo5m) : NetTotals :=
  let sum := fun column : ServerNetIo5m → CounterAgg =>
    sumSome (rows.map fun b => (column b).delta)
  { dropsTotal := plus (sum ServerNetIo5m.rxdCa) (sum ServerNetIo5m.txdCa)
    packetsTotal := plus (sum ServerNetIo5m.rxpCa) (sum ServerNetIo5m.txpCa)
    txPacketsTotal := sum ServerNetIo5m.txpCa }

def ReportTables.netRows (db : ReportTables) (w : ReportWindow) : List ServerNetIo5m :=
  (serverNetIo5m db.serverNetIo.rows).filter fun b =>
    w.Covers b.serverId b.bucket ∧ db.physIface b.serverId b.ifaceId = true

/-- `percore` with `percore_max`. -/
def percoreMaxOf (rows : List ServerCpuCore5m) : Option ℚ :=
  let util := fun b : ServerCpuCore5m => busyPct b.cpuTotalCa b.cpuIdleCa
  maxSome (groupBy ServerCpuCore5m.coreId (fun _ buckets => p95 util buckets)
    (rows.filter fun b => (util b).isSome))

def ReportTables.coreRows (db : ReportTables) (w : ReportWindow) : List ServerCpuCore5m :=
  (serverCpuCore5m db.serverCpuCore.rows).filter fun b => w.Covers b.serverId b.bucket

/-! ## The rows -/

/-- A row of the result: the row that the recommendations are made of, and what the pages show
besides. -/
structure ReportAggregateRow extends ReportRowRaw where
  serverId : ℕ
  cpuAvgPct : Option ℚ
  memAvgPct : Option ℚ
  memPeakPct : Option ℚ
  iowaitP95Pct : Option ℚ
  iowaitPeakPct : Option ℚ
  diskCapacityWorstMount : Option String
  diskCapacityDrivingMount : Option String
  diskCapacityProj30dPct : Option ℚ
  diskCapacityDrivingUsedPct : Option ℚ

/-- `sample::float / NULLIF(expected, 0)`. -/
def sufficiency (w : ReportWindow) (sample : ℕ) : Option ℚ :=
  ratio (some (sample : ℚ)) (some (w.periodDays * 288))

/-- The row of a server, of whose statistics each may be missing. -/
def ReportTables.reportRow (db : ReportTables) (w : ReportWindow) (s : ReportServer) :
    ReportAggregateRow :=
  let cs := (db.cpuStats w).find? fun c => c.serverId = s.id
  let ms := (db.memStats w).find? fun m => m.serverId = s.id
  let rs := (db.rsStats w).find? fun r => r.serverId = s.id
  let mounts := db.mountFigures w s.id
  let dev := rowsWith DiskDevRow.serverId s.id (db.diskDev w)
  let nq := netTotalsOf (rowsWith ServerNetIo5m.serverId s.id (db.netRows w))
  let raw : ReportRowRaw :=
    { publicId := s.publicId
      hostname := s.hostname
      osFamily := s.osFamily
      cpuCores := s.cpuCores
      memTotalBytes := s.memTotalBytes
      blockDevices := s.blockDevices.map fun devices => devices.map Prod.snd
      cpuP95Pct := cs.bind CpuStats.cpuP95
      cpuPeakPct := cs.bind CpuStats.cpuPeak
      cpuRunQueueP95 := cs.bind CpuStats.cpuRunQueueP95
      memPagesInputRateP95 := cs.bind CpuStats.memPagesInputRateP95
      memP95Pct := ms.bind MemStats.memP95
      memNearPeakPct := ms.bind MemStats.memNearPeak
      cpuSufficiency := cs.bind fun c => sufficiency w c.cpuSample
      memSufficiency := ms.bind fun m => sufficiency w m.memSample
      cpuStealP95Pct := rs.bind RsStats.cpuStealP95
      cpuBurstRatio := cs.bind fun c => c.cpuMedian.bind fun median =>
        if 0 < median then c.cpuP95.map (· / median) else none
      procsBlockedP95 := rs.bind RsStats.procsBlockedP95
      procsRunningP95 := rs.bind RsStats.procsRunningP95
      memSwapPaging := (rs.map RsStats.swapPaging).getD false
      oomOccurred := (rs.map RsStats.oomOccurred).getD false
      historyHours := cs.map fun c => c.totalBuckets * 5 / 60
      diskAwaitP95Ms := awaitP95Of dev
      diskIopsBaseline := (iopsBaselineOf dev).map FixedPoint.truncate
      conntrackRatio := rs.bind RsStats.conntrackRatio
      netDropPct := percent nq.dropsTotal nq.packetsTotal
      netRetransPct := percent (rs.bind RsStats.retransTotal) nq.txPacketsTotal
      cpuTrendSlope := rs.bind RsStats.cpuTrendSlope
      memTrendSlope := rs.bind RsStats.memTrendSlope
      cpuPercoreP95Max :=
        percoreMaxOf (rowsWith ServerCpuCore5m.serverId s.id (db.coreRows w)) }
  { foldDisks raw mounts with
    serverId := s.id
    cpuAvgPct := cs.bind CpuStats.cpuAvg
    memAvgPct := ms.bind MemStats.memAvg
    memPeakPct := ms.bind MemStats.memPeak
    iowaitP95Pct := cs.bind CpuStats.iowaitP95
    iowaitPeakPct := cs.bind CpuStats.iowaitPeak
    diskCapacityWorstMount := worstMount mounts
    diskCapacityDrivingMount := (drivingMount mounts).map MountFigures.mountpoint
    diskCapacityProj30dPct := (drivingMount mounts).bind fun m => m.span.proj30dPct
    diskCapacityDrivingUsedPct := (drivingMount mounts).bind fun m => m.span.usedPct }

/-- `report_aggregate`. -/
def ReportTables.reportAggregate (db : ReportTables) (w : ReportWindow) : List ReportAggregateRow :=
  ((db.serverInventory.rows.filter fun s => s.id ∈ w.serverIds).insertionSort fun a b =>
    a.hostname ≤ b.hostname).map (db.reportRow w)

end AssessmentEngine
