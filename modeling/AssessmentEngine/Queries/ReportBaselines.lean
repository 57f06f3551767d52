import AssessmentEngine.Queries.ReportAggregate
import AssessmentEngine.Queries.RestartCounts

/-!
# What a report adds to its rows

The queries beside `report_aggregate`: the traffic of the disks and of the interfaces, and what the
memory and the time of the processor went to.
-/

namespace AssessmentEngine

open Nullable RowGroups TimeSeries

/-! ## Traffic -/

/-- A row of `per_dev`. -/
structure PerDevRow where
  serverId : ℕ
  bucket : ℤ
  ops : Option ℚ
  bytes : Option ℚ
  dt : Option ℚ
  deriving DecidableEq, Repr

def ServerDiskIo5m.perDev (b : ServerDiskIo5m) : PerDevRow where
  serverId := b.serverId
  bucket := b.bucket
  ops := plus b.opsReadCa.delta b.opsWriteCa.delta
  bytes := plus b.ioReadCa.delta b.ioWriteCa.delta
  dt := b.opsReadCa.timeDelta

/-- The rows of the disks in the window. -/
def ReportTables.diskRows (db : ReportTables) (w : ReportWindow) : List ServerDiskIo5m :=
  (serverDiskIo5m db.serverDiskIo.rows).filter fun b =>
    w.Covers b.serverId b.bucket ∧ db.physDisk b.serverId b.deviceId = true

/-- `per_bucket` of the disks. -/
def ReportTables.perDiskBucket (db : ReportTables) (w : ReportWindow) : List PerDevRow :=
  groupBy (fun r : PerDevRow => (r.serverId, r.bucket))
    (fun k rows =>
      { serverId := k.1
        bucket := k.2
        ops := sumSome (rows.map PerDevRow.ops)
        bytes := sumSome (rows.map PerDevRow.bytes)
        dt := maxSome (rows.map PerDevRow.dt) })
    (((db.diskRows w).map ServerDiskIo5m.perDev).filter fun r => r.dt.any (0 < ·))

/-- `DiskIoBaselineRaw`. -/
structure DiskIoBaselineRaw where
  serverId : ℕ
  iopsBaseline : Option ℤ
  throughputKbpsBaseline : Option ℚ
  iopsP95 : Option ℚ
  iopsPeak : Option ℚ
  kbpsP95 : Option ℚ
  kbpsPeak : Option ℚ
  deriving DecidableEq, Repr

/-- A row of the result, from the buckets of a server: `disk_baseline` with `disk_stats`. -/
def diskIoBaselineOf (sid : ℕ) (rows : List PerDevRow) : DiskIoBaselineRaw :=
  let seconds := sumSome (rows.map PerDevRow.dt)
  let baseline := fun amount : PerDevRow → Option ℚ =>
    if seconds.any (0 < ·) then ratio (sumSome (rows.map amount)) seconds else none
  let iops := fun r : PerDevRow => ratio r.ops r.dt
  let kbps := fun r : PerDevRow => (ratio r.bytes r.dt).map (· / 1024)
  let timed := rows.filter fun r => r.dt.any (0 < ·)
  { serverId := sid
    iopsBaseline := (baseline PerDevRow.ops).map FixedPoint.truncate
    throughputKbpsBaseline := (baseline PerDevRow.bytes).map (· / 1024)
    iopsP95 := p95 iops timed
    iopsPeak := maxSome (timed.map iops)
    kbpsP95 := p95 kbps timed
    kbpsPeak := maxSome (timed.map kbps) }

/-- `report_disk_io_baseline`. -/
def ReportTables.reportDiskIoBaseline (db : ReportTables) (w : ReportWindow) :
    List DiskIoBaselineRaw :=
  groupBy PerDevRow.serverId diskIoBaselineOf (db.perDiskBucket w)

/-- A row of `per_if`. -/
structure PerIfRow where
  serverId : ℕ
  bucket : ℤ
  rxBytes : Option ℚ
  txBytes : Option ℚ
  dt : Option ℚ
  deriving DecidableEq, Repr

def ServerNetIo5m.perIf (b : ServerNetIo5m) : PerIfRow where
  serverId := b.serverId
  bucket := b.bucket
  rxBytes := b.rxCa.delta
  txBytes := b.txCa.delta
  dt := b.rxCa.timeDelta

/-- `per_bucket`. -/
def ReportTables.perBucket (db : ReportTables) (w : ReportWindow) : List PerIfRow :=
  groupBy (fun r : PerIfRow => (r.serverId, r.bucket))
    (fun k rows =>
      { serverId := k.1
        bucket := k.2
        rxBytes := sumSome (rows.map PerIfRow.rxBytes)
        txBytes := sumSome (rows.map PerIfRow.txBytes)
        dt := maxSome (rows.map PerIfRow.dt) })
    (((db.netRows w).map ServerNetIo5m.perIf).filter fun r => r.dt.any (0 < ·))

/-- `NetIoBaselineRaw`. -/
structure NetIoBaselineRaw where
  serverId : ℕ
  rxKbpsBaseline : Option ℚ
  txKbpsBaseline : Option ℚ
  rxP95 : Option ℚ
  rxPeak : Option ℚ
  txP95 : Option ℚ
  txPeak : Option ℚ
  deriving DecidableEq, Repr

/-- A row of the result, from the buckets of a server: `net_baseline` with `net_stats`. -/
def netIoBaselineOf (sid : ℕ) (rows : List PerIfRow) : NetIoBaselineRaw :=
  let seconds := sumSome (rows.map PerIfRow.dt)
  let baseline := fun bytes : PerIfRow → Option ℚ =>
    if seconds.any (0 < ·) then (ratio (sumSome (rows.map bytes)) seconds).map (· / 1024) else none
  let rate := fun (bytes : PerIfRow → Option ℚ) (r : PerIfRow) =>
    (ratio (bytes r) r.dt).map (· / 1024)
  let timed := rows.filter fun r => r.dt.any (0 < ·)
  { serverId := sid
    rxKbpsBaseline := baseline PerIfRow.rxBytes
    txKbpsBaseline := baseline PerIfRow.txBytes
    rxP95 := p95 (rate PerIfRow.rxBytes) timed
    rxPeak := maxSome (timed.map (rate PerIfRow.rxBytes))
    txP95 := p95 (rate PerIfRow.txBytes) timed
    txPeak := maxSome (timed.map (rate PerIfRow.txBytes)) }

/-- `report_net_io_baseline`. -/
def ReportTables.reportNetIoBaseline (db : ReportTables) (w : ReportWindow) :
    List NetIoBaselineRaw :=
  groupBy PerIfRow.serverId netIoBaselineOf (db.perBucket w)

/-! ## Memory and processor -/

/-- `MemoryBreakdownRaw`. -/
structure MemoryBreakdownRaw where
  usedPct : Option ℚ
  availablePct : Option ℚ
  cachedPct : Option ℚ
  buffersPct : Option ℚ
  deriving DecidableEq, Repr

/-- The rows of the metrics in the window. -/
def ReportTables.metricsRows (db : ReportTables) (w : ReportWindow) : List ServerMetrics5m :=
  (serverMetrics5m db.serverMetrics.rows).filter fun b => w.Covers b.serverId b.bucket

def memoryBreakdownOf (rows : List ServerMetrics5m) : MemoryBreakdownRaw :=
  let used := average (rows.filterMap ServerMetrics5m.memPctAvg)
  { usedPct := used
    availablePct := used.map (100 - ·)
    cachedPct := average (rows.filterMap ServerMetrics5m.memCachedPctAvg)
    buffersPct := average (rows.filterMap ServerMetrics5m.memBufferedPctAvg) }

/-- `report_memory_breakdown_batch`. -/
def ReportTables.reportMemoryBreakdownBatch (db : ReportTables) (w : ReportWindow) :
    List (ℕ × MemoryBreakdownRaw) :=
  groupBy ServerMetrics5m.serverId (fun sid rows => (sid, memoryBreakdownOf rows))
    (db.metricsRows w)

/-- `CpuBreakdownRaw`. -/
structure CpuBreakdownRaw where
  userPct : Option ℚ
  systemPct : Option ℚ
  iowaitPct : Option ℚ
  deriving DecidableEq, Repr

/-- `CASE WHEN delta(cpu_total_ca) > 0 THEN delta(part) / delta(cpu_total_ca) * 100 END`. -/
def ServerMetrics5m.cpuPart (part : ServerMetrics5m → CounterAgg) (b : ServerMetrics5m) :
    Option ℚ := do
  let total ← b.cpuTotalCa.delta
  let d ← (part b).delta
  if 0 < total then some (d / total * 100) else none

def cpuBreakdownOf (rows : List ServerMetrics5m) : CpuBreakdownRaw where
  userPct := average (rows.filterMap (ServerMetrics5m.cpuPart ServerMetrics5m.cpuUserCa))
  systemPct := average (rows.filterMap (ServerMetrics5m.cpuPart ServerMetrics5m.cpuSystemCa))
  iowaitPct := average (rows.filterMap (ServerMetrics5m.cpuPart ServerMetrics5m.cpuIowaitCa))

/-- `report_cpu_breakdown_batch`. -/
def ReportTables.reportCpuBreakdownBatch (db : ReportTables) (w : ReportWindow) :
    List (ℕ × CpuBreakdownRaw) :=
  groupBy ServerMetrics5m.serverId (fun sid rows => (sid, cpuBreakdownOf rows)) (db.metricsRows w)

/-! ## The rows of a report -/

/-- A row of a report: with the restarts of the server and its traffic. -/
structure BaselinedRow extends ReportAggregateRow where
  rebootCount : ℕ
  agentRestartCount : ℕ
  diskThroughputKbps : Option ℚ
  diskIopsP95 : Option ℚ
  diskIopsPeak : Option ℚ
  diskThroughputKbpsP95 : Option ℚ
  diskThroughputKbpsPeak : Option ℚ
  netRxKbpsP95 : Option ℚ
  netRxKbpsPeak : Option ℚ
  netTxKbpsP95 : Option ℚ
  netTxKbpsPeak : Option ℚ

/-- `_with_report_baselines`; what was not measured stays as the query left it. -/
def withReportBaselines (raw : ReportAggregateRow) (rebootCount agentRestartCount : ℕ)
    (disk : Option DiskIoBaselineRaw) (net : Option NetIoBaselineRaw) : BaselinedRow :=
  { raw with
    rebootCount := rebootCount
    agentRestartCount := agentRestartCount
    diskIopsBaseline := disk.elim raw.diskIopsBaseline DiskIoBaselineRaw.iopsBaseline
    diskThroughputKbps := disk.bind DiskIoBaselineRaw.throughputKbpsBaseline
    diskIopsP95 := disk.bind DiskIoBaselineRaw.iopsP95
    diskIopsPeak := disk.bind DiskIoBaselineRaw.iopsPeak
    diskThroughputKbpsP95 := disk.bind DiskIoBaselineRaw.kbpsP95
    diskThroughputKbpsPeak := disk.bind DiskIoBaselineRaw.kbpsPeak
    netRxKbps := net.elim raw.netRxKbps NetIoBaselineRaw.rxKbpsBaseline
    netTxKbps := net.elim raw.netTxKbps NetIoBaselineRaw.txKbpsBaseline
    netRxKbpsP95 := net.bind NetIoBaselineRaw.rxP95
    netRxKbpsPeak := net.bind NetIoBaselineRaw.rxPeak
    netTxKbpsP95 := net.bind NetIoBaselineRaw.txP95
    netTxKbpsPeak := net.bind NetIoBaselineRaw.txPeak }

/-- `_assemble_report_raws`. -/
def ReportTables.assembleReportRaws (db : ReportTables) (history : InventoryLog)
    (w : ReportWindow) : List BaselinedRow :=
  let uptimeStats := reportUptimeStats history w.serverIds (w.stop - w.start) w.stop
  let agentRestartStats := reportAgentRestartStats history w.serverIds (w.stop - w.start) w.stop
  let diskIo := db.reportDiskIoBaseline w
  let netIo := db.reportNetIoBaseline w
  (db.reportAggregate w).map fun raw =>
    withReportBaselines raw (countOf uptimeStats raw.serverId)
      (countOf agentRestartStats raw.serverId)
      (diskIo.find? fun disk => disk.serverId = raw.serverId)
      (netIo.find? fun net => net.serverId = raw.serverId)

end AssessmentEngine
