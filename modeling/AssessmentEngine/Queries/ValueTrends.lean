import AssessmentEngine.Queries.HostTrends

/-!
# Charts of values

The builders of `metric_trend` whose charts show a measured value: shares of the CPU and of the
memory, queues, waits, ratios of the network, stalls, the use of file systems and rates of devices.
-/

namespace AssessmentEngine

open RowGroups TimeSeries

/-! ## CPU and memory -/

/-- `server_metrics` as `_trend_cpu_utilization` reads it. -/
def MetricTables.cpuSamples (db : MetricTables) : CpuSamples where
  rows := db.serverMetrics.rows.map fun r => r.toServerMetricsRow
  unique := by
    have hkeys : (db.serverMetrics.rows.map fun r => ofLex r.key).Nodup :=
      List.Nodup.of_map toLex (by simpa [Function.comp_def] using db.serverMetrics.nodup_keys)
    simpa [Function.comp_def, MetricsRow.key] using hkeys

/-- `_trend_cpu_utilization`. -/
def trendCpuUtilization (metric : CpuMetric) (db : MetricTables) (ctx : MetricTrendCtx) :
    List TrendPoint :=
  bucketSeries ctx ((db.cpuSamples.perTs id
    ⟨metric, ctx.bucket.width, ctx.start, ctx.stop, ctx.serverIds.getD []⟩).map fun p =>
      ⟨p.1, none, some p.2⟩)

/-- The metrics of `_ENV_SCALAR_WEIGHTED`. -/
inductive MemMetric
  | usagePercent
  | availablePercent
  | cachedPercent
  | buffersPercent
  deriving DecidableEq, Repr

/-- The part that a metric measures; it is null where the guard does not hold. -/
def MemMetric.part (metric : MemMetric) (r : MetricsRow) : Option ℤ :=
  match metric with
  | .usagePercent => do return (← r.memLimitBytes) - (← r.memAvailableBytes)
  | .availablePercent => r.memAvailableBytes
  | .cachedPercent => r.memCachedBytes
  | .buffersPercent => r.memBufferedBytes

/-- `_trend_env_scalar_weighted`. -/
def trendEnvScalarWeighted (metric : MemMetric) (db : MetricTables) (ctx : MetricTrendCtx) :
    List TrendPoint :=
  let rows := (db.metricsOf ctx ctx.start).filter fun r =>
    r.memLimitBytes.any (0 < ·) ∧ (metric.part r).isSome
  bucketSeries ctx (groupBy (fun r : MetricsRow => r.collectedAt)
    (fun t group => ⟨t, none, percent (column (sumSome (group.map metric.part)))
      (column (sumSome (group.map fun r => r.memLimitBytes)))⟩) rows)

/-- `_trend_cpu_run_queue`. -/
def trendCpuRunQueue (db : MetricTables) (ctx : MetricTrendCtx) : List TrendPoint :=
  let rows := (db.joinedOf ctx ctx.start).filter fun p =>
    p.1.cpuRunQueue.isSome ∧ p.2.cpuCores.any (0 < ·)
  bucketSeries ctx (groupBy (fun p : MetricsRow × InventoryRow => (p.1.collectedAt, p.2.osFamily))
    (fun k group => ⟨k.1, k.2, ratio (sumSome (group.map fun p => p.1.cpuRunQueue))
      (column (sumSome (group.map fun p => p.2.cpuCores)))⟩) rows)

/-- `_trend_cpu_blocked`. -/
def trendCpuBlocked (db : MetricTables) (ctx : MetricTrendCtx) : List TrendPoint :=
  let rows := (db.joinedOf ctx ctx.start).filter fun p => p.1.cpuBlocked.isSome
  bucketSeries ctx (groupBy (fun p : MetricsRow × InventoryRow => (p.1.collectedAt, p.2.osFamily))
    (fun k group => ⟨k.1, k.2, average (group.filterMap fun p => p.1.cpuBlocked)⟩) rows)

/-! ## Disks -/

/-- `await_ms` of `_trend_disk_io_saturation`: here a fall of a counter counts as no progress. -/
def diskWorstAwaitMs (raw : List DiskIoRow) (r : DiskIoRow) : Option ℚ := do
  let prev ← diskLag raw r
  let dT := max (r.opTime - prev.opTime) 0
  let dOps := max (r.ops - prev.ops) 0
  let dIot := max (r.ioTime - prev.ioTime) 0
  let dWall := epochSeconds r.collectedAt prev.collectedAt
  if 0 < dOps ∧ 0 < dWall ∧ rsDiskioUtilMin ≤ dIot / dWall then some (dT / dOps * 1000) else none

/-- `_trend_disk_io_saturation`. -/
def trendDiskIoSaturation (db : MetricTables) (ctx : MetricTrendCtx) : List TrendPoint :=
  let raw := diskRaw db ctx
  let perDev := raw.filter fun r => ctx.start ≤ r.collectedAt
  bucketSeries ctx (groupBy (fun r : DiskIoRow => r.collectedAt)
    (fun t group => ⟨t, none, Nullable.maxSome (group.map (diskWorstAwaitMs raw))⟩) perDev)

/-! ## The network -/

/-- `retrans_ts`. -/
def retransTs (db : MetricTables) (ctx : MetricTrendCtx) : List (ℤ × ℤ) :=
  let raw := db.metricsOf ctx ctx.windowStart
  groupBy (fun r : MetricsRow => r.collectedAt)
    (fun t group => (t, (group.map (retransDelta raw)).sum)) raw

/-- `txp_ts`. -/
def txpTs (db : MetricTables) (ctx : MetricTrendCtx) : List (ℤ × ℤ) :=
  let raw := netRaw db ctx
  groupBy (fun r : NetIoRow => r.collectedAt)
    (fun t group => (t, (group.map (netDelta (fun r => r.txPackets) raw)).sum)) raw

/-- `_trend_net_retrans_percent`. -/
def trendNetRetransPercent (db : MetricTables) (ctx : MetricTrendCtx) : List TrendPoint :=
  let txp := txpTs db ctx
  let joined := ((retransTs db ctx).filter fun r => ctx.start ≤ r.1).filterMap fun r =>
    (txp.find? fun t => t.1 = r.1).map fun t => (r.1, r.2, t.2)
  bucketSeries ctx (joined.map fun x =>
    ⟨x.1, none, percent (column (some x.2.1)) (column (some x.2.2))⟩)

/-- `_trend_net_drop_percent`. -/
def trendNetDropPercent (db : MetricTables) (ctx : MetricTrendCtx) : List TrendPoint :=
  let raw := netRaw db ctx
  let sum := fun (f : NetIoRow → Option ℤ) (group : List NetIoRow) =>
    (group.map (netDelta f raw)).sum
  bucketSeries ctx (groupBy (fun r : NetIoRow => r.collectedAt)
    (fun t group => ⟨t, none, percent
      (column (some (sum (fun r => r.rxDropped) group + sum (fun r => r.txDropped) group)))
      (column (some (sum (fun r => r.rxPackets) group + sum (fun r => r.txPackets) group)))⟩)
    (raw.filter fun r => ctx.start ≤ r.collectedAt))

/-! ## Stalls -/

/-- The resources of `server_pressure`. -/
inductive PsiResource
  | cpu
  | memory
  | io
  deriving DecidableEq, Repr

def PsiResource.text : PsiResource → String
  | .cpu => "cpu"
  | .memory => "memory"
  | .io => "io"

/-- `d_s` and `dt` of a row that has one before it. -/
def psiDelta (raw : List PressureRow) (r : PressureRow) : Option (ℤ × ℚ × ℚ) :=
  (lag (fun a : PressureRow => a.serverId) (fun a => a.collectedAt) raw r).map fun prev =>
    (r.collectedAt, greatestZero (do return (← r.stallTimeS) - (← prev.stallTimeS)),
      epochSeconds r.collectedAt prev.collectedAt)

/-- `_trend_psi`. -/
def trendPsi (resource : PsiResource) (db : MetricTables) (ctx : MetricTrendCtx) :
    List TrendPoint :=
  let raw := (db.pressureOf ctx ctx.windowStart).filter fun r =>
    r.resource = resource.text ∧ r.scope = "some"
  let deltas := ((raw.filter fun r => ctx.start ≤ r.collectedAt).filterMap (psiDelta raw)).filter
    fun x => 0 < x.2.2
  bucketSeries ctx (groupBy Prod.fst
    (fun t group => ⟨t, none, percent (some (group.map fun x => x.2.1).sum)
      (some (group.map fun x => x.2.2).sum)⟩) deltas)

/-! ## File systems -/

/-- `_DATA_VOLUME_SQL_FILTER`. -/
def FilesystemRow.isDataVolume (r : FilesystemRow) : Bool :=
  AssessmentEngine.isDataVolume r.fstype (some r.mountpoint)

/-- `targets`. -/
def fsTargets (db : MetricTables) (ctx : MetricTrendCtx) : List (ℕ × String) :=
  (((db.filesystemOf ctx ctx.windowStart).filter fun r => r.isDataVolume).map fun r =>
    (r.serverId, r.mountpoint)).dedup

/-- `buckets`. -/
def fsBuckets (ctx : MetricTrendCtx) : List ℤ :=
  generateSeries (ctx.bucket.of ctx.start) (ctx.bucket.of ctx.stop) ctx.bucket.width

/-- `lv`: the last measured use before the end of a bucket.  The end of the window does not bound
it. -/
def fsLastBefore (db : MetricTables) (ctx : MetricTrendCtx) (ts : ℤ) (target : ℕ × String) :
    Option (ℤ × ℤ) := do
  let sf ← Table.latest (fun sf : FilesystemRow => sf.collectedAt)
    (db.serverFilesystem.rows.filter fun sf =>
      (sf.serverId, sf.mountpoint) = target ∧ ctx.windowStart ≤ sf.collectedAt ∧
        sf.collectedAt < ts + ctx.bucket.width ∧ ctx.Selects sf.serverId ∧
          sf.usedBytes.isSome ∧ sf.freeBytes.isSome)
  let used ← sf.usedBytes
  let free ← sf.freeBytes
  return (used, free)

/-- The use of all targets in a bucket, where they have any size. -/
def fsBucketValue (db : MetricTables) (ctx : MetricTrendCtx) (ts : ℤ) : Option TrendPoint :=
  let last := (fsTargets db ctx).filterMap (fsLastBefore db ctx ts)
  let used : ℤ := (last.map Prod.fst).sum
  let size : ℤ := (last.map fun uf => uf.1 + uf.2).sum
  if 0 < size then some ⟨ts, percent (column (some used)) (column (some size)), none, none⟩
  else none

/-- `_trend_fs_usage_percent` with `collapse`. -/
def trendFsUsageCollapsed (db : MetricTables) (ctx : MetricTrendCtx) : List TrendPoint :=
  orderByTs ((fsBuckets ctx).filterMap (fsBucketValue db ctx))

/-- `_trend_fs_usage_percent` without. -/
def trendFsUsagePerMount (db : MetricTables) (ctx : MetricTrendCtx) : List TrendPoint :=
  let rows := (db.filesystemOf ctx ctx.start).filter fun r =>
    r.isDataVolume ∧ (do return (← r.usedBytes) + (← r.freeBytes) : Option ℤ).any (0 < ·) ∧
      (ctx.dimension = none ∨ ctx.dimension = some r.mountpoint)
  dimSeries ctx (groupBy (fun r : FilesystemRow => (r.collectedAt, r.mountpoint))
    (fun k group => ⟨k.1, k.2, none, percent (column (sumSome (group.map fun r => r.usedBytes)))
      (column (sumSome (group.map fun r =>
        do return (← r.usedBytes) + (← r.freeBytes))))⟩) rows)

/-- `_trend_fs_usage_percent`. -/
def trendFsUsagePercent (db : MetricTables) (ctx : MetricTrendCtx) : List TrendPoint :=
  if ctx.collapse then trendFsUsageCollapsed db ctx else trendFsUsagePerMount db ctx

/-! ## Rates of devices -/

/-- The metrics of `_RATE_PER_DIM_DEFS`. -/
inductive RateMetric
  | readIops
  | writeIops
  | readKbps
  | writeKbps
  | rxBytesPerSec
  | txBytesPerSec
  | rxPacketsPerSec
  | txPacketsPerSec
  deriving DecidableEq, Repr

/-- The counter of a metric: a column of one of two tables. -/
def RateMetric.counter : RateMetric → (DiskIoRow → Option ℚ) ⊕ (NetIoRow → Option ℚ)
  | .readIops => .inl fun r => column r.opsRead
  | .writeIops => .inl fun r => column r.opsWrite
  | .readKbps => .inl fun r => (column r.ioReadBytes).map (· / 1024)
  | .writeKbps => .inl fun r => (column r.ioWriteBytes).map (· / 1024)
  | .rxBytesPerSec => .inr fun r => column r.rxBytes
  | .txBytesPerSec => .inr fun r => column r.txBytes
  | .rxPacketsPerSec => .inr fun r => column r.rxPackets
  | .txPacketsPerSec => .inr fun r => column r.txPackets

/-- A row of `raw`. -/
structure RateSample where
  collectedAt : ℤ
  serverId : ℕ
  dim : String
  cnt : Option ℚ
  deriving DecidableEq, Repr

/-- The counters of the physical devices. -/
def rateSamples (metric : RateMetric) (db : MetricTables) (ctx : MetricTrendCtx) :
    List RateSample :=
  match metric.counter with
  | .inl cnt => (diskRaw db ctx).map fun r => ⟨r.collectedAt, r.serverId, r.deviceId, cnt r⟩
  | .inr cnt => (netRaw db ctx).map fun r => ⟨r.collectedAt, r.serverId, r.ifaceId, cnt r⟩

/-- `raw`; the dimension filters where the devices stay apart. -/
def rateRaw (metric : RateMetric) (db : MetricTables) (ctx : MetricTrendCtx) : List RateSample :=
  (rateSamples metric db ctx).filter fun r =>
    ctx.collapse = true ∨ ctx.dimension = none ∨ ctx.dimension = some r.dim

/-- `rates`: what a device did in a second since the row before. -/
def rateOf (raw : List RateSample) (r : RateSample) : Option ℚ := do
  let prev ← lag (fun a : RateSample => (a.serverId, a.dim)) (fun a => a.collectedAt) raw r
  let dt := epochSeconds r.collectedAt prev.collectedAt
  let dVal := greatestZero (do return (← r.cnt) - (← prev.cnt) : Option ℚ)
  if 0 < dt then some (dVal / dt) else none

/-- The rows of `rates` that are not null. -/
def rates (metric : RateMetric) (db : MetricTables) (ctx : MetricTrendCtx) :
    List (RateSample × ℚ) :=
  let raw := rateRaw metric db ctx
  (raw.filter fun r => ctx.start ≤ r.collectedAt).filterMap fun r =>
    (rateOf raw r).map fun v => (r, v)

/-- The sum over the devices of their average rates in a bucket. -/
def trendRateCollapsed (metric : RateMetric) (db : MetricTables) (ctx : MetricTrendCtx) :
    List TrendPoint :=
  let perSd := groupBy
    (fun x : RateSample × ℚ => (ctx.bucket.of x.1.collectedAt, x.1.serverId, x.1.dim))
    (fun k group => (k.1, average (group.map Prod.snd))) (rates metric db ctx)
  orderByTs (groupBy Prod.fst (fun ts group => ⟨ts, sumSome (group.map Prod.snd), none, none⟩)
    perSd)

/-- `dn.name`: the name of the device in the inventory. -/
def MetricTables.deviceName (db : MetricTables) (metric : RateMetric) (sid : ℕ) (dim : String) :
    Option String := do
  let si ← db.server sid
  match metric.counter with
  | .inl _ => ((si.blockDevices.getD []).find? fun bd => bd.IsDisk dim).bind fun bd => bd.name
  | .inr _ =>
    ((si.netInterfaces.getD []).find? fun ni => ni.IsPhysical dim).bind fun ni => ni.name

/-- A line for each device. -/
def trendRatePerDevice (metric : RateMetric) (db : MetricTables) (ctx : MetricTrendCtx) :
    List TrendPoint :=
  dimSeries ctx (groupBy
    (fun x : RateSample × ℚ => (x.1.collectedAt, x.1.serverId, x.1.dim))
    (fun k group => ⟨k.1, k.2.2, db.deviceName metric k.2.1 k.2.2,
      some (group.map Prod.snd).sum⟩) (rates metric db ctx))

/-- `_trend_rate_per_dim`. -/
def trendRatePerDim (metric : RateMetric) (db : MetricTables) (ctx : MetricTrendCtx) :
    List TrendPoint :=
  if ctx.collapse then trendRateCollapsed metric db ctx else trendRatePerDevice metric db ctx

end AssessmentEngine
