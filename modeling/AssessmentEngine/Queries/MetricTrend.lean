import AssessmentEngine.Queries.ValueTrends

/-!
# The charts of `metric_trend`

The dispatch over the metric types, and which samples a chart reads.  Every builder bounds its
samples by the end of the window but one: the charts of file systems over several servers carry the
last use before the end of a bucket forward, and the last bucket ends after the window
(`neverLooksPast_iff`).
-/

namespace AssessmentEngine

open RowGroups TimeSeries

/-! ## Dispatch -/

/-- `MetricType` and `EnvironmentMetricType`. -/
inductive TrendMetric
  | cpuPercent (metric : CpuMetric)
  | memPercent (metric : MemMetric)
  | cpuRunQueue
  | cpuSaturationHosts
  | cpuSaturation
  | cpuBlocked
  | diskIoSaturation
  | diskSaturationHosts
  | diskSaturation
  | netRetransPercent
  | netDropPercent
  | netCongested
  | netCongestedHosts
  | psi (resource : PsiResource)
  | memPagingPressure
  | memPagingPressureHosts
  | fsUsagePercent
  | rate (metric : RateMetric)
  deriving DecidableEq, Repr

/-- `metric_trend` with `_TREND_BUILDERS`. -/
def metricTrend : TrendMetric → MetricTables → MetricTrendCtx → List TrendPoint
  | .cpuPercent metric => trendCpuUtilization metric
  | .memPercent metric => trendEnvScalarWeighted metric
  | .cpuRunQueue => trendCpuRunQueue
  | .cpuSaturationHosts => trendCpuSaturationHosts
  | .cpuSaturation => trendCpuSaturation
  | .cpuBlocked => trendCpuBlocked
  | .diskIoSaturation => trendDiskIoSaturation
  | .diskSaturationHosts => trendDiskSaturationHosts
  | .diskSaturation => trendDiskSaturation
  | .netRetransPercent => trendNetRetransPercent
  | .netDropPercent => trendNetDropPercent
  | .netCongested => trendNetCongested
  | .netCongestedHosts => trendNetCongestedHosts
  | .psi resource => trendPsi resource
  | .memPagingPressure => trendMemPagingPressure
  | .memPagingPressureHosts => trendMemPagingPressureHosts
  | .fsUsagePercent => trendFsUsagePercent
  | .rate metric => trendRatePerDim metric

/-! ## What a chart reads -/

/-- The samples of the selected servers from one bucket before the window to its end are kept. -/
structure MetricTrendCtx.Covered (ctx : MetricTrendCtx) (known : ℕ → Bool)
    (keep : ℕ → ℤ → Bool) : Prop where
  known : ∀ sid, ctx.Selects sid → known sid = true
  keep : ∀ sid t, ctx.Selects sid → ctx.windowStart ≤ t → t ≤ ctx.stop → keep sid t = true

section Covered

variable {ctx : MetricTrendCtx} {known : ℕ → Bool} {keep : ℕ → ℤ → Bool}

lemma windowStart_le (ctx : MetricTrendCtx) : ctx.windowStart ≤ ctx.start := by
  unfold MetricTrendCtx.windowStart
  omega

/-- A sample that is read is kept. -/
lemma keep_of_reads (h : ctx.Covered known keep) {first : ℤ} (hfirst : ctx.windowStart ≤ first)
    {sid : ℕ} {t : ℤ} (hreads : ctx.Reads first sid t) : keep sid t = true :=
  h.keep sid t hreads.2.2 (hfirst.trans hreads.1) hreads.2.1

variable (db : MetricTables)

lemma metricsOf_restrict (h : ctx.Covered known keep) {first : ℤ}
    (hfirst : ctx.windowStart ≤ first) :
    (db.restrict known keep).metricsOf ctx first = db.metricsOf ctx first :=
  KeyedTable.filter_restrict fun _ hr => keep_of_reads h hfirst (of_decide_eq_true hr)

lemma diskIoOf_restrict (h : ctx.Covered known keep) {first : ℤ}
    (hfirst : ctx.windowStart ≤ first) :
    (db.restrict known keep).diskIoOf ctx first = db.diskIoOf ctx first :=
  KeyedTable.filter_restrict fun _ hr => keep_of_reads h hfirst (of_decide_eq_true hr)

lemma netIoOf_restrict (h : ctx.Covered known keep) {first : ℤ} (hfirst : ctx.windowStart ≤ first) :
    (db.restrict known keep).netIoOf ctx first = db.netIoOf ctx first :=
  KeyedTable.filter_restrict fun _ hr => keep_of_reads h hfirst (of_decide_eq_true hr)

lemma filesystemOf_restrict (h : ctx.Covered known keep) {first : ℤ}
    (hfirst : ctx.windowStart ≤ first) :
    (db.restrict known keep).filesystemOf ctx first = db.filesystemOf ctx first :=
  KeyedTable.filter_restrict fun _ hr => keep_of_reads h hfirst (of_decide_eq_true hr)

lemma pressureOf_restrict (h : ctx.Covered known keep) {first : ℤ}
    (hfirst : ctx.windowStart ≤ first) :
    (db.restrict known keep).pressureOf ctx first = db.pressureOf ctx first :=
  KeyedTable.filter_restrict fun _ hr => keep_of_reads h hfirst (of_decide_eq_true hr)

/-- Servers that are known stay in the inventory. -/
lemma server_restrict {sid : ℕ} (hknown : known sid = true) :
    (db.restrict known keep).server sid = db.server sid := by
  unfold MetricTables.server Table.findId
  rw [← List.head?_filter, ← List.head?_filter]
  refine congrArg List.head? (KeyedTable.filter_restrict fun r hr => ?_)
  rwa [of_decide_eq_true hr]

lemma joinedOf_restrict (h : ctx.Covered known keep) {first : ℤ}
    (hfirst : ctx.windowStart ≤ first) :
    (db.restrict known keep).joinedOf ctx first = db.joinedOf ctx first := by
  unfold MetricTables.joinedOf
  rw [metricsOf_restrict db h hfirst]
  apply List.filterMap_congr
  intro r hr
  have hreads : ctx.Reads first r.serverId r.collectedAt :=
    of_decide_eq_true (List.mem_filter.mp hr).2
  rw [server_restrict db (h.known _ hreads.2.2)]

/-- Physical devices of servers that are known stay physical. -/
lemma physDisk_restrict {sid : ℕ} (hknown : known sid = true) (deviceId : String) :
    (db.restrict known keep).physDisk sid deviceId = db.physDisk sid deviceId := by
  unfold MetricTables.physDisk
  rw [MetricTables.restrict, KeyedTable.restrict_rows]
  exact listsDevice_filter fun si hsi => by simpa [hsi] using hknown

lemma physIface_restrict {sid : ℕ} (hknown : known sid = true) (ifaceId : String) :
    (db.restrict known keep).physIface sid ifaceId = db.physIface sid ifaceId := by
  unfold MetricTables.physIface
  rw [MetricTables.restrict, KeyedTable.restrict_rows]
  exact listsDevice_filter fun si hsi => by simpa [hsi] using hknown

lemma diskRaw_restrict (h : ctx.Covered known keep) :
    diskRaw (db.restrict known keep) ctx = diskRaw db ctx := by
  unfold diskRaw
  rw [diskIoOf_restrict db h le_rfl]
  apply List.filter_congr
  intro r hr
  have hreads : ctx.Reads ctx.windowStart r.serverId r.collectedAt :=
    of_decide_eq_true (List.mem_filter.mp hr).2
  exact physDisk_restrict db (h.known _ hreads.2.2) _

lemma netRaw_restrict (h : ctx.Covered known keep) :
    netRaw (db.restrict known keep) ctx = netRaw db ctx := by
  unfold netRaw
  rw [netIoOf_restrict db h le_rfl]
  apply List.filter_congr
  intro r hr
  have hreads : ctx.Reads ctx.windowStart r.serverId r.collectedAt :=
    of_decide_eq_true (List.mem_filter.mp hr).2
  exact physIface_restrict db (h.known _ hreads.2.2) _

/-! ## The builders -/

lemma perTs_congr {samples samples' : CpuSamples} {c : TrendCtx}
    (h : samples.raw c = samples'.raw c) : samples.perTs id c = samples'.perTs id c := by
  unfold CpuSamples.perTs CpuSamples.validAt CpuSamples.valid CpuSamples.deltas
  rw [h]

lemma trendCpuUtilization_restrict (h : ctx.Covered known keep) (metric : CpuMetric) :
    trendCpuUtilization metric (db.restrict known keep) ctx =
      trendCpuUtilization metric db ctx := by
  unfold trendCpuUtilization
  rw [perTs_congr]
  unfold CpuSamples.raw MetricTables.cpuSamples
  rw [List.filter_map, List.filter_map]
  refine congrArg _ (KeyedTable.filter_restrict fun r hr => ?_)
  obtain ⟨hfirst, hlast, hselects⟩ := of_decide_eq_true hr
  exact h.keep _ _ hselects hfirst hlast

lemma rateSamples_restrict (h : ctx.Covered known keep) (metric : RateMetric) :
    rateSamples metric (db.restrict known keep) ctx = rateSamples metric db ctx := by
  unfold rateSamples
  rw [diskRaw_restrict db h, netRaw_restrict db h]

/-- The samples of a chart of rates are of selected servers. -/
lemma selects_of_mem_rateSamples {metric : RateMetric} {r : RateSample}
    (hr : r ∈ rateSamples metric db ctx) : ctx.Selects r.serverId := by
  unfold rateSamples at hr
  split at hr
  · obtain ⟨a, ha, rfl⟩ := List.mem_map.mp hr
    have hreads : ctx.Reads ctx.windowStart a.serverId a.collectedAt :=
      of_decide_eq_true (List.mem_filter.mp (List.mem_filter.mp ha).1).2
    exact hreads.2.2
  · obtain ⟨a, ha, rfl⟩ := List.mem_map.mp hr
    have hreads : ctx.Reads ctx.windowStart a.serverId a.collectedAt :=
      of_decide_eq_true (List.mem_filter.mp (List.mem_filter.mp ha).1).2
    exact hreads.2.2

lemma selects_of_mem_rates {metric : RateMetric} {x : RateSample × ℚ}
    (hx : x ∈ rates metric db ctx) : ctx.Selects x.1.serverId := by
  obtain ⟨r, hr, hv⟩ := List.mem_filterMap.mp hx
  obtain ⟨v, _, rfl⟩ := Option.map_eq_some_iff.mp hv
  exact selects_of_mem_rateSamples db (List.mem_filter.mp (List.mem_filter.mp hr).1).1

lemma trendRatePerDim_restrict (h : ctx.Covered known keep) (metric : RateMetric) :
    trendRatePerDim metric (db.restrict known keep) ctx = trendRatePerDim metric db ctx := by
  have hrates : rates metric (db.restrict known keep) ctx = rates metric db ctx := by
    unfold rates rateRaw
    rw [rateSamples_restrict db h]
  unfold trendRatePerDim trendRateCollapsed trendRatePerDevice
  rw [hrates]
  refine congrArg _ (congrArg _ ?_)
  apply List.map_congr_left
  intro k hk
  obtain ⟨x, hx, rfl⟩ := List.mem_map.mp (List.mem_dedup.mp hk)
  have hname : (db.restrict known keep).deviceName metric x.1.serverId x.1.dim =
      db.deviceName metric x.1.serverId x.1.dim := by
    unfold MetricTables.deviceName
    rw [server_restrict db (h.known _ (selects_of_mem_rates db hx))]
  simp only [hname]

/-- The use in the buckets is the same when what is carried forward is kept too. -/
lemma trendFsUsageCollapsed_restrict (h : ctx.Covered known keep)
    (hlast : ∀ ts ∈ fsBuckets ctx, ∀ sid t, ctx.Selects sid → ctx.windowStart ≤ t →
      t < ts + ctx.bucket.width → keep sid t = true) :
    trendFsUsageCollapsed (db.restrict known keep) ctx = trendFsUsageCollapsed db ctx := by
  unfold trendFsUsageCollapsed
  refine congrArg orderByTs (List.filterMap_congr fun ts hts => ?_)
  have htargets : fsTargets (db.restrict known keep) ctx = fsTargets db ctx := by
    unfold fsTargets
    rw [filesystemOf_restrict db h le_rfl]
  have hvalue : fsLastBefore (db.restrict known keep) ctx ts = fsLastBefore db ctx ts := by
    funext target
    unfold fsLastBefore
    rw [MetricTables.restrict, KeyedTable.filter_restrict]
    intro r hr
    obtain ⟨_, hfirst, hbefore, hselects, _⟩ := of_decide_eq_true hr
    exact hlast ts hts _ _ hselects hfirst hbefore
  unfold fsBucketValue
  rw [htargets, hvalue]

/-- Every other chart is a function of the samples of its window. -/
lemma metricTrend_restrict (h : ctx.Covered known keep) {metric : TrendMetric}
    (hfs : ¬(metric = .fsUsagePercent ∧ ctx.collapse = true)) :
    metricTrend metric (db.restrict known keep) ctx = metricTrend metric db ctx := by
  have hstart := windowStart_le ctx
  cases metric with
  | cpuPercent metric => exact trendCpuUtilization_restrict db h metric
  | memPercent metric =>
    simp only [metricTrend, trendEnvScalarWeighted, metricsOf_restrict db h hstart]
  | cpuRunQueue => simp only [metricTrend, trendCpuRunQueue, joinedOf_restrict db h hstart]
  | cpuSaturationHosts =>
    simp only [metricTrend, trendCpuSaturationHosts, cpuSaturationFlags,
      joinedOf_restrict db h hstart]
  | cpuSaturation =>
    simp only [metricTrend, trendCpuSaturation, cpuSaturationFlags, joinedOf_restrict db h hstart]
  | cpuBlocked => simp only [metricTrend, trendCpuBlocked, joinedOf_restrict db h hstart]
  | diskIoSaturation => simp only [metricTrend, trendDiskIoSaturation, diskRaw_restrict db h]
  | diskSaturationHosts =>
    simp only [metricTrend, trendDiskSaturationHosts, diskPerDev, diskRaw_restrict db h]
  | diskSaturation =>
    simp only [metricTrend, trendDiskSaturation, diskPerDev, diskRaw_restrict db h]
  | netRetransPercent =>
    simp only [metricTrend, trendNetRetransPercent, retransTs, txpTs, netRaw_restrict db h,
      metricsOf_restrict db h le_rfl]
  | netDropPercent => simp only [metricTrend, trendNetDropPercent, netRaw_restrict db h]
  | netCongested =>
    simp only [metricTrend, trendNetCongested, netFlags, netDeltas, tcpDeltas,
      netRaw_restrict db h, metricsOf_restrict db h le_rfl]
  | netCongestedHosts =>
    simp only [metricTrend, trendNetCongestedHosts, netFlags, netDeltas, tcpDeltas,
      netRaw_restrict db h, metricsOf_restrict db h le_rfl]
  | psi resource => simp only [metricTrend, trendPsi, pressureOf_restrict db h le_rfl]
  | memPagingPressure =>
    simp only [metricTrend, trendMemPagingPressure, memPagingFlags, pagingSamples,
      joinedOf_restrict db h le_rfl]
  | memPagingPressureHosts =>
    simp only [metricTrend, trendMemPagingPressureHosts, memPagingFlags, pagingSamples,
      joinedOf_restrict db h le_rfl]
  | fsUsagePercent =>
    have hcollapse : ¬ctx.collapse = true := fun hc => hfs ⟨rfl, hc⟩
    simp only [metricTrend, trendFsUsagePercent, if_neg hcollapse, trendFsUsagePerMount,
      filesystemOf_restrict db h hstart]
  | rate metric => exact trendRatePerDim_restrict db h metric

end Covered

end AssessmentEngine
