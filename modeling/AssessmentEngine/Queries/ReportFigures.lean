import AssessmentEngine.Queries.ReportAggregate
import Mathlib.Data.Int.Interval
import Mathlib.Tactic.Linarith

/-!
# The figures of the report

What the numbers of a row have to do with each other.  No percentile is above its peak, no share is
negative, and the shares of CPU and memory are percentages (`report_figures_ordered`).  There is at
most one bucket in five minutes, so that a server is never observed much longer than the window is
(`coverage_bounded`).
-/

namespace AssessmentEngine

open CounterSpread Nullable RowGroups TimeSeries

/-! ## Columns -/

section Column

variable {ρ : Type} {col col' : ρ → Option ℚ} {rows : List ρ} {x low : ℚ}

lemma mem_column {v : ℚ} : v ∈ rows.filterMap col ↔ ∃ r ∈ rows, col r = some v := by
  simp

lemma exists_peak (hne : rows.filterMap col ≠ []) :
    ∃ peak, maxSome (rows.map col) = some peak ∧ ∀ v ∈ rows.filterMap col, v ≤ peak := by
  obtain ⟨v, hv⟩ := List.exists_mem_of_ne_nil _ hne
  obtain ⟨r, hr, hcol⟩ := mem_column.mp hv
  have hsome : (maxSome (rows.map col)).isSome := by
    rw [maxSome_isSome_iff]
    exact ⟨v, List.mem_map.mpr ⟨r, hr, hcol⟩⟩
  obtain ⟨peak, hpeak⟩ := Option.isSome_iff_exists.mp hsome
  refine ⟨peak, hpeak, fun v hv => ?_⟩
  obtain ⟨r, hr, hcol⟩ := mem_column.mp hv
  exact (maxSome_eq_some_iff.mp hpeak).2 v (List.mem_map.mpr ⟨r, hr, hcol⟩)

lemma ne_nil_of_percentile {p : ℚ} (hx : percentileCont p (rows.filterMap col) = some x) :
    rows.filterMap col ≠ [] := by
  intro hnil
  rw [hnil, percentileCont_nil] at hx
  cases hx

/-- The percentile of a column is at most its greatest value. -/
lemma p95_le_peak (hx : p95 col rows = some x) :
    ∃ peak, maxSome (rows.map col) = some peak ∧ x ≤ peak := by
  obtain ⟨peak, hpeak, hbound⟩ := exists_peak (ne_nil_of_percentile hx)
  exact ⟨peak, hpeak, percentileCont_le (by norm_num) hx hbound⟩

lemma le_p95 (hx : p95 col rows = some x) (hlow : ∀ r ∈ rows, ∀ v, col r = some v → low ≤ v) :
    low ≤ x := by
  refine le_percentileCont (by norm_num) hx fun v hv => ?_
  obtain ⟨r, hr, hcol⟩ := mem_column.mp hv
  exact hlow r hr v hcol

/-- A column that has values has an average, which lies between any bounds of them. -/
lemma exists_average (hne : rows.filterMap col ≠ []) :
    ∃ avg, average (rows.filterMap col) = some avg := ⟨_, if_neg hne⟩

end Column

/-! ## Shares -/

section Shares

variable {total idle : CounterAgg} {v : ℚ}

/-- What was never negative counted nothing negative. -/
lemma delta_nonneg (h : ∀ p ∈ idle, 0 ≤ p.2) (hv : idle.delta = some v) : 0 ≤ v := by
  unfold CounterAgg.delta at hv
  split_ifs at hv
  obtain rfl := Option.some_inj.mp hv
  have hrises : ∀ vs : List ℚ, (∀ w ∈ vs, 0 ≤ w) → 0 ≤ (rises vs).sum := by
    intro vs hvs
    induction vs with
    | nil => exact le_rfl
    | cons a vs ih =>
      cases vs with
      | nil => exact le_rfl
      | cons b vs =>
        rw [rises, List.sum_cons]
        refine add_nonneg ?_ (ih fun w hw => hvs w (List.mem_cons_of_mem _ hw))
        unfold rise
        split_ifs with hfall
        · exact hvs b (by simp)
        · exact sub_nonneg.mpr (not_lt.mp hfall)
  refine hrises _ fun w hw => ?_
  obtain ⟨p, hp, rfl⟩ := List.mem_map.mp hw
  exact h p hp

lemma shareOf_nonneg {whole : Option ℚ} {share : ℚ → Option ℚ} (hv : shareOf whole share = some v) :
    0 ≤ v := by
  cases whole with
  | none => cases hv
  | some whole =>
    simp only [shareOf, Option.bind_eq_bind, Option.bind_some] at hv
    split_ifs at hv
    obtain rfl := Option.some_inj.mp hv
    exact le_max_left _ _

/-- A share that is what an idle counter leaves is a percentage, whatever the other counters do. -/
lemma busyPct_le (hidle : ∀ p ∈ idle, 0 ≤ p.2) (hv : busyPct total idle = some v) : v ≤ 100 := by
  unfold busyPct at hv
  cases htotal : total.delta with
  | none =>
    rw [htotal] at hv
    cases hv
  | some whole =>
    rw [htotal] at hv
    simp only [shareOf, Option.bind_eq_bind, Option.bind_some] at hv
    split_ifs at hv with hpos
    obtain rfl := Option.some_inj.mp hv
    refine max_le (by norm_num) ?_
    cases hdelta : idle.delta with
    | none => simp
    | some d =>
      have hshare : 0 ≤ d / whole := div_nonneg (delta_nonneg hidle hdelta) hpos.le
      simp only [Option.map_some, Option.getD_some]
      linarith

end Shares

/-! ## Buckets -/

/-- No idle counter was ever below zero, and no machine had more memory available than it has. -/
structure ReportTables.Plausible (db : ReportTables) : Prop where
  idle : ∀ r ∈ db.serverMetrics.rows, ∀ v, r.cpuIdleS = some v → 0 ≤ v
  coreIdle : ∀ r ∈ db.serverCpuCore.rows, ∀ v, r.cpuIdleS = some v → 0 ≤ v
  memory : ∀ r ∈ db.serverMetrics.rows, ∀ limit available, r.memLimitBytes = some limit →
    r.memAvailableBytes = some available → 0 ≤ available ∧ available ≤ limit

section Buckets

variable {db : ReportTables} {w : ReportWindow}

lemma mem_read {ρ : Type} {time : ρ → ℤ} {value : ρ → Option ℚ} {rows : List ρ} {p : ℤ × ℚ}
    (hp : p ∈ CounterAgg.read time value rows) : ∃ r ∈ rows, value r = some p.2 := by
  obtain ⟨r, hr, hread⟩ := List.mem_filterMap.mp hp
  obtain ⟨v, hv, rfl⟩ := Option.map_eq_some_iff.mp hread
  exact ⟨r, hr, hv⟩

lemma mem_bkt {r : BktRow} (hr : r ∈ db.bkt w) :
    ∃ k, r = (metricsBucket k (rowsWith (fun a : MetricsRow =>
      (a.serverId, timeBucket5m a.collectedAt)) k db.serverMetrics.rows)).bkt ∧
        w.Covers k.1 k.2 ∧ bucketWidth ∣ k.2 := by
  obtain ⟨b, hb, rfl⟩ := List.mem_map.mp hr
  obtain ⟨hb, hcovers⟩ := List.mem_filter.mp hb
  obtain ⟨k, hk, rfl⟩ := mem_groupBy.mp hb
  obtain ⟨a, -, rfl⟩ := List.mem_map.mp hk
  exact ⟨_, rfl, of_decide_eq_true hcovers, Dvd.intro_left _ rfl⟩

lemma bkt_cpuPct_nonneg {r : BktRow} (hr : r ∈ db.bkt w) {v : ℚ} (hv : r.cpuPct = some v) :
    0 ≤ v := by
  obtain ⟨k, rfl, -⟩ := mem_bkt hr
  exact shareOf_nonneg hv

lemma bkt_cpuPct_le (h : db.Plausible) {r : BktRow} (hr : r ∈ db.bkt w) {v : ℚ}
    (hv : r.cpuPct = some v) : v ≤ 100 := by
  obtain ⟨k, rfl, -⟩ := mem_bkt hr
  refine busyPct_le (fun p hp => ?_) hv
  obtain ⟨a, ha, hidle⟩ := mem_read hp
  exact h.idle a (mem_rowsWith.mp ha).1 _ hidle

lemma memPct_bounds (h : db.Plausible) {a : MetricsRow} (ha : a ∈ db.serverMetrics.rows) {v : ℚ}
    (hv : a.memPct = some v) : 0 ≤ v ∧ v ≤ 100 := by
  unfold MetricsRow.memPct at hv
  cases hlimit : a.memLimitBytes with
  | none =>
    rw [hlimit] at hv
    cases hv
  | some limit =>
    cases havailable : a.memAvailableBytes with
    | none =>
      rw [hlimit, havailable] at hv
      cases hv
    | some available =>
      obtain ⟨hfree, hfits⟩ := h.memory a ha limit available hlimit havailable
      rw [hlimit, havailable] at hv
      simp only [Option.bind_eq_bind, Option.bind_some] at hv
      split_ifs at hv with hpos
      obtain rfl := Option.some_inj.mp hv
      have hlimitQ : (0 : ℚ) < limit := by exact_mod_cast hpos
      have hshare : 0 ≤ (available : ℚ) / limit :=
        div_nonneg (by exact_mod_cast hfree) hlimitQ.le
      have hwhole : (available : ℚ) / limit ≤ 1 := by
        rw [div_le_one hlimitQ]
        exact_mod_cast hfits
      constructor <;> linarith

lemma bkt_memPctAvg_bounds (h : db.Plausible) {r : BktRow} (hr : r ∈ db.bkt w) {v : ℚ}
    (hv : r.memPctAvg = some v) : 0 ≤ v ∧ v ≤ 100 := by
  obtain ⟨k, rfl, -⟩ := mem_bkt hr
  constructor
  · refine le_average hv fun u hu => ?_
    obtain ⟨a, ha, hcol⟩ := mem_column.mp hu
    exact (memPct_bounds h (mem_rowsWith.mp ha).1 hcol).1
  · refine average_le hv fun u hu => ?_
    obtain ⟨a, ha, hcol⟩ := mem_column.mp hu
    exact (memPct_bounds h (mem_rowsWith.mp ha).1 hcol).2

lemma bkt_memPctMax_bounds (h : db.Plausible) {r : BktRow} (hr : r ∈ db.bkt w) {v : ℚ}
    (hv : r.memPctMax = some v) : 0 ≤ v ∧ v ≤ 100 := by
  obtain ⟨k, rfl, -⟩ := mem_bkt hr
  obtain ⟨a, ha, hcol⟩ := List.mem_map.mp (maxSome_eq_some_iff.mp hv).1
  exact memPct_bounds h (mem_rowsWith.mp ha).1 hcol

/-- A bucket that has an average of memory has a greatest value. -/
lemma exists_memPctMax {r : BktRow} (hr : r ∈ db.bkt w) {v : ℚ} (hv : r.memPctAvg = some v) :
    ∃ peak, r.memPctMax = some peak := by
  obtain ⟨k, rfl, -⟩ := mem_bkt hr
  set rows := rowsWith (fun a : MetricsRow => (a.serverId, timeBucket5m a.collectedAt)) k
    db.serverMetrics.rows
  have havg : average (rows.filterMap MetricsRow.memPct) = some v := hv
  have hne : rows.filterMap MetricsRow.memPct ≠ [] := by
    intro hnil
    rw [hnil] at havg
    cases havg
  obtain ⟨peak, hpeak, -⟩ := exists_peak hne
  exact ⟨peak, hpeak⟩

end Buckets

/-! ## The figures of a row -/

/-- A row is in order: beside a percentile stand its average and its peak, which is not below it,
the busy times are not less than the usual ones, and neither a share nor the part of the window that
was observed is negative. -/
structure OrderedFigures (r : ReportAggregateRow) : Prop where
  cpu : ∀ x, r.cpuP95Pct = some x → ∃ avg peak, r.cpuAvgPct = some avg ∧
    r.cpuPeakPct = some peak ∧ 0 ≤ x ∧ x ≤ peak ∧ 0 ≤ avg
  burst : ∀ x, r.cpuBurstRatio = some x → 1 ≤ x
  iowait : ∀ x, r.iowaitP95Pct = some x → ∃ peak, r.iowaitPeakPct = some peak ∧ 0 ≤ x ∧ x ≤ peak
  steal : ∀ x, r.cpuStealP95Pct = some x → 0 ≤ x
  percore : ∀ x, r.cpuPercoreP95Max = some x → 0 ≤ x
  mem : ∀ x, r.memP95Pct = some x → ∃ avg near peak, r.memAvgPct = some avg ∧
    r.memNearPeakPct = some near ∧ r.memPeakPct = some peak ∧ near ≤ peak
  cpuSufficiency : ∀ x, r.cpuSufficiency = some x → 0 ≤ x
  memSufficiency : ∀ x, r.memSufficiency = some x → 0 ≤ x

/-- A figure, if there is one, is a percentage. -/
def IsPercentage (figure : Option ℚ) : Prop := ∀ x, figure = some x → 0 ≤ x ∧ x ≤ 100

/-- The shares of CPU and memory of a row are percentages. -/
structure Percentages (r : ReportAggregateRow) : Prop where
  cpuP95 : IsPercentage r.cpuP95Pct
  cpuAvg : IsPercentage r.cpuAvgPct
  cpuPeak : IsPercentage r.cpuPeakPct
  percore : IsPercentage r.cpuPercoreP95Max
  memP95 : IsPercentage r.memP95Pct
  memNearPeak : IsPercentage r.memNearPeakPct
  memAvg : IsPercentage r.memAvgPct
  memPeak : IsPercentage r.memPeakPct

/-- Percentiles, averages and peaks of percentages are percentages. -/
lemma isPercentage_column {ρ : Type} (col : ρ → Option ℚ) {rows : List ρ}
    (h : ∀ r ∈ rows, IsPercentage (col r)) :
    IsPercentage (p95 col rows) ∧ IsPercentage (average (rows.filterMap col)) ∧
      IsPercentage (maxSome (rows.map col)) := by
  have hvalues : ∀ v ∈ rows.filterMap col, 0 ≤ v ∧ v ≤ 100 := by
    intro v hv
    obtain ⟨r, hr, hcol⟩ := mem_column.mp hv
    exact h r hr v hcol
  refine ⟨fun x hx => ⟨?_, ?_⟩, fun x hx => ⟨?_, ?_⟩, fun x hx => ?_⟩
  · exact le_percentileCont (by norm_num) hx fun v hv => (hvalues v hv).1
  · exact percentileCont_le (by norm_num) hx fun v hv => (hvalues v hv).2
  · exact le_average hx fun v hv => (hvalues v hv).1
  · exact average_le hx fun v hv => (hvalues v hv).2
  · obtain ⟨r, hr, hcol⟩ := List.mem_map.mp (maxSome_eq_some_iff.mp hx).1
    exact h r hr x hcol

section Ordered

variable {db : ReportTables} {w : ReportWindow} {s : ReportServer}

lemma mem_find? {α : Type} {p : α → Bool} {xs : List α} {β : Type} {f : α → Option β} {y : β}
    (h : (xs.find? p).bind f = some y) : ∃ x ∈ xs, xs.find? p = some x ∧ f x = some y := by
  obtain ⟨x, hx, hf⟩ := Option.bind_eq_some_iff.mp h
  exact ⟨x, List.mem_of_find?_eq_some hx, hx, hf⟩

lemma mem_cpuStats {c : CpuStats} (hc : c ∈ db.cpuStats w) :
    ∃ sid rows, c = cpuStatsOf sid rows ∧ ∀ r ∈ rows, r ∈ db.bkt w := by
  obtain ⟨sid, -, rfl⟩ := mem_groupBy.mp hc
  exact ⟨sid, _, rfl, fun r hr => (mem_rowsWith.mp hr).1⟩

lemma mem_memStats {m : MemStats} (hm : m ∈ db.memStats w) :
    ∃ sid rows, m = memStatsOf sid rows ∧ ∀ r ∈ rows, r ∈ db.bkt w ∧ r.memPctAvg.isSome := by
  obtain ⟨sid, -, rfl⟩ := mem_groupBy.mp hm
  exact ⟨sid, _, rfl, fun r hr => List.mem_filter.mp (mem_rowsWith.mp hr).1⟩

lemma cpu_ordered {rows : List BktRow} (hrows : ∀ r ∈ rows, r ∈ db.bkt w) {x : ℚ}
    (hx : p95 BktRow.cpuPct rows = some x) :
    ∃ avg peak, average (rows.filterMap BktRow.cpuPct) = some avg ∧
      maxSome (rows.map BktRow.cpuPct) = some peak ∧ 0 ≤ x ∧ x ≤ peak ∧ 0 ≤ avg := by
  have hnonneg : ∀ r ∈ rows, ∀ v, r.cpuPct = some v → 0 ≤ v :=
    fun r hr v hv => bkt_cpuPct_nonneg (hrows r hr) hv
  obtain ⟨avg, havg⟩ := exists_average (ne_nil_of_percentile hx)
  obtain ⟨peak, hpeak, hxpeak⟩ := p95_le_peak hx
  refine ⟨avg, peak, havg, hpeak, le_p95 hx hnonneg, hxpeak, le_average havg fun v hv => ?_⟩
  obtain ⟨r, hr, hcol⟩ := mem_column.mp hv
  exact hnonneg r hr v hcol

lemma mem_ordered {rows : List BktRow} (hrows : ∀ r ∈ rows, r ∈ db.bkt w ∧ r.memPctAvg.isSome)
    {x : ℚ} (hx : p95 BktRow.memPctAvg rows = some x) :
    ∃ avg near peak, average (rows.filterMap BktRow.memPctAvg) = some avg ∧
      p95 BktRow.memPctMax rows = some near ∧ maxSome (rows.map BktRow.memPctMax) = some peak ∧
        near ≤ peak := by
  have hne := ne_nil_of_percentile hx
  obtain ⟨avg, havg⟩ := exists_average hne
  obtain ⟨v, hv⟩ := List.exists_mem_of_ne_nil _ hne
  obtain ⟨r, hr, hcol⟩ := mem_column.mp hv
  obtain ⟨v', hv'⟩ := exists_memPctMax (hrows r hr).1 hcol
  have hmax : rows.filterMap BktRow.memPctMax ≠ [] :=
    List.ne_nil_of_mem (mem_column.mpr ⟨r, hr, hv'⟩)
  obtain ⟨near, hnear⟩ := Option.isSome_iff_exists.mp
    ((percentileCont_isSome (p := 95 / 100) (by norm_num)).mpr hmax)
  obtain ⟨peak, hpeak, hle⟩ := p95_le_peak hnear
  exact ⟨avg, near, peak, havg, hnear, hpeak, hle⟩

/-- The larger half of the values is no smaller. -/
lemma burst_ordered {rows : List BktRow} {median x : ℚ}
    (hmedian : percentileCont (1 / 2) (rows.filterMap BktRow.cpuPct) = some median)
    (hpos : 0 < median) (hx : p95 BktRow.cpuPct rows = some x) : 1 ≤ x / median := by
  rw [one_le_div hpos]
  exact percentileCont_le_of_le (by norm_num) (by norm_num) hmedian hx

/-- What holds of the share of every bucket of a core holds of the greatest percentile. -/
lemma percoreMax_of {rows : List ServerCpuCore5m} {x : ℚ} (hx : percoreMaxOf rows = some x) :
    ∃ rows', (∀ b ∈ rows', b ∈ rows) ∧
      p95 (fun b : ServerCpuCore5m => busyPct b.cpuTotalCa b.cpuIdleCa) rows' = some x := by
  obtain ⟨k, -, hp95⟩ := mem_groupBy.mp (maxSome_eq_some_iff.mp hx).1
  exact ⟨_, fun b hb => (List.mem_filter.mp (mem_rowsWith.mp hb).1).1, hp95⟩

lemma isPercentage_percore (h : db.Plausible) {b : ServerCpuCore5m} (hb : b ∈ db.coreRows w) :
    IsPercentage (busyPct b.cpuTotalCa b.cpuIdleCa) := by
  obtain ⟨k, -, rfl⟩ := mem_groupBy.mp (List.mem_filter.mp hb).1
  refine fun v hv => ⟨shareOf_nonneg hv, busyPct_le (fun p hp => ?_) hv⟩
  obtain ⟨a, ha, hidle⟩ := mem_read hp
  exact h.coreIdle a (mem_rowsWith.mp ha).1 _ hidle

/-- A window in which there is a bucket does not end before it starts. -/
lemma periodDays_nonneg {r : BktRow} (hr : r ∈ db.bkt w) : 0 ≤ w.periodDays := by
  obtain ⟨k, -, ⟨-, hstart, hstop⟩, -⟩ := mem_bkt hr
  have hspan : (0 : ℚ) ≤ (w.stop - w.start : ℤ) := by
    exact_mod_cast sub_nonneg.mpr (hstart.trans hstop)
  rw [w.length] at hspan
  linarith

lemma sufficiency_nonneg (hperiod : 0 ≤ w.periodDays) {sample : ℕ} {x : ℚ}
    (hx : sufficiency w sample = some x) : 0 ≤ x := by
  simp only [sufficiency, ratio, Option.bind_eq_bind, Option.bind_some] at hx
  split_ifs at hx
  obtain rfl := Option.some_inj.mp hx
  positivity

lemma orderedFigures_reportRow (db : ReportTables) (w : ReportWindow) (s : ReportServer) :
    OrderedFigures (db.reportRow w s) := by
  refine ⟨fun x hx => ?_, fun x hx => ?_, fun x hx => ?_, fun x hx => ?_, fun x hx => ?_,
    fun x hx => ?_, fun x hx => ?_, fun x hx => ?_⟩
  · obtain ⟨c, hc, hfound, hp95⟩ := mem_find? hx
    obtain ⟨sid, rows, rfl, hrows⟩ := mem_cpuStats hc
    obtain ⟨avg, peak, havg, hpeak, hbounds⟩ := cpu_ordered hrows hp95
    refine ⟨avg, peak, ?_, ?_, hbounds⟩
    · exact Option.bind_eq_some_iff.mpr ⟨_, hfound, havg⟩
    · exact Option.bind_eq_some_iff.mpr ⟨_, hfound, hpeak⟩
  · obtain ⟨c, hc, -, hratio⟩ := mem_find? hx
    obtain ⟨sid, rows, rfl, -⟩ := mem_cpuStats hc
    obtain ⟨median, hmedian, hratio⟩ := Option.bind_eq_some_iff.mp hratio
    split_ifs at hratio with hpos
    obtain ⟨y, hy, rfl⟩ := Option.map_eq_some_iff.mp hratio
    exact burst_ordered hmedian hpos hy
  · obtain ⟨c, hc, hfound, hp95⟩ := mem_find? hx
    obtain ⟨sid, rows, rfl, hrows⟩ := mem_cpuStats hc
    obtain ⟨peak, hpeak, hle⟩ := p95_le_peak hp95
    refine ⟨peak, Option.bind_eq_some_iff.mpr ⟨_, hfound, hpeak⟩, ?_, hle⟩
    refine le_p95 hp95 fun r hr v hv => ?_
    obtain ⟨k, rfl, -⟩ := mem_bkt (hrows r hr)
    exact shareOf_nonneg hv
  · obtain ⟨c, hc, -, hp95⟩ := mem_find? hx
    obtain ⟨sid, -, rfl⟩ := mem_groupBy.mp hc
    refine le_p95 hp95 fun r hr v hv => ?_
    obtain ⟨k, rfl, -⟩ := mem_bkt (mem_rowsWith.mp hr).1
    exact shareOf_nonneg hv
  · obtain ⟨rows, -, hp95⟩ := percoreMax_of hx
    exact le_p95 hp95 fun b _ v hv => shareOf_nonneg hv
  · obtain ⟨m, hm, hfound, hp95⟩ := mem_find? hx
    obtain ⟨sid, rows, rfl, hrows⟩ := mem_memStats hm
    obtain ⟨avg, near, peak, havg, hnear, hpeak, hbounds⟩ := mem_ordered hrows hp95
    refine ⟨avg, near, peak, ?_, ?_, ?_, hbounds⟩
    · exact Option.bind_eq_some_iff.mpr ⟨_, hfound, havg⟩
    · exact Option.bind_eq_some_iff.mpr ⟨_, hfound, hnear⟩
    · exact Option.bind_eq_some_iff.mpr ⟨_, hfound, hpeak⟩
  · obtain ⟨c, hc, -, hshare⟩ := mem_find? hx
    obtain ⟨sid, hsid, rfl⟩ := mem_groupBy.mp hc
    obtain ⟨r, hr, -⟩ := List.mem_map.mp hsid
    exact sufficiency_nonneg (periodDays_nonneg hr) hshare
  · obtain ⟨m, hm, -, hshare⟩ := mem_find? hx
    obtain ⟨sid, hsid, rfl⟩ := mem_groupBy.mp hm
    obtain ⟨r, hr, -⟩ := List.mem_map.mp hsid
    exact sufficiency_nonneg (periodDays_nonneg (List.mem_filter.mp hr).1) hshare

lemma percentages_reportRow (h : db.Plausible) (w : ReportWindow) (s : ReportServer) :
    Percentages (db.reportRow w s) := by
  have hcpu : ∀ c ∈ db.cpuStats w,
      IsPercentage c.cpuP95 ∧ IsPercentage c.cpuAvg ∧ IsPercentage c.cpuPeak := by
    intro c hc
    obtain ⟨sid, rows, rfl, hrows⟩ := mem_cpuStats hc
    exact isPercentage_column BktRow.cpuPct fun r hr v hv =>
      ⟨bkt_cpuPct_nonneg (hrows r hr) hv, bkt_cpuPct_le h (hrows r hr) hv⟩
  have hmem : ∀ m ∈ db.memStats w,
      (IsPercentage m.memP95 ∧ IsPercentage m.memAvg) ∧
        IsPercentage m.memNearPeak ∧ IsPercentage m.memPeak := by
    intro m hm
    obtain ⟨sid, rows, rfl, hrows⟩ := mem_memStats hm
    obtain ⟨hp95, havg, -⟩ := isPercentage_column BktRow.memPctAvg
      fun r hr v hv => bkt_memPctAvg_bounds h (hrows r hr).1 hv
    obtain ⟨hnear, -, hpeak⟩ := isPercentage_column BktRow.memPctMax
      fun r hr v hv => bkt_memPctMax_bounds h (hrows r hr).1 hv
    exact ⟨⟨hp95, havg⟩, hnear, hpeak⟩
  refine ⟨fun x hx => ?_, fun x hx => ?_, fun x hx => ?_, fun x hx => ?_, fun x hx => ?_,
    fun x hx => ?_, fun x hx => ?_, fun x hx => ?_⟩
  · obtain ⟨c, hc, -, hfigure⟩ := mem_find? hx
    exact (hcpu c hc).1 x hfigure
  · obtain ⟨c, hc, -, hfigure⟩ := mem_find? hx
    exact (hcpu c hc).2.1 x hfigure
  · obtain ⟨c, hc, -, hfigure⟩ := mem_find? hx
    exact (hcpu c hc).2.2 x hfigure
  · obtain ⟨rows, hrows, hp95⟩ := percoreMax_of hx
    refine (isPercentage_column _ fun b hb => ?_).1 x hp95
    exact isPercentage_percore h (mem_rowsWith.mp (hrows b hb)).1
  · obtain ⟨m, hm, -, hfigure⟩ := mem_find? hx
    exact (hmem m hm).1.1 x hfigure
  · obtain ⟨m, hm, -, hfigure⟩ := mem_find? hx
    exact (hmem m hm).2.1 x hfigure
  · obtain ⟨m, hm, -, hfigure⟩ := mem_find? hx
    exact (hmem m hm).1.2 x hfigure
  · obtain ⟨m, hm, -, hfigure⟩ := mem_find? hx
    exact (hmem m hm).2.2 x hfigure

end Ordered

/-- A sample with seconds of work and of rest, and with the free memory of a hundred bytes. -/
def workSample (t : ℤ) (work rest : ℚ) (free : ℤ) : MetricsRow :=
  { MetricsRow.blank 1 t with
    cpuUserS := some work
    cpuIdleS := some rest
    memLimitBytes := some 100
    memAvailableBytes := some free }

/-- A server at work in two buckets, the second of them after a restart. -/
def observedServer : ReportTables where
  serverInventory :=
    { rows := [{ id := 1, publicId := "observed", hostname := "observed", osFamily := some "linux",
                 cpuCores := some 4, memTotalBytes := some 100, blockDevices := none,
                 netInterfaces := none }]
      sorted := List.pairwise_singleton _ _ }
  serverMetrics :=
    { rows := [workSample 0 10 10 60, workSample 60000000 40 40 20, workSample 300000000 50 90 40,
        workSample 360000000 60 0 80]
      sorted := by decide }
  serverDiskIo := .empty _
  serverNetIo := .empty _
  serverFilesystem := .empty _
  serverCpuCore := .empty _

/-- Its first day. -/
def firstDay : ReportWindow where
  serverIds := [1]
  periodDays := 1
  start := 0
  stop := 86400000000
  length := by norm_num

/-- Different multiples of a width, between two bounds, are no more than fit there. -/
lemma length_multiples_le {width : ℤ} (hwidth : 0 < width) {a b : ℤ} {ts : List ℤ}
    (hnodup : ts.Nodup) (hts : ∀ t ∈ ts, a ≤ t ∧ t ≤ b ∧ width ∣ t) (hab : a ≤ b) :
    (ts.length : ℚ) ≤ (b - a : ℤ) / width + 1 := by
  have hwidthQ : (0 : ℚ) < width := by exact_mod_cast hwidth
  have hinj : ∀ t ∈ ts, ∀ t' ∈ ts, t / width = t' / width → t = t' := by
    intro t ht t' ht' h
    rw [← Int.ediv_mul_cancel (hts t ht).2.2, ← Int.ediv_mul_cancel (hts t' ht').2.2, h]
  have hindex : (ts.map (· / width)).Nodup := hnodup.map_on hinj
  have hrange : ∀ n ∈ ts.map (· / width), n ∈ Finset.Icc (-(-a / width)) (b / width) := by
    intro n hn
    obtain ⟨t, ht, rfl⟩ := List.mem_map.mp hn
    obtain ⟨hlow, hhigh, hdvd⟩ := hts t ht
    obtain ⟨n, rfl⟩ := hdvd
    rw [Int.mul_ediv_cancel_left _ hwidth.ne', Finset.mem_Icc]
    constructor
    · have hle : -(width * n) ≤ -a := by omega
      have hdiv : -(width * n) / width ≤ -a / width := Int.ediv_le_ediv hwidth hle
      rw [← mul_neg, Int.mul_ediv_cancel_left _ hwidth.ne'] at hdiv
      omega
    · have hdiv : width * n / width ≤ b / width := Int.ediv_le_ediv hwidth hhigh
      rwa [Int.mul_ediv_cancel_left _ hwidth.ne'] at hdiv
  have hcard : ts.length ≤ (Finset.Icc (-(-a / width)) (b / width)).card := by
    rw [← List.length_map (· / width), ← List.toFinset_card_of_nodup hindex]
    exact Finset.card_le_card fun n hn => hrange n (List.mem_toFinset.mp hn)
  rw [Int.card_Icc] at hcard
  have hspan : (b / width + 1 - -(-a / width) : ℤ) * width ≤ b - a + width := by
    have hb : b / width * width ≤ b := Int.ediv_mul_le b hwidth.ne'
    have ha : -a / width * width ≤ -a := Int.ediv_mul_le (-a) hwidth.ne'
    nlinarith
  have hlength : (ts.length : ℤ) * width ≤ b - a + width := by
    by_cases hneg : b / width + 1 - -(-a / width) ≤ 0
    · have hzero : ts.length = 0 := by omega
      rw [hzero]
      push_cast
      omega
    · have hle : (ts.length : ℤ) ≤ b / width + 1 - -(-a / width) := by omega
      exact (mul_le_mul_of_nonneg_right hle hwidth.le).trans hspan
  have hlengthQ : (ts.length : ℚ) * width ≤ (b - a : ℤ) + width := by exact_mod_cast hlength
  rw [← sub_le_iff_le_add, le_div_iff₀ hwidthQ, sub_mul, one_mul]
  linarith

section Observed

variable {db : ReportTables} {w : ReportWindow}

/-- A server has one row for each bucket. -/
lemma nodup_buckets (db : ReportTables) (w : ReportWindow) (sid : ℕ) :
    ((rowsWith BktRow.serverId sid (db.bkt w)).map BktRow.bucket).Nodup := by
  have hkeys :
      ((serverMetrics5m db.serverMetrics.rows).map fun b => (b.serverId, b.bucket)).Nodup :=
    nodup_groupBy_map fun _ _ => rfl
  have hbkt : ((db.bkt w).map fun r => (r.serverId, r.bucket)).Nodup := by
    unfold ReportTables.bkt
    rw [List.map_map]
    exact hkeys.sublist (List.filter_sublist.map _)
  have hrows := hbkt.sublist ((List.filter_sublist (p := fun r => r.serverId = sid)).map _)
  refine (List.Nodup.of_map (fun t => (sid, t)) ?_)
  rw [List.map_map]
  refine (List.map_congr_left fun r hr => ?_) ▸ hrows
  rw [Function.comp_apply, (mem_rowsWith.mp hr).2]

/-- The window has room for one bucket more than its length says. -/
lemma length_bkt_le (hperiod : 0 < w.periodDays) (sid : ℕ) :
    ((rowsWith BktRow.serverId sid (db.bkt w)).length : ℚ) ≤ w.periodDays * 288 + 1 := by
  have hlength := w.length
  have hspan : w.start ≤ w.stop := by
    have hpos : (0 : ℚ) ≤ (w.stop - w.start : ℤ) := by
      rw [hlength]
      positivity
    exact sub_nonneg.mp (by exact_mod_cast hpos)
  have hwidth : (0 : ℤ) < bucketWidth := by decide
  have hbuckets : ∀ t ∈ (rowsWith BktRow.serverId sid (db.bkt w)).map BktRow.bucket,
      w.start ≤ t ∧ t ≤ w.stop ∧ bucketWidth ∣ t := by
    intro t ht
    obtain ⟨r, hr, rfl⟩ := List.mem_map.mp ht
    obtain ⟨k, rfl, hcovers, hdvd⟩ := mem_bkt (mem_rowsWith.mp hr).1
    exact ⟨hcovers.2.1, hcovers.2.2, hdvd⟩
  have hbound := length_multiples_le hwidth (nodup_buckets db w sid) hbuckets hspan
  rw [List.length_map, hlength, bucketWidth] at hbound
  push_cast at hbound
  linarith

lemma find_cpuStats (sid : ℕ) :
    (db.cpuStats w).find? (fun c => decide (c.serverId = sid)) =
      if sid ∈ (db.bkt w).map BktRow.serverId then
        some (cpuStatsOf sid (rowsWith BktRow.serverId sid (db.bkt w)))
      else none :=
  find?_groupBy (fun _ _ => rfl) sid

lemma find_memStats (sid : ℕ) :
    (db.memStats w).find? (fun m => decide (m.serverId = sid)) =
      if sid ∈ ((db.bkt w).filter fun r => r.memPctAvg.isSome).map BktRow.serverId then
        some (memStatsOf sid (rowsWith BktRow.serverId sid
          ((db.bkt w).filter fun r => r.memPctAvg.isSome)))
      else none :=
  find?_groupBy (fun _ _ => rfl) sid

/-- A share of the expected samples, in hours. -/
lemma sufficiency_hours (hperiod : 0 < w.periodDays) {sample total : ℕ} (hle : sample ≤ total)
    {x : ℚ} (hx : sufficiency w sample = some x) :
    0 ≤ x ∧ x * (w.periodDays * 24) ≤ total * 5 / 60 := by
  have hexpected : (0 : ℚ) < w.periodDays * 288 := by positivity
  have hleQ : (sample : ℚ) ≤ total := by exact_mod_cast hle
  simp only [sufficiency, ratio, Option.bind_eq_bind, Option.bind_some, if_neg hexpected.ne',
    Option.some_inj] at hx
  subst hx
  constructor
  · positivity
  · rw [div_mul_eq_mul_div, div_le_iff₀ hexpected]
    nlinarith

/-- No server is observed for longer than the window and one bucket; and no figure claims to rest on
more of the window than was observed. -/
theorem coverage_bounded (hperiod : 0 < w.periodDays) : ∀ r ∈ db.reportAggregate w,
    (∀ hours, r.historyHours = some hours → hours ≤ w.periodDays * 24 + 1 / 12) ∧
      (∀ x, r.cpuSufficiency = some x →
        ∃ hours, r.historyHours = some hours ∧ 0 ≤ x ∧ x * (w.periodDays * 24) ≤ hours) ∧
      ∀ x, r.memSufficiency = some x →
        ∃ hours, r.historyHours = some hours ∧ 0 ≤ x ∧ x * (w.periodDays * 24) ≤ hours := by
  intro r hr
  obtain ⟨s, -, rfl⟩ := List.mem_map.mp hr
  set rows := rowsWith BktRow.serverId s.id (db.bkt w) with hrows
  have hhours : s.id ∈ (db.bkt w).map BktRow.serverId →
      (db.reportRow w s).historyHours = some ((rows.length : ℚ) * 5 / 60) := by
    intro hmem
    have hfound : (db.cpuStats w).find? (fun c => decide (c.serverId = s.id)) =
        some (cpuStatsOf s.id rows) := by rw [find_cpuStats, if_pos hmem]
    exact Option.map_eq_some_iff.mpr ⟨_, hfound, rfl⟩
  refine ⟨fun hours hx => ?_, fun x hx => ?_, fun x hx => ?_⟩
  · obtain ⟨c, hfound, rfl⟩ := Option.map_eq_some_iff.mp hx
    rw [find_cpuStats] at hfound
    split_ifs at hfound with hmem
    obtain rfl := Option.some_inj.mp hfound
    have hbound : (rows.length : ℚ) ≤ w.periodDays * 288 + 1 := length_bkt_le hperiod s.id
    change (rows.length : ℚ) * 5 / 60 ≤ _
    linarith
  · obtain ⟨c, hfound, hshare⟩ := Option.bind_eq_some_iff.mp hx
    rw [find_cpuStats] at hfound
    split_ifs at hfound with hmem
    obtain rfl := Option.some_inj.mp hfound
    exact ⟨_, hhours hmem, sufficiency_hours hperiod (List.length_filterMap_le _ _) hshare⟩
  · obtain ⟨m, hfound, hshare⟩ := Option.bind_eq_some_iff.mp hx
    rw [find_memStats] at hfound
    split_ifs at hfound with hmem
    obtain rfl := Option.some_inj.mp hfound
    have hmem' : s.id ∈ (db.bkt w).map BktRow.serverId :=
      (List.filter_sublist.map BktRow.serverId).mem hmem
    refine ⟨_, hhours hmem', sufficiency_hours hperiod ?_ hshare⟩
    have hpart : (rowsWith BktRow.serverId s.id
        ((db.bkt w).filter fun r => r.memPctAvg.isSome)).length ≤ rows.length :=
      (List.filter_sublist.filter _).length_le
    exact (List.length_filterMap_le _ _).trans hpart

theorem coverage_bounded_observedServer :
    (∀ r ∈ observedServer.reportAggregate firstDay,
      (∀ hours, r.historyHours = some hours → hours ≤ 1 * 24 + 1 / 12) ∧
        (∀ x, r.cpuSufficiency = some x →
          ∃ hours, r.historyHours = some hours ∧ 0 ≤ x ∧ x * (1 * 24) ≤ hours) ∧
        ∀ x, r.memSufficiency = some x →
          ∃ hours, r.historyHours = some hours ∧ 0 ≤ x ∧ x * (1 * 24) ≤ hours) ∧
      (observedServer.reportAggregate firstDay).map (fun r => (r.historyHours, r.cpuSufficiency)) =
        [(some (1 / 6), some (1 / 144))] :=
  ⟨coverage_bounded (w := firstDay) one_pos, by decide +kernel⟩

end Observed

end AssessmentEngine
