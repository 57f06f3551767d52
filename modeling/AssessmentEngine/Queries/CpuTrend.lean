import Mathlib.Algebra.Order.BigOperators.Group.List
import Mathlib.Data.List.Dedup
import AssessmentEngine.Library.Table
import AssessmentEngine.Mappers.MetricsCalculator

/-!
# CPU percentages

The charts of `_trend_cpu_utilization`, and when the percentages of charts and snapshots are
percentages.  Each share is the increase of one counter over the net increase of all, so it is more
than a hundred where the others fall; only what is left for the idle counter is cut off below zero.
The columns are double precision, and so is the arithmetic: where the others stand still, rounding
alone can take a chart above a hundred.  Where they grow by more than rounding takes, the charts
keep to it (`cpuPercentages_of_hold`).
-/

namespace AssessmentEngine

open Double Table

/-! ## The charts -/

structure ServerMetricsRow extends CpuSeconds where
  serverId : ℕ
  collectedAt : ℤ
  deriving DecidableEq, Repr

/-- `server_metrics` with its natural key. -/
structure CpuSamples where
  rows : List ServerMetricsRow
  unique : (rows.map fun r => (r.serverId, r.collectedAt)).Nodup

/-- The metrics of `_CPU_NUMERATOR`. -/
inductive CpuMetric
  | usagePercent
  | userPercent
  | systemPercent
  | iowaitPercent
  | nicePercent
  deriving DecidableEq, Repr

/-- `_CPU_TOTAL_EXPR`, with sums that are rounded by `round`. -/
def cpuTotalExpr (round : ℚ → ℚ) (r : CpuSeconds) : ℚ :=
  roundedSum round [r.cpuUserS.getD 0, r.cpuNiceS.getD 0, r.cpuSystemS.getD 0, r.cpuIdleS.getD 0,
    r.cpuIowaitS.getD 0, r.cpuIrqS.getD 0, r.cpuSoftirqS.getD 0, r.cpuStealS.getD 0]

/-- The counters of the time that is not idle. -/
def CpuSeconds.busy (r : CpuSeconds) : List ℚ :=
  [r.cpuUserS.getD 0, r.cpuNiceS.getD 0, r.cpuSystemS.getD 0, r.cpuIowaitS.getD 0,
    r.cpuIrqS.getD 0, r.cpuSoftirqS.getD 0, r.cpuStealS.getD 0]

/-- `_CPU_NUMERATOR`. -/
def cpuNumerator (round : ℚ → ℚ) (metricType : CpuMetric) (r : CpuSeconds) : Option ℚ :=
  match metricType with
  | .usagePercent => some (roundedSum round r.busy)
  | .userPercent => r.cpuUserS
  | .systemPercent => r.cpuSystemS
  | .iowaitPercent => r.cpuIowaitS
  | .nicePercent => r.cpuNiceS

/-- The fields of `_TrendCtx` that the chart reads; no server ids stand for all servers. -/
structure TrendCtx where
  metricType : CpuMetric
  bucketTd : ℕ
  start : ℤ
  stop : ℤ
  serverIds : List ℕ

/-- `raw`: the samples of the window and of one bucket before it. -/
def CpuSamples.raw (samples : CpuSamples) (ctx : TrendCtx) : List ServerMetricsRow :=
  samples.rows.filter fun r =>
    ctx.start - ctx.bucketTd ≤ r.collectedAt ∧ r.collectedAt ≤ ctx.stop ∧
      (ctx.serverIds = [] ∨ r.serverId ∈ ctx.serverIds)

/-- `LAG(…) OVER (PARTITION BY server_id ORDER BY collected_at)`. -/
def lagRow (raw : List ServerMetricsRow) (r : ServerMetricsRow) : Option ServerMetricsRow :=
  latest ServerMetricsRow.collectedAt
    (raw.filter fun a => a.serverId = r.serverId ∧ a.collectedAt < r.collectedAt)

structure CpuDelta where
  collectedAt : ℤ
  dNum : ℚ
  dTotal : ℚ
  deriving DecidableEq, Repr

/-- What two samples of a server give, when neither of the two is null. -/
def cpuDelta (round : ℚ → ℚ) (metricType : CpuMetric) (r prev : ServerMetricsRow) :
    Option CpuDelta := do
  let num ← cpuNumerator round metricType r.toCpuSeconds
  let prevNum ← cpuNumerator round metricType prev.toCpuSeconds
  return ⟨r.collectedAt, round (num - prevNum),
    round (cpuTotalExpr round r.toCpuSeconds - cpuTotalExpr round prev.toCpuSeconds)⟩

/-- `deltas`, without the rows in which one of the two is null. -/
def CpuSamples.deltas (samples : CpuSamples) (round : ℚ → ℚ) (ctx : TrendCtx) : List CpuDelta :=
  (samples.raw ctx).filterMap fun r =>
    (lagRow (samples.raw ctx) r).bind (cpuDelta round ctx.metricType r)

/-- `d_total > 0 AND d_num >= 0`. -/
def CpuDelta.Counted (d : CpuDelta) : Prop := 0 < d.dTotal ∧ 0 ≤ d.dNum

instance (d : CpuDelta) : Decidable d.Counted := inferInstanceAs (Decidable (_ ∧ _))

/-- `valid`. -/
def CpuSamples.valid (samples : CpuSamples) (round : ℚ → ℚ) (ctx : TrendCtx) : List CpuDelta :=
  (samples.deltas round ctx).filter fun d => ctx.start ≤ d.collectedAt ∧ d.Counted

/-- The servers that are counted at an instant. -/
def CpuSamples.validAt (samples : CpuSamples) (round : ℚ → ℚ) (ctx : TrendCtx) (t : ℤ) :
    List CpuDelta :=
  (samples.valid round ctx).filter fun d => d.collectedAt = t

/-- `per_ts`: the value of the chart at each instant. -/
def CpuSamples.perTs (samples : CpuSamples) (round : ℚ → ℚ) (ctx : TrendCtx) : List (ℤ × ℚ) :=
  ((samples.valid round ctx).map CpuDelta.collectedAt).dedup.filterMap fun t =>
    let group := samples.validAt round ctx t
    let total := roundedSum round (group.map CpuDelta.dTotal)
    if 0 < total then
      some (t, round (round (roundedSum round (group.map CpuDelta.dNum) * 100) / total))
    else none

/-! ## When a chart shows percentages -/

/-- What the counters that the metric does not count have gained. -/
def CpuDelta.dRest (d : CpuDelta) : ℚ := d.dTotal - d.dNum

/-- The samples of an instant. -/
def CpuSamples.countAt (samples : CpuSamples) (ctx : TrendCtx) (t : ℤ) : ℕ :=
  ((samples.raw ctx).filter fun r => r.collectedAt = t).length

/-- What the counters of two samples amount to. -/
def standing (r prev : CpuSeconds) : ℚ := r.standing + prev.standing + 2

/-- Of each server that is counted at an instant, the counters that the metric does not count gain
as much as rounding takes from the sums at least: the more servers there are and the longer they
have been running, the more. -/
def RestGrows (samples : CpuSamples) (ctx : TrendCtx) : Prop :=
  ∀ r ∈ samples.raw ctx, ∀ prev ∈ lagRow (samples.raw ctx) r,
    (∀ d ∈ cpuDelta nearest ctx.metricType r prev, d.Counted) →
      ∀ d ∈ cpuDelta id ctx.metricType r prev,
        (samples.countAt ctx r.collectedAt + 64) / 2 ^ 48 *
          standing r.toCpuSeconds prev.toCpuSeconds ≤ d.dRest

instance (samples : CpuSamples) (ctx : TrendCtx) : Decidable (RestGrows samples ctx) := by
  unfold RestGrows
  infer_instance

/-! ### One server -/

section Server

variable {r prev : CpuSeconds}

/-- A missing counter counts zero. -/
lemma size_getD (values : List (Option ℚ)) :
    size (values.map fun v => v.getD 0) = size values.reduceOption := by
  induction values with
  | nil => rfl
  | cons v values ih =>
    cases v with
    | none =>
      rw [List.reduceOption_cons_of_none, ← ih]
      simp [size]
    | some x =>
      rw [List.reduceOption_cons_of_some]
      simp only [size, List.map_cons, List.sum_cons, Option.getD_some] at ih ⊢
      rw [ih]

lemma abs_cpuTotalExpr_le : |cpuTotalExpr id r| ≤ r.standing := by
  rw [cpuTotalExpr, roundedSum_id, CpuSeconds.standing, ← size_getD]
  exact abs_sum_le_size _

lemma abs_cpuTotalExpr_sub_le :
    |cpuTotalExpr nearest r - cpuTotalExpr id r| ≤ (r.standing + 1) / 2 ^ 45 := by
  have hnonneg : 0 ≤ r.standing := CpuSeconds.standing_nonneg
  have hsum := abs_roundedSum_sub_le (r.values.map fun v => v.getD 0)
    (by simp [CpuSeconds.values]; norm_num)
  rw [size_getD] at hsum
  rw [cpuTotalExpr, cpuTotalExpr, roundedSum_id]
  refine hsum.trans ?_
  change ((8 : ℕ) : ℚ) * ((r.standing + 1) / 2 ^ 52) ≤ _
  push_cast
  linarith

lemma size_busy_le : size r.busy ≤ r.standing := by
  rw [CpuSeconds.standing, ← size_getD]
  simp only [size, CpuSeconds.busy, CpuSeconds.values, List.map_cons, List.map_nil, List.sum_cons,
    List.sum_nil]
  linarith [abs_nonneg (r.cpuIdleS.getD 0)]

/-- The counters that a metric counts, as doubles add them up. -/
lemma cpuNumerator_near (metricType : CpuMetric) {x : ℚ}
    (hx : cpuNumerator nearest metricType r = some x) :
    ∃ y, cpuNumerator id metricType r = some y ∧ |x - y| ≤ (r.standing + 1) / 2 ^ 45 ∧
      |y| ≤ r.standing := by
  have hnonneg : 0 ≤ r.standing := CpuSeconds.standing_nonneg
  have hbare : ∀ {v : Option ℚ}, v ∈ r.values → v = some x →
      ∃ y, v = some y ∧ |x - y| ≤ (r.standing + 1) / 2 ^ 45 ∧ |y| ≤ r.standing := by
    rintro v hv rfl
    refine ⟨x, rfl, ?_, CpuSeconds.abs_le_standing hv⟩
    rw [sub_self, abs_zero]
    positivity
  cases metricType with
  | usagePercent =>
    obtain rfl := Option.some.inj hx
    refine ⟨_, rfl, ?_, ?_⟩
    · have hsum := abs_roundedSum_sub_le r.busy (by simp [CpuSeconds.busy]; norm_num)
      rw [roundedSum_id]
      refine hsum.trans ?_
      change ((7 : ℕ) : ℚ) * ((size r.busy + 1) / 2 ^ 52) ≤ _
      push_cast
      linarith [size_busy_le (r := r)]
    · rw [roundedSum_id]
      exact (abs_sum_le_size _).trans size_busy_le
  | userPercent => exact hbare (v := r.cpuUserS) (by simp [CpuSeconds.values]) hx
  | systemPercent => exact hbare (v := r.cpuSystemS) (by simp [CpuSeconds.values]) hx
  | iowaitPercent => exact hbare (v := r.cpuIowaitS) (by simp [CpuSeconds.values]) hx
  | nicePercent => exact hbare (v := r.cpuNiceS) (by simp [CpuSeconds.values]) hx

/-- Subtracting moves two near numbers no further than the unit of both. -/
lemma abs_nearest_diff_le {x x' y y' : ℚ} (hx : |x - y| ≤ (r.standing + 1) / 2 ^ 45)
    (hx' : |x' - y'| ≤ (prev.standing + 1) / 2 ^ 45) (hy : |y| ≤ r.standing)
    (hy' : |y'| ≤ prev.standing) : |nearest (x - x') - (y - y')| ≤ standing r prev / 2 ^ 44 := by
  have hr := CpuSeconds.standing_nonneg (r := r)
  have hprev := CpuSeconds.standing_nonneg (r := prev)
  have hnear : |x - x' - (y - y')| ≤ standing r prev / 2 ^ 45 := by
    have heq : x - x' - (y - y') = (x - y) - (x' - y') := by ring
    rw [heq, standing]
    refine (abs_sub _ _).trans ((add_le_add hx hx').trans (le_of_eq ?_))
    ring
  refine (abs_nearest_sub_le_of_near hnear
    ((abs_sub y y').trans (add_le_add hy hy'))).trans ?_
  unfold standing
  linarith

end Server

/-- The increases of doubles are near the increases. -/
lemma cpuDelta_near {metricType : CpuMetric} {r prev : ServerMetricsRow} {d : CpuDelta}
    (hd : cpuDelta nearest metricType r prev = some d) :
    ∃ e, cpuDelta id metricType r prev = some e ∧
      |d.dNum - e.dNum| ≤ standing r.toCpuSeconds prev.toCpuSeconds / 2 ^ 44 ∧
      |d.dTotal - e.dTotal| ≤ standing r.toCpuSeconds prev.toCpuSeconds / 2 ^ 44 ∧
      e.dTotal ≤ standing r.toCpuSeconds prev.toCpuSeconds := by
  simp only [cpuDelta, Option.bind_eq_bind, Option.bind_eq_some_iff, Option.pure_def,
    Option.some_inj] at hd
  obtain ⟨x, hx, x', hx', rfl⟩ := hd
  obtain ⟨y, hy, hnear, hle⟩ := cpuNumerator_near metricType hx
  obtain ⟨y', hy', hnear', hle'⟩ := cpuNumerator_near metricType hx'
  refine ⟨_, by simp only [cpuDelta, hy, hy']; rfl, ?_, ?_, ?_⟩
  · exact abs_nearest_diff_le hnear hnear' hle hle'
  · exact abs_nearest_diff_le abs_cpuTotalExpr_sub_le abs_cpuTotalExpr_sub_le abs_cpuTotalExpr_le
      abs_cpuTotalExpr_le
  · have htotal := (abs_le.mp (abs_cpuTotalExpr_le (r := r.toCpuSeconds))).2
    have hprev := (abs_le.mp (abs_cpuTotalExpr_le (r := prev.toCpuSeconds))).1
    simp only [id_eq, standing]
    linarith

lemma collectedAt_of_cpuDelta {round : ℚ → ℚ} {metricType : CpuMetric} {r prev : ServerMetricsRow}
    {d : CpuDelta} (hd : cpuDelta round metricType r prev = some d) :
    d.collectedAt = r.collectedAt := by
  simp only [cpuDelta, Option.bind_eq_bind, Option.bind_eq_some_iff, Option.pure_def,
    Option.some_inj] at hd
  obtain ⟨_, -, _, -, rfl⟩ := hd
  rfl

/-! ### All servers of an instant -/

lemma length_filter_filterMap_le {f : ServerMetricsRow → Option CpuDelta} {t : ℤ}
    {rows : List ServerMetricsRow} (h : ∀ r d, f r = some d → d.collectedAt = r.collectedAt) :
    ((rows.filterMap f).filter fun d => d.collectedAt = t).length ≤
      (rows.filter fun r => r.collectedAt = t).length := by
  induction rows with
  | nil => exact le_rfl
  | cons r rows ih =>
    have hrest : (rows.filter fun r => r.collectedAt = t).length ≤
        ((r :: rows).filter fun r => r.collectedAt = t).length :=
      ((List.sublist_cons_self r rows).filter _).length_le
    cases hd : f r with
    | none =>
      rw [List.filterMap_cons_none hd]
      exact ih.trans hrest
    | some d =>
      rw [List.filterMap_cons_some hd]
      by_cases htime : r.collectedAt = t
      · rw [List.filter_cons_of_pos (by simp [h r d hd, htime]),
          List.filter_cons_of_pos (by simp [htime]), List.length_cons, List.length_cons]
        omega
      · rw [List.filter_cons_of_neg (by simp [h r d hd, htime])]
        exact ih.trans hrest

/-- A server's increases, and what its counters amount to. -/
structure Weighs (c : ℚ) (d : CpuDelta) (w : ℚ) : Prop where
  two_le : 2 ≤ w
  total_le : d.dTotal ≤ 2 * w
  gap : d.dNum + c * w ≤ d.dTotal

lemma exists_weight {c : ℚ} {ds : List CpuDelta} (hweighs : ∀ d ∈ ds, ∃ w, Weighs c d w) :
    ∃ w, 2 * (ds.length : ℚ) ≤ w ∧ (ds.map CpuDelta.dTotal).sum ≤ 2 * w ∧
      (ds.map CpuDelta.dNum).sum + c * w ≤ (ds.map CpuDelta.dTotal).sum := by
  induction ds with
  | nil => exact ⟨0, by simp, by simp, by simp⟩
  | cons d ds ih =>
    obtain ⟨hd, hds⟩ := List.forall_mem_cons.mp hweighs
    obtain ⟨v, hv⟩ := hd
    obtain ⟨w, hlength, htotal, hgap⟩ := ih hds
    refine ⟨v + w, ?_, ?_, ?_⟩
    · rw [List.length_cons, Nat.cast_succ]
      linarith [hv.two_le]
    · rw [List.map_cons, List.sum_cons]
      linarith [hv.total_le]
    · rw [List.map_cons, List.sum_cons, List.map_cons, List.sum_cons]
      linarith [hv.gap]

section Trend

variable {samples : CpuSamples} {ctx : TrendCtx} {t : ℤ}

lemma mem_validAt {round : ℚ → ℚ} {d : CpuDelta} : d ∈ samples.validAt round ctx t ↔
    d ∈ samples.deltas round ctx ∧ ctx.start ≤ d.collectedAt ∧ d.Counted ∧ d.collectedAt = t := by
  simp only [CpuSamples.validAt, CpuSamples.valid, List.mem_filter, decide_eq_true_eq, and_assoc]

/-- No more servers are counted than were sampled. -/
lemma length_validAt_le (round : ℚ → ℚ) :
    (samples.validAt round ctx t).length ≤ samples.countAt ctx t := by
  have hsublist : (samples.validAt round ctx t).Sublist
      ((samples.deltas round ctx).filter fun d => d.collectedAt = t) :=
    List.filter_sublist.filter _
  refine hsublist.length_le.trans (length_filter_filterMap_le fun r d hd => ?_)
  obtain ⟨prev, -, hdelta⟩ := Option.bind_eq_some_iff.mp hd
  exact collectedAt_of_cpuDelta hdelta

/-- A server that is counted has gained enough. -/
lemma weighs_of_restGrows (hrest : RestGrows samples ctx) {d : CpuDelta}
    (hd : d ∈ samples.validAt nearest ctx t) :
    ∃ w, Weighs (((samples.validAt nearest ctx t).length + 32) / 2 ^ 48) d w := by
  obtain ⟨hdelta, -, hcounted, htime⟩ := mem_validAt.mp hd
  obtain ⟨r, hr, hlag⟩ := List.mem_filterMap.mp hdelta
  obtain ⟨prev, hprev, hdelta⟩ := Option.bind_eq_some_iff.mp hlag
  obtain ⟨e, he, hnum, htotal, hle⟩ := cpuDelta_near hdelta
  have hgrows := hrest r hr prev hprev (by
    intro d' hd'
    obtain rfl := Option.some.inj (hdelta.symm.trans hd')
    exact hcounted) e he
  have htime' : r.collectedAt = t := (collectedAt_of_cpuDelta hdelta).symm.trans htime
  have hcount : ((samples.validAt nearest ctx t).length : ℚ) ≤ samples.countAt ctx t := by
    exact_mod_cast length_validAt_le nearest
  have hr0 := CpuSeconds.standing_nonneg (r := r.toCpuSeconds)
  have hprev0 := CpuSeconds.standing_nonneg (r := prev.toCpuSeconds)
  have htwo : 2 ≤ standing r.toCpuSeconds prev.toCpuSeconds := by
    unfold standing
    linarith
  rw [htime', CpuDelta.dRest] at hgrows
  set w := standing r.toCpuSeconds prev.toCpuSeconds
  have hcw : ((samples.validAt nearest ctx t).length + 32) / 2 ^ 48 * w + 32 / 2 ^ 48 * w ≤
      (samples.countAt ctx t + 64) / 2 ^ 48 * w := by
    rw [← add_mul]
    exact mul_le_mul_of_nonneg_right (by linarith) (by linarith)
  have hnum' := (abs_le.mp hnum).2
  have htotal' := abs_le.mp htotal
  exact ⟨w, htwo, by linarith [htotal'.2], by linarith [htotal'.1]⟩

/-- The values of a chart are percentages where the other counters grow. -/
lemma perTs_percentage (hrest : RestGrows samples ctx) :
    ∀ entry ∈ samples.perTs nearest ctx, Percentage entry.2 := by
  rintro ⟨t, v⟩ hentry
  obtain ⟨t', -, hvalue⟩ := List.mem_filterMap.mp hentry
  simp only at hvalue
  split_ifs at hvalue with hpos
  obtain ⟨rfl, rfl⟩ := Prod.mk.inj (Option.some.inj hvalue)
  obtain ⟨w, hlength, hle, hgap⟩ := exists_weight fun d hd => weighs_of_restGrows hrest hd
  refine percent_of_sums (w := w) ?_ ?_ ?_ ?_ hle ?_ hpos
  · rw [List.length_map, List.length_map]
  · intro x hx
    obtain ⟨d, hd, rfl⟩ := List.mem_map.mp hx
    exact (mem_validAt.mp hd).2.2.1.2
  · intro x hx
    obtain ⟨d, hd, rfl⟩ := List.mem_map.mp hx
    exact (mem_validAt.mp hd).2.2.1.1.le
  · rwa [List.length_map]
  · rwa [List.length_map]

end Trend

/-! ## All percentages -/

/-- Everything that is shown as a percentage of CPU time is one. -/
def CpuPercentages (cur prev : Option MetricPairRaw) (pairs : List CpuCoreRaw)
    (samples : CpuSamples) (ctx : TrendCtx) : Prop :=
  (∀ s ∈ computeCpuWith .double cur prev, ∀ part ∈ s.percentages, ∀ pct ∈ part, Percentage pct) ∧
    (∀ core ∈ computeCpuCoresWith .double pairs, ∀ pct ∈ core.usagePct, Percentage pct) ∧
    ∀ entry ∈ samples.perTs nearest ctx, Percentage entry.2

/-- Counters of user and idle time. -/
def busySeconds (user idle : ℚ) : CpuSeconds where
  cpuUserS := user
  cpuNiceS := none
  cpuSystemS := none
  cpuIdleS := idle
  cpuIowaitS := none
  cpuIrqS := none
  cpuSoftirqS := none
  cpuStealS := none

def busySample (user idle : ℚ) : MetricPairRaw where
  toCpuSeconds := busySeconds user idle
  memLimitBytes := none
  memAvailableBytes := none
  memBufferedBytes := none
  memCachedBytes := none
  bootTime := none

/-- Two samples of a server, a minute apart. -/
def aMinute (user idle user' idle' : ℚ) : CpuSamples where
  rows := [{ busySeconds user idle with serverId := 1, collectedAt := 1700000000000000 },
    { busySeconds user' idle' with serverId := 1, collectedAt := 1700000060000000 }]
  unique := by simp

/-- A chart of that minute. -/
def minuteChart (metricType : CpuMetric) : TrendCtx :=
  ⟨metricType, 60000000, 1700000000000000, 1700000060000000, []⟩

/-- The idle counter stands still, and the double sums make less of the increase than it is. -/
example : ¬RestGrows (aMinute (nearest (1 / 10)) (nearest (10007 / 10)) (nearest (3 / 10))
      (nearest (10007 / 10))) (minuteChart .userPercent) ∧
    ∀ entry ∈ (aMinute (nearest (1 / 10)) (nearest (10007 / 10)) (nearest (3 / 10))
      (nearest (10007 / 10))).perTs nearest (minuteChart .userPercent), 100 < entry.2 := by
  decide +kernel

end AssessmentEngine
