import AssessmentEngine.Library.Counter
import AssessmentEngine.Mappers.ReportRow
import Mathlib.Data.List.Dedup

/-!
# OOM kills and paging, as queried

`report_aggregate` reads the counters of OOM kills and major page faults from five-minute
buckets: each bucket is reduced to the delta of the samples inside it, and a flag is raised when
some bucket has a positive delta.  What a counter gained between the last sample of a bucket and
the first of the next is in no bucket.  So a flag is right exactly when a counter that
increased at all increased within one bucket too (`memoryFlags_right_iff`).
-/

namespace AssessmentEngine

/-- A sample of the two counters; the time is in microseconds. -/
structure MetricSample where
  collectedAt : ℤ
  memOomKill : Option ℕ
  pagingMajor : Option ℕ
  deriving DecidableEq, Repr

/-- The samples of a server, in the order of time. -/
structure MetricSeries where
  samples : List MetricSample
  sorted : samples.Pairwise fun a b => a.collectedAt < b.collectedAt

/-- The width of a bucket in microseconds. -/
def bucketWidth : ℤ := 300000000

/-- `time_bucket('5 minutes', collected_at)`. -/
def MetricSample.bucket (s : MetricSample) : ℤ := s.collectedAt / bucketWidth * bucketWidth

/-- The samples in the selected buckets. -/
def MetricSeries.selected (series : MetricSeries) (start stop : ℤ) : List MetricSample :=
  series.samples.filter fun s => start ≤ s.bucket ∧ s.bucket ≤ stop

/-- The deltas of a counter, one for each bucket. -/
def bucketDeltas (counter : MetricSample → Option ℕ) (samples : List MetricSample) :
    List (Option ℕ) :=
  (samples.map (·.bucket)).dedup.map fun bucket =>
    Counter.delta ((samples.filter fun s => s.bucket = bucket).filterMap counter)

/-- `bool_or(COALESCE(delta, 0) > 0)`, where no row at all counts as false. -/
def counterFlag (counter : MetricSample → Option ℕ) (samples : List MetricSample) : Bool :=
  (bucketDeltas counter samples).any fun d => 0 < d.getD 0

/-- The row of a server with its two flags. -/
def foldMemory (raw : ReportRowRaw) (series : MetricSeries) (start stop : ℤ) : ReportRowRaw :=
  { raw with
    memSwapPaging := counterFlag (·.pagingMajor) (series.selected start stop)
    oomOccurred := counterFlag (·.memOomKill) (series.selected start stop) }

/-! ### When a flag is right -/

/-- The measured values of a counter with their buckets. -/
def measured (counter : MetricSample → Option ℕ) (samples : List MetricSample) : List (ℤ × ℕ) :=
  samples.filterMap fun s => (counter s).map fun v => (s.bucket, v)

/-- The counter increased between two consecutive measured samples. -/
def Increased (counter : MetricSample → Option ℕ) (samples : List MetricSample) : Prop :=
  ∃ p q, [p, q] <:+: measured counter samples ∧ 0 < Counter.increment p.2 q.2

/-- The counter increased between two consecutive measured samples of one bucket. -/
def IncreasedInBucket (counter : MetricSample → Option ℕ) (samples : List MetricSample) : Prop :=
  ∃ p q, [p, q] <:+: measured counter samples ∧ p.1 = q.1 ∧ 0 < Counter.increment p.2 q.2

section Flags

variable {counter : MetricSample → Option ℕ} {samples : List MetricSample}

/-- Later samples are in later buckets, or in the same one. -/
lemma bucket_mono {a b : MetricSample} (h : a.collectedAt ≤ b.collectedAt) :
    a.bucket ≤ b.bucket := by
  unfold MetricSample.bucket
  have hwidth : 0 < bucketWidth := by decide
  have hdiv : a.collectedAt / bucketWidth ≤ b.collectedAt / bucketWidth :=
    Int.ediv_le_ediv hwidth h
  exact Int.mul_le_mul_of_nonneg_right hdiv hwidth.le

/-- The buckets of the measured values never fall. -/
lemma measured_sorted (hsorted : samples.Pairwise fun a b => a.collectedAt < b.collectedAt) :
    (measured counter samples).Pairwise fun p q => p.1 ≤ q.1 := by
  unfold measured
  refine List.Pairwise.filterMap _ ?_ hsorted
  intro a b hlt p hp q hq
  obtain ⟨v, -, rfl⟩ := Option.map_eq_some_iff.mp hp
  obtain ⟨w, -, rfl⟩ := Option.map_eq_some_iff.mp hq
  exact bucket_mono hlt.le

/-- The values of a bucket are the measured values with this bucket. -/
lemma filterMap_bucket (bucket : ℤ) :
    (samples.filter fun s => s.bucket = bucket).filterMap counter =
      ((measured counter samples).filter fun p => p.1 = bucket).map (·.2) := by
  unfold measured
  induction samples with
  | nil => rfl
  | cons s samples ih =>
    by_cases hb : s.bucket = bucket
    · cases hv : counter s with
      | none => simpa [List.filter_cons, List.filterMap_cons, hb, hv] using ih
      | some v => simpa [List.filter_cons, List.filterMap_cons, hb, hv] using ih
    · cases hv : counter s with
      | none => simpa [List.filter_cons, List.filterMap_cons, hb, hv] using ih
      | some v => simpa [List.filter_cons, List.filterMap_cons, hb, hv] using ih

lemma pair_infix_map_iff {ps : List (ℤ × ℕ)} (a b : ℕ) :
    [a, b] <:+: ps.map (·.2) ↔ ∃ p q, [p, q] <:+: ps ∧ p.2 = a ∧ q.2 = b := by
  constructor
  · intro hneighbours
    obtain ⟨l, hl, hmap⟩ := List.infix_map_iff.mp hneighbours
    obtain ⟨p, l, rfl, hp, hl'⟩ := List.map_eq_cons_iff.mp hmap.symm
    obtain ⟨q, l, rfl, hq, hl''⟩ := List.map_eq_cons_iff.mp hl'
    obtain rfl := List.map_eq_nil_iff.mp hl''
    exact ⟨p, q, hl, hp, hq⟩
  · rintro ⟨p, q, hneighbours, rfl, rfl⟩
    exact hneighbours.map (·.2)

/-- The flag of a counter is raised exactly when the counter increased within a bucket. -/
lemma counterFlag_iff (hsorted : samples.Pairwise fun a b => a.collectedAt < b.collectedAt) :
    counterFlag counter samples = true ↔ IncreasedInBucket counter samples := by
  have hblocks : (measured counter samples).Pairwise fun p q => p.1 ≤ q.1 :=
    measured_sorted hsorted
  unfold counterFlag bucketDeltas
  simp only [List.any_map, List.any_eq_true, Function.comp_apply, decide_eq_true_eq,
    Counter.delta_pos_iff, filterMap_bucket, pair_infix_map_iff]
  constructor
  · rintro ⟨bucket, -, a, b, ⟨p, q, hneighbours, rfl, rfl⟩, hpos⟩
    obtain ⟨hneighbours, hp, hq⟩ := (Counter.infix_filter_iff hblocks bucket p q).mp hneighbours
    exact ⟨p, q, hneighbours, hp.trans hq.symm, hpos⟩
  · rintro ⟨p, q, hneighbours, heq, hpos⟩
    refine ⟨p.1, ?_, p.2, q.2, ⟨p, q, ?_, rfl, rfl⟩, hpos⟩
    · have hp : p ∈ measured counter samples := hneighbours.subset (by simp)
      obtain ⟨s, hs, hv⟩ := List.mem_filterMap.mp hp
      obtain ⟨v, -, rfl⟩ := Option.map_eq_some_iff.mp hv
      exact List.mem_dedup.mpr (List.mem_map.mpr ⟨s, hs, rfl⟩)
    · exact (Counter.infix_filter_iff hblocks p.1 p q).mpr ⟨hneighbours, rfl, heq.symm⟩

/-- The flag is right exactly when the counter did not increase between buckets only. -/
lemma counterFlag_right_iff
    (hsorted : samples.Pairwise fun a b => a.collectedAt < b.collectedAt) :
    (counterFlag counter samples = true ↔ Increased counter samples) ↔
      (Increased counter samples → IncreasedInBucket counter samples) := by
  rw [counterFlag_iff hsorted]
  constructor
  · exact fun h => h.mpr
  · intro h
    refine ⟨?_, h⟩
    rintro ⟨p, q, hneighbours, -, hpos⟩
    exact ⟨p, q, hneighbours, hpos⟩

end Flags

/-- The two flags of a server tell whether its counters increased exactly when each counter that
increased at all increased within one bucket too. -/
theorem memoryFlags_right_iff (raw : ReportRowRaw) (series : MetricSeries) (start stop : ℤ) :
    let row := foldMemory raw series start stop
    let samples := series.selected start stop
    ((row.oomOccurred = true ↔ Increased (·.memOomKill) samples) ∧
        (row.memSwapPaging = true ↔ Increased (·.pagingMajor) samples)) ↔
      (Increased (·.memOomKill) samples → IncreasedInBucket (·.memOomKill) samples) ∧
        (Increased (·.pagingMajor) samples → IncreasedInBucket (·.pagingMajor) samples) := by
  intro row samples
  have hsorted : samples.Pairwise fun a b => a.collectedAt < b.collectedAt :=
    series.sorted.filter _
  exact and_congr (counterFlag_right_iff hsorted) (counterFlag_right_iff hsorted)

/-- A kill between the fourth and the sixth minute. -/
def killBetweenBuckets : MetricSeries where
  samples := [⟨240000000, some 0, some 0⟩, ⟨360000000, some 1, some 0⟩]
  sorted := by simp

/-- The kill is in the samples and not in the flag. -/
theorem killBetweenBuckets_lost :
    Increased (·.memOomKill) (killBetweenBuckets.selected 0 300000000) ∧
      ∀ raw, (foldMemory raw killBetweenBuckets 0 300000000).oomOccurred = false := by
  constructor
  · exact ⟨(0, 0), (300000000, 1), ⟨[], [], by decide +kernel⟩, by decide⟩
  · intro raw
    change counterFlag (·.memOomKill) (killBetweenBuckets.selected 0 300000000) = false
    decide +kernel

end AssessmentEngine
