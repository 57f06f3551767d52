import Mathlib.Algebra.Order.Floor.Ring
import Mathlib.Algebra.Order.Ring.Int
import Mathlib.Data.List.Sort
import Mathlib.Data.Rat.Floor
import Mathlib.Tactic.Linarith
import Mathlib.Tactic.Positivity

/-!
# Time series

Buckets of time and the aggregates of the values in a bucket.  `timeBucket` is the start of the
bucket that holds an instant, and the instant lies before the end of that bucket.
-/

namespace TimeSeries

/-! ## Buckets -/

/-- `time_bucket(width, t)` with buckets that are aligned to an origin. -/
def timeBucket (origin : ℤ) (width : ℕ) (t : ℤ) : ℤ :=
  origin + (t - origin) / (width : ℤ) * (width : ℤ)

/-- `generate_series(first, last, step)`. -/
def generateSeries (first last : ℤ) (step : ℕ) : List ℤ :=
  (List.range ((last - first) / (step : ℤ) + 1).toNat).map fun i : ℕ => first + i * step

section Buckets

variable {origin : ℤ} {width : ℕ}

lemma lt_timeBucket_add (hwidth : 0 < width) (t : ℤ) : t < timeBucket origin width t + width := by
  have hpos : (0 : ℤ) < width := by omega
  have hlt : t - origin < ((t - origin) / (width : ℤ) + 1) * width :=
    Int.lt_ediv_add_one_mul_self _ hpos
  rw [Int.add_mul, Int.one_mul] at hlt
  unfold timeBucket
  omega

/-- No bucket of a series starts after its end. -/
lemma le_of_mem_generateSeries {first last b : ℤ} (hwidth : 0 < width)
    (h : b ∈ generateSeries first last width) : b ≤ last := by
  have hpos : (0 : ℤ) < width := by omega
  obtain ⟨i, hi, rfl⟩ := List.mem_map.mp h
  rw [List.mem_range] at hi
  have hi' : (i : ℤ) ≤ (last - first) / (width : ℤ) := by omega
  have hmul := Int.mul_le_mul_of_nonneg_right hi' hpos.le
  have hle : (last - first) / (width : ℤ) * width ≤ last - first := Int.ediv_mul_le _ hpos.ne'
  omega

/-- None starts before its beginning. -/
lemma first_le_of_mem_generateSeries {first last b : ℤ} (h : b ∈ generateSeries first last width) :
    first ≤ b := by
  obtain ⟨i, _, rfl⟩ := List.mem_map.mp h
  have hnonneg : (0 : ℤ) ≤ i * width := by positivity
  omega

/-- From a bucket on, the later buckets of the same width are in the series. -/
lemma mem_generateSeries_timeBucket {s t : ℤ} (hwidth : 0 < width)
    (h : timeBucket origin width s ≤ timeBucket origin width t) :
    timeBucket origin width t ∈
      generateSeries (timeBucket origin width s) (timeBucket origin width t) width := by
  have hpos : (0 : ℤ) < width := by omega
  have hdiff : timeBucket origin width t - timeBucket origin width s =
      ((t - origin) / (width : ℤ) - (s - origin) / (width : ℤ)) * width := by
    unfold timeBucket
    ring
  have hdiv : (timeBucket origin width t - timeBucket origin width s) / (width : ℤ) =
      (t - origin) / (width : ℤ) - (s - origin) / (width : ℤ) := by
    rw [hdiff, Int.mul_ediv_cancel _ hpos.ne']
  have hnonneg : 0 ≤ (timeBucket origin width t - timeBucket origin width s) / (width : ℤ) :=
    Int.ediv_nonneg (by omega) hpos.le
  refine List.mem_map.mpr
    ⟨((timeBucket origin width t - timeBucket origin width s) / (width : ℤ)).toNat, ?_, ?_⟩
  · rw [List.mem_range]
    omega
  · rw [Int.toNat_of_nonneg hnonneg, hdiv, ← hdiff]
    omega

end Buckets

/-! ## Aggregates -/

/-- `avg(v)`. -/
def average (vs : List ℚ) : Option ℚ := if vs = [] then none else some (vs.sum / vs.length)

/-- `percentile_cont(p) WITHIN GROUP (ORDER BY v)`: between two values it interpolates. -/
def percentileCont (p : ℚ) (vs : List ℚ) : Option ℚ := do
  let ordered := vs.insertionSort (· ≤ ·)
  let position := p * (vs.length - 1 : ℕ)
  let below ← ordered[⌊position⌋.toNat]?
  let above ← ordered[⌈position⌉.toNat]?
  return below + (position - ⌊position⌋) * (above - below)

end TimeSeries
