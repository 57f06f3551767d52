import Mathlib.Algebra.Order.BigOperators.Group.List
import Mathlib.Algebra.Order.Field.Basic
import Mathlib.Data.List.GetD
import AssessmentEngine.Library.TimeSeries

/-!
# Percentiles

`percentile_cont` puts the values in order and goes along the line through them.  So it lies between
the least and the greatest value, and it grows with the share that is asked for
(`percentileCont_le_of_le`).
-/

namespace TimeSeries

/-! ## Going along a line -/

section Interpolation

/-- The height at `x` of the line through the points of a sequence. -/
def interpolate (s : ℕ → ℚ) (x : ℚ) : ℚ :=
  s ⌊x⌋.toNat + (x - ⌊x⌋) * (s ⌈x⌉.toNat - s ⌊x⌋.toNat)

variable {s : ℕ → ℚ} {x y : ℚ}

lemma interpolate_intCast (s : ℕ → ℚ) (n : ℤ) : interpolate s n = s n.toNat := by
  rw [interpolate, Int.floor_intCast, Int.ceil_intCast, sub_self, zero_mul, add_zero]

lemma floor_toNat_le_ceil_toNat (x : ℚ) : ⌊x⌋.toNat ≤ ⌈x⌉.toNat :=
  Int.toNat_le_toNat (Int.floor_le_ceil x)

lemma le_interpolate (hs : Monotone s) (x : ℚ) : s ⌊x⌋.toNat ≤ interpolate s x := by
  have hrise : 0 ≤ s ⌈x⌉.toNat - s ⌊x⌋.toNat := sub_nonneg.mpr (hs (floor_toNat_le_ceil_toNat x))
  have hpart : 0 ≤ x - ⌊x⌋ := Int.fract_nonneg x
  exact le_add_of_nonneg_right (mul_nonneg hpart hrise)

lemma interpolate_le (hs : Monotone s) (x : ℚ) : interpolate s x ≤ s ⌈x⌉.toNat := by
  have hrise : 0 ≤ s ⌈x⌉.toNat - s ⌊x⌋.toNat := sub_nonneg.mpr (hs (floor_toNat_le_ceil_toNat x))
  have hpart : x - ⌊x⌋ ≤ 1 := (Int.fract_lt_one x).le
  have hscaled := mul_le_mul_of_nonneg_right hpart hrise
  unfold interpolate
  linarith

/-- The line through rising points rises. -/
lemma monotone_interpolate (hs : Monotone s) (hxy : x ≤ y) : interpolate s x ≤ interpolate s y := by
  rcases (Int.floor_mono hxy).lt_or_eq with hlt | heq
  · have hceil : ⌈x⌉ ≤ ⌊y⌋ := by
      have hle : ⌈x⌉ ≤ ⌊x⌋ + 1 := Int.ceil_le_floor_add_one x
      omega
    calc interpolate s x ≤ s ⌈x⌉.toNat := interpolate_le hs x
      _ ≤ s ⌊y⌋.toNat := hs (Int.toNat_le_toNat hceil)
      _ ≤ interpolate s y := le_interpolate hs y
  · by_cases hx : x = ⌊x⌋
    · -- on a point of the sequence
      have hpoint : interpolate s x = s ⌊x⌋.toNat := by
        conv_lhs => rw [hx]
        exact interpolate_intCast s _
      rw [hpoint, heq]
      exact le_interpolate hs y
    · -- on one segment with `y`
      have hfloor : (⌊x⌋ : ℚ) < x := (Int.floor_le x).lt_of_ne fun h => hx h.symm
      have hxceil : ⌈x⌉ = ⌊x⌋ + 1 := by
        refine le_antisymm (Int.ceil_le_floor_add_one x) ?_
        rw [Int.add_one_le_iff, Int.lt_ceil]
        exact hfloor
      have hyceil : ⌈y⌉ = ⌊x⌋ + 1 := by
        refine le_antisymm (heq ▸ Int.ceil_le_floor_add_one y) ?_
        rw [Int.add_one_le_iff, Int.lt_ceil]
        exact hfloor.trans_le hxy
      have hrise : 0 ≤ s (⌊x⌋ + 1).toNat - s ⌊x⌋.toNat :=
        sub_nonneg.mpr (hs (Int.toNat_le_toNat (by omega)))
      have hscaled := mul_le_mul_of_nonneg_right (sub_le_sub_right hxy (⌊x⌋ : ℚ)) hrise
      unfold interpolate
      rw [← heq, hxceil, hyceil]
      linarith

end Interpolation

/-! ## Order statistics -/

/-- The values in order, of which the last goes on for ever. -/
def ordered (vs : List ℚ) (i : ℕ) : ℚ := (vs.insertionSort (· ≤ ·)).getD (min i (vs.length - 1)) 0

section Ordered

variable {vs : List ℚ}

lemma min_lt_length_sort (hne : vs ≠ []) (i : ℕ) :
    min i (vs.length - 1) < (vs.insertionSort (· ≤ ·)).length := by
  have hpos : 0 < vs.length := List.length_pos_iff.mpr hne
  rw [List.length_insertionSort]
  omega

lemma ordered_mem (hne : vs ≠ []) (i : ℕ) : ordered vs i ∈ vs := by
  have hlt := min_lt_length_sort hne i
  rw [ordered, List.getD_eq_getElem _ _ hlt]
  exact (List.mem_insertionSort (· ≤ ·)).mp (List.getElem_mem hlt)

lemma getElem?_sort {i : ℕ} (hi : i < vs.length) :
    (vs.insertionSort (· ≤ ·))[i]? = some (ordered vs i) := by
  have hne : vs ≠ [] := List.ne_nil_of_length_pos (by omega)
  have hlt : i < (vs.insertionSort (· ≤ ·)).length := by rwa [List.length_insertionSort]
  have hmin : min i (vs.length - 1) = i := by omega
  rw [ordered, hmin, List.getElem?_eq_getElem hlt, List.getD_eq_getElem _ _ hlt]

lemma monotone_ordered (vs : List ℚ) : Monotone (ordered vs) := by
  intro i j hij
  by_cases hnil : vs = []
  · simp [ordered, hnil]
  · have hi := min_lt_length_sort hnil i
    have hj := min_lt_length_sort hnil j
    rw [ordered, ordered, List.getD_eq_getElem _ _ hi, List.getD_eq_getElem _ _ hj]
    exact List.sortedLE_insertionSort.getElem_le_getElem_of_le (min_le_min_right _ hij)

end Ordered

/-! ## The percentile -/

section Percentile

variable {p q x y : ℚ} {vs : List ℚ}

lemma percentileCont_eq (hp : p ≤ 1) (hne : vs ≠ []) :
    percentileCont p vs = some (interpolate (ordered vs) (p * (vs.length - 1 : ℕ))) := by
  have hpos : 0 < vs.length := List.length_pos_iff.mpr hne
  set position := p * (vs.length - 1 : ℕ) with hposition
  have hle : position ≤ ((vs.length - 1 : ℕ) : ℤ) := by
    rw [Int.cast_natCast]
    exact mul_le_of_le_one_left (Nat.cast_nonneg _) hp
  have hceil : ⌈position⌉.toNat < vs.length := by
    have hbound : ⌈position⌉ ≤ ((vs.length - 1 : ℕ) : ℤ) := Int.ceil_le.mpr hle
    omega
  have hfloor : ⌊position⌋.toNat < vs.length :=
    (floor_toNat_le_ceil_toNat position).trans_lt hceil
  unfold percentileCont
  rw [← hposition]
  simp only [getElem?_sort hceil, getElem?_sort hfloor]
  rfl

lemma percentileCont_nil (p : ℚ) : percentileCont p [] = none := by
  simp [percentileCont]

lemma percentileCont_isSome (hp : p ≤ 1) :
    (percentileCont p vs).isSome ↔ vs ≠ [] := by
  by_cases hne : vs = []
  · simp [hne, percentileCont_nil]
  · simp [percentileCont_eq hp hne, hne]

/-- A percentile and the values that it is made of. -/
lemma percentileCont_eq_some (hp : p ≤ 1) :
    percentileCont p vs = some x ↔
      vs ≠ [] ∧ x = interpolate (ordered vs) (p * (vs.length - 1 : ℕ)) := by
  by_cases hne : vs = []
  · simp [hne, percentileCont_nil]
  · simp [percentileCont_eq hp hne, hne, eq_comm]

/-- No percentile is below all values. -/
theorem le_percentileCont (hp : p ≤ 1) (hx : percentileCont p vs = some x) {low : ℚ}
    (hlow : ∀ v ∈ vs, low ≤ v) : low ≤ x := by
  obtain ⟨hne, rfl⟩ := (percentileCont_eq_some hp).mp hx
  exact (hlow _ (ordered_mem hne _)).trans (le_interpolate (monotone_ordered vs) _)

/-- No percentile is above all values. -/
theorem percentileCont_le (hp : p ≤ 1) (hx : percentileCont p vs = some x) {high : ℚ}
    (hhigh : ∀ v ∈ vs, v ≤ high) : x ≤ high := by
  obtain ⟨hne, rfl⟩ := (percentileCont_eq_some hp).mp hx
  exact (interpolate_le (monotone_ordered vs) _).trans (hhigh _ (ordered_mem hne _))

/-- A larger share has a larger percentile. -/
theorem percentileCont_le_of_le (hpq : p ≤ q) (hq : q ≤ 1)
    (hx : percentileCont p vs = some x) (hy : percentileCont q vs = some y) : x ≤ y := by
  obtain ⟨-, rfl⟩ := (percentileCont_eq_some (hpq.trans hq)).mp hx
  obtain ⟨-, rfl⟩ := (percentileCont_eq_some hq).mp hy
  exact monotone_interpolate (monotone_ordered vs)
    (mul_le_mul_of_nonneg_right hpq (Nat.cast_nonneg _))

end Percentile

/-! ## The average -/

section Average

variable {x : ℚ} {vs : List ℚ}

theorem average_le (hx : average vs = some x) {high : ℚ} (hhigh : ∀ v ∈ vs, v ≤ high) :
    x ≤ high := by
  unfold average at hx
  split_ifs at hx with hnil
  obtain rfl := Option.some_inj.mp hx
  have hpos : (0 : ℚ) < vs.length := by
    exact_mod_cast List.length_pos_iff.mpr hnil
  rw [div_le_iff₀ hpos, mul_comm, ← nsmul_eq_mul]
  exact List.sum_le_card_nsmul vs high hhigh

theorem le_average (hx : average vs = some x) {low : ℚ} (hlow : ∀ v ∈ vs, low ≤ v) : low ≤ x := by
  unfold average at hx
  split_ifs at hx with hnil
  obtain rfl := Option.some_inj.mp hx
  have hpos : (0 : ℚ) < vs.length := by
    exact_mod_cast List.length_pos_iff.mpr hnil
  rw [le_div_iff₀ hpos, mul_comm, ← nsmul_eq_mul]
  exact List.card_nsmul_le_sum vs low hlow

end Average

end TimeSeries
