import Mathlib.Algebra.Order.Field.Basic
import Mathlib.Data.Rat.Floor
import Mathlib.Tactic.Linarith
import Mathlib.Tactic.NormNum
import Mathlib.Tactic.Positivity

/-!
# Decimal rendering of rational numbers

Rounding a rational to a given number of decimals with ties going to the even
neighbour, and printing the result in positional notation.  This is the
behaviour of the usual `%.df` formatting and of the two-argument `round` of
scripting languages when they are applied to an exactly represented number.
-/

namespace FixedPoint

/-- The nearest integer, ties going to the even neighbour. -/
def roundHalfEven (x : ℚ) : ℤ :=
  let r := x - ⌊x⌋
  if r < 1 / 2 then ⌊x⌋
  else if 1 / 2 < r then ⌊x⌋ + 1
  else if ⌊x⌋ % 2 = 0 then ⌊x⌋ else ⌊x⌋ + 1

/-- `x` rounded to `d` decimals, counted in units of `10 ^ (-d)`. -/
def scaled (d : ℕ) (x : ℚ) : ℤ := roundHalfEven (x * 10 ^ d)

/-- `x` rounded to `d` decimals. -/
def roundTo (d : ℕ) (x : ℚ) : ℚ := scaled d x / 10 ^ d

/-- The integer part, rounding toward zero. -/
def truncate (x : ℚ) : ℤ := if x < 0 then ⌈x⌉ else ⌊x⌋

/-- `x` printed with exactly `d` decimals.  The sign of a negative number is kept even
when its digits are all zero. -/
def formatFixed (d : ℕ) (x : ℚ) : String :=
  let n := (scaled d x).natAbs
  let sign := if x < 0 then "-" else ""
  let whole := toString (n / 10 ^ d)
  let frac := toString (n % 10 ^ d)
  if d = 0 then sign ++ whole
  else sign ++ whole ++ "." ++ String.ofList (List.replicate (d - frac.length) '0') ++ frac

/-! ### Comparisons with whole numbers -/

lemma floor_le_roundHalfEven (x : ℚ) : ⌊x⌋ ≤ roundHalfEven x := by
  unfold roundHalfEven
  simp only
  split_ifs <;> omega

/-- A whole number below `x` is below the rounded number. -/
lemma le_roundHalfEven_of_le {n : ℤ} {x : ℚ} (hle : (n : ℚ) ≤ x) : n ≤ roundHalfEven x :=
  (Int.le_floor.mpr hle).trans (floor_le_roundHalfEven x)

/-- Ties go to an even number, so everything from half a unit below it on reaches it. -/
lemma le_roundHalfEven_iff_of_even {n : ℤ} (heven : n % 2 = 0) (x : ℚ) :
    n ≤ roundHalfEven x ↔ (n : ℚ) - 1 / 2 ≤ x := by
  have hfloor : (⌊x⌋ : ℚ) ≤ x := Int.floor_le x
  have hceil : x < ⌊x⌋ + 1 := Int.lt_floor_add_one x
  constructor
  · intro hle
    by_contra hlt
    have hbelow : ⌊x⌋ < n := by
      have h : (⌊x⌋ : ℚ) < n := by linarith
      exact_mod_cast h
    unfold roundHalfEven at hle
    simp only at hle
    split_ifs at hle with hlow hhigh
    · omega
    · have hnext : n = ⌊x⌋ + 1 := by omega
      rw [hnext] at hlt
      push_cast at hlt
      linarith
    · omega
    · have hnext : n = ⌊x⌋ + 1 := by omega
      rw [hnext] at hlt
      push_cast at hlt
      linarith
  · intro hle
    rcases le_or_gt n ⌊x⌋ with hbelow | habove
    · exact hbelow.trans (floor_le_roundHalfEven x)
    · have hnext : n = ⌊x⌋ + 1 := by
        have h : (n : ℚ) < ⌊x⌋ + 2 := by linarith
        have h' : n < ⌊x⌋ + 2 := by exact_mod_cast h
        omega
      rw [hnext] at hle
      push_cast at hle
      unfold roundHalfEven
      simp only
      rw [if_neg (by linarith), hnext]
      split_ifs <;> omega

/-- And everything up to half a unit above it does not get beyond it. -/
lemma roundHalfEven_le_iff_of_even {n : ℤ} (heven : n % 2 = 0) (x : ℚ) :
    roundHalfEven x ≤ n ↔ x ≤ (n : ℚ) + 1 / 2 := by
  have hfloor : (⌊x⌋ : ℚ) ≤ x := Int.floor_le x
  have hceil : x < ⌊x⌋ + 1 := Int.lt_floor_add_one x
  constructor
  · intro hle
    by_contra hgt
    have hbelow : n ≤ ⌊x⌋ := by
      have h : (n : ℚ) < ⌊x⌋ + 1 := by linarith
      exact Int.lt_add_one_iff.mp (by exact_mod_cast h)
    have hsame : ⌊x⌋ = n := le_antisymm ((floor_le_roundHalfEven x).trans hle) hbelow
    unfold roundHalfEven at hle
    simp only [hsame] at hle
    rw [if_neg (by linarith), if_pos (by linarith)] at hle
    omega
  · intro hle
    have hbelow : ⌊x⌋ ≤ n := by
      have h : (⌊x⌋ : ℚ) < n + 1 := by linarith
      exact Int.lt_add_one_iff.mp (by exact_mod_cast h)
    rcases lt_or_eq_of_le hbelow with hlt | hsame
    · unfold roundHalfEven
      simp only
      split_ifs <;> omega
    · unfold roundHalfEven
      simp only [hsame]
      rw [if_neg (show ¬1 / 2 < x - n by linarith), if_pos heven]
      split_ifs <;> exact le_rfl

/-- A whole number is not changed. -/
lemma roundHalfEven_intCast (n : ℤ) : roundHalfEven n = n := by
  have hfloor : ⌊(n : ℚ)⌋ = n := Int.floor_intCast n
  have hhalf : (n : ℚ) - n < 1 / 2 := by norm_num
  simp only [roundHalfEven, hfloor]
  exact if_pos hhalf

/-- Rounding to whole numbers keeps the order. -/
lemma roundHalfEven_mono {x y : ℚ} (hle : x ≤ y) : roundHalfEven x ≤ roundHalfEven y := by
  have hfloor : ⌊x⌋ ≤ ⌊y⌋ := Int.floor_le_floor hle
  have hy : (⌊y⌋ : ℚ) ≤ y := Int.floor_le y
  have hx : x < ⌊x⌋ + 1 := Int.lt_floor_add_one x
  rcases hfloor.lt_or_eq with hlt | heq
  · have hnext : roundHalfEven x ≤ ⌊x⌋ + 1 := by
      unfold roundHalfEven
      simp only
      split_ifs <;> omega
    exact hnext.trans ((Int.add_one_le_of_lt hlt).trans (floor_le_roundHalfEven y))
  · unfold roundHalfEven
    simp only [heq]
    split_ifs <;> first | omega | exact absurd hle (by linarith)

/-- A whole number is at most half a unit away from what is rounded to it. -/
lemma abs_roundHalfEven_sub_le (x : ℚ) : |(roundHalfEven x : ℚ) - x| ≤ 1 / 2 := by
  have hfloor : (⌊x⌋ : ℚ) ≤ x := Int.floor_le x
  have hceil : x < ⌊x⌋ + 1 := Int.lt_floor_add_one x
  rw [abs_le]
  unfold roundHalfEven
  simp only
  split_ifs <;> push_cast <;> constructor <;> linarith

lemma roundHalfEven_le_of_le {n : ℤ} {x : ℚ} (hle : x ≤ n) : roundHalfEven x ≤ n :=
  (roundHalfEven_mono hle).trans (roundHalfEven_intCast n).le

/-- A number with `d` decimals that is below `x` is below the rounded `x`. -/
lemma le_roundTo_of_le {d : ℕ} {n : ℤ} {x : ℚ} (hle : (n : ℚ) / 10 ^ d ≤ x) :
    (n : ℚ) / 10 ^ d ≤ roundTo d x := by
  have hpow : (0 : ℚ) < 10 ^ d := by positivity
  have hscaled : n ≤ scaled d x := le_roundHalfEven_of_le ((div_le_iff₀ hpow).mp hle)
  unfold roundTo
  gcongr

/-- A number with `d` decimals and an even last digit is reached from half a digit below. -/
lemma le_roundTo_iff_of_even {d : ℕ} {n : ℤ} (heven : n % 2 = 0) (x : ℚ) :
    (n : ℚ) / 10 ^ d ≤ roundTo d x ↔ ((n : ℚ) - 1 / 2) / 10 ^ d ≤ x := by
  have hpow : (0 : ℚ) < 10 ^ d := by positivity
  rw [roundTo, div_le_div_iff_of_pos_right hpow, Int.cast_le, scaled,
    le_roundHalfEven_iff_of_even heven, div_le_iff₀ hpow]

/-- A number with `d` decimals and an even last digit bounds what is up to half a digit above it. -/
lemma roundTo_le_iff_of_even {d : ℕ} {n : ℤ} (heven : n % 2 = 0) (x : ℚ) :
    roundTo d x ≤ (n : ℚ) / 10 ^ d ↔ x ≤ ((n : ℚ) + 1 / 2) / 10 ^ d := by
  have hpow : (0 : ℚ) < 10 ^ d := by positivity
  rw [roundTo, div_le_div_iff_of_pos_right hpow, Int.cast_le, scaled,
    roundHalfEven_le_iff_of_even heven, le_div_iff₀ hpow]

/-! ### Numbers with `d` decimals -/

/-- The number has `d` decimals. -/
def IsDecimal (d : ℕ) (x : ℚ) : Prop := ∃ n : ℤ, x = n / 10 ^ d

lemma isDecimal_roundTo (d : ℕ) (x : ℚ) : IsDecimal d (roundTo d x) := ⟨scaled d x, rfl⟩

lemma isDecimal_intCast (d : ℕ) (n : ℤ) : IsDecimal d n := by
  have hpow : (10 : ℚ) ^ d ≠ 0 := by positivity
  refine ⟨n * 10 ^ d, ?_⟩
  push_cast
  rw [mul_div_cancel_right₀ _ hpow]

lemma IsDecimal.sub {d : ℕ} {x y : ℚ} (hx : IsDecimal d x) (hy : IsDecimal d y) :
    IsDecimal d (x - y) := by
  obtain ⟨n, rfl⟩ := hx
  obtain ⟨m, rfl⟩ := hy
  refine ⟨n - m, ?_⟩
  push_cast
  rw [sub_div]

lemma IsDecimal.max {d : ℕ} {x y : ℚ} (hx : IsDecimal d x) (hy : IsDecimal d y) :
    IsDecimal d (Max.max x y) := by
  rcases max_choice x y with h | h <;> rw [h] <;> assumption

lemma IsDecimal.min {d : ℕ} {x y : ℚ} (hx : IsDecimal d x) (hy : IsDecimal d y) :
    IsDecimal d (Min.min x y) := by
  rcases min_choice x y with h | h <;> rw [h] <;> assumption

/-- Rounding changes nothing once the decimals are there. -/
lemma IsDecimal.roundTo_eq {d : ℕ} {x : ℚ} (h : IsDecimal d x) : roundTo d x = x := by
  have hpow : (10 : ℚ) ^ d ≠ 0 := by positivity
  obtain ⟨n, rfl⟩ := h
  rw [roundTo, scaled, div_mul_cancel₀ _ hpow, roundHalfEven_intCast]

/-- A whole number is its own integer part. -/
lemma truncate_intCast (n : ℤ) : truncate n = n := by
  unfold truncate
  split_ifs
  · exact Int.ceil_intCast n
  · exact Int.floor_intCast n

end FixedPoint
