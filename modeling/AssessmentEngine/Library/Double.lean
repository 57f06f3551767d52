import Mathlib.Data.Int.Log
import AssessmentEngine.Library.FixedPoint

/-!
# Double precision numbers

A double is a rational number, an infinity or not a number.  Zero has one sign.  Sums are rounded to
the nearest double, ties going to the even one; a sum that is too large is infinite.  A list is
summed up with the rounding errors added at the end, as scripting languages do it.

Rounding keeps the order (`nearest_mono`).  It also keeps strict comparisons where a product or a
quotient is compared with a double: rounding after scaling does not reach the scaled bound from
below or above (`nearest_scale_le_iff`, `le_nearest_scale_iff`).
-/

inductive Double
  | finite (q : ℚ)
  | infinite (negative : Bool)
  | nan
  deriving DecidableEq, Repr

namespace Double

open FixedPoint

/-- `math.isfinite`. -/
def isFinite : Double → Bool
  | finite _ => true
  | _ => false

/-! ## Rounding -/

/-- The exponent of the last of the 53 places of a number; subnormal numbers have fewer. -/
def lastPlace (q : ℚ) : ℤ := max (Int.log 2 |q| - 52) (-1074)

/-- The nearest number with 53 places, however large. -/
def nearest (q : ℚ) : ℚ := roundHalfEven (q / 2 ^ lastPlace q) * 2 ^ lastPlace q

/-- The number is no larger than the doubles once it is rounded. -/
def InRange (q : ℚ) : Prop := |nearest q| < 2 ^ 1024

instance (q : ℚ) : Decidable (InRange q) := inferInstanceAs (Decidable (_ < _))

def ofRat (q : ℚ) : Double := if InRange q then finite (nearest q) else infinite (decide (q < 0))

/-! ### What rounding keeps -/

/-- The number is a double, however large. -/
def IsDouble (q : ℚ) : Prop := nearest q = q

instance (q : ℚ) : Decidable (IsDouble q) := inferInstanceAs (Decidable (_ = _))

lemma two_zpow_pos (e : ℤ) : (0 : ℚ) < 2 ^ e := zpow_pos two_pos e

lemma log_lt_iff {q : ℚ} (hpos : 0 < q) {e : ℤ} : q < 2 ^ e ↔ Int.log 2 q < e := by
  have h := Int.lt_zpow_iff_log_lt (R := ℚ) (b := 2) one_lt_two (x := e) hpos
  exact_mod_cast h

lemma le_log_iff {q : ℚ} (hpos : 0 < q) {e : ℤ} : 2 ^ e ≤ q ↔ e ≤ Int.log 2 q := by
  have h := Int.zpow_le_iff_le_log (R := ℚ) (b := 2) one_lt_two (x := e) hpos
  exact_mod_cast h

/-- A number has no more than 53 places. -/
lemma lt_two_zpow_lastPlace {q : ℚ} (hpos : 0 < q) : q < 2 ^ (lastPlace q + 53) := by
  rw [log_lt_iff hpos, lastPlace, abs_of_pos hpos]
  omega

/-- And a number that is not too small has all of them. -/
lemma two_zpow_lastPlace_le {q : ℚ} (hq : 1 / 2 ≤ q) : 2 ^ (lastPlace q + 52) ≤ q := by
  have hpos : 0 < q := lt_of_lt_of_le (by norm_num) hq
  have hlog : -1 ≤ Int.log 2 q := (le_log_iff hpos).mp (by simpa using hq)
  rw [le_log_iff hpos, lastPlace, abs_of_pos hpos]
  omega

lemma lastPlace_mono {p q : ℚ} (hpos : 0 < p) (hle : p ≤ q) : lastPlace p ≤ lastPlace q := by
  have hlog : Int.log 2 p ≤ Int.log 2 q := Int.log_mono_right hpos hle
  rw [lastPlace, lastPlace, abs_of_pos hpos, abs_of_pos (hpos.trans_le hle)]
  omega

/-- A multiple of a place is a multiple of each later one. -/
lemma exists_mul_two_zpow {e f : ℤ} (hle : f ≤ e) (m : ℤ) :
    ∃ n : ℤ, (m : ℚ) * 2 ^ e = n * 2 ^ f := by
  obtain ⟨d, hd⟩ := Int.eq_ofNat_of_zero_le (Int.sub_nonneg.mpr hle)
  refine ⟨m * 2 ^ d, ?_⟩
  have he : e = d + f := by omega
  rw [he, zpow_add₀ two_ne_zero, zpow_natCast]
  push_cast
  ring

lemma nearest_of_mul_two_zpow {q : ℚ} {m : ℤ} (h : q = m * 2 ^ lastPlace q) : IsDouble q := by
  have hpow := (two_zpow_pos (lastPlace q)).ne'
  unfold IsDouble nearest
  have hdiv : q / 2 ^ lastPlace q = m := by
    rw [div_eq_iff hpow]
    exact h
  rw [hdiv, roundHalfEven_intCast]
  exact h.symm

/-- What is a multiple of a place and has 53 of them is a double. -/
lemma isDouble_of_places {m e : ℤ} (hm : 0 < m) (hplaces : m ≤ 2 ^ 53) (he : -1074 ≤ e) :
    IsDouble ((m : ℚ) * 2 ^ e) := by
  have hmQ : (0 : ℚ) < m := by exact_mod_cast hm
  have hpos : 0 < (m : ℚ) * 2 ^ e := mul_pos hmQ (two_zpow_pos e)
  rcases hplaces.lt_or_eq with hlt | rfl
  · have hlog : Int.log 2 ((m : ℚ) * 2 ^ e) < e + 53 := by
      rw [← log_lt_iff hpos, add_comm, zpow_add₀ two_ne_zero]
      have hltQ : (m : ℚ) < 2 ^ (53 : ℤ) := by exact_mod_cast hlt
      exact mul_lt_mul_of_pos_right hltQ (two_zpow_pos e)
    have hplace : lastPlace ((m : ℚ) * 2 ^ e) ≤ e := by
      rw [lastPlace, abs_of_pos hpos]
      omega
    obtain ⟨n, hn⟩ := exists_mul_two_zpow hplace m
    exact nearest_of_mul_two_zpow hn
  · have hpow : ((2 ^ 53 : ℤ) : ℚ) * 2 ^ e = 2 ^ (e + 53) := by
      rw [zpow_add₀ two_ne_zero]
      push_cast
      ring
    have hplace : lastPlace ((2 : ℚ) ^ (e + 53)) = e + 1 := by
      have hlog : Int.log 2 ((2 : ℚ) ^ (e + 53)) = e + 53 := by
        exact_mod_cast Int.log_zpow (R := ℚ) one_lt_two (e + 53)
      rw [lastPlace, abs_of_pos (two_zpow_pos _), hlog]
      omega
    rw [hpow]
    refine nearest_of_mul_two_zpow (m := 2 ^ 52) ?_
    have hsplit : e + 53 = 52 + (e + 1) := by omega
    rw [hplace, hsplit, zpow_add₀ two_ne_zero]
    push_cast
    rfl

lemma isDouble_two_zpow {e : ℤ} (he : -1074 ≤ e) : IsDouble (2 ^ e) := by
  have h := isDouble_of_places (m := 1) one_pos (by norm_num) he
  simpa using h

lemma isDouble_zero : IsDouble 0 := by
  have hround : roundHalfEven (0 : ℚ) = 0 := by exact_mod_cast roundHalfEven_intCast 0
  unfold IsDouble nearest
  rw [zero_div, hround, Int.cast_zero, zero_mul]

lemma isDouble_natCast {n : ℕ} (hn : n ≤ 2 ^ 53) : IsDouble n := by
  rcases n.eq_zero_or_pos with rfl | hpos
  · exact_mod_cast isDouble_zero
  · have h := isDouble_of_places (m := n) (e := 0) (by omega) (by exact_mod_cast hn) (by norm_num)
    simpa using h

lemma isDouble_intCast {n : ℤ} (hnonneg : 0 ≤ n) (hn : n ≤ 2 ^ 53) : IsDouble n := by
  obtain ⟨m, rfl⟩ := Int.eq_ofNat_of_zero_le hnonneg
  exact_mod_cast isDouble_natCast (n := m) (by exact_mod_cast hn)

/-- What is rounded is half a place away at most. -/
lemma abs_nearest_sub_le (q : ℚ) : |nearest q - q| ≤ 2 ^ lastPlace q / 2 := by
  have hpow := two_zpow_pos (lastPlace q)
  have h := abs_roundHalfEven_sub_le (q / 2 ^ lastPlace q)
  have heq : nearest q - q =
      (roundHalfEven (q / 2 ^ lastPlace q) - q / 2 ^ lastPlace q) * 2 ^ lastPlace q := by
    rw [nearest, sub_mul, div_mul_cancel₀ _ hpow.ne']
  rw [heq, abs_mul, abs_of_pos hpow]
  calc _ ≤ 1 / 2 * 2 ^ lastPlace q := mul_le_mul_of_nonneg_right h hpow.le
    _ = 2 ^ lastPlace q / 2 := by ring

/-- A multiple of the last place of `q` bounds its rounding. -/
lemma nearest_le_of_le_mul {q : ℚ} {m : ℤ} (hle : q ≤ m * 2 ^ lastPlace q) :
    nearest q ≤ m * 2 ^ lastPlace q := by
  have hpow := two_zpow_pos (lastPlace q)
  have h : roundHalfEven (q / 2 ^ lastPlace q) ≤ m :=
    roundHalfEven_le_of_le ((div_le_iff₀ hpow).mpr hle)
  exact mul_le_mul_of_nonneg_right (by exact_mod_cast h) hpow.le

lemma le_nearest_of_mul_le {q : ℚ} {m : ℤ} (hle : m * 2 ^ lastPlace q ≤ q) :
    m * 2 ^ lastPlace q ≤ nearest q := by
  have hpow := two_zpow_pos (lastPlace q)
  have h : m ≤ roundHalfEven (q / 2 ^ lastPlace q) :=
    le_roundHalfEven_of_le ((le_div_iff₀ hpow).mpr hle)
  exact mul_le_mul_of_nonneg_right (by exact_mod_cast h) hpow.le

lemma nearest_nonneg {q : ℚ} (hq : 0 ≤ q) : 0 ≤ nearest q := by
  have h := le_nearest_of_mul_le (q := q) (m := 0) (by simpa using hq)
  simpa using h

lemma nearest_nonpos {q : ℚ} (hq : q ≤ 0) : nearest q ≤ 0 := by
  have h := nearest_le_of_le_mul (q := q) (m := 0) (by simpa using hq)
  simpa using h

/-- A double is a multiple of the last place of each smaller number. -/
lemma IsDouble.exists_mul {p q : ℚ} (hq : IsDouble q) (hpos : 0 < p) (hle : p ≤ q) :
    ∃ n : ℤ, q = n * 2 ^ lastPlace p := by
  obtain ⟨n, hn⟩ := exists_mul_two_zpow (lastPlace_mono hpos hle)
    (roundHalfEven (q / 2 ^ lastPlace q))
  refine ⟨n, ?_⟩
  rw [← hn]
  exact hq.symm

/-- Two doubles are at least a place apart. -/
lemma IsDouble.add_place_le {p q : ℚ} (hp : IsDouble p) (hq : IsDouble q) (hpos : 0 < p)
    (hlt : p < q) : p + 2 ^ lastPlace p ≤ q := by
  have hpow := two_zpow_pos (lastPlace p)
  obtain ⟨m, hm⟩ := hp.exists_mul hpos le_rfl
  obtain ⟨n, hn⟩ := hq.exists_mul hpos hlt.le
  generalize hx : (2 : ℚ) ^ lastPlace p = x at *
  have hmn : m < n := by
    rw [hm, hn] at hlt
    exact_mod_cast lt_of_mul_lt_mul_right hlt hpow.le
  have hmnQ : (m : ℚ) + 1 ≤ n := by exact_mod_cast hmn
  calc p + x = (m + 1) * x := by rw [hm]; ring
    _ ≤ n * x := mul_le_mul_of_nonneg_right hmnQ hpow.le
    _ = q := hn.symm

/-- Rounding does not pass a double from below. -/
lemma nearest_le_of_le {q b : ℚ} (hb : IsDouble b) (hq : 0 ≤ q) (hle : q ≤ b) : nearest q ≤ b := by
  rcases hq.eq_or_lt with rfl | hpos
  · rw [isDouble_zero]
    exact hle
  · obtain ⟨n, hn⟩ := hb.exists_mul hpos hle
    rw [hn] at hle ⊢
    exact nearest_le_of_le_mul hle

/-- What is rounded is a double. -/
lemma isDouble_nearest {q : ℚ} (hq : 0 ≤ q) : IsDouble (nearest q) := by
  rcases hq.eq_or_lt with rfl | hpos
  · rw [isDouble_zero]
    exact isDouble_zero
  · set m := roundHalfEven (q / 2 ^ lastPlace q) with hm
    have hnear : nearest q = m * 2 ^ lastPlace q := rfl
    have hplaces : m ≤ 2 ^ 53 := by
      apply roundHalfEven_le_of_le
      rw [div_le_iff₀ (two_zpow_pos _)]
      have hlt := lt_two_zpow_lastPlace hpos
      rw [add_comm, zpow_add₀ two_ne_zero] at hlt
      push_cast
      exact hlt.le
    have hm0 : 0 ≤ m := le_roundHalfEven_of_le (by
      rw [Int.cast_zero]
      exact div_nonneg hq (two_zpow_pos _).le)
    rw [hnear]
    rcases hm0.eq_or_lt with hzero | hmpos
    · rw [← hzero, Int.cast_zero, zero_mul]
      exact isDouble_zero
    · exact isDouble_of_places hmpos hplaces (le_max_right _ _)

/-- Rounding keeps the order. -/
lemma nearest_mono {p q : ℚ} (hp : 0 ≤ p) (hle : p ≤ q) : nearest p ≤ nearest q := by
  rcases hp.eq_or_lt with rfl | hpos
  · rw [isDouble_zero]
    exact nearest_nonneg hle
  by_cases hplace : lastPlace p = lastPlace q
  · unfold nearest
    rw [hplace]
    refine mul_le_mul_of_nonneg_right ?_ (two_zpow_pos _).le
    exact_mod_cast roundHalfEven_mono (div_le_div_of_nonneg_right hle (two_zpow_pos _).le)
  · -- a power of two lies between the two
    have hqpos := hpos.trans_le hle
    have hlt : lastPlace p < lastPlace q := lt_of_le_of_ne (lastPlace_mono hpos hle) hplace
    have hlog : lastPlace q + 52 = Int.log 2 q ∧ Int.log 2 p < Int.log 2 q := by
      rw [lastPlace, lastPlace, abs_of_pos hpos, abs_of_pos hqpos] at hlt
      rw [lastPlace, abs_of_pos hqpos]
      omega
    have hbelow : p ≤ 2 ^ Int.log 2 q := ((log_lt_iff hpos).mpr hlog.2).le
    have habove : (2 : ℚ) ^ Int.log 2 q = ((2 ^ 52 : ℤ) : ℚ) * 2 ^ lastPlace q := by
      rw [← hlog.1, add_comm, zpow_add₀ two_ne_zero]
      push_cast
      rfl
    have hpow : IsDouble ((2 : ℚ) ^ Int.log 2 q) := by
      rw [habove]
      exact isDouble_of_places (by norm_num) (by norm_num) (le_max_right _ _)
    calc nearest p ≤ 2 ^ Int.log 2 q := nearest_le_of_le hpow hp hbelow
      _ = ((2 ^ 52 : ℤ) : ℚ) * 2 ^ lastPlace q := habove
      _ ≤ nearest q := by
        apply le_nearest_of_mul_le
        rw [← habove]
        exact (le_log_iff hqpos).mpr le_rfl

lemma le_nearest_of_le {q b : ℚ} (hb : IsDouble b) (hb0 : 0 ≤ b) (hle : b ≤ q) : b ≤ nearest q :=
  hb.symm.le.trans (nearest_mono hb0 hle)

/-- Half a place is not enough to get from one double, scaled, to another one. -/
lemma nearest_scale_lt {t l p : ℚ} (ht : 0 < t) (hl : IsDouble l) (hp : IsDouble p)
    (htp : IsDouble (t * p)) (hone : 1 ≤ t * p) (hpos : 0 < l) (hlt : l < p) :
    nearest (t * l) < t * p := by
  have hx : 0 < t * l := mul_pos ht hpos
  by_contra hge
  have heq : nearest (t * l) = t * p :=
    le_antisymm (nearest_le_of_le htp hx.le (mul_le_mul_of_nonneg_left hlt.le ht.le))
      (not_lt.mp hge)
  have hhalf : 1 / 2 ≤ t * l := by
    by_contra hsmall
    have h : IsDouble (1 / 2 : ℚ) := by
      have h := isDouble_two_zpow (e := -1) (by norm_num)
      simpa using h
    have hle := nearest_le_of_le h hx.le (not_le.mp hsmall).le
    rw [heq] at hle
    linarith
  have hnear := (abs_le.mp (abs_nearest_sub_le (t * l))).2
  have hplace := two_zpow_lastPlace_le hhalf
  have hapart := hl.add_place_le hp hpos hlt
  have hsize := lt_two_zpow_lastPlace hpos
  rw [heq] at hnear
  rw [zpow_add₀ two_ne_zero] at hplace hsize
  set e : ℚ := 2 ^ lastPlace (t * l)
  set f : ℚ := 2 ^ lastPlace l
  -- the gap is at least `t * f`, and at most `e / 2`
  have hgap : t * f ≤ e / 2 := by
    have h := mul_le_mul_of_nonneg_left hapart ht.le
    linarith
  have hlarge : t * l < t * (f * 2 ^ (53 : ℤ)) := mul_lt_mul_of_pos_left hsize ht
  norm_num at hplace hlarge
  linarith

lemma lt_nearest_scale {t l p : ℚ} (ht : 0 < t) (hl : IsDouble l) (hp : IsDouble p)
    (htp : IsDouble (t * p)) (hone : 1 ≤ t * p) (hlt : p < l) : t * p < nearest (t * l) := by
  have hpos : 0 < p := by
    have h : 0 < t * p := by linarith
    exact (mul_pos_iff_of_pos_left ht).mp h
  have hle : t * p ≤ t * l := mul_le_mul_of_nonneg_left hlt.le ht.le
  by_contra hge
  have heq : nearest (t * l) = t * p :=
    le_antisymm (not_lt.mp hge) (le_nearest_of_le htp (by linarith) hle)
  have hnear := (abs_le.mp (abs_nearest_sub_le (t * l))).1
  have hplace : (2 : ℚ) ^ (lastPlace (t * l) + 52) ≤ nearest (t * l) := by
    have h := two_zpow_lastPlace_le (q := t * l) (by linarith)
    have hpow : (2 : ℚ) ^ (lastPlace (t * l) + 52) =
        ((2 ^ 52 : ℤ) : ℚ) * 2 ^ lastPlace (t * l) := by
      rw [add_comm, zpow_add₀ two_ne_zero]
      push_cast
      rfl
    rw [hpow] at h ⊢
    exact le_nearest_of_mul_le h
  have hapart := hp.add_place_le hl hpos hlt
  have hsize := lt_two_zpow_lastPlace hpos
  rw [heq] at hnear hplace
  rw [zpow_add₀ two_ne_zero] at hplace hsize
  set e : ℚ := 2 ^ lastPlace (t * l)
  set f : ℚ := 2 ^ lastPlace p
  have hgap : t * f ≤ e / 2 := by
    have h := mul_le_mul_of_nonneg_left hapart ht.le
    linarith
  have hlarge : t * p < t * (f * 2 ^ (53 : ℤ)) := mul_lt_mul_of_pos_left hsize ht
  norm_num at hplace hlarge
  linarith

/-- A double that is scaled and rounded compares with a scaled double as it did before, where the
scaled double is one again. -/
theorem nearest_scale_le_iff {t l p : ℚ} (ht : 0 < t) (hl : IsDouble l) (hp : IsDouble p)
    (htp : IsDouble (t * p)) (hone : 1 ≤ t * p) (hnonneg : 0 ≤ l) :
    nearest (t * l) ≤ t * p ↔ l ≤ p := by
  constructor
  · intro hle
    by_contra hgt
    exact absurd hle (not_le.mpr (lt_nearest_scale ht hl hp htp hone (not_le.mp hgt)))
  · intro hle
    exact nearest_le_of_le htp (mul_nonneg ht.le hnonneg) (mul_le_mul_of_nonneg_left hle ht.le)

theorem le_nearest_scale_iff {t l p : ℚ} (ht : 0 < t) (hl : IsDouble l) (hp : IsDouble p)
    (htp : IsDouble (t * p)) (hone : 1 ≤ t * p) (hpos : 0 < l) :
    t * p ≤ nearest (t * l) ↔ p ≤ l := by
  constructor
  · intro hle
    by_contra hlt
    exact absurd hle (not_le.mpr (nearest_scale_lt ht hl hp htp hone hpos (not_le.mp hlt)))
  · intro hle
    exact le_nearest_of_le htp (by linarith) (mul_le_mul_of_nonneg_left hle ht.le)

/-! ## Arithmetic -/

def neg : Double → Double
  | finite q => finite (-q)
  | infinite negative => infinite !negative
  | nan => nan

def add : Double → Double → Double
  | finite p, finite q => ofRat (p + q)
  | finite _, infinite negative => infinite negative
  | infinite negative, finite _ => infinite negative
  | infinite negative, infinite negative' =>
    if negative = negative' then infinite negative else nan
  | nan, _ => nan
  | _, nan => nan

def sub (x y : Double) : Double := x.add y.neg

/-- `|x| ≥ |y|`. -/
def absGe : Double → Double → Bool
  | finite p, finite q => decide (|q| ≤ |p|)
  | infinite _, finite _ => true
  | infinite _, infinite _ => true
  | finite _, infinite _ => false
  | nan, _ => false
  | _, nan => false

lemma isFinite_ofRat (q : ℚ) : (ofRat q).isFinite = true ↔ InRange q := by
  unfold ofRat
  split_ifs with h
  · exact iff_of_true rfl h
  · exact iff_of_false Bool.false_ne_true h

lemma ofRat_of_inRange {q : ℚ} (h : InRange q) : ofRat q = finite (nearest q) := if_pos h

lemma exists_of_isFinite {x : Double} (h : x.isFinite = true) : ∃ q, x = finite q := by
  cases x with
  | finite q => exact ⟨q, rfl⟩
  | infinite _ => exact absurd h Bool.false_ne_true
  | nan => exact absurd h Bool.false_ne_true

/-- What is not finite stays so. -/
lemma isFinite_add_left {x y : Double} (h : x.isFinite = false) : (x.add y).isFinite = false := by
  cases x with
  | finite q => exact (Bool.false_ne_true h.symm).elim
  | infinite negative =>
    cases y with
    | finite q => rfl
    | infinite negative' =>
      rw [add]
      split_ifs <;> rfl
    | nan => rfl
  | nan => cases y <;> rfl

lemma isFinite_add_right {x y : Double} (h : y.isFinite = false) : (x.add y).isFinite = false := by
  cases y with
  | finite q => exact (Bool.false_ne_true h.symm).elim
  | infinite negative =>
    cases x with
    | finite q => rfl
    | infinite negative' =>
      rw [add]
      split_ifs <;> rfl
    | nan => rfl
  | nan => cases x <;> rfl

/-! ## Summing up -/

/-- What rounding has taken from `hi + x = t`. -/
def lost (hi x t : Double) : Double :=
  if hi.absGe x then (hi.sub t).add x else (x.sub t).add hi

/-- One more number; `lo` collects what is lost. -/
def addCompensated (total : Double × Double) (x : Double) : Double × Double :=
  (total.1.add x, total.2.add (lost total.1 x (total.1.add x)))

/-- The total with what was lost, unless that is nothing or not finite. -/
def corrected (total : Double × Double) : Double :=
  if total.2 ≠ finite 0 ∧ total.2.isFinite = true then total.1.add total.2 else total.1

/-- `sum(xs)`. -/
def sum : List Double → Double
  | [] => finite 0
  | x :: xs => corrected (xs.foldl addCompensated (x, finite 0))

/-- The numbers that are still to be added to `hi` are finite, and no total gets out of range. -/
def StaysInRange : ℚ → Double → List Double → Prop
  | hi, lo, [] => ∀ q, lo = finite q → q ≠ 0 → InRange (hi + q)
  | hi, lo, x :: xs => ∃ q, x = finite q ∧ InRange (hi + q) ∧
      StaysInRange (nearest (hi + q)) (lo.add (lost (finite hi) x (finite (nearest (hi + q))))) xs

/-- The numbers are finite, and neither a running total nor the last one with what was lost in
rounding gets out of range. -/
def SumsUp : List Double → Prop
  | [] => True
  | x :: xs => ∃ q, x = finite q ∧ StaysInRange q (finite 0) xs

/-- A total that is not finite remains so. -/
lemma isFinite_corrected_of_not {hi lo : Double} (xs : List Double) (h : hi.isFinite = false) :
    (corrected (xs.foldl addCompensated (hi, lo))).isFinite = false := by
  induction xs generalizing hi lo with
  | nil =>
    unfold corrected
    split_ifs
    · exact isFinite_add_left h
    · exact h
  | cons x xs ih => exact ih (isFinite_add_left h)

lemma isFinite_corrected_iff {hi : ℚ} {lo : Double} (xs : List Double) :
    (corrected (xs.foldl addCompensated (finite hi, lo))).isFinite = true ↔
      StaysInRange hi lo xs := by
  induction xs generalizing hi lo with
  | nil =>
    unfold corrected StaysInRange
    split_ifs with h
    · obtain ⟨q, rfl⟩ := exists_of_isFinite h.2
      have hq : q ≠ 0 := fun hzero => h.1 (congrArg finite hzero)
      rw [List.foldl_nil, add, isFinite_ofRat]
      constructor
      · intro hrange q' heq _
        cases heq
        exact hrange
      · exact fun hall => hall q rfl hq
    · refine iff_of_true rfl fun q heq hq => absurd ⟨?_, ?_⟩ h
      · rw [List.foldl_nil, heq]
        exact fun hzero => hq (finite.inj hzero)
      · rw [List.foldl_nil, heq]
        rfl
  | cons x xs ih =>
    have hout : ((finite hi).add x).isFinite = false →
        (corrected ((x :: xs).foldl addCompensated (finite hi, lo))).isFinite = false :=
      isFinite_corrected_of_not xs
    rw [StaysInRange]
    by_cases hx : x.isFinite = true
    · obtain ⟨q, rfl⟩ := exists_of_isFinite hx
      by_cases hrange : InRange (hi + q)
      · have hadd : (finite hi).add (finite q) = finite (nearest (hi + q)) :=
          ofRat_of_inRange hrange
        rw [List.foldl_cons, addCompensated, hadd, ih]
        constructor
        · exact fun h => ⟨q, rfl, hrange, h⟩
        · rintro ⟨q', heq, _, h⟩
          cases heq
          exact h
      · have hinfinite : ((finite hi).add (finite q)).isFinite = false :=
          Bool.eq_false_iff.mpr fun h => hrange ((isFinite_ofRat _).mp h)
        rw [hout hinfinite]
        refine iff_of_false Bool.false_ne_true ?_
        rintro ⟨q', heq, hrange', _⟩
        cases heq
        exact hrange hrange'
    · rw [hout (isFinite_add_right (Bool.eq_false_iff.mpr hx))]
      refine iff_of_false Bool.false_ne_true ?_
      rintro ⟨q, rfl, _⟩
      exact hx rfl

/-- A sum is finite exactly when the numbers sum up. -/
theorem isFinite_sum_iff (xs : List Double) : (sum xs).isFinite = true ↔ SumsUp xs := by
  cases xs with
  | nil => exact iff_of_true rfl trivial
  | cons x xs =>
    unfold sum SumsUp
    cases x with
    | finite q =>
      rw [isFinite_corrected_iff]
      constructor
      · exact fun h => ⟨q, rfl, h⟩
      · rintro ⟨q', heq, h⟩
        cases heq
        exact h
    | infinite negative =>
      rw [isFinite_corrected_of_not xs rfl]
      exact iff_of_false Bool.false_ne_true fun ⟨_, heq, _⟩ => nomatch heq
    | nan =>
      rw [isFinite_corrected_of_not xs rfl]
      exact iff_of_false Bool.false_ne_true fun ⟨_, heq, _⟩ => nomatch heq

end Double
