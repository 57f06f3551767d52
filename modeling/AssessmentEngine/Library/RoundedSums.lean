import AssessmentEngine.Library.Double

/-!
# Sums of doubles

How far sums and quotients of doubles are from the exact ones, where nothing gets out of range.  A
running sum rounds after each addition, as databases do it; a compensated one adds up what rounding
has taken as well, as scripting languages do it (`sum_map_finite`).  Either stays within a few
units of the sum (`abs_roundedSum_sub_le`, `abs_compensatedSum_sub_le`), a unit being the last of
52 places of what the numbers amount to.
-/

namespace Double

open FixedPoint

/-! ### How far rounding goes -/

/-- Rounding changes the last of 53 places; what is too small for them is not worth more than
one. -/
lemma abs_nearest_sub_le_unit (q : ℚ) : |nearest q - q| ≤ (|q| + 1) / 2 ^ 53 := by
  have hplace : (2 : ℚ) ^ lastPlace q / 2 ≤ (|q| + 1) / 2 ^ 53 := by
    rcases max_choice (Int.log 2 |q| - 52) (-1074) with h | h
    · have hle : (2 : ℚ) ^ Int.log 2 |q| ≤ |q| + 1 := by
        rcases (abs_nonneg q).eq_or_lt with hzero | hpos
        · rw [← hzero, Int.log_zero_right]
          norm_num
        · linarith [(le_log_iff hpos).mpr le_rfl]
      rw [lastPlace, h, zpow_sub₀ two_ne_zero]
      norm_num
      linarith
    · rw [lastPlace, h]
      have hsmall : (2 : ℚ) ^ (-1074 : ℤ) ≤ 2 ^ (-52 : ℤ) :=
        zpow_le_zpow_right₀ one_le_two (by norm_num)
      have hunit : (2 : ℚ) ^ (-52 : ℤ) = 1 / 2 ^ 52 := by norm_num
      generalize (2 : ℚ) ^ (-1074 : ℤ) = tiny at hsmall ⊢
      have habs := abs_nonneg q
      rw [hunit] at hsmall
      linarith
  exact (abs_nearest_sub_le q).trans hplace

lemma abs_nearest_le (q : ℚ) : |nearest q| ≤ |q| + (|q| + 1) / 2 ^ 53 := by
  linarith [abs_sub_abs_le_abs_sub (nearest q) q, abs_nearest_sub_le_unit q]

/-- Rounding an approximation of `s` that is as large as `b` at most. -/
lemma abs_nearest_sub_le_of_near {q s e b : ℚ} (hnear : |q - s| ≤ e) (hs : |s| ≤ b) :
    |nearest q - s| ≤ e + (b + e + 1) / 2 ^ 53 := by
  have hq : |q| ≤ b + e := by linarith [abs_sub_abs_le_abs_sub q s]
  have hround := abs_nearest_sub_le_unit q
  calc |nearest q - s| = |(nearest q - q) + (q - s)| := by rw [sub_add_sub_cancel]
    _ ≤ |nearest q - q| + |q - s| := abs_add_le _ _
    _ ≤ e + (b + e + 1) / 2 ^ 53 := by linarith

/-! ### Running sums -/

/-- Each addition is rounded. -/
def roundedSum (round : ℚ → ℚ) : List ℚ → ℚ
  | [] => 0
  | x :: xs => xs.foldl (fun s v => round (s + v)) x

lemma roundedSum_nonneg {xs : List ℚ} (hnonneg : ∀ x ∈ xs, 0 ≤ x) :
    0 ≤ roundedSum nearest xs := by
  cases xs with
  | nil => exact le_rfl
  | cons x xs =>
    obtain ⟨hx, hxs⟩ := List.forall_mem_cons.mp hnonneg
    rw [roundedSum]
    clear hnonneg
    induction xs generalizing x with
    | nil => exact hx
    | cons y ys ih =>
      obtain ⟨hy, hys⟩ := List.forall_mem_cons.mp hxs
      exact ih _ (nearest_nonneg (add_nonneg hx hy)) hys

/-- The sum of the sizes of some numbers. -/
def size (xs : List ℚ) : ℚ := (xs.map (|·|)).sum

lemma size_nonneg (xs : List ℚ) : 0 ≤ size xs := by
  apply List.sum_nonneg
  intro v hv
  obtain ⟨x, -, rfl⟩ := List.mem_map.mp hv
  exact abs_nonneg x

lemma abs_le_size {x : ℚ} {xs : List ℚ} (hx : x ∈ xs) : |x| ≤ size xs := by
  apply List.single_le_sum
  · intro v hv
    obtain ⟨y, -, rfl⟩ := List.mem_map.mp hv
    exact abs_nonneg y
  · exact List.mem_map_of_mem hx

lemma abs_sum_le_size (xs : List ℚ) : |xs.sum| ≤ size xs := by
  induction xs with
  | nil => simp [size]
  | cons x xs ih =>
    rw [size, List.map_cons, List.sum_cons, List.sum_cons]
    exact (abs_add_le _ _).trans (add_le_add_right ih _)

/-- An addition moves the running total by one unit more from the exact one. -/
lemma abs_foldl_sub_le {xs : List ℚ} {total s b : ℚ} {k : ℕ} (hsize : |s| + size xs ≤ b)
    (hnear : |total - s| ≤ k * ((b + 1) / 2 ^ 52)) (hk : (k : ℚ) + xs.length ≤ 2 ^ 52) :
    |xs.foldl (fun s v => nearest (s + v)) total - (s + xs.sum)| ≤
      (k + xs.length) * ((b + 1) / 2 ^ 52) := by
  induction xs generalizing total s k with
  | nil => simpa using hnear
  | cons x xs ih =>
    have hrest := size_nonneg xs
    have hsplit : size (x :: xs) = |x| + size xs := rfl
    have hstep : |s + x| ≤ |s| + |x| := abs_add_le s x
    have hb : 0 ≤ b := by linarith [abs_nonneg s, abs_nonneg x]
    rw [List.length_cons, Nat.cast_succ] at hk ⊢
    have hlength : (0 : ℚ) ≤ xs.length := Nat.cast_nonneg _
    have hle : (k : ℚ) ≤ 2 ^ 52 := by linarith
    have herror : k * ((b + 1) / 2 ^ 52) ≤ b + 1 := by
      rw [← mul_div_assoc, div_le_iff₀ (by norm_num), mul_comm]
      exact mul_le_mul_of_nonneg_left hle (by linarith)
    have hnext : |nearest (total + x) - (s + x)| ≤ ((k + 1 : ℕ) : ℚ) * ((b + 1) / 2 ^ 52) := by
      have hbefore : |total + x - (s + x)| ≤ k * ((b + 1) / 2 ^ 52) := by
        rwa [add_sub_add_right_eq_sub]
      have h := abs_nearest_sub_le_of_near hbefore (show |s + x| ≤ b by linarith)
      push_cast
      calc _ ≤ k * ((b + 1) / 2 ^ 52) + (b + k * ((b + 1) / 2 ^ 52) + 1) / 2 ^ 53 := h
        _ ≤ k * ((b + 1) / 2 ^ 52) + (b + (b + 1) + 1) / 2 ^ 53 := by gcongr
        _ = (k + 1) * ((b + 1) / 2 ^ 52) := by ring
    have h := ih (s := s + x) (k := k + 1) (by linarith) hnext (by push_cast; linarith)
    push_cast at h
    rw [List.foldl_cons, List.sum_cons, ← add_assoc]
    calc _ ≤ (k + 1 + xs.length) * ((b + 1) / 2 ^ 52) := h
      _ = (k + (xs.length + 1)) * ((b + 1) / 2 ^ 52) := by ring

/-- A running sum is a unit for each number away from the sum. -/
lemma abs_roundedSum_sub_le (xs : List ℚ) (hlength : (xs.length : ℚ) ≤ 2 ^ 52) :
    |roundedSum nearest xs - xs.sum| ≤ xs.length * ((size xs + 1) / 2 ^ 52) := by
  cases xs with
  | nil => simp [roundedSum]
  | cons x xs =>
    have hnonneg := size_nonneg (x :: xs)
    have hsplit : size (x :: xs) = |x| + size xs := rfl
    rw [List.length_cons, Nat.cast_succ] at hlength ⊢
    have hstart : |x - x| ≤ ((0 : ℕ) : ℚ) * ((size (x :: xs) + 1) / 2 ^ 52) := by simp
    have h := abs_foldl_sub_le hsplit.ge hstart (by push_cast; linarith)
    rw [Nat.cast_zero, zero_add] at h
    rw [roundedSum, List.sum_cons]
    refine h.trans (mul_le_mul_of_nonneg_right ?_ (by positivity))
    linarith

/-! ### Compensated sums -/

/-- What rounding has taken from `hi + x = t`, of numbers in range. -/
def lostOf (hi x t : ℚ) : ℚ :=
  if |x| ≤ |hi| then nearest (nearest (hi - t) + x) else nearest (nearest (x - t) + hi)

def addLost (total : ℚ × ℚ) (x : ℚ) : ℚ × ℚ :=
  (nearest (total.1 + x), nearest (total.2 + lostOf total.1 x (nearest (total.1 + x))))

/-- `sum(xs)`, of numbers whose totals stay in range. -/
def compensatedSum : List ℚ → ℚ
  | [] => 0
  | x :: xs =>
    let total := xs.foldl addLost (x, 0)
    if total.2 ≠ 0 then nearest (total.1 + total.2) else total.1

lemma abs_lost_le {a c b : ℚ} (hc : |c| ≤ 2 * (b + 1)) (hsum : |a + c| ≤ 3 * (b + 1))
    (hb : 0 ≤ b) : |nearest (nearest (a - nearest (a + c)) + c)| ≤ 5 * ((b + 1) / 2 ^ 52) := by
  have htotal := abs_nearest_sub_le_unit (a + c)
  have hdiff : |a - nearest (a + c) - -c| ≤ 4 * (b + 1) / 2 ^ 53 := by
    have heq : a - nearest (a + c) - -c = -(nearest (a + c) - (a + c)) := by ring
    rw [heq, abs_neg]
    calc _ ≤ (|a + c| + 1) / 2 ^ 53 := htotal
      _ ≤ 4 * (b + 1) / 2 ^ 53 := by gcongr; linarith
  have hrest := abs_nearest_sub_le_of_near hdiff (show |-c| ≤ 2 * (b + 1) by rwa [abs_neg])
  rw [sub_neg_eq_add] at hrest
  have hrest' : |nearest (a - nearest (a + c)) + c - 0| ≤ 8 * (b + 1) / 2 ^ 53 := by
    rw [sub_zero]
    linarith
  have h := abs_nearest_sub_le_of_near hrest' (show |(0 : ℚ)| ≤ 0 by simp)
  rw [sub_zero] at h
  linarith

/-- The units of a list that is not too long stay small. -/
lemma mul_unit_le {b k : ℚ} (hk : k ≤ 2 ^ 48) (hb : 0 ≤ b) :
    k * ((b + 1) / 2 ^ 52) ≤ (b + 1) / 16 := by
  have h := mul_le_mul_of_nonneg_right hk (show 0 ≤ (b + 1) / 2 ^ 52 by positivity)
  linarith

/-- The total is near the sum of `k` numbers, and what is collected is small. -/
structure Tracks (b : ℚ) (k : ℕ) (s : ℚ) (total : ℚ × ℚ) : Prop where
  hi : |total.1 - s| ≤ k * ((b + 1) / 2 ^ 52)
  lo : |total.2| ≤ 7 * k * ((b + 1) / 2 ^ 52)

lemma Tracks.addLost {b s x : ℚ} {k : ℕ} {total : ℚ × ℚ} (h : Tracks b k s total)
    (hsize : |s| + |x| ≤ b) (hk : (k : ℚ) ≤ 2 ^ 48) :
    Tracks b (k + 1) (s + x) (addLost total x) := by
  obtain ⟨hhi, hlo⟩ := h
  have hs := abs_nonneg s
  have hx := abs_nonneg x
  have hb : 0 ≤ b := by linarith
  have hsum : |s + x| ≤ b := (abs_add_le s x).trans hsize
  have herror := mul_unit_le hk hb
  have hbefore : |total.1 + x - (s + x)| ≤ k * ((b + 1) / 2 ^ 52) := by
    rwa [add_sub_add_right_eq_sub]
  have hnext := abs_nearest_sub_le_of_near hbefore hsum
  have hfirst : |total.1| ≤ 2 * (b + 1) := by linarith [abs_sub_abs_le_abs_sub total.1 s]
  have hboth : |total.1 + x| ≤ 3 * (b + 1) := by linarith [abs_add_le total.1 x]
  have hlost : |lostOf total.1 x (nearest (total.1 + x))| ≤ 5 * ((b + 1) / 2 ^ 52) := by
    unfold lostOf
    split_ifs
    · exact abs_lost_le (by linarith) hboth hb
    · rw [add_comm total.1]
      exact abs_lost_le hfirst (by rwa [add_comm]) hb
  have hcollected : |total.2 + lostOf total.1 x (nearest (total.1 + x)) - 0| ≤
      7 * k * ((b + 1) / 2 ^ 52) + 5 * ((b + 1) / 2 ^ 52) := by
    rw [sub_zero]
    exact (abs_add_le _ _).trans (add_le_add hlo hlost)
  have hround := abs_nearest_sub_le_of_near hcollected (show |(0 : ℚ)| ≤ 0 by simp)
  rw [sub_zero] at hround
  constructor
  · push_cast
    refine hnext.trans ?_
    linarith
  · push_cast
    refine hround.trans ?_
    linarith

lemma Tracks.foldl {b s : ℚ} {k : ℕ} {total : ℚ × ℚ} (xs : List ℚ) (h : Tracks b k s total)
    (hsize : |s| + size xs ≤ b) (hk : (k : ℚ) + xs.length ≤ 2 ^ 48) :
    Tracks b (k + xs.length) (s + xs.sum) (xs.foldl Double.addLost total) := by
  induction xs generalizing total s k with
  | nil => simpa using h
  | cons x xs ih =>
    have hrest := size_nonneg xs
    have hsplit : size (x :: xs) = |x| + size xs := rfl
    have hstep : |s + x| ≤ |s| + |x| := abs_add_le s x
    rw [List.length_cons, Nat.cast_succ] at hk
    have hlength : (0 : ℚ) ≤ xs.length := Nat.cast_nonneg _
    have hnext := ih (h.addLost (x := x) (by linarith) (by linarith)) (by linarith)
      (by push_cast; linarith)
    rw [List.foldl_cons, List.sum_cons, ← add_assoc, List.length_cons, Nat.add_comm xs.length,
      ← Nat.add_assoc]
    exact hnext

/-- What is collected changes the total by no more than itself and a unit. -/
lemma Tracks.corrected {b s : ℚ} {k : ℕ} {total : ℚ × ℚ} (h : Tracks b k s total) (hs : |s| ≤ b)
    (hk : (k : ℚ) ≤ 2 ^ 48) :
    |(if total.2 ≠ 0 then nearest (total.1 + total.2) else total.1) - s| ≤
      (8 * k + 1) * ((b + 1) / 2 ^ 52) := by
  have hb : 0 ≤ b := (abs_nonneg s).trans hs
  have herror := mul_unit_le hk hb
  have hk0 : 0 ≤ k * ((b + 1) / 2 ^ 52) := by positivity
  split_ifs
  · have hnear : |total.1 + total.2 - s| ≤ 8 * (k * ((b + 1) / 2 ^ 52)) := by
      have hadd := abs_add_le (total.1 - s) total.2
      rw [sub_add_eq_add_sub] at hadd
      linarith [h.hi, h.lo]
    have hround := abs_nearest_sub_le_of_near hnear hs
    linarith
  · linarith [h.hi]

/-- A compensated sum is close to the sum. -/
lemma abs_compensatedSum_sub_le (xs : List ℚ) (hlength : (xs.length : ℚ) ≤ 2 ^ 48) :
    |compensatedSum xs - xs.sum| ≤ (8 * xs.length + 1) * ((size xs + 1) / 2 ^ 52) := by
  cases xs with
  | nil => simp [compensatedSum, size]
  | cons x xs =>
    have hsum := abs_sum_le_size (x :: xs)
    have hnonneg := size_nonneg (x :: xs)
    have hsplit : |x| + size xs ≤ size (x :: xs) := le_rfl
    rw [List.length_cons, Nat.cast_succ] at hlength ⊢
    generalize size (x :: xs) = b at *
    have hstart : Tracks b 0 x (x, 0) := ⟨by simp, by simp⟩
    have htracks := hstart.foldl xs hsplit (by push_cast; linarith)
    rw [Nat.zero_add] at htracks
    refine (htracks.corrected hsum (by linarith)).trans ?_
    refine mul_le_mul_of_nonneg_right ?_ (by positivity)
    linarith

/-! ### Compensated sums of doubles -/

section InRange

variable {b : ℚ} (hb : b + 1 ≤ 2 ^ 1000)

include hb

/-- What is not too large is rounded to a finite double. -/
lemma ofRat_of_abs_le {q : ℚ} (hq : |q| ≤ 16 * (b + 1)) : ofRat q = finite (nearest q) := by
  have hround := abs_nearest_le q
  have habs := abs_nonneg q
  have hlimit : (2 : ℚ) ^ 1024 = 2 ^ 24 * 2 ^ 1000 := pow_add 2 24 1000
  have hbig : (1 : ℚ) ≤ 2 ^ 1000 := one_le_pow₀ one_le_two
  apply ofRat_of_inRange
  unfold InRange
  rw [hlimit]
  clear hlimit
  generalize (2 : ℚ) ^ 1000 = limit at hb hbig ⊢
  linarith

/-- What rounding has taken is found in range too, `a` being the larger one. -/
lemma lost_finite {a c t : ℚ} (hb0 : 0 ≤ b) (ht : |t| ≤ 4 * (b + 1)) (ha : |a| ≤ 2 * (b + 1))
    (hboth : |a| + |c| ≤ 3 * (b + 1)) :
    add (sub (finite a) (finite t)) (finite c) = finite (nearest (nearest (a - t) + c)) ∧
      |nearest (nearest (a - t) + c)| ≤ 9 * (b + 1) := by
  have hc := abs_nonneg c
  have hdiff := abs_sub a t
  have hnear := abs_nearest_le (a - t)
  have hrest : |nearest (a - t) + c| ≤ 8 * (b + 1) := by
    linarith [abs_add_le (nearest (a - t)) c]
  constructor
  · have hfirst : sub (finite a) (finite t) = finite (nearest (a - t)) := by
      rw [sub, neg, add, ← sub_eq_add_neg]
      exact ofRat_of_abs_le hb (by linarith)
    rw [hfirst]
    exact ofRat_of_abs_le hb (by linarith)
  · linarith [abs_nearest_le (nearest (a - t) + c)]

lemma addCompensated_finite {s x : ℚ} {k : ℕ} {hi lo : ℚ} (h : Tracks b k s (hi, lo))
    (hsize : |s| + |x| ≤ b) (hk : (k : ℚ) ≤ 2 ^ 48) :
    addCompensated (finite hi, finite lo) (finite x) =
      (finite (addLost (hi, lo) x).1, finite (addLost (hi, lo) x).2) := by
  have hs := abs_nonneg s
  have hx := abs_nonneg x
  have hb0 : 0 ≤ b := by linarith
  have herror := mul_unit_le hk hb0
  have hhi : |hi| ≤ 2 * (b + 1) := by linarith [abs_sub_abs_le_abs_sub hi s, h.hi]
  have hlo : |lo| ≤ b + 1 := by linarith [h.lo]
  have hboth : |hi + x| ≤ 3 * (b + 1) := by linarith [abs_add_le hi x]
  have hround := abs_nearest_le (hi + x)
  set t := nearest (hi + x) with ht
  have htotal : |t| ≤ 4 * (b + 1) := by linarith
  have hadd : add (finite hi) (finite x) = finite t := ofRat_of_abs_le hb (by linarith)
  have hx' : |x| ≤ 2 * (b + 1) := by linarith
  obtain ⟨hfirst, hfirst'⟩ := lost_finite hb hb0 htotal hhi (show |hi| + |x| ≤ _ by linarith)
  obtain ⟨hsecond, hsecond'⟩ := lost_finite hb hb0 htotal hx' (show |x| + |hi| ≤ _ by linarith)
  have hlost : lost (finite hi) (finite x) (finite t) = finite (lostOf hi x t) ∧
      |lostOf hi x t| ≤ 9 * (b + 1) := by
    unfold lost lostOf absGe
    by_cases hlarger : |x| ≤ |hi|
    · rw [if_pos (decide_eq_true hlarger), if_pos hlarger]
      exact ⟨hfirst, hfirst'⟩
    · rw [if_neg (by simpa using hlarger), if_neg hlarger]
      exact ⟨hsecond, hsecond'⟩
  have hcollect : add (finite lo) (finite (lostOf hi x t)) =
      finite (nearest (lo + lostOf hi x t)) :=
    ofRat_of_abs_le hb (by linarith [abs_add_le lo (lostOf hi x t)])
  rw [addCompensated, hadd, hlost.1, hcollect]
  rfl

lemma foldl_addCompensated_finite {s : ℚ} {k : ℕ} {total : ℚ × ℚ} (xs : List ℚ)
    (h : Tracks b k s total) (hsize : |s| + size xs ≤ b) (hk : (k : ℚ) + xs.length ≤ 2 ^ 48) :
    (xs.map finite).foldl addCompensated (finite total.1, finite total.2) =
      (finite (xs.foldl addLost total).1, finite (xs.foldl addLost total).2) := by
  induction xs generalizing total s k with
  | nil => rfl
  | cons x xs ih =>
    have hrest := size_nonneg xs
    have hsplit : size (x :: xs) = |x| + size xs := rfl
    have hstep : |s + x| ≤ |s| + |x| := abs_add_le s x
    rw [List.length_cons, Nat.cast_succ] at hk
    have hlength : (0 : ℚ) ≤ xs.length := Nat.cast_nonneg _
    have hfirst := addCompensated_finite hb (x := x) h (by linarith) (by linarith)
    have hnext := ih (h.addLost (x := x) (by linarith) (by linarith)) (by linarith)
      (by push_cast; linarith)
    rw [List.map_cons, List.foldl_cons, hfirst, List.foldl_cons]
    exact hnext

end InRange

/-- Doubles that do not get out of range are summed up as numbers are. -/
theorem sum_map_finite {xs : List ℚ} (hsize : size xs + 1 ≤ 2 ^ 1000)
    (hlength : (xs.length : ℚ) ≤ 2 ^ 48) : sum (xs.map finite) = finite (compensatedSum xs) := by
  cases xs with
  | nil => rfl
  | cons x xs =>
    have hsum := abs_sum_le_size (x :: xs)
    have hsplit : |x| + size xs ≤ size (x :: xs) := le_rfl
    rw [List.length_cons, Nat.cast_succ] at hlength
    generalize size (x :: xs) = b at *
    have hstart : Tracks b 0 x (x, 0) := ⟨by simp, by simp⟩
    have hfold := foldl_addCompensated_finite hsize xs hstart hsplit (by push_cast; linarith)
    have htracks := hstart.foldl xs hsplit (by push_cast; linarith)
    have hb : 0 ≤ b := (abs_nonneg _).trans hsum
    have hunit := mul_unit_le (show ((0 + xs.length : ℕ) : ℚ) ≤ 2 ^ 48 by push_cast; linarith) hb
    rw [List.sum_cons] at hsum
    rw [List.map_cons, sum, hfold, corrected, compensatedSum]
    generalize xs.foldl addLost (x, 0) = total at *
    have hfirst : |total.1| ≤ 2 * (b + 1) := by
      linarith [abs_sub_abs_le_abs_sub total.1 (x + xs.sum), htracks.hi]
    have hboth : |total.1 + total.2| ≤ 16 * (b + 1) := by
      linarith [abs_add_le total.1 total.2, htracks.lo]
    by_cases hzero : total.2 = 0
    · rw [if_neg fun h => h.1 (congrArg finite hzero), if_neg (not_not.mpr hzero)]
    · rw [if_pos ⟨fun h => hzero (finite.inj h), rfl⟩, if_pos hzero]
      exact ofRat_of_abs_le hsize hboth

/-! ### Quotients of sums -/

lemma roundedSum_id (xs : List ℚ) : roundedSum id xs = xs.sum := by
  cases xs with
  | nil => rfl
  | cons x xs =>
    simp only [roundedSum, id_eq, List.sum_cons]
    induction xs generalizing x with
    | nil => simp
    | cons y xs ih => rw [List.foldl_cons, ih, List.sum_cons, add_assoc]

lemma size_eq_sum {xs : List ℚ} (hnonneg : ∀ x ∈ xs, 0 ≤ x) : size xs = xs.sum := by
  have hsame : xs.map (fun x => |x|) = xs.map id :=
    List.map_congr_left fun x hx => abs_of_nonneg (hnonneg x hx)
  rw [size, hsame, List.map_id]

/-- A part of a hundred is no more than that where the running sums are far enough apart for what
rounding takes: `w` is what the numbers amount to. -/
lemma percent_of_sums {nums totals : List ℚ} {w : ℚ} (hlength : nums.length = totals.length)
    (hnums : ∀ x ∈ nums, 0 ≤ x) (htotals : ∀ x ∈ totals, 0 ≤ x) (hw : 2 * totals.length ≤ w)
    (hle : totals.sum ≤ 2 * w)
    (hgap : nums.sum + (totals.length + 32) / 2 ^ 48 * w ≤ totals.sum)
    (hpos : 0 < roundedSum nearest totals) :
    0 ≤ nearest (nearest (roundedSum nearest nums * 100) / roundedSum nearest totals) ∧
      nearest (nearest (roundedSum nearest nums * 100) / roundedSum nearest totals) ≤ 100 := by
  have hsum0 : 0 ≤ nums.sum := List.sum_nonneg hnums
  have hone : (1 : ℚ) ≤ totals.length := by
    cases totals with
    | nil => exact absurd hpos (lt_irrefl 0)
    | cons x xs => simp
  set m : ℚ := (totals.length : ℚ) with hm
  have hsmall : m + 32 ≤ 2 ^ 49 := by
    by_contra hlarge
    have h := mul_lt_mul_of_pos_right (not_le.mp hlarge) (show 0 < w by linarith)
    linarith
  have hmw : 0 ≤ m * w := mul_nonneg (by linarith) (by linarith)
  have hmsum : m * (totals.sum + 1) ≤ m * (3 * w) :=
    mul_le_mul_of_nonneg_left (by linarith) (by linarith)
  have hmw' : m * w ≤ 2 ^ 49 * w := mul_le_mul_of_nonneg_right (by linarith) (by linarith)
  have hgap0 : 0 ≤ (m + 32) / 2 ^ 48 * w :=
    mul_nonneg (div_nonneg (by linarith) (by norm_num)) (by linarith)
  have hnum := abs_roundedSum_sub_le nums (by rw [hlength]; linarith)
  have htotal := abs_roundedSum_sub_le totals (by linarith)
  rw [size_eq_sum hnums, hlength, ← hm] at hnum
  rw [size_eq_sum htotals, ← hm] at htotal
  have hmnum : m * (nums.sum + 1) ≤ m * (3 * w) :=
    mul_le_mul_of_nonneg_left (by linarith) (by linarith)
  have hnum' := (abs_le.mp hnum).2
  have htotal' := (abs_le.mp htotal).1
  -- the running sum of nonnegative numbers is not negative
  have hnum0 : 0 ≤ roundedSum nearest nums := roundedSum_nonneg hnums
  set num := roundedSum nearest nums
  set total := roundedSum nearest totals
  have hhundred : nearest (num * 100) ≤ 100 * total := by
    have hround := (abs_le.mp (abs_nearest_sub_le_unit (num * 100))).2
    rw [abs_of_nonneg (by linarith)] at hround
    linarith
  have hscaled : 0 ≤ nearest (num * 100) := nearest_nonneg (by linarith)
  constructor
  · exact nearest_nonneg (div_nonneg hscaled hpos.le)
  · refine nearest_le_of_le ?_ (div_nonneg hscaled hpos.le) ((div_le_iff₀ hpos).mpr hhundred)
    exact_mod_cast isDouble_natCast (n := 100) (by norm_num)

end Double
