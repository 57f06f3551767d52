import Mathlib.Algebra.Order.BigOperators.Group.List
import Mathlib.Algebra.Order.Group.Unbundled.Basic
import Mathlib.Tactic.Abel
import Mathlib.Tactic.Push
import AssessmentEngine.Library.Nullable

/-!
# The spread of a counter

A cumulative counter rises by what it counts and falls when its owner restarts it from zero.  What
it counted between two values is their difference, or after a fall the later value (`rise`); over a
list of values this telescopes to the peaks, the values before a fall and the last one
(`counted_add_first`).  The difference between the greatest and the least value is another number.
Added up over several counters the two agree exactly when the counters are `Balanced`
(`sum_spread_eq_iff`), as they are when no counter falls.

The values of a counter are given twice, since what a query reads where nothing was measured need
not be absent.
-/

namespace CounterSpread

open Nullable

variable {α : Type*} [AddCommGroup α] [LinearOrder α]

/-! ## One counter -/

/-- What a counter counted between two values. -/
def rise (a b : α) : α := if b < a then b else b - a

/-- What was counted between neighbours. -/
def rises : List α → List α
  | a :: b :: vs => rise a b :: rises (b :: vs)
  | _ => []

/-- The values before a fall, and the last one. -/
def peaks : List α → List α
  | [] => []
  | [a] => [a]
  | a :: b :: vs => if b < a then a :: peaks (b :: vs) else peaks (b :: vs)

/-- `MAX(…) - MIN(…)`. -/
def spread (vs : List (Option α)) : Option α := do
  let high ← maxSome vs
  let low ← minSome vs
  return high - low

/-- What was counted, with what the counter showed at first, is the sum of its peaks. -/
lemma sum_rises_add_head (a : α) (vs : List α) :
    (rises (a :: vs)).sum + a = (peaks (a :: vs)).sum := by
  induction vs generalizing a with
  | nil => simp [rises, peaks]
  | cons b vs ih =>
    have hrest := ih b
    rw [rises, peaks, List.sum_cons, rise]
    by_cases hfall : b < a
    · rw [if_pos hfall, if_pos hfall, List.sum_cons, ← hrest]
      abel
    · rw [if_neg hfall, if_neg hfall, ← hrest]
      abel

omit [AddCommGroup α] in
/-- The peaks of a counter that never falls are its last value. -/
lemma peaks_of_pairwise {vs : List α} (h : vs.Pairwise (· ≤ ·)) :
    peaks vs = vs.getLast?.toList := by
  induction vs with
  | nil => rfl
  | cons a vs ih =>
    cases vs with
    | nil => rfl
    | cons b vs =>
      obtain ⟨hfirst, hrest⟩ := List.pairwise_cons.mp h
      rw [peaks, if_neg (hfirst b List.mem_cons_self).not_gt, ih hrest, List.getLast?_cons_cons]

/-- Something was counted only if two values differ. -/
lemma exists_ne_of_sum_rises_pos {vs : List α} (h : 0 < (rises vs).sum) :
    ∃ x ∈ vs, ∃ y ∈ vs, x ≠ y := by
  induction vs with
  | nil => exact absurd h (by simp [rises])
  | cons x vs ih =>
    cases vs with
    | nil => exact absurd h (by simp [rises])
    | cons y vs =>
      by_cases hxy : x = y
      · -- two equal values count nothing between them
        have hrest : 0 < (rises (y :: vs)).sum := by
          rw [rises, List.sum_cons, hxy, rise, if_neg (lt_irrefl y), sub_self, zero_add] at h
          exact h
        obtain ⟨a, ha, b, hb, hne⟩ := ih hrest
        exact ⟨a, List.mem_cons_of_mem _ ha, b, List.mem_cons_of_mem _ hb, hne⟩
      · exact ⟨x, List.mem_cons_self, y, List.mem_cons_of_mem _ List.mem_cons_self, hxy⟩

section Ordered

variable [IsOrderedAddMonoid α]

lemma spread_getD_nonneg (vs : List (Option α)) : 0 ≤ (spread vs).getD 0 := by
  unfold spread
  cases hmax : maxSome vs with
  | none => simp
  | some high =>
    cases hmin : minSome vs with
    | none => simp
    | some low =>
      have hle : low ≤ high := (minSome_eq_some_iff.mp hmin).2 high (maxSome_eq_some_iff.mp hmax).1
      exact sub_nonneg.mpr hle

/-- Two different values are a spread. -/
lemma spread_pos_of_ne {vs : List (Option α)} {x y : α} (hx : some x ∈ vs) (hy : some y ∈ vs)
    (hne : x ≠ y) : 0 < (spread vs).getD 0 := by
  obtain ⟨high, hhigh⟩ := Option.isSome_iff_exists.mp (maxSome_isSome_iff.mpr ⟨x, hx⟩)
  obtain ⟨low, hlow⟩ := Option.isSome_iff_exists.mp (minSome_isSome_iff.mpr ⟨x, hx⟩)
  have hle := (maxSome_eq_some_iff.mp hhigh).2
  have hge := (minSome_eq_some_iff.mp hlow).2
  have hlt : low < high := by
    rcases lt_or_gt_of_ne hne with hlt | hlt
    · exact (hge x hx).trans_lt (hlt.trans_le (hle y hy))
    · exact (hge y hy).trans_lt (hlt.trans_le (hle x hx))
  unfold spread
  rw [hhigh, hlow]
  exact sub_pos.mpr hlt

lemma sum_nonpos {vs : List α} (h : ∀ v ∈ vs, v ≤ 0) : vs.sum ≤ 0 := by
  have hnonneg : 0 ≤ (vs.map Neg.neg).sum := by
    apply List.sum_nonneg
    intro v hv
    obtain ⟨w, hw, rfl⟩ := List.mem_map.mp hv
    exact neg_nonneg.mpr (h w hw)
  rw [← List.sum_neg] at hnonneg
  exact neg_nonneg.mp hnonneg

/-- A sum of what is not negative is positive when something is. -/
lemma sum_pos_iff_of_nonneg {vs : List α} (hnonneg : ∀ v ∈ vs, 0 ≤ v) :
    0 < vs.sum ↔ ∃ v ∈ vs, 0 < v := by
  constructor
  · intro hpos
    by_contra hnone
    push Not at hnone
    exact hpos.not_ge (sum_nonpos hnone)
  · rintro ⟨v, hv, hpos⟩
    exact hpos.trans_le (List.single_le_sum hnonneg v hv)

end Ordered

/-! ## Several counters -/

/-- A counter over a window of time: what is read of it, and the values that were measured, in
their order. -/
structure Readings (α : Type*) where
  read : List (Option α)
  measured : List α

namespace Readings

/-- What the counter counted. -/
def counted (c : Readings α) : α := (rises c.measured).sum

/-- The difference between what is read at most and at least. -/
def spread (c : Readings α) : α := (CounterSpread.spread c.read).getD 0

/-- The greatest value read. -/
def high (c : Readings α) : α := (maxSome c.read).getD 0

/-- The least value read. -/
def low (c : Readings α) : α := (minSome c.read).getD 0

/-- The first value measured. -/
def first (c : Readings α) : α := c.measured.head?.getD 0

/-- The sum of the peaks. -/
def peakSum (c : Readings α) : α := (peaks c.measured).sum

/-- Between no two measured values was anything counted. -/
def NeverRose (c : Readings α) : Prop := ∀ v ∈ rises c.measured, v ≤ 0

lemma counted_add_first (c : Readings α) : c.counted + c.first = c.peakSum := by
  unfold counted first peakSum
  cases c.measured with
  | nil => simp [rises, peaks]
  | cons a vs => exact sum_rises_add_head a vs

lemma spread_add_low (c : Readings α) : c.spread + c.low = c.high := by
  unfold spread low high CounterSpread.spread
  cases hmax : maxSome c.read with
  | none =>
    have hmin : minSome c.read = none := by
      have hnone : ¬(maxSome c.read).isSome := by simp [hmax]
      rw [maxSome_isSome_iff, ← minSome_isSome_iff] at hnone
      simpa using hnone
    simp [hmin]
  | some high =>
    obtain ⟨low, hmin⟩ : ∃ low, minSome c.read = some low := by
      rw [← Option.isSome_iff_exists, minSome_isSome_iff, ← maxSome_isSome_iff, hmax]
      rfl
    simp [hmin]

section Ordered

variable [IsOrderedAddMonoid α]

lemma spread_nonneg (c : Readings α) : 0 ≤ c.spread := spread_getD_nonneg c.read

lemma NeverRose.counted_nonpos {c : Readings α} (h : c.NeverRose) : c.counted ≤ 0 :=
  sum_nonpos h

end Ordered

/-- Nothing is read but what was measured, and nothing measured is below what was measured
before. -/
structure NeverFalls (c : Readings α) : Prop where
  read : c.read.reduceOption = c.measured
  rising : c.measured.Pairwise (· ≤ ·)

/-- A counter that never falls balances itself. -/
lemma NeverFalls.high_add_first {c : Readings α} (hc : c.NeverFalls) :
    c.high + c.first = c.peakSum + c.low := by
  have h := hc.rising
  have hsame : c.read.reduceOption = (c.measured.map some).reduceOption := by
    rw [hc.read, List.reduceOption, List.filterMap_map]
    exact List.filterMap_some.symm
  unfold high first peakSum low maxSome minSome
  rw [hsame, peaks_of_pairwise h, ← maxSome, ← minSome]
  cases hmeasured : c.measured with
  | nil => rfl
  | cons a vs =>
    obtain ⟨z, hz⟩ : ∃ z, (a :: vs).getLast? = some z := by
      rw [← Option.isSome_iff_exists]
      simp
    rw [hmeasured] at h
    have hhigh : maxSome ((a :: vs).map some) = some z := by
      rw [maxSome_eq_some_iff]
      refine ⟨List.mem_map_of_mem (List.mem_of_getLast? hz), fun x hx => ?_⟩
      replace hx := (List.mem_map_of_injective (Option.some_injective α)).mp hx
      obtain ⟨init, hinit⟩ := List.getLast?_eq_some_iff.mp hz
      rw [hinit] at h hx
      rcases List.mem_append.mp hx with hx | hx
      · exact (List.pairwise_append.mp h).2.2 x hx z (List.mem_singleton_self z)
      · exact (List.mem_singleton.mp hx).le
    have hlow : minSome ((a :: vs).map some) = some a := by
      rw [minSome_eq_some_iff]
      refine ⟨List.mem_map_of_mem List.mem_cons_self, fun x hx => ?_⟩
      replace hx := (List.mem_map_of_injective (Option.some_injective α)).mp hx
      rcases List.mem_cons.mp hx with rfl | hx
      · exact le_rfl
      · exact (List.pairwise_cons.mp h).1 x hx
    rw [hhigh, hlow, hz]
    simp

end Readings

open Readings

/-- Added up, what the counters show at most and at first is what they show at their peaks and at
least. -/
def Balanced (cs : List (Readings α)) : Prop :=
  (cs.map fun c => c.high + c.first).sum = (cs.map fun c => c.peakSum + c.low).sum

instance (cs : List (Readings α)) : Decidable (Balanced cs) :=
  inferInstanceAs (Decidable (_ = _))

/-- The spreads add up to what was counted exactly when the counters are balanced. -/
lemma sum_spread_eq_iff (cs : List (Readings α)) :
    (cs.map Readings.spread).sum = (cs.map counted).sum ↔ Balanced cs := by
  have hspread : (cs.map fun c => c.high + c.first).sum =
      (cs.map Readings.spread).sum + ((cs.map low).sum + (cs.map first).sum) := by
    rw [← List.sum_map_add, ← List.sum_map_add]
    refine congrArg List.sum (List.map_congr_left fun c _ => ?_)
    rw [← spread_add_low c]
    abel
  have hcounted : (cs.map fun c => c.peakSum + c.low).sum =
      (cs.map counted).sum + ((cs.map low).sum + (cs.map first).sum) := by
    rw [← List.sum_map_add, ← List.sum_map_add]
    refine congrArg List.sum (List.map_congr_left fun c _ => ?_)
    rw [← counted_add_first c]
    abel
  rw [Balanced, hspread, hcounted, add_left_inj]

/-- Counters that never fall are balanced. -/
lemma balanced_of_neverFalls {cs : List (Readings α)} (h : ∀ c ∈ cs, c.NeverFalls) :
    Balanced cs :=
  congrArg List.sum (List.map_congr_left fun c hc => (h c hc).high_add_first)

/-- The spreads add up to something when one of them is something. -/
lemma sum_spread_pos_iff [IsOrderedAddMonoid α] (cs : List (Readings α)) :
    0 < (cs.map Readings.spread).sum ↔ ∃ c ∈ cs, 0 < c.spread := by
  have hnonneg : ∀ v ∈ cs.map Readings.spread, 0 ≤ v := by
    intro v hv
    obtain ⟨c, _, rfl⟩ := List.mem_map.mp hv
    exact c.spread_nonneg
  rw [sum_pos_iff_of_nonneg hnonneg]
  simp

/-- Balanced counters that never rose have no spread. -/
lemma spread_nonpos_of_neverRose [IsOrderedAddMonoid α] {cs : List (Readings α)}
    (hbalanced : Balanced cs) (hnever : ∀ c ∈ cs, c.NeverRose) : ∀ c ∈ cs, ¬0 < c.spread := by
  have hcounted : (cs.map counted).sum ≤ 0 := by
    refine sum_nonpos fun v hv => ?_
    obtain ⟨c, hc, rfl⟩ := List.mem_map.mp hv
    exact (hnever c hc).counted_nonpos
  rw [← (sum_spread_eq_iff cs).mpr hbalanced] at hcounted
  intro c hc hpos
  exact hcounted.not_gt ((sum_spread_pos_iff cs).mpr ⟨c, hc, hpos⟩)

end CounterSpread
