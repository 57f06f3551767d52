import Mathlib.Algebra.GroupWithZero.Nat
import Mathlib.Order.Lattice
import Mathlib.Data.List.Infix

/-!
# Counters with resets

A counter counts up and starts again from zero when its owner restarts.  Between two values the
counter was incremented by their difference, or after a reset by the later value.  The delta of
a list of values is the sum of the increments between neighbours; it is positive exactly when
some neighbours differ by a positive increment (`delta_pos_iff`).

When the values are cut into blocks by a key that never falls, the neighbours within a block are
the neighbours of the whole list that share the key (`infix_filter_iff`).  Neighbours in two
different blocks belong to no block.
-/

namespace Counter

/-- The number of counts between two values, adjusted for a reset. -/
def increment (a b : ℕ) : ℕ := if b < a then b else b - a

/-- The increments between neighbours. -/
def increments : List ℕ → List ℕ
  | a :: b :: vs => increment a b :: increments (b :: vs)
  | _ => []

/-- The number of counts over a list of values; absent when there is no value. -/
def delta (vs : List ℕ) : Option ℕ := if vs = [] then none else some (increments vs).sum

lemma pair_infix_cons_cons_iff {α : Type*} {p q a b : α} {xs : List α} :
    [p, q] <:+: a :: b :: xs ↔ (p = a ∧ q = b) ∨ [p, q] <:+: b :: xs := by
  rw [List.infix_cons_iff]
  refine or_congr ?_ Iff.rfl
  simp

lemma sum_increments_pos_iff (vs : List ℕ) :
    0 < (increments vs).sum ↔ ∃ a b, [a, b] <:+: vs ∧ 0 < increment a b := by
  induction vs with
  | nil => simp [increments]
  | cons a vs ih =>
    cases vs with
    | nil => simp [increments, List.infix_cons_iff]
    | cons b vs =>
      rw [increments, List.sum_cons, Nat.add_pos_iff_pos_or_pos, ih]
      constructor
      · rintro (hpos | ⟨c, d, hneighbours, hpos⟩)
        · exact ⟨a, b, pair_infix_cons_cons_iff.mpr (Or.inl ⟨rfl, rfl⟩), hpos⟩
        · exact ⟨c, d, pair_infix_cons_cons_iff.mpr (Or.inr hneighbours), hpos⟩
      · rintro ⟨c, d, hneighbours, hpos⟩
        rcases pair_infix_cons_cons_iff.mp hneighbours with ⟨rfl, rfl⟩ | hneighbours
        · exact Or.inl hpos
        · exact Or.inr ⟨c, d, hneighbours, hpos⟩

/-- Counts were made when some neighbours differ by a positive increment. -/
lemma delta_pos_iff (vs : List ℕ) :
    0 < (delta vs).getD 0 ↔ ∃ a b, [a, b] <:+: vs ∧ 0 < increment a b := by
  rw [← sum_increments_pos_iff]
  unfold delta
  split_ifs with hnil
  · subst hnil
    simp [increments]
  · rfl

/-! ### Blocks of a list -/

section Blocks

variable {α β : Type*} [LinearOrder β] {key : α → β} {xs : List α}

/-- A list whose keys never fall is its block of a key, between what has smaller and what has
larger keys. -/
lemma filter_append_filter (hsorted : xs.Pairwise fun x y => key x ≤ key y) (k : β) :
    xs = xs.filter (fun x => key x < k) ++ xs.filter (fun x => key x = k) ++
      xs.filter fun x => k < key x := by
  induction xs with
  | nil => rfl
  | cons x xs ih =>
    obtain ⟨hx, htail⟩ := List.pairwise_cons.mp hsorted
    have hrest := ih htail
    rcases lt_trichotomy (key x) k with hlt | heq | hgt
    · have h₁ : ¬key x = k := hlt.ne
      have h₂ : ¬k < key x := hlt.asymm
      simp only [List.filter_cons, hlt, h₁, h₂, decide_true, decide_false, if_true,
        Bool.false_eq_true, if_false, List.cons_append]
      exact congrArg (x :: ·) hrest
    · -- nothing behind the first member of the block has a smaller key
      have hnone : xs.filter (fun y => key y < k) = [] := by
        rw [List.filter_eq_nil_iff]
        intro y hy
        simpa [heq] using hx y hy
      rw [hnone, List.nil_append] at hrest
      subst heq
      simp only [List.filter_cons, lt_irrefl, decide_true, decide_false, if_true,
        Bool.false_eq_true, if_false, hnone, List.nil_append, List.cons_append]
      exact congrArg (x :: ·) hrest
    · have hnone : ∀ y ∈ xs, k < key y := fun y hy => hgt.trans_le (hx y hy)
      have hsmaller : (x :: xs).filter (fun y => key y < k) = [] := by
        rw [List.filter_eq_nil_iff]
        intro y hy
        rcases List.mem_cons.mp hy with rfl | hy
        · simpa using hgt.le
        · simpa using (hnone y hy).le
      have hequal : (x :: xs).filter (fun y => key y = k) = [] := by
        rw [List.filter_eq_nil_iff]
        intro y hy
        rcases List.mem_cons.mp hy with rfl | hy
        · simpa using hgt.ne'
        · simpa using (hnone y hy).ne'
      have hlarger : (x :: xs).filter (fun y => k < key y) = x :: xs := by
        rw [List.filter_eq_self]
        intro y hy
        rcases List.mem_cons.mp hy with rfl | hy
        · simpa using hgt
        · simpa using hnone y hy
      rw [hsmaller, hequal, hlarger]
      rfl

/-- The neighbours within a block are the neighbours that share its key. -/
lemma infix_filter_iff (hsorted : xs.Pairwise fun x y => key x ≤ key y) (k : β) (p q : α) :
    [p, q] <:+: xs.filter (fun x => key x = k) ↔
      [p, q] <:+: xs ∧ key p = k ∧ key q = k := by
  constructor
  · intro hneighbours
    have hmem : ∀ x ∈ [p, q], key x = k := fun x hx =>
      of_decide_eq_true (List.mem_filter.mp (hneighbours.subset hx)).2
    refine ⟨hneighbours.trans ⟨xs.filter (fun x => key x < k), xs.filter (fun x => k < key x), ?_⟩,
      hmem p (by simp), hmem q (by simp)⟩
    exact (filter_append_filter hsorted k).symm
  · rintro ⟨hneighbours, hp, hq⟩
    have h := hneighbours.filter fun x => decide (key x = k)
    simpa [hp, hq] using h

end Blocks

end Counter
