import Mathlib.Data.List.Perm.Subperm
import Mathlib.Data.List.Sort
import Mathlib.Order.Basic

/-!
# The newest of a list

`newest time n l` is `ORDER BY time DESC LIMIT n`, with a stable sort.  Which of several elements
of one time are taken depends on their order in the list; an element is taken whatever that order
when fewer than `n` others are as new (`mem_newest`), and is left out in some order otherwise
(`notMem_newest`).
-/

namespace Newest

variable {α τ : Type*} [LinearOrder τ] (time : α → τ)

/-- Newest first; elements of one time keep their order. -/
def newestFirst (l : List α) : List α :=
  l.mergeSort fun a b => decide (time b ≤ time a)

/-- The newest elements. -/
def newest (n : ℕ) (l : List α) : List α := (newestFirst time l).take n

/-- The first part of a list, newest first, is the newest of all. -/
structure IsNewest (n : ℕ) (all taken : List α) : Prop where
  sorted : taken.Pairwise fun a b => time b ≤ time a
  length_eq : taken.length = min n all.length
  complete : ∃ rest, (taken ++ rest).Perm all ∧ ∀ a ∈ taken, ∀ b ∈ rest, time b ≤ time a

lemma newestFirst_perm (l : List α) : (newestFirst time l).Perm l :=
  List.mergeSort_perm l _

lemma newestFirst_sorted (l : List α) :
    (newestFirst time l).Pairwise fun a b => time b ≤ time a := by
  have hpair : (newestFirst time l).Pairwise fun a b => decide (time b ≤ time a) = true := by
    refine List.pairwise_mergeSort ?_ ?_ l
    · intro a b c hab hbc
      exact decide_eq_true (le_trans (of_decide_eq_true hbc) (of_decide_eq_true hab))
    · intro a b
      simpa using le_total (time b) (time a)
  exact hpair.imp fun h => of_decide_eq_true h

variable {time}

/-- The sort is stable. -/
lemma pair_sublist_newestFirst {l : List α} {a b : α} (hab : time b ≤ time a)
    (h : [a, b].Sublist l) : [a, b].Sublist (newestFirst time l) :=
  List.pair_sublist_mergeSort
    (fun a b c hab hbc => decide_eq_true (le_trans (of_decide_eq_true hbc) (of_decide_eq_true hab)))
    (fun a b => by simpa using le_total (time b) (time a)) (decide_eq_true hab) h

lemma mem_of_mem_newest {n : ℕ} {l : List α} {a : α} (h : a ∈ newest time n l) : a ∈ l :=
  (newestFirst_perm time l).mem_iff.mp (List.mem_of_mem_take h)

lemma newest_nodup {n : ℕ} {l : List α} (h : l.Nodup) : (newest time n l).Nodup :=
  ((newestFirst_perm time l).nodup_iff.mpr h).sublist (List.take_sublist _ _)

lemma length_newest_le (n : ℕ) (l : List α) : (newest time n l).length ≤ n :=
  List.length_take_le _ _

/-- What is taken is the newest. -/
lemma isNewest_newest (n : ℕ) (l : List α) : IsNewest time n l (newest time n l) := by
  have hsorted := newestFirst_sorted time l
  have hsplit := List.take_append_drop n (newestFirst time l)
  refine ⟨hsorted.sublist (List.take_sublist _ _), ?_, (newestFirst time l).drop n, ?_, ?_⟩
  · rw [newest, List.length_take, (newestFirst_perm time l).length_eq]
  · rw [newest, hsplit]
    exact newestFirst_perm time l
  · rw [← hsplit] at hsorted
    exact (List.pairwise_append.mp hsorted).2.2

lemma IsNewest.perm {n : ℕ} {all all' taken : List α} (h : IsNewest time n all taken)
    (hperm : all.Perm all') : IsNewest time n all' taken := by
  obtain ⟨rest, hrest, hle⟩ := h.complete
  exact ⟨h.sorted, hperm.length_eq ▸ h.length_eq, rest, hrest.trans hperm, hle⟩

/-- A list of different times has one order. -/
lemma newestFirst_eq {l sorted : List α} (hperm : sorted.Perm l)
    (hsorted : sorted.Pairwise fun a b => time b < time a) : newestFirst time l = sorted := by
  refine List.Perm.eq_of_pairwise ?_ (newestFirst_sorted time l)
    (hsorted.imp fun h => h.le) ((newestFirst_perm time l).trans hperm.symm)
  intro a b ha hb hba hab
  have hnodup : (sorted.map time).Nodup :=
    List.pairwise_map.mpr (hsorted.imp fun h => h.ne')
  have ha : a ∈ sorted := hperm.mem_iff.mpr ((newestFirst_perm time l).mem_iff.mp ha)
  exact List.inj_on_of_nodup_map hnodup ha hb (le_antisymm hab hba)

/-- Elements of different times are sorted before or after they are chosen. -/
lemma newestFirst_filter {l : List α} (hl : (l.map time).Nodup) (p : α → Bool) :
    newestFirst time (l.filter p) = (newestFirst time l).filter p := by
  refine List.Perm.eq_of_pairwise ?_ (newestFirst_sorted time _)
    ((newestFirst_sorted time l).filter p)
    ((newestFirst_perm time _).trans ((newestFirst_perm time l).filter p).symm)
  intro a b ha hb hba hab
  have hal : a ∈ l := List.mem_of_mem_filter ((newestFirst_perm time _).mem_iff.mp ha)
  have hbl : b ∈ l := (newestFirst_perm time l).mem_iff.mp (List.mem_of_mem_filter hb)
  exact List.inj_on_of_nodup_map hl hal hbl (le_antisymm hab hba)

variable [DecidableEq α]

/-- The others that are as new as an element. -/
def asNew (time : α → τ) (l : List α) (a : α) : List α :=
  l.filter fun b => b ≠ a ∧ time a ≤ time b

/-- Where fewer than `n` others are as new, the element is among the newest. -/
lemma mem_newest {n : ℕ} {l : List α} {a : α} (hnodup : l.Nodup) (ha : a ∈ l)
    (hfew : (asNew time l a).length < n) : a ∈ newest time n l := by
  obtain ⟨before, after, hsplit⟩ :=
    List.append_of_mem ((newestFirst_perm time l).mem_iff.mpr ha)
  have hsorted := newestFirst_sorted time l
  have hnodup' := (newestFirst_perm time l).nodup_iff.mpr hnodup
  rw [hsplit] at hsorted hnodup'
  have hasNew : before ⊆ asNew time l a := by
    intro b hb
    refine List.mem_filter.mpr ⟨?_, decide_eq_true ⟨?_, ?_⟩⟩
    · rw [← (newestFirst_perm time l).mem_iff, hsplit]
      exact List.mem_append_left _ hb
    · exact (List.pairwise_append.mp hnodup').2.2 b hb a List.mem_cons_self
    · exact (List.pairwise_append.mp hsorted).2.2 b hb a List.mem_cons_self
  have hlength : before.length ≤ (asNew time l a).length :=
    (List.subperm_of_subset (List.pairwise_append.mp hnodup').1 hasNew).length_le
  rw [newest, hsplit, List.take_append, List.mem_append]
  right
  obtain ⟨k, hk⟩ : ∃ k, n - before.length = k + 1 := ⟨n - before.length - 1, by omega⟩
  rw [hk, List.take_succ_cons]
  exact List.mem_cons_self

/-- An element that comes last in the list is left out when `n` others are as new. -/
lemma notMem_newest {n : ℕ} {l : List α} {a : α} (hnodup : l.Nodup) (ha : a ∈ l)
    (hlast : ∀ b ∈ l, b ≠ a → [b, a].Sublist l) (hmany : n ≤ (asNew time l a).length) :
    a ∉ newest time n l := by
  obtain ⟨before, after, hsplit⟩ :=
    List.append_of_mem ((newestFirst_perm time l).mem_iff.mpr ha)
  have hnodup' := (newestFirst_perm time l).nodup_iff.mpr hnodup
  rw [hsplit] at hnodup'
  have hasNew : asNew time l a ⊆ before := by
    intro b hb
    obtain ⟨hbl, hb⟩ := List.mem_filter.mp hb
    obtain ⟨hne, hle⟩ := of_decide_eq_true hb
    have hpair := pair_sublist_newestFirst hle (hlast b hbl hne)
    rw [hsplit] at hpair
    obtain ⟨first, second, hparts, hfirst, hsecond⟩ := List.sublist_append_iff.mp hpair
    cases first with
    | cons c first =>
      rw [List.cons_append, List.cons.injEq] at hparts
      exact hparts.1 ▸ hfirst.subset List.mem_cons_self
    | nil =>
      -- the element itself would come again after it
      rw [List.nil_append] at hparts
      rw [← hparts] at hsecond
      have hagain : a ∈ after :=
        ((List.cons_sublist_cons'.mp hsecond).resolve_right fun h => hne h.1).subset (by simp)
      exact absurd hagain (List.nodup_cons.mp (List.pairwise_append.mp hnodup').2.1).1
  have hlength : (asNew time l a).length ≤ before.length :=
    (List.subperm_of_subset (hnodup.filter _) hasNew).length_le
  intro hmem
  rw [newest, hsplit, List.take_append_of_le_length (hmany.trans hlength)] at hmem
  exact (List.pairwise_append.mp hnodup').2.2 a (List.mem_of_mem_take hmem) a
    List.mem_cons_self rfl

/-- The list with an element moved to its end. -/
def moveLast (l : List α) (a : α) : List α := l.erase a ++ [a]

lemma moveLast_perm {l : List α} {a : α} (ha : a ∈ l) : (moveLast l a).Perm l :=
  (List.perm_append_singleton a _).trans (List.perm_cons_erase ha).symm

lemma pair_sublist_moveLast {l : List α} {a b : α} (hb : b ∈ l) (hne : b ≠ a) :
    [b, a].Sublist (moveLast l a) :=
  (List.singleton_sublist.mpr ((List.mem_erase_of_ne hne).mpr hb)).append (List.Sublist.refl [a])

end Newest
