import Mathlib.Data.List.Sort

/-!
# Sorting that keeps the order of ties

Elements of one key keep their order when a list is sorted by the key.  Two lists of the same
elements in which elements of one key stand in the same order are sorted alike
(`sortBy_eq_of_perm`), however their other elements are mixed.
-/

namespace StableSort

variable {α β : Type*} [LinearOrder β] (key : α → β)

/-- The list in the order of its keys. -/
def sortBy (l : List α) : List α := l.insertionSort fun a b => key a ≤ key b

lemma sortBy_perm (l : List α) : (sortBy key l).Perm l := List.perm_insertionSort _ l

variable {key} {t : α → α → Prop}

lemma pairwise_orderedInsert {a : α} {l : List α} (ha : ∀ b ∈ l, key a = key b → t a b)
    (hl : l.Pairwise fun a b => key a ≤ key b ∧ (key a = key b → t a b)) :
    (l.orderedInsert (fun a b => key a ≤ key b) a).Pairwise
      fun a b => key a ≤ key b ∧ (key a = key b → t a b) := by
  induction l with
  | nil => exact List.pairwise_singleton _ a
  | cons b l ih =>
    obtain ⟨hab, hal⟩ := List.forall_mem_cons.mp ha
    obtain ⟨hb, hrest⟩ := List.pairwise_cons.mp hl
    rw [List.orderedInsert_cons]
    split_ifs with hle
    · refine List.pairwise_cons.mpr ⟨fun c hc => ⟨?_, ha c hc⟩, hl⟩
      rcases List.mem_cons.mp hc with rfl | hc
      · exact hle
      · exact le_trans hle (hb c hc).1
    · refine List.pairwise_cons.mpr ⟨fun c hc => ?_, ih hal hrest⟩
      rcases (List.mem_orderedInsert _).mp hc with rfl | hc
      · have hlt := lt_of_not_ge hle
        exact ⟨le_of_lt hlt, fun heq => absurd heq (ne_of_lt hlt)⟩
      · exact hb c hc

/-- The sorted list is in the order of the keys, and ties are as they were. -/
lemma pairwise_sortBy {l : List α} (hl : l.Pairwise fun a b => key a = key b → t a b) :
    (sortBy key l).Pairwise fun a b => key a ≤ key b ∧ (key a = key b → t a b) := by
  induction l with
  | nil => exact .nil
  | cons a l ih =>
    obtain ⟨ha, hl⟩ := List.pairwise_cons.mp hl
    refine pairwise_orderedInsert (fun b hb => ha b ?_) (ih hl)
    exact (sortBy_perm key l).mem_iff.mp hb

/-- Lists of the same elements are sorted alike when ties stand in one order in both. -/
lemma sortBy_eq_of_perm {l l' : List α} (hperm : l.Perm l')
    (hl : l.Pairwise fun a b => key a = key b → t a b)
    (hl' : l'.Pairwise fun a b => key a = key b → t a b) (hasymm : ∀ a b, t a b → ¬t b a) :
    sortBy key l = sortBy key l' := by
  refine List.Perm.eq_of_pairwise (fun a b _ _ hab hba => ?_) (pairwise_sortBy hl)
    (pairwise_sortBy hl') ((sortBy_perm key l).trans (hperm.trans (sortBy_perm key l').symm))
  have heq : key a = key b := le_antisymm hab.1 hba.1
  exact absurd (hba.2 heq.symm) (hasymm a b (hab.2 heq))

end StableSort
