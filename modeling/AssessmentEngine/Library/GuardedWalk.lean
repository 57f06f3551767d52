import Mathlib.Data.Finset.Card
import Mathlib.Data.List.Nodup
import Mathlib.Data.List.TakeWhile
import Mathlib.Logic.Relation
import Mathlib.Order.WellFounded

/-!
# Guarded walks

Entries have keys, and under a key stand the entries to go on with.  A walk takes the entries of a
list in their order, each followed by what stands under its key, and a guard leaves out the entries
whose key has been met before.

`Walk g es met taken met'` says that a walk of `es` takes `taken`, when the keys `met` have been met
before it and `met'` after it.  Each key is taken at most once (`Walk.nodup`), and the keys that are
met are those that can be reached (`Walk.mem_iff`).  `Forced` is a walk that takes each entry of the
list itself whether or not its key has been met.
-/

namespace GuardedWalk

/-! ## Relations without cycles -/

/-- A relation without cycles from finitely many elements is well founded. -/
lemma wellFounded_of_acyclic {α : Type*} {r : α → α → Prop} (l : List α)
    (hl : ∀ a b, r a b → a ∈ l) (hacyclic : ∀ a, ¬ Relation.TransGen r a a) : WellFounded r := by
  classical
  let before : α → Finset α := fun b => l.toFinset.filter fun a => Relation.TransGen r a b
  have hlt : ∀ a b, r a b → (before a).card < (before b).card := by
    intro a b hab
    apply Finset.card_lt_card
    rw [Finset.ssubset_iff_of_subset]
    · refine ⟨a, ?_, ?_⟩
      · exact Finset.mem_filter.mpr
          ⟨List.mem_toFinset.mpr (hl a b hab), Relation.TransGen.single hab⟩
      · exact fun ha => hacyclic a (Finset.mem_filter.mp ha).2
    · intro c hc
      obtain ⟨hmem, hca⟩ := Finset.mem_filter.mp hc
      exact Finset.mem_filter.mpr ⟨hmem, hca.tail hab⟩
  exact Subrelation.wf (fun {a b} hab => hlt a b hab)
    (measure fun b => (before b).card).wf

/-! ## Walks -/

variable {ε κ : Type*}

/-- The entries under each key. -/
structure KeyGraph (ε κ : Type*) where
  key : ε → κ
  under : κ → List ε

variable (g : KeyGraph ε κ)

/-- One key stands under another. -/
def KeyGraph.Edge (a b : κ) : Prop := ∃ e ∈ g.under a, g.key e = b

/-- A key can be reached from another. -/
def KeyGraph.Reach : κ → κ → Prop := Relation.ReflTransGen g.Edge

/-- A walk that leaves out the keys that have been met. -/
inductive Walk : List ε → List κ → List ε → List κ → Prop
  | nil (met : List κ) : Walk [] met [] met
  | skip {e : ε} {es taken : List ε} {met met' : List κ} :
      g.key e ∈ met → Walk es met taken met' → Walk (e :: es) met taken met'
  | take {e : ε} {es below rest : List ε} {met met' met'' : List κ} :
      g.key e ∉ met → Walk (g.under (g.key e)) (g.key e :: met) below met' →
        Walk es met' rest met'' → Walk (e :: es) met (e :: (below ++ rest)) met''

/-- A walk that takes each entry of the list itself. -/
inductive Forced : List ε → List κ → List ε → List κ → Prop
  | nil (met : List κ) : Forced [] met [] met
  | take {e : ε} {es below rest : List ε} {met met' met'' : List κ} :
      Walk g (g.under (g.key e)) (g.key e :: met) below met' →
        Forced es met' rest met'' → Forced (e :: es) met (e :: (below ++ rest)) met''

/-- What stands under a key that has been met has been met. -/
def KeyGraph.Closed (met : List κ) : Prop := ∀ k ∈ met, ∀ e ∈ g.under k, g.key e ∈ met

variable {g} {es taken : List ε} {met met' : List κ} {k : κ}

lemma KeyGraph.Closed.reach (hclosed : g.Closed met) {a b : κ} (ha : a ∈ met) (hab : g.Reach a b) :
    b ∈ met := by
  induction hab with
  | refl => exact ha
  | tail _ hedge ih =>
    obtain ⟨e, he, rfl⟩ := hedge
    exact hclosed _ ih e he

/-! ## Keys of a walk -/

/-- The keys that are met are those met before and those taken. -/
lemma Walk.mem_met (h : Walk g es met taken met') (k : κ) :
    k ∈ met' ↔ k ∈ met ∨ k ∈ taken.map g.key := by
  induction h with
  | nil => simp
  | skip _ _ ih => exact ih
  | take _ _ _ ihbelow ihrest =>
    rw [ihrest, ihbelow, List.map_cons, List.map_append, List.mem_cons, List.mem_cons,
      List.mem_append]
    tauto

lemma Walk.subset (h : Walk g es met taken met') : met ⊆ met' := fun k hk =>
  (h.mem_met k).mpr (Or.inl hk)

/-- Each key is taken once, and only when it has not been met. -/
lemma Walk.nodup (h : Walk g es met taken met') :
    (taken.map g.key).Nodup ∧ ∀ k ∈ taken.map g.key, k ∉ met := by
  induction h with
  | nil => simp
  | skip _ _ ih => exact ih
  | take hnew hbelow _ ihbelow ihrest =>
    obtain ⟨hnodup, hfresh⟩ := ihbelow
    obtain ⟨hnodup', hfresh'⟩ := ihrest
    rw [List.map_cons, List.map_append, List.nodup_cons, List.nodup_append]
    refine ⟨⟨?_, hnodup, hnodup', ?_⟩, ?_⟩
    · intro hmem
      rcases List.mem_append.mp hmem with hmem | hmem
      · exact hfresh _ hmem List.mem_cons_self
      · exact hfresh' _ hmem (hbelow.subset List.mem_cons_self)
    · rintro a ha b hb rfl
      exact hfresh' a hb ((hbelow.mem_met a).mpr (Or.inr ha))
    · intro k hk
      rcases List.mem_cons.mp hk with rfl | hk
      · exact hnew
      · rcases List.mem_append.mp hk with hk | hk
        · exact fun hmet => hfresh k hk (List.mem_cons_of_mem _ hmet)
        · exact fun hmet => hfresh' k hk (hbelow.subset (List.mem_cons_of_mem _ hmet))

/-- The keys of the list have been met after the walk. -/
lemma Walk.starts (h : Walk g es met taken met') : ∀ e ∈ es, g.key e ∈ met' := by
  induction h with
  | nil => simp
  | skip hmet hrest ih =>
    intro e he
    rcases List.mem_cons.mp he with rfl | he
    · exact hrest.subset hmet
    · exact ih e he
  | take _ hbelow hrest _ ihrest =>
    intro e he
    rcases List.mem_cons.mp he with rfl | he
    · exact hrest.subset (hbelow.subset List.mem_cons_self)
    · exact ihrest e he

/-- What stands under a key that is taken has been met after the walk. -/
lemma Walk.under_taken (h : Walk g es met taken met') :
    ∀ k ∈ taken.map g.key, ∀ e ∈ g.under k, g.key e ∈ met' := by
  induction h with
  | nil => simp
  | skip _ _ ih => exact ih
  | take _ hbelow hrest ihbelow ihrest =>
    intro k hk e he
    rw [List.map_cons, List.map_append, List.mem_cons, List.mem_append] at hk
    rcases hk with rfl | hk | hk
    · exact hrest.subset (hbelow.starts e he)
    · exact hrest.subset (ihbelow k hk e he)
    · exact ihrest k hk e he

/-- Only what can be reached is taken. -/
lemma Walk.reach (h : Walk g es met taken met') :
    ∀ k ∈ taken.map g.key, ∃ e ∈ es, g.Reach (g.key e) k := by
  induction h with
  | nil => simp
  | skip _ _ ih =>
    intro k hk
    obtain ⟨e, he, hreach⟩ := ih k hk
    exact ⟨e, List.mem_cons_of_mem _ he, hreach⟩
  | take _ _ _ ihbelow ihrest =>
    intro k hk
    rw [List.map_cons, List.map_append, List.mem_cons, List.mem_append] at hk
    rcases hk with rfl | hk | hk
    · exact ⟨_, List.mem_cons_self, Relation.ReflTransGen.refl⟩
    · obtain ⟨e, he, hreach⟩ := ihbelow k hk
      exact ⟨_, List.mem_cons_self, Relation.ReflTransGen.head ⟨e, he, rfl⟩ hreach⟩
    · obtain ⟨e, he, hreach⟩ := ihrest k hk
      exact ⟨e, List.mem_cons_of_mem _ he, hreach⟩

/-- The entries that are taken are those of the list and those that stand under a key. -/
lemma Walk.mem_taken (h : Walk g es met taken met') :
    ∀ x ∈ taken, x ∈ es ∨ ∃ k, x ∈ g.under k := by
  induction h with
  | nil => simp
  | skip _ _ ih =>
    intro x hx
    exact (ih x hx).imp_left (List.mem_cons_of_mem _)
  | take _ _ _ ihbelow ihrest =>
    intro x hx
    rcases List.mem_cons.mp hx with rfl | hx
    · exact Or.inl List.mem_cons_self
    · rcases List.mem_append.mp hx with hx | hx
      · exact Or.inr ((ihbelow x hx).elim (fun hunder => ⟨_, hunder⟩) id)
      · exact (ihrest x hx).imp_left (List.mem_cons_of_mem _)

lemma Walk.closed (h : Walk g es met taken met') (hclosed : g.Closed met) : g.Closed met' := by
  intro k hk e he
  rcases (h.mem_met k).mp hk with hk | hk
  · exact h.subset (hclosed k hk e he)
  · exact h.under_taken k hk e he

/-- The keys that are met are those met before and those that can be reached. -/
lemma Walk.mem_iff (h : Walk g es met taken met') (hclosed : g.Closed met) (k : κ) :
    k ∈ met' ↔ k ∈ met ∨ ∃ e ∈ es, g.Reach (g.key e) k := by
  constructor
  · intro hk
    exact ((h.mem_met k).mp hk).imp_right (h.reach k)
  · rintro (hk | ⟨e, he, hreach⟩)
    · exact h.subset hk
    · exact (h.closed hclosed).reach (h.starts e he) hreach

/-! ## Walks that take their list -/

/-- What is met after an entry and the walk under it. -/
lemma Walk.closed_under {e : ε} (h : Walk g (g.under (g.key e)) (g.key e :: met) taken met')
    (hclosed : g.Closed met) : g.Closed met' := by
  intro k hk x hx
  rcases (h.mem_met k).mp hk with hk | hk
  · rcases List.mem_cons.mp hk with rfl | hk
    · exact h.starts x hx
    · exact h.subset (List.mem_cons_of_mem _ (hclosed k hk x hx))
  · exact h.under_taken k hk x hx

lemma Walk.mem_iff_under {e : ε} (h : Walk g (g.under (g.key e)) (g.key e :: met) taken met')
    (hclosed : g.Closed met) (k : κ) : k ∈ met' ↔ k ∈ met ∨ g.Reach (g.key e) k := by
  constructor
  · intro hk
    rcases (h.mem_met k).mp hk with hk | hk
    · rcases List.mem_cons.mp hk with rfl | hk
      · exact Or.inr Relation.ReflTransGen.refl
      · exact Or.inl hk
    · obtain ⟨x, hx, hreach⟩ := h.reach k hk
      exact Or.inr (Relation.ReflTransGen.head ⟨x, hx, rfl⟩ hreach)
  · rintro (hk | hreach)
    · exact h.subset (List.mem_cons_of_mem _ hk)
    · exact (h.closed_under hclosed).reach (h.subset List.mem_cons_self) hreach

lemma Forced.closed (h : Forced g es met taken met') (hclosed : g.Closed met) : g.Closed met' := by
  induction h with
  | nil => exact hclosed
  | take hbelow _ ih => exact ih (hbelow.closed_under hclosed)

lemma Forced.mem_taken (h : Forced g es met taken met') :
    ∀ x ∈ taken, x ∈ es ∨ ∃ k, x ∈ g.under k := by
  induction h with
  | nil => simp
  | take hbelow _ ih =>
    intro x hx
    rcases List.mem_cons.mp hx with rfl | hx
    · exact Or.inl List.mem_cons_self
    · rcases List.mem_append.mp hx with hx | hx
      · exact Or.inr ((hbelow.mem_taken x hx).elim (fun hunder => ⟨_, hunder⟩) id)
      · exact (ih x hx).imp_left (List.mem_cons_of_mem _)

lemma Forced.mem_met (h : Forced g es met taken met') (k : κ) :
    k ∈ met' ↔ k ∈ met ∨ k ∈ taken.map g.key := by
  induction h with
  | nil => simp
  | take hbelow _ ih =>
    rw [ih, hbelow.mem_met, List.map_cons, List.map_append, List.mem_cons, List.mem_cons,
      List.mem_append]
    tauto

lemma Forced.mem_iff (h : Forced g es met taken met') (hclosed : g.Closed met) (k : κ) :
    k ∈ met' ↔ k ∈ met ∨ ∃ e ∈ es, g.Reach (g.key e) k := by
  induction h with
  | nil => simp
  | take hbelow _ ih =>
    rw [ih (hbelow.closed_under hclosed), hbelow.mem_iff_under hclosed, or_assoc,
      List.exists_mem_cons_iff]

/-! ## How often a key is taken -/

lemma Walk.mem_taken_keys (h : Walk g es met taken met') (k : κ) :
    k ∈ taken.map g.key ↔ k ∈ met' ∧ k ∉ met := by
  constructor
  · intro hk
    exact ⟨(h.mem_met k).mpr (Or.inr hk), h.nodup.2 k hk⟩
  · rintro ⟨hmet', hmet⟩
    exact ((h.mem_met k).mp hmet').resolve_left hmet

section Count

variable [BEq κ] [LawfulBEq κ]

lemma Walk.count_eq (h : Walk g es met taken met') (k : κ) :
    (taken.map g.key).count k = if k ∈ met' ∧ k ∉ met then 1 else 0 := by
  rw [List.Nodup.count h.nodup.1]
  simp only [h.mem_taken_keys k]

/-- A key that has been met is taken for the entries of the list only. -/
lemma Forced.count_of_mem (h : Forced g es met taken met') (hk : k ∈ met) :
    (taken.map g.key).count k = (es.map g.key).count k := by
  induction h with
  | nil => rfl
  | take hbelow _ ih =>
    have hzero := hbelow.count_eq k
    rw [if_neg fun hnot => hnot.2 (List.mem_cons_of_mem _ hk)] at hzero
    rw [List.map_cons, List.map_append, List.map_cons, List.count_cons, List.count_cons,
      List.count_append, hzero, ih (hbelow.subset (List.mem_cons_of_mem _ hk)), Nat.zero_add]

/-- A key that no entry of the list has is taken once, if it can be reached. -/
lemma Forced.count_of_not_mem (h : Forced g es met taken met') (hclosed : g.Closed met)
    (hmet : k ∉ met) (hes : k ∉ es.map g.key) :
    (taken.map g.key).count k = if k ∈ met' then 1 else 0 := by
  induction h with
  | nil => rw [if_neg hmet]; rfl
  | @take e es below rest met met' met'' hbelow hrest ih =>
    rw [List.map_cons, List.mem_cons, not_or] at hes
    have hne : (g.key e == k) = false := beq_eq_false_iff_ne.mpr (Ne.symm hes.1)
    have hcount := hbelow.count_eq k
    rw [List.map_cons, List.map_append, List.count_cons, List.count_append, hne]
    by_cases hk : k ∈ met'
    · have hmet'' : k ∈ met'' :=
        (hrest.mem_iff (hbelow.closed_under hclosed) k).mpr (Or.inl hk)
      have hnew : k ∉ g.key e :: met := by
        rw [List.mem_cons, not_or]
        exact ⟨hes.1, hmet⟩
      rw [if_pos ⟨hk, hnew⟩] at hcount
      rw [hcount, hrest.count_of_mem hk, List.count_eq_zero_of_not_mem hes.2, if_pos hmet'']
      rfl
    · rw [if_neg fun hboth => hk hboth.1] at hcount
      rw [hcount, ih (hbelow.closed_under hclosed) hk hes.2]
      simp

/-- A key of the list is taken once just when one entry of the list has it and none before can
reach it. -/
lemma Forced.count_eq_one_iff (h : Forced g es met taken met') (hclosed : g.Closed met)
    (hmet : k ∉ met) (hes : k ∈ es.map g.key) :
    (taken.map g.key).count k = 1 ↔
      es.Pairwise fun a b => g.key b = k → ¬ g.Reach (g.key a) k := by
  induction h with
  | nil => exact absurd hes List.not_mem_nil
  | @take e es below rest met met' met'' hbelow hrest ih =>
    have hcount := hbelow.count_eq k
    have hmet' := hbelow.mem_iff_under hclosed k
    rw [List.map_cons, List.map_append, List.count_cons, List.count_append, List.pairwise_cons]
    by_cases hkey : g.key e = k
    · -- the entry has the key itself, so it must be the only one
      have hin : k ∈ met' := hmet'.mpr (Or.inr (hkey ▸ Relation.ReflTransGen.refl))
      rw [if_neg fun hboth => hboth.2 (hkey ▸ List.mem_cons_self)] at hcount
      rw [hcount, hrest.count_of_mem hin, if_pos (beq_iff_eq.mpr hkey), Nat.zero_add]
      constructor
      · intro hone
        have hzero : (es.map g.key).count k = 0 := by omega
        have hnone : ∀ b ∈ es, g.key b ≠ k := fun b hb hbk =>
          List.count_eq_zero.mp hzero (hbk ▸ List.mem_map_of_mem hb)
        refine ⟨fun b hb hbk => absurd hbk (hnone b hb), ?_⟩
        exact List.pairwise_of_forall_mem_list fun a _ b hb hbk => absurd hbk (hnone b hb)
      · rintro ⟨hnone, -⟩
        have hzero : (es.map g.key).count k = 0 := by
          rw [List.count_eq_zero]
          intro hmem
          obtain ⟨b, hb, hbk⟩ := List.mem_map.mp hmem
          exact hnone b hb hbk (hkey ▸ Relation.ReflTransGen.refl)
        omega
    · have hne : (g.key e == k) = false := beq_eq_false_iff_ne.mpr hkey
      have hes' : k ∈ es.map g.key := by
        rw [List.map_cons, List.mem_cons] at hes
        exact hes.resolve_left (Ne.symm hkey)
      have hnew : k ∉ g.key e :: met := by
        rw [List.mem_cons, not_or]
        exact ⟨Ne.symm hkey, hmet⟩
      rw [hne]
      by_cases hreach : g.Reach (g.key e) k
      · -- the key is taken below the entry and again for the list
        have hin : k ∈ met' := hmet'.mpr (Or.inr hreach)
        have hpos : 0 < (es.map g.key).count k := List.count_pos_iff.mpr hes'
        rw [if_pos ⟨hin, hnew⟩] at hcount
        rw [hcount, hrest.count_of_mem hin]
        constructor
        · intro hone
          simp only [Bool.false_eq_true, if_false] at hone
          omega
        · rintro ⟨hnone, -⟩
          obtain ⟨b, hb, hbk⟩ := List.mem_map.mp hes'
          exact absurd hreach (hnone b hb hbk)
      · have hout : k ∉ met' := fun hin => (hmet'.mp hin).elim hmet hreach
        rw [if_neg fun hboth => hout hboth.1] at hcount
        rw [hcount, ← ih (hbelow.closed_under hclosed) hout hes']
        simp [hreach]

end Count

/-! ## The first entry with a key -/

section First

variable (g) (k : κ)

/-- A key other than `k` stands under another such key. -/
def KeyGraph.EdgeBefore (a b : κ) : Prop := a ≠ k ∧ b ≠ k ∧ g.Edge a b

/-- `Meets g k es r`: on the way through `es`, each entry followed by what stands under it, the
first entry with the key `k` is `r`, or there is none. -/
inductive Meets : List ε → Option ε → Prop
  | nil : Meets [] none
  | here {e : ε} {es : List ε} : g.key e = k → Meets (e :: es) (some e)
  | inside {e x : ε} {es : List ε} :
      g.key e ≠ k → Meets (g.under (g.key e)) (some x) → Meets (e :: es) (some x)
  | past {e : ε} {es : List ε} {r : Option ε} :
      g.key e ≠ k → Meets (g.under (g.key e)) none → Meets es r → Meets (e :: es) r

variable {g} {k}

lemma Meets.unique {r r' : Option ε} (h : Meets g k es r) (h' : Meets g k es r') : r = r' := by
  induction h generalizing r' with
  | nil =>
    cases h'
    rfl
  | here hkey =>
    cases h' with
    | here => rfl
    | inside hne => exact absurd hkey hne
    | past hne => exact absurd hkey hne
  | inside hne _ ih =>
    cases h' with
    | here hkey => exact absurd hkey hne
    | inside _ hinside => exact ih hinside
    | past _ hnone _ => exact absurd (ih hnone) (Option.some_ne_none _)
  | past hne _ _ ihnone ih =>
    cases h' with
    | here hkey => exact absurd hkey hne
    | inside _ hinside => exact absurd (ihnone hinside) (Option.some_ne_none _).symm
    | past _ _ hpast => exact ih hpast

lemma not_cycle {r : κ → κ → Prop} (hwf : WellFounded (Function.swap r)) {a : κ} :
    ¬ Relation.TransGen r a a := by
  intro hcycle
  rw [← Relation.transGen_swap] at hcycle
  exact hwf.transGen.irrefl.irrefl a hcycle

/-- Where the key cannot be reached it is not met. -/
lemma meets_none (hwf : WellFounded (Function.swap (g.EdgeBefore k)))
    (hes : ∀ e ∈ es, ¬ g.Reach (g.key e) k) : Meets g k es none := by
  have hlist : ∀ es : List ε, (∀ e ∈ es, g.key e ≠ k ∧ Meets g k (g.under (g.key e)) none) →
      Meets g k es none := by
    intro es
    induction es with
    | nil => exact fun _ => Meets.nil
    | cons e es ih =>
      intro hall
      obtain ⟨hne, hunder⟩ := hall e List.mem_cons_self
      exact Meets.past hne hunder (ih fun x hx => hall x (List.mem_cons_of_mem e hx))
  have hne : ∀ {a}, ¬ g.Reach a k → a ≠ k := by
    rintro a hnot rfl
    exact hnot Relation.ReflTransGen.refl
  have hunder : ∀ a, ¬ g.Reach a k → Meets g k (g.under a) none := by
    intro a
    induction a using hwf.induction with
    | _ a ih =>
      intro hnot
      apply hlist
      intro e he
      have hedge : g.Edge a (g.key e) := ⟨e, he, rfl⟩
      have hnot' : ¬ g.Reach (g.key e) k := fun h => hnot (Relation.ReflTransGen.head hedge h)
      exact ⟨hne hnot', ih _ ⟨hne hnot, hne hnot', hedge⟩ hnot'⟩
  exact hlist es fun e he => ⟨hne (hes e he), hunder _ (hes e he)⟩

/-- What is taken without the key is reached without it. -/
lemma Walk.reach_before (h : Walk g es met taken met') (hk : k ∉ taken.map g.key) :
    ∀ a ∈ taken.map g.key, ∃ e ∈ es, g.key e ≠ k ∧
      Relation.ReflTransGen (g.EdgeBefore k) (g.key e) a := by
  induction h with
  | nil => simp
  | skip _ _ ih =>
    intro a ha
    obtain ⟨e, he, hreach⟩ := ih hk a ha
    exact ⟨e, List.mem_cons_of_mem _ he, hreach⟩
  | take _ _ _ ihbelow ihrest =>
    rw [List.map_cons, List.map_append, List.mem_cons, List.mem_append, not_or, not_or] at hk
    intro a ha
    rw [List.map_cons, List.map_append, List.mem_cons, List.mem_append] at ha
    rcases ha with rfl | ha | ha
    · exact ⟨_, List.mem_cons_self, Ne.symm hk.1, Relation.ReflTransGen.refl⟩
    · obtain ⟨e, he, hne, hreach⟩ := ihbelow hk.2.1 a ha
      refine ⟨_, List.mem_cons_self, Ne.symm hk.1, Relation.ReflTransGen.head ?_ hreach⟩
      exact ⟨Ne.symm hk.1, hne, e, he, rfl⟩
    · obtain ⟨e, he, hreach⟩ := ihrest hk.2.2 a ha
      exact ⟨e, List.mem_cons_of_mem _ he, hreach⟩

/-- What is taken under an entry leads to the key only through what has been met before. -/
lemma Walk.not_reach_under {e : ε} (h : Walk g (g.under (g.key e)) (g.key e :: met) taken met')
    (hkey : g.key e ≠ k) (hk : k ∉ met) (hkeys : k ∉ taken.map g.key)
    (hmet : ∀ a ∈ met, Relation.ReflTransGen (g.EdgeBefore k) (g.key e) a → ¬ g.Reach a k) :
    ∀ a, a = g.key e ∨ a ∈ taken.map g.key → ¬ g.Reach a k := by
  intro a ha hreach
  induction hreach using Relation.ReflTransGen.head_induction_on with
  | refl => exact ha.elim (fun h => hkey h.symm) hkeys
  | @head a c hedge hrest ih =>
    have hpath : a ≠ k ∧ Relation.ReflTransGen (g.EdgeBefore k) (g.key e) a := by
      rcases ha with rfl | ha
      · exact ⟨hkey, Relation.ReflTransGen.refl⟩
      · obtain ⟨x, hx, hne, hpath⟩ := h.reach_before hkeys a ha
        refine ⟨fun hak => hkeys (hak ▸ ha), Relation.ReflTransGen.head ?_ hpath⟩
        exact ⟨hkey, hne, x, hx, rfl⟩
    have hc : c ∈ met' := by
      obtain ⟨x, hx, rfl⟩ := hedge
      rcases ha with rfl | ha
      · exact h.starts x hx
      · exact h.under_taken a ha x hx
    have hold : c ∈ met := by
      rcases (h.mem_met c).mp hc with hcons | htaken
      · exact (List.mem_cons.mp hcons).resolve_left fun hce => ih (Or.inl hce)
      · exact absurd (Or.inr htaken) ih
    have hck : c ≠ k := fun hck => hk (hck ▸ hold)
    exact hmet c hold (hpath.2.tail ⟨hpath.1, hck, hedge⟩) hrest

variable [DecidableEq κ]

/-- The first entry with the key that a walk takes is the one that is met, as long as what has been
met before and can be met again does not lead to the key. -/
lemma Walk.meets (h : Walk g es met taken met')
    (hwf : WellFounded (Function.swap (g.EdgeBefore k))) (hk : k ∉ met)
    (hmet : ∀ a ∈ met, (∃ e ∈ es, g.key e ≠ k ∧
      Relation.ReflTransGen (g.EdgeBefore k) (g.key e) a) → ¬ g.Reach a k) :
    Meets g k es (taken.find? fun e => decide (g.key e = k)) := by
  induction h with
  | nil => exact Meets.nil
  | @skip e es taken met met' hin _ ih =>
    have hne : g.key e ≠ k := fun h => hk (h ▸ hin)
    have hnot : ¬ g.Reach (g.key e) k :=
      hmet _ hin ⟨e, List.mem_cons_self, hne, Relation.ReflTransGen.refl⟩
    refine Meets.past hne (meets_none hwf fun x hx hreach => ?_) (ih hk ?_)
    · exact hnot (Relation.ReflTransGen.head ⟨x, hx, rfl⟩ hreach)
    · rintro a ha ⟨x, hx, hreach⟩
      exact hmet a ha ⟨x, List.mem_cons_of_mem e hx, hreach⟩
  | @take e es below rest met met' met'' hnew hbelow hrest ihbelow ihrest =>
    by_cases hkey : g.key e = k
    · rw [List.find?_cons_of_pos (by simpa using hkey)]
      exact Meets.here hkey
    · have hk' : k ∉ g.key e :: met := by
        rw [List.mem_cons, not_or]
        exact ⟨Ne.symm hkey, hk⟩
      have hunder := ihbelow hk' ?_
      · rw [List.find?_cons_of_neg (by simpa using hkey), List.find?_append]
        cases hfind : below.find? fun e => decide (g.key e = k) with
        | some x =>
          rw [hfind] at hunder
          exact Meets.inside hkey hunder
        | none =>
          rw [hfind] at hunder
          have hkeys : k ∉ below.map g.key := by
            intro hmem
            obtain ⟨x, hx, hxk⟩ := List.mem_map.mp hmem
            exact List.find?_eq_none.mp hfind x hx (decide_eq_true hxk)
          have hout : k ∉ met' := fun hin => ((hbelow.mem_met k).mp hin).elim hk' hkeys
          have hclean := hbelow.not_reach_under hkey hk hkeys fun a ha hreach =>
            hmet a ha ⟨e, List.mem_cons_self, hkey, hreach⟩
          refine Meets.past hkey hunder (ihrest ?_ ?_)
          · exact hout
          · rintro a ha ⟨x, hx, hreach⟩
            by_cases hold : a ∈ met
            · exact hmet a hold ⟨x, List.mem_cons_of_mem e hx, hreach⟩
            · exact hclean a (((hbelow.mem_met a).mp ha).elim
                (fun hcons => Or.inl ((List.mem_cons.mp hcons).resolve_right hold)) Or.inr)
      · rintro a ha ⟨x, hx, hne, hreach⟩
        have hedge : g.EdgeBefore k (g.key e) (g.key x) := ⟨hkey, hne, x, hx, rfl⟩
        rcases List.mem_cons.mp ha with rfl | ha
        · exact absurd (Relation.TransGen.head' hedge hreach) (not_cycle hwf)
        · exact hmet a ha ⟨e, List.mem_cons_self, hkey, Relation.ReflTransGen.head hedge hreach⟩

/-- Of a key that has been met nothing is taken. -/
lemma Walk.filter_eq_nil (h : Walk g es met taken met') (hk : k ∈ met) :
    (taken.filter fun e => decide (g.key e = k)) = [] := by
  rw [List.filter_eq_nil_iff]
  intro e he hkey
  exact h.nodup.2 (g.key e) (List.mem_map_of_mem he) (of_decide_eq_true hkey ▸ hk)

/-- A walk takes the first entry with a key and no other. -/
lemma Walk.filter_eq (h : Walk g es met taken met') :
    (taken.filter fun e => decide (g.key e = k)) =
      (taken.find? fun e => decide (g.key e = k)).toList := by
  obtain ⟨hnodup, -⟩ := h.nodup
  clear h
  induction taken with
  | nil => rfl
  | cons e taken ih =>
    rw [List.map_cons, List.nodup_cons] at hnodup
    by_cases hkey : g.key e = k
    · have hnil : (taken.filter fun x => decide (g.key x = k)) = [] := by
        rw [List.filter_eq_nil_iff]
        intro x hx hxk
        exact hnodup.1 (List.mem_map.mpr ⟨x, hx, (of_decide_eq_true hxk).trans hkey.symm⟩)
      rw [List.filter_cons_of_pos (by simpa using hkey), hnil,
        List.find?_cons_of_pos (by simpa using hkey)]
      rfl
    · rw [List.filter_cons_of_neg (by simpa using hkey),
        List.find?_cons_of_neg (by simpa using hkey)]
      exact ih hnodup.2

/-- Of a key that has been met the entries of the list are taken. -/
lemma Forced.filter_of_mem (h : Forced g es met taken met') (hk : k ∈ met) :
    (taken.filter fun e => decide (g.key e = k)) =
      es.filter fun e => decide (g.key e = k) := by
  induction h with
  | nil => rfl
  | take hbelow _ ih =>
    have hnil := hbelow.filter_eq_nil (List.mem_cons_of_mem _ hk)
    rw [List.filter_cons, List.filter_cons, List.filter_append, hnil,
      ih (hbelow.subset (List.mem_cons_of_mem _ hk)), List.nil_append]

/-- Of a key the entries of the list are taken, and before them the one that is met on the way to
the first of them. -/
lemma Forced.meets (h : Forced g es met taken met')
    (hwf : WellFounded (Function.swap (g.EdgeBefore k))) (hclosed : g.Closed met) (hk : k ∉ met) :
    ∃ r, Meets g k (es.takeWhile fun e => decide (g.key e ≠ k)) r ∧
      (taken.filter fun e => decide (g.key e = k)) =
        r.toList ++ es.filter fun e => decide (g.key e = k) := by
  induction h with
  | nil => exact ⟨none, Meets.nil, rfl⟩
  | @take e es below rest met met' met'' hbelow hrest ih =>
    by_cases hkey : g.key e = k
    · have hin : k ∈ g.key e :: met := hkey ▸ List.mem_cons_self
      refine ⟨none, ?_, ?_⟩
      · rw [List.takeWhile_cons_of_neg (by simpa using hkey)]
        exact Meets.nil
      · rw [List.filter_cons_of_pos (by simpa using hkey),
          List.filter_cons_of_pos (by simpa using hkey), List.filter_append,
          hbelow.filter_eq_nil hin, hrest.filter_of_mem (hbelow.subset hin)]
        rfl
    · have hk' : k ∉ g.key e :: met := by
        rw [List.mem_cons, not_or]
        exact ⟨Ne.symm hkey, hk⟩
      have hunder : Meets g k (g.under (g.key e)) (below.find? fun e => decide (g.key e = k)) := by
        refine hbelow.meets hwf hk' ?_
        rintro a ha ⟨x, hx, hne, hreach⟩
        rcases List.mem_cons.mp ha with rfl | ha
        · exact absurd (Relation.TransGen.head' ⟨hkey, hne, x, hx, rfl⟩ hreach) (not_cycle hwf)
        · exact fun hak => hk (hclosed.reach ha hak)
      rw [List.takeWhile_cons_of_pos (by simpa using hkey),
        List.filter_cons_of_neg (by simpa using hkey),
        List.filter_cons_of_neg (by simpa using hkey), List.filter_append, hbelow.filter_eq]
      cases hfind : below.find? fun e => decide (g.key e = k) with
      | some x =>
        rw [hfind] at hunder
        have hxk : g.key x = k := by simpa using List.find?_some hfind
        have hin : k ∈ met' := (hbelow.mem_met k).mpr
          (Or.inr (List.mem_map.mpr ⟨x, List.mem_of_find?_eq_some hfind, hxk⟩))
        exact ⟨some x, Meets.inside hkey hunder, by rw [hrest.filter_of_mem hin]⟩
      | none =>
        rw [hfind] at hunder
        have hout : k ∉ met' := by
          intro hin
          obtain ⟨x, hx, hxk⟩ :=
            List.mem_map.mp (((hbelow.mem_met k).mp hin).resolve_left hk')
          exact List.find?_eq_none.mp hfind x hx (decide_eq_true hxk)
        obtain ⟨r, hr, hfilter⟩ := ih (hbelow.closed_under hclosed) hout
        exact ⟨r, Meets.past hkey hunder hr, by rw [hfilter]; rfl⟩

end First

end GuardedWalk
