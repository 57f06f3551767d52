import Mathlib.Data.List.Pairwise
import Mathlib.Logic.Nonempty
import Mathlib.Tactic.Choose
import Mathlib.Tactic.Push
import Mathlib.Tactic.SplitIfs

/-!
# Parties that are counted once

Each party has several options and is counted by one of them (`IsChoice`).  When the options that
are counted name two groups the parties are split into groups of two or more, otherwise they stay
one whole.  What comes out is the same for every choice exactly when the parties are settled
(`sameForAll_iff`): a party that shares a group with another can be counted by nothing else, and no
choice leaves one group.
-/

namespace CountedOnce

variable {π γ : Type*}

/-- Each party is counted by one of its options. -/
def IsChoice (parties : List (π × List (Option γ))) (choice : List (π × Option γ)) : Prop :=
  List.Forall₂ (fun party c => c.1 = party.1 ∧ c.2 ∈ party.2) parties choice

section Outcome

variable (choice : List (π × Option γ))

/-- Two groups are named. -/
def Splits : Prop := ∃ g g' p p', g ≠ g' ∧ (p, some g) ∈ choice ∧ (p', some g') ∈ choice

/-- The whole has the party, and another. -/
def InWhole (p : π) : Prop :=
  ¬Splits choice ∧ (∃ o, (p, o) ∈ choice) ∧ ∃ q o, q ≠ p ∧ (q, o) ∈ choice

/-- The group has the party, and another. -/
def InPart (g : γ) (p : π) : Prop :=
  Splits choice ∧ (p, some g) ∈ choice ∧ ∃ q, q ≠ p ∧ (q, some g) ∈ choice

end Outcome

/-- Whole and groups are the same for every choice. -/
def SameForAll (parties : List (π × List (Option γ))) : Prop :=
  ∀ choice choice', IsChoice parties choice → IsChoice parties choice' →
    (∀ p, InWhole choice p ↔ InWhole choice' p) ∧ ∀ g p, InPart choice g p ↔ InPart choice' g p

/-- No group, or no group at all, is open to all parties. -/
def AlwaysSplit (parties : List (π × List (Option γ))) : Prop :=
  ∀ g, ∃ party ∈ parties, none ∉ party.2 ∧ some g ∉ party.2

/-- There is a single party, or no two name different groups, or they are always split and a party
that shares a group with another can be counted by no other. -/
def Settled (parties : List (π × List (Option γ))) : Prop :=
  (∀ a ∈ parties, ∀ b ∈ parties, a.1 = b.1) ∨
    (parties.Pairwise fun a b => ∀ g g', some g ∈ a.2 → some g' ∈ b.2 → g = g') ∨
      (AlwaysSplit parties ∧
        ∀ a ∈ parties, ∀ b ∈ parties, a.1 ≠ b.1 → ∀ g, some g ∈ a.2 → some g ∈ b.2 →
          ∃ a' ∈ parties, a'.1 = a.1 ∧ ∀ o ∈ a'.2, o = some g)

variable {parties : List (π × List (Option γ))} {choice choice' : List (π × Option γ)}

/-! ## Choices -/

lemma IsChoice.mem_of_mem (h : IsChoice parties choice) {c : π × Option γ} (hc : c ∈ choice) :
    ∃ party ∈ parties, party.1 = c.1 ∧ c.2 ∈ party.2 := by
  induction h with
  | nil => exact absurd hc List.not_mem_nil
  | @cons party first parties choice hfirst hrest ih =>
    rcases List.mem_cons.mp hc with rfl | hc
    · exact ⟨party, List.mem_cons_self, hfirst.1.symm, hfirst.2⟩
    · obtain ⟨party', hmem, hspec⟩ := ih hc
      exact ⟨party', List.mem_cons_of_mem _ hmem, hspec⟩

lemma IsChoice.exists_of_mem (h : IsChoice parties choice) {party : π × List (Option γ)}
    (hparty : party ∈ parties) : ∃ o ∈ party.2, (party.1, o) ∈ choice := by
  induction h with
  | nil => exact absurd hparty List.not_mem_nil
  | @cons first c parties choice hfirst hrest ih =>
    rcases List.mem_cons.mp hparty with rfl | hparty
    · obtain ⟨hname, hopt⟩ := hfirst
      exact ⟨c.2, hopt, by rw [← hname]; exact List.mem_cons_self⟩
    · obtain ⟨o, ho, hmem⟩ := ih hparty
      exact ⟨o, ho, List.mem_cons_of_mem _ hmem⟩

/-- A function that picks an option for each party makes a choice. -/
lemma isChoice_map {pick : π × List (Option γ) → Option γ}
    (hpick : ∀ party ∈ parties, pick party ∈ party.2) :
    IsChoice parties (parties.map fun party => (party.1, pick party)) := by
  induction parties with
  | nil => exact .nil
  | cons party parties ih =>
    obtain ⟨hparty, hrest⟩ := List.forall_mem_cons.mp hpick
    exact .cons ⟨rfl, hparty⟩ (ih hrest)

/-- An option of one party can be chosen, whatever the others do. -/
lemma exists_choice_with (hoptions : ∀ party ∈ parties, party.2 ≠ [])
    {party : π × List (Option γ)} (hparty : party ∈ parties) {o : Option γ} (ho : o ∈ party.2) :
    ∃ choice, IsChoice parties choice ∧ (party.1, o) ∈ choice := by
  classical
  have hpick : ∀ a ∈ parties, (if o ∈ a.2 then o else a.2.headD none) ∈ a.2 := by
    intro a ha
    split_ifs with hmem
    · exact hmem
    · obtain ⟨first, rest, hcons⟩ := List.exists_cons_of_ne_nil (hoptions a ha)
      rw [hcons]
      exact List.mem_cons_self
  refine ⟨_, isChoice_map hpick, List.mem_map.mpr ⟨party, hparty, ?_⟩⟩
  rw [if_pos ho]

/-- Two parties that name different groups can be counted by these. -/
lemma exists_splits (hoptions : ∀ party ∈ parties, party.2 ≠ [])
    (hdiffer : ¬parties.Pairwise fun a b => ∀ g g', some g ∈ a.2 → some g' ∈ b.2 → g = g') :
    ∃ choice, IsChoice parties choice ∧ Splits choice := by
  induction parties with
  | nil => exact absurd .nil hdiffer
  | cons a parties ih =>
    obtain ⟨ha, hoptions⟩ := List.forall_mem_cons.mp hoptions
    by_cases hfirst : ∀ b ∈ parties, ∀ g g', some g ∈ a.2 → some g' ∈ b.2 → g = g'
    · have hrest := fun hpair => hdiffer (List.pairwise_cons.mpr ⟨hfirst, hpair⟩)
      obtain ⟨choice, hchoice, g, g', p, p', hne, hg, hg'⟩ := ih hoptions hrest
      obtain ⟨o, rest, hcons⟩ := List.exists_cons_of_ne_nil ha
      refine ⟨(a.1, o) :: choice, .cons ⟨rfl, hcons ▸ List.mem_cons_self⟩ hchoice, ?_⟩
      exact ⟨g, g', p, p', hne, List.mem_cons_of_mem _ hg, List.mem_cons_of_mem _ hg'⟩
    · push Not at hfirst
      obtain ⟨b, hb, g, g', hg, hg', hne⟩ := hfirst
      obtain ⟨choice, hchoice, hmem⟩ := exists_choice_with hoptions hb hg'
      refine ⟨(a.1, some g) :: choice, .cons ⟨rfl, hg⟩ hchoice, ?_⟩
      exact ⟨g, g', a.1, b.1, hne, List.mem_cons_self, List.mem_cons_of_mem _ hmem⟩

/-! ## When parties are settled -/

lemma AlwaysSplit.splits [Nonempty γ] (h : AlwaysSplit parties)
    (hchoice : IsChoice parties choice) : Splits choice := by
  obtain ⟨a, ha, hnone, -⟩ := h (Classical.arbitrary γ)
  obtain ⟨o, ho, hmem⟩ := hchoice.exists_of_mem ha
  cases o with
  | none => exact absurd ho hnone
  | some g =>
    obtain ⟨b, hb, hnone', hg⟩ := h g
    obtain ⟨o', ho', hmem'⟩ := hchoice.exists_of_mem hb
    cases o' with
    | none => exact absurd ho' hnone'
    | some g' =>
      refine ⟨g, g', a.1, b.1, ?_, hmem, hmem'⟩
      rintro rfl
      exact hg ho'

lemma not_splits_of_pairwise
    (h : parties.Pairwise fun a b => ∀ g g', some g ∈ a.2 → some g' ∈ b.2 → g = g')
    (hchoice : IsChoice parties choice) : ¬Splits choice := by
  have hpair : choice.Pairwise fun c c' => ∀ g g', c.2 = some g → c'.2 = some g' → g = g' := by
    induction hchoice with
    | nil => exact .nil
    | @cons a c parties choice hfirst hrest ih =>
      obtain ⟨ha, h⟩ := List.pairwise_cons.mp h
      refine List.pairwise_cons.mpr ⟨fun c' hc' g g' hg hg' => ?_, ih h⟩
      obtain ⟨b, hb, -, hopt⟩ := IsChoice.mem_of_mem hrest hc'
      exact ha b hb g g' (hg ▸ hfirst.2) (hg' ▸ hopt)
  have hsymm : Std.Symm fun c c' : π × Option γ =>
      ∀ g g', c.2 = some g → c'.2 = some g' → g = g' :=
    ⟨fun c c' h g g' hg hg' => (h g' g hg' hg).symm⟩
  have hself : ∀ c ∈ choice, ∀ g g', c.2 = some g → c.2 = some g' → g = g' :=
    fun c _ g g' hg hg' => Option.some_inj.mp (hg.symm.trans hg')
  rintro ⟨g, g', p, p', hne, hg, hg'⟩
  exact hne (hpair.forall_of_forall hself hg hg' g g' rfl rfl)

/-- A party is counted, under one option or another. -/
lemma counted_iff (hchoice : IsChoice parties choice) (p : π) :
    (∃ o, (p, o) ∈ choice) ↔ (∃ party ∈ parties, party.1 = p) := by
  constructor
  · rintro ⟨o, hmem⟩
    obtain ⟨party, hparty, hname, -⟩ := hchoice.mem_of_mem hmem
    exact ⟨party, hparty, hname⟩
  · rintro ⟨party, hparty, rfl⟩
    obtain ⟨o, -, hmem⟩ := hchoice.exists_of_mem hparty
    exact ⟨o, hmem⟩

/-- What is in a group under one choice is so under every other, when shared groups are the only
options. -/
lemma inPart_of_inPart [Nonempty γ] (hsplit : AlwaysSplit parties)
    (hshared : ∀ a ∈ parties, ∀ b ∈ parties, a.1 ≠ b.1 → ∀ g, some g ∈ a.2 → some g ∈ b.2 →
      ∃ a' ∈ parties, a'.1 = a.1 ∧ ∀ o ∈ a'.2, o = some g)
    (hchoice : IsChoice parties choice) (hchoice' : IsChoice parties choice') {g : γ} {p : π}
    (h : InPart choice g p) : InPart choice' g p := by
  have hstays : ∀ a ∈ parties, ∀ b ∈ parties, a.1 ≠ b.1 → some g ∈ a.2 → some g ∈ b.2 →
      (a.1, some g) ∈ choice' := by
    intro a ha b hb hne hga hgb
    obtain ⟨a', ha', hname, honly⟩ := hshared a ha b hb hne g hga hgb
    obtain ⟨o, ho, hmem⟩ := hchoice'.exists_of_mem ha'
    rwa [honly o ho, hname] at hmem
  obtain ⟨-, hp, q, hne, hq⟩ := h
  obtain ⟨a, ha, rfl, hga⟩ := hchoice.mem_of_mem hp
  obtain ⟨b, hb, rfl, hgb⟩ := hchoice.mem_of_mem hq
  exact ⟨hsplit.splits hchoice', hstays a ha b hb hne.symm hga hgb, b.1, hne,
    hstays b hb a ha hne hgb hga⟩

lemma sameForAll_of_settled [Nonempty γ] (h : Settled parties) : SameForAll parties := by
  intro choice choice' hchoice hchoice'
  rcases h with hsingle | hone | ⟨hsplit, hshared⟩
  · have hnone : ∀ {choice : List (π × Option γ)}, IsChoice parties choice → ∀ {p q : π}
        {o o' : Option γ}, (p, o) ∈ choice → (q, o') ∈ choice → q = p := by
      intro choice hchoice p q o o' hp hq
      obtain ⟨a, ha, rfl, -⟩ := hchoice.mem_of_mem hp
      obtain ⟨b, hb, rfl, -⟩ := hchoice.mem_of_mem hq
      exact hsingle b hb a ha
    constructor
    · intro p
      constructor
      · rintro ⟨-, ⟨o, hp⟩, q, o', hne, hq⟩
        exact absurd (hnone hchoice hp hq) hne
      · rintro ⟨-, ⟨o, hp⟩, q, o', hne, hq⟩
        exact absurd (hnone hchoice' hp hq) hne
    · intro g p
      constructor
      · rintro ⟨-, hp, q, hne, hq⟩
        exact absurd (hnone hchoice hp hq) hne
      · rintro ⟨-, hp, q, hne, hq⟩
        exact absurd (hnone hchoice' hp hq) hne
  · have hno := not_splits_of_pairwise hone hchoice
    have hno' := not_splits_of_pairwise hone hchoice'
    refine ⟨fun p => ?_, fun g p => ⟨fun h => absurd h.1 hno, fun h => absurd h.1 hno'⟩⟩
    have hothers : (∃ q o, q ≠ p ∧ (q, o) ∈ choice) ↔ ∃ q o, q ≠ p ∧ (q, o) ∈ choice' := by
      simp only [exists_and_left]
      exact exists_congr fun q => and_congr_right fun _ =>
        (counted_iff hchoice q).trans (counted_iff hchoice' q).symm
    unfold InWhole
    rw [hothers, counted_iff hchoice, counted_iff hchoice']
    simp only [hno, hno']
  · refine ⟨fun p => ⟨fun h => absurd (hsplit.splits hchoice) h.1,
      fun h => absurd (hsplit.splits hchoice') h.1⟩, fun g p => ?_⟩
    exact ⟨inPart_of_inPart hsplit hshared hchoice hchoice',
      inPart_of_inPart hsplit hshared hchoice' hchoice⟩

/-- If one group is open to all, a choice leaves the parties whole. -/
lemma exists_not_splits {g : γ} (hopen : ∀ party ∈ parties, none ∈ party.2 ∨ some g ∈ party.2) :
    ∃ choice, IsChoice parties choice ∧ ¬Splits choice := by
  classical
  have hpick : ∀ a ∈ parties, (if none ∈ a.2 then none else some g) ∈ a.2 := by
    intro a ha
    split_ifs with hnone
    · exact hnone
    · exact (hopen a ha).resolve_left hnone
  refine ⟨_, isChoice_map hpick, ?_⟩
  have honly : ∀ {p g'}, (p, some g') ∈ parties.map (fun party =>
      (party.1, if none ∈ party.2 then none else some g)) → g' = g := by
    intro p g' hmem
    obtain ⟨a, -, heq⟩ := List.mem_map.mp hmem
    have hpicked := (Prod.mk.inj heq).2
    split_ifs at hpicked with hnone
    exact (Option.some_inj.mp hpicked).symm
  rintro ⟨g₁, g₂, p, p', hne, h₁, h₂⟩
  exact hne ((honly h₁).trans (honly h₂).symm)

lemma settled_of_sameForAll [Nonempty γ] (hoptions : ∀ party ∈ parties, party.2 ≠ [])
    (h : SameForAll parties) : Settled parties := by
  classical
  by_cases hsingle : ∀ a ∈ parties, ∀ b ∈ parties, a.1 = b.1
  · exact .inl hsingle
  by_cases hone : parties.Pairwise fun a b => ∀ g g', some g ∈ a.2 → some g' ∈ b.2 → g = g'
  · exact .inr (.inl hone)
  push Not at hsingle
  obtain ⟨a₀, ha₀, b₀, hb₀, hne₀⟩ := hsingle
  have hsplit : AlwaysSplit parties := by
    by_contra hopen
    unfold AlwaysSplit at hopen
    push Not at hopen
    obtain ⟨g, hopen⟩ := hopen
    obtain ⟨whole, hwhole, hno⟩ := exists_not_splits fun party hparty =>
      or_iff_not_imp_left.mpr (hopen party hparty)
    obtain ⟨parts, hparts, hyes⟩ := exists_splits hoptions hone
    have hin : InWhole whole a₀.1 := by
      obtain ⟨o, -, ha⟩ := hwhole.exists_of_mem ha₀
      obtain ⟨o', -, hb⟩ := hwhole.exists_of_mem hb₀
      exact ⟨hno, ⟨o, ha⟩, b₀.1, o', hne₀.symm, hb⟩
    exact (((h whole parts hwhole hparts).1 a₀.1).mp hin).1 hyes
  refine .inr (.inr ⟨hsplit, fun a ha b hb hne g hga hgb => ?_⟩)
  by_contra hfree
  push Not at hfree
  -- one choice counts all by the shared group, another counts the party by anything else
  have hhead : ∀ party ∈ parties, party.2.headD none ∈ party.2 := by
    intro party hparty
    obtain ⟨first, rest, hcons⟩ := List.exists_cons_of_ne_nil (hoptions party hparty)
    rw [hcons]
    exact List.mem_cons_self
  have hwith : ∀ party ∈ parties,
      (if some g ∈ party.2 then some g else party.2.headD none) ∈ party.2 := by
    intro party hparty
    split_ifs with hmem
    · exact hmem
    · exact hhead party hparty
  have hchoose : ∀ party : π × List (Option γ), ∃ o, (party ∈ parties → o ∈ party.2) ∧
      (party ∈ parties → party.1 = a.1 → o ≠ some g) := by
    intro party
    by_cases hparty : party ∈ parties
    · by_cases hname : party.1 = a.1
      · obtain ⟨o, ho, hother⟩ := hfree party hparty hname
        exact ⟨o, fun _ => ho, fun _ _ => hother⟩
      · exact ⟨_, fun _ => hhead party hparty, fun _ heq => absurd heq hname⟩
    · exact ⟨none, fun hmem => absurd hmem hparty, fun hmem => absurd hmem hparty⟩
  choose pick hpick hother using hchoose
  have hshared := isChoice_map hwith
  have haway := isChoice_map hpick
  have hin : InPart (parties.map fun party =>
      (party.1, if some g ∈ party.2 then some g else party.2.headD none)) g a.1 := by
    refine ⟨hsplit.splits hshared, List.mem_map.mpr ⟨a, ha, ?_⟩, b.1, hne.symm,
      List.mem_map.mpr ⟨b, hb, ?_⟩⟩
    · rw [if_pos hga]
    · rw [if_pos hgb]
  obtain ⟨-, hmem, -⟩ := ((h _ _ hshared haway).2 g a.1).mp hin
  obtain ⟨party, hparty, heq⟩ := List.mem_map.mp hmem
  obtain ⟨hname, hpicked⟩ := Prod.mk.inj heq
  exact hother party hparty hname hpicked

/-- The outcome is the same for every choice exactly when the parties are settled. -/
lemma sameForAll_iff [Nonempty γ] (hoptions : ∀ party ∈ parties, party.2 ≠ []) :
    SameForAll parties ↔ Settled parties :=
  ⟨settled_of_sameForAll hoptions, sameForAll_of_settled⟩

end CountedOnce
