import Mathlib.Data.List.Basic
import Mathlib.Data.List.Infix

/-!
# Runs of a partial step function

A system is a partial function `step : α → σ → Option σ`: action `a` is enabled in state `s` when
`step a s` is a state.  A run takes a list of actions in order.  Everything a proof says about all
runs goes through the rule `run_history`, whose invariant may speak about the actions taken so far;
`run_invariant` is the case that does not.
-/

namespace Runs

variable {σ α : Type*} (step : α → σ → Option σ)

/-- The state after a list of actions, when each of them was enabled at its turn. -/
def run : List α → σ → Option σ
  | [], s => some s
  | a :: as, s => (step a s).bind (run as)

/-- Every action of the list meets `C` in the state in which it is taken. -/
def Meets (C : α → σ → Prop) : List α → σ → Prop
  | [], _ => True
  | a :: as, s => C a s ∧ ∀ t, step a s = some t → Meets C as t

/-- Some state of the run, its first and its last included, satisfies `Q`. -/
def Passes (Q : σ → Prop) (as : List α) (s : σ) : Prop :=
  ∃ bs t, bs <+: as ∧ run step bs s = some t ∧ Q t

instance decidableMeets (C : α → σ → Prop) [∀ a s, Decidable (C a s)] :
    ∀ (as : List α) (s : σ), Decidable (Meets step C as s)
  | [], _ => isTrue trivial
  | a :: as, s =>
    match ha : step a s with
    | none =>
      decidable_of_iff (C a s)
        ⟨fun hC => ⟨hC, fun t ht => by rw [ha] at ht; cases ht⟩, And.left⟩
    | some t =>
      have := decidableMeets C as t
      decidable_of_iff (C a s ∧ Meets step C as t)
        ⟨fun h => ⟨h.1, fun u hu => by rw [ha, Option.some_inj] at hu; exact hu ▸ h.2⟩,
          fun h => ⟨h.1, h.2 t ha⟩⟩

variable {step}

lemma run_nil (s : σ) : run step [] s = some s := rfl

lemma run_cons_eq_some {a : α} {as : List α} {s t : σ} :
    run step (a :: as) s = some t ↔ ∃ u, step a s = some u ∧ run step as u = some t := by
  rw [run, Option.bind_eq_some_iff]

lemma run_append_eq_some {as bs : List α} {s t : σ} :
    run step (as ++ bs) s = some t ↔ ∃ u, run step as s = some u ∧ run step bs u = some t := by
  induction as generalizing s with
  | nil => simp [run]
  | cons a as ih =>
    rw [List.cons_append, run_cons_eq_some]
    constructor
    · rintro ⟨v, hv, hrest⟩
      obtain ⟨u, hu, hbs⟩ := ih.mp hrest
      exact ⟨u, run_cons_eq_some.mpr ⟨v, hv, hu⟩, hbs⟩
    · rintro ⟨u, hu, hbs⟩
      obtain ⟨v, hv, hrest⟩ := run_cons_eq_some.mp hu
      exact ⟨v, hv, ih.mpr ⟨u, hrest, hbs⟩⟩

lemma run_snoc_eq_some {as : List α} {a : α} {s t : σ} :
    run step (as ++ [a]) s = some t ↔ ∃ u, run step as s = some u ∧ step a u = some t := by
  rw [run_append_eq_some]
  refine exists_congr fun u => and_congr_right fun _ => ?_
  simp [run]

/-- What holds at the start, and passes over every action of the list together with the actions
before it, holds at the end. -/
theorem run_history {J : List α → σ → Prop} {as : List α} {s t : σ}
    (hstart : J [] s)
    (hstep : ∀ bs a u v, bs ++ [a] <+: as → run step bs s = some u → J bs u →
      step a u = some v → J (bs ++ [a]) v)
    (hrun : run step as s = some t) : J as t := by
  induction as using List.reverseRecOn generalizing t with
  | nil =>
    rw [run_nil, Option.some_inj] at hrun
    exact hrun ▸ hstart
  | append_singleton as a ih =>
    obtain ⟨u, hu, ha⟩ := run_snoc_eq_some.mp hrun
    have hJ : J as u := ih
      (fun bs b v w hpre => hstep bs b v w (hpre.trans (List.prefix_append as [a]))) hu
    exact hstep as a u t List.prefix_rfl hu hJ ha

/-- What every step preserves, every run preserves. -/
theorem run_invariant {I : σ → Prop} (hstep : ∀ a s t, I s → step a s = some t → I t)
    {as : List α} {s t : σ} (hrun : run step as s = some t) (hs : I s) : I t :=
  run_history (J := fun _ u => I u) hs (fun _ a u v _ _ hu hv => hstep a u v hu hv) hrun

/-! ## Runs under a condition on the actions -/

lemma Meets.nil {C : α → σ → Prop} {s : σ} : Meets step C [] s := trivial

lemma Meets.cons {C : α → σ → Prop} {a : α} {as : List α} {s t : σ} (ha : C a s)
    (hstep : step a s = some t) (has : Meets step C as t) : Meets step C (a :: as) s := by
  refine ⟨ha, fun u hu => ?_⟩
  rw [hstep, Option.some_inj] at hu
  exact hu ▸ has

/-- The condition holds where an action of the list is taken. -/
lemma Meets.of_prefix {C : α → σ → Prop} {as bs : List α} {a : α} {s u : σ}
    (hmeets : Meets step C as s) (hpre : bs ++ [a] <+: as) (hrun : run step bs s = some u) :
    C a u := by
  induction bs generalizing as s with
  | nil =>
    obtain ⟨rest, rfl⟩ := hpre
    rw [run_nil, Option.some_inj] at hrun
    exact hrun ▸ hmeets.1
  | cons b bs ih =>
    obtain ⟨rest, rfl⟩ := hpre
    obtain ⟨v, hv, hbs⟩ := run_cons_eq_some.mp hrun
    exact ih (hmeets.2 v hv) (List.prefix_append _ rest) hbs

/-- What every step under the condition preserves, every run under it preserves. -/
theorem run_invariant_of_meets {C : α → σ → Prop} {I : σ → Prop}
    (hstep : ∀ a s t, C a s → I s → step a s = some t → I t)
    {as : List α} {s t : σ} (hmeets : Meets step C as s) (hrun : run step as s = some t)
    (hs : I s) : I t := by
  refine run_history (J := fun _ u => I u) hs ?_ hrun
  intro bs a u v hpre hbs hu hv
  exact hstep a u v (hmeets.of_prefix hpre hbs) hu hv

/-! ## What a run passes through -/

/-- A state reached inside a run is passed by it. -/
lemma Passes.of_prefix {Q : σ → Prop} {as bs : List α} {s t : σ} (hpre : bs <+: as)
    (hrun : run step bs s = some t) (ht : Q t) : Passes step Q as s :=
  ⟨bs, t, hpre, hrun, ht⟩

/-- A longer run passes through all that the shorter one did. -/
lemma Passes.append {Q : σ → Prop} {as : List α} {s : σ} (h : Passes step Q as s)
    (bs : List α) : Passes step Q (as ++ bs) s := by
  obtain ⟨cs, t, hpre, hrun, ht⟩ := h
  exact ⟨cs, t, hpre.trans (List.prefix_append as bs), hrun, ht⟩

end Runs
