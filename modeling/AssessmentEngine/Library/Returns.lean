import Mathlib.Data.List.Forall2

/-!
# Functions that return

`Returns P x` says of a computation that may raise, which is `none`, that it returns a value with
`P`.  The simp set takes a condition on a whole result apart into conditions on the steps that lead
to it.
-/

/-- The computation returns a value with the property. -/
def Returns {α : Type*} (P : α → Prop) (x : Option α) : Prop :=
  ∃ a, x = some a ∧ P a

namespace Returns

variable {α β : Type*} {P Q : α → Prop} {R : Prop} {x : Option α}

@[simp] lemma some_iff {a : α} : Returns P (some a) ↔ P a := by
  constructor
  · rintro ⟨_, heq, h⟩
    cases heq
    exact h
  · exact fun h => ⟨a, rfl, h⟩

@[simp] lemma none_iff : Returns P none ↔ False := by
  constructor
  · rintro ⟨_, heq, _⟩
    cases heq
  · exact False.elim

@[simp] lemma bind_iff {f : α → Option β} {P : β → Prop} :
    Returns P (x.bind f) ↔ Returns (fun a => Returns P (f a)) x := by
  cases x with
  | none => rw [Option.bind_none, none_iff, none_iff]
  | some a => rw [Option.bind_some, some_iff]

@[simp] lemma map_iff {f : α → β} {P : β → Prop} :
    Returns P (x.map f) ↔ Returns (fun a => P (f a)) x := by
  cases x with
  | none => rw [Option.map_none, none_iff, none_iff]
  | some a => rw [Option.map_some, some_iff, some_iff]

/-- A condition that is not about the value may be taken out. -/
@[simp] lemma and_left_iff : Returns (fun a => R ∧ P a) x ↔ R ∧ Returns P x :=
  ⟨fun ⟨a, heq, hR, hP⟩ => ⟨hR, a, heq, hP⟩, fun ⟨hR, a, heq, hP⟩ => ⟨a, heq, hR, hP⟩⟩

@[simp] lemma and_right_iff : Returns (fun a => P a ∧ R) x ↔ Returns P x ∧ R :=
  ⟨fun ⟨a, heq, hP, hR⟩ => ⟨⟨a, heq, hP⟩, hR⟩, fun ⟨⟨a, heq, hP⟩, hR⟩ => ⟨a, heq, hP, hR⟩⟩

/-- Loops with the same rounds return the same. -/
lemma mapM_congr {f g : α → Option β} {as : List α} (h : ∀ a ∈ as, f a = g a) :
    as.mapM f = as.mapM g := by
  induction as with
  | nil => rfl
  | cons a as ih =>
    rw [List.mapM_cons, List.mapM_cons, h a List.mem_cons_self,
      ih fun b hb => h b (List.mem_cons_of_mem a hb)]

/-- A loop returns when each of its rounds does. -/
lemma mapM_iff {f : α → Option β} {P : β → Prop} {as : List α} :
    Returns (fun bs => ∀ b ∈ bs, P b) (as.mapM f) ↔ ∀ a ∈ as, Returns P (f a) := by
  induction as with
  | nil => simp
  | cons a as ih =>
    rw [List.mapM_cons, List.forall_mem_cons, ← ih]
    simp only [Option.bind_eq_bind, Option.pure_def, bind_iff, some_iff, List.forall_mem_cons,
      and_left_iff, and_right_iff]

end Returns
