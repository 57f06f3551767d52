import Mathlib.Data.List.Basic

/-!
# Selection by tokens

A query is a list of tokens; a member is selected when it satisfies one of them, and every member
is selected when there is no token.  A token that no member satisfies is unmatched.
-/

namespace Selection

variable {τ σ : Type*} (sat : τ → σ → Bool)

/-- The members that satisfy some token; all of them when there is no token. -/
def select (tokens : List τ) (members : List σ) : List σ :=
  members.filter fun s => tokens.isEmpty || tokens.any fun t => sat t s

/-- The tokens that no member satisfies. -/
def unmatched (tokens : List τ) (members : List σ) : List τ :=
  tokens.filter fun t => !members.any fun s => sat t s

variable {sat} {tokens : List τ} {members : List σ}

lemma mem_select {s : σ} :
    s ∈ select sat tokens members ↔
      s ∈ members ∧ (tokens = [] ∨ ∃ t ∈ tokens, sat t s = true) := by
  simp [select]

lemma mem_unmatched {t : τ} :
    t ∈ unmatched sat tokens members ↔ t ∈ tokens ∧ ∀ s ∈ members, sat t s = false := by
  simp [unmatched]

end Selection
