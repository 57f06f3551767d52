import Mathlib.Data.List.ReduceOption
import Mathlib.Order.MinMax

/-!
# Aggregates over nullable values

The minimum and the maximum of a list of optional values, absent values being
ignored and the aggregate being absent when every value is.  This is what `MIN`
and `MAX` compute in SQL over a nullable column.

Tests of the form "the value is present and satisfies `p`" are written
`o.any p`.  For a property that is inherited by smaller values such a test on the
minimum is the same as the test on some member of the list; dually for the maximum.
-/

namespace Nullable

variable {α : Type*} [LinearOrder α]

/-- The least of the values that are present. -/
def minSome (xs : List (Option α)) : Option α := xs.reduceOption.min?

/-- The greatest of the values that are present. -/
def maxSome (xs : List (Option α)) : Option α := xs.reduceOption.max?

lemma minSome_eq_none_iff {xs : List (Option α)} :
    minSome xs = none ↔ ∀ x ∈ xs, x = none := by
  rw [minSome, List.min?_eq_none_iff, List.reduceOption, List.filterMap_eq_nil_iff]
  rfl

/-- The minimum is attained, and is a lower bound of the values that are present. -/
lemma minSome_eq_some_iff {xs : List (Option α)} {m : α} :
    minSome xs = some m ↔ some m ∈ xs ∧ ∀ x, some x ∈ xs → m ≤ x := by
  rw [minSome, List.min?_eq_some_iff]
  simp only [List.reduceOption_mem_iff]

/-- The maximum is attained, and is an upper bound of the values that are present. -/
lemma maxSome_eq_some_iff {xs : List (Option α)} {m : α} :
    maxSome xs = some m ↔ some m ∈ xs ∧ ∀ x, some x ∈ xs → x ≤ m := by
  rw [maxSome, List.max?_eq_some_iff]
  simp only [List.reduceOption_mem_iff]

lemma minSome_isSome_iff {xs : List (Option α)} :
    (minSome xs).isSome ↔ ∃ x, some x ∈ xs := by
  rw [Option.isSome_iff_ne_none, ne_eq, minSome_eq_none_iff]
  constructor
  · intro h
    by_contra hne
    refine h fun x hx => ?_
    cases x with
    | none => rfl
    | some x => exact absurd ⟨x, hx⟩ hne
  · rintro ⟨x, hx⟩ h
    exact absurd (h _ hx) (by simp)

lemma maxSome_isSome_iff {xs : List (Option α)} :
    (maxSome xs).isSome ↔ ∃ x, some x ∈ xs := by
  have h : (maxSome xs).isSome = (minSome xs).isSome := by
    rw [maxSome, minSome]
    cases xs.reduceOption <;> simp [List.max?, List.min?]
  rw [h, minSome_isSome_iff]

/-- A test that smaller values inherit holds of the minimum exactly when it holds of
some value. -/
lemma minSome_any_iff {p : α → Bool} (hp : ∀ x y, x ≤ y → p y = true → p x = true)
    {xs : List (Option α)} :
    (minSome xs).any p = true ↔ ∃ x ∈ xs, x.any p = true := by
  constructor
  · intro h
    obtain ⟨m, hm, hpm⟩ := (Option.any_eq_true _ _).mp h
    exact ⟨some m, (minSome_eq_some_iff.mp hm).1, by simpa using hpm⟩
  · rintro ⟨x, hx, hpx⟩
    obtain ⟨v, rfl, hpv⟩ := (Option.any_eq_true _ _).mp hpx
    obtain ⟨m, hm⟩ := Option.isSome_iff_exists.mp (minSome_isSome_iff.mpr ⟨v, hx⟩)
    have hmv : m ≤ v := (minSome_eq_some_iff.mp hm).2 v hx
    exact (Option.any_eq_true _ _).mpr ⟨m, hm, hp m v hmv hpv⟩

/-- A test that greater values inherit holds of the maximum exactly when it holds of
some value. -/
lemma maxSome_any_iff {p : α → Bool} (hp : ∀ x y, x ≤ y → p x = true → p y = true)
    {xs : List (Option α)} :
    (maxSome xs).any p = true ↔ ∃ x ∈ xs, x.any p = true := by
  constructor
  · intro h
    obtain ⟨m, hm, hpm⟩ := (Option.any_eq_true _ _).mp h
    exact ⟨some m, (maxSome_eq_some_iff.mp hm).1, by simpa using hpm⟩
  · rintro ⟨x, hx, hpx⟩
    obtain ⟨v, rfl, hpv⟩ := (Option.any_eq_true _ _).mp hpx
    obtain ⟨m, hm⟩ := Option.isSome_iff_exists.mp (maxSome_isSome_iff.mpr ⟨v, hx⟩)
    have hmv : v ≤ m := (maxSome_eq_some_iff.mp hm).2 v hx
    exact (Option.any_eq_true _ _).mpr ⟨m, hm, hp v m hmv hpv⟩

end Nullable
