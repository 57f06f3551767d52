import Mathlib.Algebra.BigOperators.Group.List.Basic
import Mathlib.Tactic.Abel
import AssessmentEngine.Library.RowGroups

/-!
# The newest rows of a partition

`rowNumber` numbers the rows of a partition, newest first.  The second row is the one before the
first, so a sum over the second rows is a sum over the first rows and what lies before them.
-/

namespace RowRanks

open RowGroups

variable {ρ κ τ : Type*} [DecidableEq κ] [LinearOrder τ]

/-- `row_number() OVER (PARTITION BY part ORDER BY time DESC)`, where the times of a partition
differ. -/
def rowNumber (part : ρ → κ) (time : ρ → τ) (rows : List ρ) (r : ρ) : ℕ :=
  (rows.filter fun a => part a = part r ∧ time r < time a).length + 1

/-- `max(CASE WHEN rn = n THEN f END)`. -/
def maxAt {α : Type*} [LinearOrder α] (rn : ρ → ℕ) (n : ℕ) (f : ρ → Option α) (group : List ρ) :
    Option α :=
  Nullable.maxSome (group.map fun r => if rn r = n then f r else none)

/-- `SUM(CASE WHEN rn = n THEN f END)`. -/
def sumAt {α : Type*} [AddMonoid α] (rn : ρ → ℕ) (n : ℕ) (f : ρ → α) (group : List ρ) : Option α :=
  sumSome (group.map fun r => if rn r = n then some (f r) else none)

/-- The rows with a number. -/
def ranked (rn : ρ → ℕ) (n : ℕ) (group : List ρ) : List ρ := group.filter fun r => rn r = n

lemma mem_ranked {rn : ρ → ℕ} {n : ℕ} {group : List ρ} {r : ρ} :
    r ∈ ranked rn n group ↔ r ∈ group ∧ rn r = n := by
  simp [ranked]

/-- Only the rows with the number count. -/
lemma maxAt_eq {α : Type*} [LinearOrder α] (rn : ρ → ℕ) (n : ℕ) (f : ρ → Option α)
    (group : List ρ) : maxAt rn n f group = Nullable.maxSome ((ranked rn n group).map f) := by
  have hvalues : (group.map fun r => if rn r = n then f r else none).reduceOption =
      ((ranked rn n group).map f).reduceOption := by
    induction group with
    | nil => rfl
    | cons r group ih =>
      by_cases hr : rn r = n
      · cases hf : f r <;> simp_all [ranked]
      · simp_all [ranked]
  rw [maxAt, Nullable.maxSome, Nullable.maxSome, hvalues]

lemma sumAt_eq {α : Type*} [AddMonoid α] (rn : ρ → ℕ) (n : ℕ) (f : ρ → α) (group : List ρ) :
    sumAt rn n f group =
      if ranked rn n group = [] then none else some ((ranked rn n group).map f).sum := by
  have hvalues : (group.map fun r => if rn r = n then some (f r) else none).reduceOption =
      (ranked rn n group).map f := by
    induction group with
    | nil => rfl
    | cons r group ih => by_cases hr : rn r = n <;> simp_all [ranked]
  rw [sumAt, sumSome, hvalues]
  cases ranked rn n group <;> rfl

/-- The rows up to a number are enough. -/
lemma ranked_rowsWith_filter {ι : Type*} [DecidableEq ι] {key : ρ → ι} {k : ι} {rn : ρ → ℕ}
    {n m : ℕ} (hn : n ≤ m) (rows : List ρ) :
    ranked rn n (rowsWith key k (rows.filter fun r => rn r ≤ m)) =
      ranked rn n (rowsWith key k rows) := by
  simp only [ranked, rowsWith, List.filter_filter]
  apply List.filter_congr
  intro r _
  by_cases hr : rn r = n
  · simp [hr, hn]
  · simp [hr]

section Numbers

variable {part : ρ → κ} {time : ρ → τ} {rows : List ρ} {r : ρ}

/-- Rows of other partitions do not matter. -/
lemma rowNumber_filter {p : ρ → Bool} (hp : ∀ a, part a = part r → p a = true) :
    rowNumber part time (rows.filter p) r = rowNumber part time rows r := by
  rw [rowNumber, rowNumber, List.filter_filter]
  refine congrArg (fun l => List.length l + 1) (List.filter_congr fun a _ => ?_)
  by_cases ha : part a = part r
  · simp [ha, hp a ha]
  · simp [ha]

lemma rowNumber_eq_one_iff :
    rowNumber part time rows r = 1 ↔ ∀ a ∈ rows, part a = part r → time a ≤ time r := by
  rw [rowNumber, Nat.add_eq_right, List.length_eq_zero_iff, List.filter_eq_nil_iff]
  simp

variable (hkeys : (rows.map fun r => (part r, time r)).Nodup)

include hkeys

omit [DecidableEq κ] [LinearOrder τ] in
lemma eq_of_part_time {a b : ρ} (ha : a ∈ rows) (hb : b ∈ rows) (hpart : part a = part b)
    (htime : time a = time b) : a = b :=
  List.inj_on_of_nodup_map hkeys ha hb (Prod.ext hpart htime)

/-- A partition has one first row. -/
lemma eq_of_rowNumber_one {a b : ρ} (ha : a ∈ rows) (hb : b ∈ rows) (hpart : part a = part b)
    (hone : rowNumber part time rows a = 1) (hone' : rowNumber part time rows b = 1) : a = b := by
  apply eq_of_part_time hkeys ha hb hpart
  apply le_antisymm
  · exact rowNumber_eq_one_iff.mp hone' a ha hpart
  · exact rowNumber_eq_one_iff.mp hone b hb hpart.symm

lemma lag_eq_some_iff {a b : ρ} : lag part time rows a = some b ↔
    (b ∈ rows ∧ part b = part a ∧ time b < time a) ∧
      ∀ x ∈ rows, part x = part a → time x < time a → time x ≤ time b := by
  unfold lag
  rw [Table.latest_eq_some_iff]
  · simp only [List.mem_filter, decide_eq_true_eq, and_imp]
  · intro x hx y hy htime
    obtain ⟨hx, hxa⟩ := List.mem_filter.mp hx
    obtain ⟨hy, hya⟩ := List.mem_filter.mp hy
    refine eq_of_part_time hkeys hx hy ?_ htime
    exact (of_decide_eq_true hxa).1.trans (of_decide_eq_true hya).1.symm

/-- A partition with a row has a first one. -/
lemma exists_rowNumber_one (hr : r ∈ rows) :
    ∃ a ∈ rows, part r = part a ∧ rowNumber part time rows a = 1 := by
  cases hlatest : Table.latest time (rows.filter fun a => part a = part r) with
  | none =>
    have hempty := List.filter_eq_nil_iff.mp (Table.latest_eq_none_iff.mp hlatest) r hr
    exact absurd (decide_eq_true rfl) hempty
  | some a =>
    have hinj : ∀ x ∈ rows.filter (fun a => part a = part r), ∀ y ∈ rows.filter
        (fun a => part a = part r), time x = time y → x = y := by
      intro x hx y hy htime
      obtain ⟨hx, hxr⟩ := List.mem_filter.mp hx
      obtain ⟨hy, hyr⟩ := List.mem_filter.mp hy
      refine eq_of_part_time hkeys hx hy ?_ htime
      exact (of_decide_eq_true hxr).trans (of_decide_eq_true hyr).symm
    obtain ⟨hmem, hle⟩ := (Table.latest_eq_some_iff hinj).mp hlatest
    obtain ⟨ha, hpart⟩ := List.mem_filter.mp hmem
    have hpart : part a = part r := of_decide_eq_true hpart
    refine ⟨a, ha, hpart.symm, rowNumber_eq_one_iff.mpr fun x hx hxa => ?_⟩
    exact hle x (List.mem_filter.mpr ⟨hx, decide_eq_true (hxa.trans hpart)⟩)

/-- The second row is the one before the first. -/
lemma lag_eq_some_iff_rowNumber {a b : ρ} (ha : a ∈ rows)
    (hone : rowNumber part time rows a = 1) :
    lag part time rows a = some b ↔
      b ∈ rows ∧ part b = part a ∧ rowNumber part time rows b = 2 := by
  have hfirst := rowNumber_eq_one_iff.mp hone
  rw [lag_eq_some_iff hkeys]
  constructor
  · rintro ⟨⟨hb, hpart, hbefore⟩, hlast⟩
    have hnewer : (rows.filter fun x => part x = part b ∧ time b < time x) = [a] := by
      have hnodup : (rows.filter fun x => part x = part b ∧ time b < time x).Nodup :=
        hkeys.of_map.filter _
      refine List.perm_singleton.mp ((List.perm_ext_iff_of_nodup hnodup
        (List.nodup_singleton a)).mpr fun x => ?_)
      rw [List.mem_filter, decide_eq_true_eq, List.mem_singleton]
      constructor
      · rintro ⟨hx, hxb, hafter⟩
        have hxa : part x = part a := hxb.trans hpart
        refine eq_of_part_time hkeys hx ha hxa (le_antisymm (hfirst x hx hxa) ?_)
        by_contra hlt
        exact absurd (hlast x hx hxa (not_le.mp hlt)) (not_le.mpr hafter)
      · rintro rfl
        exact ⟨ha, hpart.symm, hbefore⟩
    exact ⟨hb, hpart, by rw [rowNumber, hnewer]; rfl⟩
  · rintro ⟨hb, hpart, htwo⟩
    have hne : b ≠ a := by
      rintro rfl
      omega
    have hbefore : time b < time a := by
      refine lt_of_le_of_ne (hfirst b hb hpart) fun htime => hne ?_
      exact eq_of_part_time hkeys hb ha hpart htime
    refine ⟨⟨hb, hpart, hbefore⟩, fun x hx hxa hxbefore => ?_⟩
    have hlength : (rows.filter fun x => part x = part b ∧ time b < time x).length = 1 := by
      unfold rowNumber at htwo
      omega
    obtain ⟨c, hc⟩ := List.length_eq_one_iff.mp hlength
    have hnewer : ∀ x ∈ rows, part x = part b → time b < time x → x = c := by
      intro x hx hxb hafter
      have hmem : x ∈ rows.filter fun x => part x = part b ∧ time b < time x :=
        List.mem_filter.mpr ⟨hx, decide_eq_true ⟨hxb, hafter⟩⟩
      rwa [hc, List.mem_singleton] at hmem
    by_contra hlt
    have hxc := hnewer x hx (hxa.trans hpart.symm) (not_le.mp hlt)
    rw [← hnewer a ha hpart.symm hbefore] at hxc
    exact absurd hxbefore (hxc ▸ lt_irrefl _)

/-- The second rows are those before the first ones. -/
lemma ranked_two_perm :
    (ranked (rowNumber part time rows) 2 rows).Perm
      ((ranked (rowNumber part time rows) 1 rows).filterMap (lag part time rows)) := by
  have hlag : ∀ a ∈ ranked (rowNumber part time rows) 1 rows, ∀ b, lag part time rows a = some b ↔
      b ∈ rows ∧ part b = part a ∧ rowNumber part time rows b = 2 := by
    intro a ha b
    obtain ⟨ha, hone⟩ := mem_ranked.mp ha
    exact lag_eq_some_iff_rowNumber hkeys ha hone
  have hnodup : ∀ n, (ranked (rowNumber part time rows) n rows).Nodup :=
    fun n => hkeys.of_map.filter _
  apply (List.perm_ext_iff_of_nodup (hnodup 2) ?_).mpr
  · intro b
    rw [mem_ranked, List.mem_filterMap]
    constructor
    · rintro ⟨hb, htwo⟩
      obtain ⟨a, hfirst⟩ := exists_rowNumber_one hkeys hb
      obtain ⟨ha, hpart, hone⟩ := hfirst
      have hmem := mem_ranked.mpr ⟨ha, hone⟩
      exact ⟨a, hmem, (hlag a hmem b).mpr ⟨hb, hpart, htwo⟩⟩
    · rintro ⟨a, ha, hb⟩
      obtain ⟨hb, -, htwo⟩ := (hlag a ha b).mp hb
      exact ⟨hb, htwo⟩
  · -- rows before the first of different partitions are different
    rw [List.nodup_iff_pairwise_ne, List.pairwise_filterMap]
    refine (hnodup 1).imp_of_mem ?_
    rintro a a' ha ha' hne b hb b' hb' rfl
    apply hne
    obtain ⟨hrow, hone⟩ := mem_ranked.mp ha
    obtain ⟨hrow', hone'⟩ := mem_ranked.mp ha'
    obtain ⟨-, hpart, -⟩ := (hlag a ha b).mp hb
    obtain ⟨-, hpart', -⟩ := (hlag a' ha' b).mp hb'
    exact eq_of_rowNumber_one hkeys hrow hrow' (hpart.symm.trans hpart') hone hone'

/-- The first row of a partition. -/
lemma ranked_one_rowsWith {a : ρ} (ha : a ∈ rows) (hone : rowNumber part time rows a = 1) :
    ranked (rowNumber part time rows) 1 (rowsWith part (part a) rows) = [a] := by
  have hnodup : (ranked (rowNumber part time rows) 1 (rowsWith part (part a) rows)).Nodup :=
    (hkeys.of_map.filter _).filter _
  apply List.perm_singleton.mp
  refine (List.perm_ext_iff_of_nodup hnodup (List.nodup_singleton a)).mpr fun b => ?_
  rw [mem_ranked, mem_rowsWith, List.mem_singleton]
  constructor
  · rintro ⟨⟨hb, hpart⟩, hone'⟩
    exact eq_of_rowNumber_one hkeys hb ha hpart hone' hone
  · rintro rfl
    exact ⟨⟨ha, rfl⟩, hone⟩

/-- The second row of a partition. -/
lemma ranked_two_rowsWith {a : ρ} (ha : a ∈ rows) (hone : rowNumber part time rows a = 1) :
    ranked (rowNumber part time rows) 2 (rowsWith part (part a) rows) =
      (lag part time rows a).toList := by
  have hnodup : (ranked (rowNumber part time rows) 2 (rowsWith part (part a) rows)).Nodup :=
    (hkeys.of_map.filter _).filter _
  have hmem : ∀ b, b ∈ ranked (rowNumber part time rows) 2 (rowsWith part (part a) rows) ↔
      lag part time rows a = some b := by
    intro b
    rw [mem_ranked, mem_rowsWith, lag_eq_some_iff_rowNumber hkeys ha hone, and_assoc]
  cases hlag : lag part time rows a with
  | none =>
    refine List.eq_nil_iff_forall_not_mem.mpr fun b hb => ?_
    rw [hmem, hlag] at hb
    cases hb
  | some b =>
    apply List.perm_singleton.mp
    refine (List.perm_ext_iff_of_nodup hnodup (List.nodup_singleton b)).mpr fun c => ?_
    rw [hmem, hlag, Option.some.injEq, List.mem_singleton, eq_comm]

/-- A sum over the second rows is a sum over the first ones. -/
lemma sum_ranked_two {α : Type*} [AddCommMonoid α] (f : ρ → α) :
    ((ranked (rowNumber part time rows) 2 rows).map f).sum =
      ((ranked (rowNumber part time rows) 1 rows).map fun a =>
        (lag part time rows a).elim 0 f).sum := by
  rw [((ranked_two_perm hkeys).map f).sum_eq]
  induction ranked (rowNumber part time rows) 1 rows with
  | nil => rfl
  | cons a firsts ih =>
    cases ha : lag part time rows a with
    | none => simpa [ha] using ih
    | some b => simp [ha, ih]

/-- The sum of the first rows less that of the second rows. -/
lemma sum_ranked_sub {α : Type*} [AddCommGroup α] (f : ρ → α) :
    ((ranked (rowNumber part time rows) 1 rows).map f).sum -
        ((ranked (rowNumber part time rows) 2 rows).map f).sum =
      ((ranked (rowNumber part time rows) 1 rows).map fun a =>
        f a - (lag part time rows a).elim 0 f).sum := by
  rw [sum_ranked_two hkeys]
  induction ranked (rowNumber part time rows) 1 rows with
  | nil => simp
  | cons a firsts ih =>
    simp only [List.map_cons, List.sum_cons, ← ih]
    abel

lemma ranked_two_eq_nil_iff :
    ranked (rowNumber part time rows) 2 rows = [] ↔
      ∀ a ∈ ranked (rowNumber part time rows) 1 rows, lag part time rows a = none := by
  rw [← List.filterMap_eq_nil_iff, ← List.length_eq_zero_iff, (ranked_two_perm hkeys).length_eq,
    List.length_eq_zero_iff]

end Numbers

end RowRanks
