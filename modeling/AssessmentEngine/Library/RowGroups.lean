import Mathlib.Algebra.BigOperators.Group.List.Basic
import Mathlib.Data.List.Dedup
import AssessmentEngine.Library.Nullable
import AssessmentEngine.Library.Table

/-!
# Grouping rows

`groupBy` is `GROUP BY`: something is made of the rows of each key.  The aggregates ignore what is
absent and are absent where nothing is there; `lag` is the row before a row in its partition.
-/

namespace RowGroups

variable {ρ κ β : Type*}

/-! ## Groups -/

section GroupBy

variable [DecidableEq κ] {key : ρ → κ} {f : κ → List ρ → β}

/-- The rows with a key. -/
def rowsWith (key : ρ → κ) (k : κ) (rows : List ρ) : List ρ := rows.filter fun r => key r = k

/-- `SELECT … GROUP BY key`. -/
def groupBy (key : ρ → κ) (f : κ → List ρ → β) (rows : List ρ) : List β :=
  (rows.map key).dedup.map fun k => f k (rowsWith key k rows)

lemma mem_rowsWith {k : κ} {rows : List ρ} {r : ρ} :
    r ∈ rowsWith key k rows ↔ r ∈ rows ∧ key r = k := by
  simp [rowsWith]

lemma rowsWith_eq_nil_iff {k : κ} {rows : List ρ} :
    rowsWith key k rows = [] ↔ k ∉ rows.map key := by
  simp [rowsWith, List.filter_eq_nil_iff]

/-- There is one group for each key of a row. -/
lemma mem_groupBy {rows : List ρ} {b : β} :
    b ∈ groupBy key f rows ↔ ∃ k ∈ rows.map key, f k (rowsWith key k rows) = b := by
  simp [groupBy]

lemma rowsWith_filter {k : κ} {rows : List ρ} {p : ρ → Bool} (hp : ∀ r, key r = k → p r = true) :
    rowsWith key k (rows.filter p) = rowsWith key k rows := by
  rw [rowsWith, rowsWith, List.filter_filter]
  apply List.filter_congr
  intro r _
  by_cases hr : key r = k
  · simp [hr, hp r hr]
  · simp [hr]

/-- The groups of a part, among the rows of several parts, are those of its own rows. -/
lemma rowsWith_part {α : Type*} [DecidableEq α] {part : ρ → α} {parts : List α} {p : ρ → Prop}
    [DecidablePred p] (rows : List ρ) (a : α) (k : κ) :
    rowsWith (fun r => (part r, key r)) (a, k) (rows.filter fun r => part r ∈ parts ∧ p r) =
      if a ∈ parts then rowsWith key k (rows.filter fun r => part r ∈ [a] ∧ p r) else [] := by
  unfold rowsWith
  rw [List.filter_filter]
  split_ifs with ha
  · rw [List.filter_filter]
    apply List.filter_congr
    intro r _
    by_cases hr : part r = a <;> simp [hr, ha]
  · apply List.filter_eq_nil_iff.mpr
    intro r _ hr
    simp only [Prod.mk.injEq, Bool.and_eq_true, decide_eq_true_eq] at hr
    exact ha (hr.1.1 ▸ hr.2.1)

/-- The groups of some of the keys are those groups of all rows. -/
lemma mem_groupBy_filter {rows : List ρ} {p : ρ → Bool} {b : β} (q : κ → Prop)
    (hpq : ∀ r, p r = true ↔ q (key r)) :
    b ∈ groupBy key f (rows.filter p) ↔
      ∃ k ∈ rows.map key, q k ∧ f k (rowsWith key k rows) = b := by
  have hgroup : ∀ k, q k → rowsWith key k (rows.filter p) = rowsWith key k rows :=
    fun k hq => rowsWith_filter fun a ha => (hpq a).mpr (by rwa [ha])
  rw [mem_groupBy]
  apply exists_congr
  intro k
  constructor
  · rintro ⟨hk, hf⟩
    obtain ⟨r, hr, rfl⟩ := List.mem_map.mp hk
    obtain ⟨hr, hp⟩ := List.mem_filter.mp hr
    have hq : q (key r) := (hpq r).mp hp
    rw [hgroup _ hq] at hf
    exact ⟨List.mem_map_of_mem hr, hq, hf⟩
  · rintro ⟨hk, hq, hf⟩
    rw [hgroup _ hq]
    obtain ⟨r, hr, rfl⟩ := List.mem_map.mp hk
    exact ⟨List.mem_map_of_mem (List.mem_filter.mpr ⟨hr, (hpq r).mpr hq⟩), hf⟩

/-- Groups that tell their key do not repeat. -/
lemma nodup_groupBy_map {rows : List ρ} {g : β → κ} (hg : ∀ k rs, g (f k rs) = k) :
    ((groupBy key f rows).map g).Nodup := by
  rw [groupBy, List.map_map]
  refine (List.nodup_dedup _).map_on fun k _ k' _ heq => ?_
  rwa [Function.comp_apply, Function.comp_apply, hg, hg] at heq

/-- A group is found under its key. -/
lemma find?_groupBy {rows : List ρ} {g : β → κ} (hg : ∀ k rs, g (f k rs) = k) (k : κ) :
    (groupBy key f rows).find? (fun b => decide (g b = k)) =
      if k ∈ rows.map key then some (f k (rowsWith key k rows)) else none := by
  by_cases hk : k ∈ rows.map key
  · have hmem : f k (rowsWith key k rows) ∈ groupBy key f rows := mem_groupBy.mpr ⟨k, hk, rfl⟩
    have hfound := Table.findId_of_mem (nodup_groupBy_map hg) hmem
    rw [hg] at hfound
    rw [if_pos hk]
    exact hfound
  · rw [if_neg hk, List.find?_eq_none]
    intro b hb hkey
    obtain ⟨k', hk', rfl⟩ := mem_groupBy.mp hb
    rw [decide_eq_true_eq, hg] at hkey
    exact hk (hkey ▸ hk')

/-- Something that does not hold of an empty group holds of a group exactly when it holds of what
the rows of its key make. -/
lemma exists_mem_groupBy {rows : List ρ} {p : β → Prop} (hempty : ∀ k, ¬p (f k [])) :
    (∃ b ∈ groupBy key f rows, p b) ↔ ∃ k, p (f k (rowsWith key k rows)) := by
  constructor
  · rintro ⟨b, hb, hp⟩
    obtain ⟨k, -, rfl⟩ := mem_groupBy.mp hb
    exact ⟨k, hp⟩
  · rintro ⟨k, hp⟩
    refine ⟨_, mem_groupBy.mpr ⟨k, ?_, rfl⟩, hp⟩
    by_contra hk
    rw [rowsWith_eq_nil_iff.mpr hk] at hp
    exact hempty k hp

end GroupBy

/-! ## Parts -/

section Parts

variable {α : Type*} [DecidableEq κ] [DecidableEq α] {key : ρ → κ} {f : κ → List ρ → β}

lemma filter_dedup (p : κ → Bool) (ks : List κ) :
    ks.dedup.filter p = (ks.filter p).dedup := by
  induction ks with
  | nil => rfl
  | cons k ks ih =>
    by_cases hk : k ∈ ks
    · rw [List.dedup_cons_of_mem hk, ih, List.filter_cons]
      split_ifs with hp
      · rw [List.dedup_cons_of_mem (List.mem_filter.mpr ⟨hk, hp⟩)]
      · rfl
    · rw [List.dedup_cons_of_notMem hk, List.filter_cons, List.filter_cons, ih]
      split_ifs with hp
      · rw [List.dedup_cons_of_notMem fun hmem => hk (List.mem_filter.mp hmem).1]
      · rfl

/-- The groups of a part are those of its rows. -/
lemma rowsWith_groupBy {part : κ → α} {g : β → α} (hg : ∀ k rs, g (f k rs) = part k) (a : α)
    (rows : List ρ) :
    rowsWith g a (groupBy key f rows) =
      groupBy key f (rowsWith (fun r => part (key r)) a rows) := by
  have hkeys : (rowsWith (fun r => part (key r)) a rows).map key =
      (rows.map key).filter fun k => part k = a := by
    rw [List.filter_map]
    rfl
  have hpart : ((fun b => decide (g b = a)) ∘ fun k => f k (rowsWith key k rows)) =
      fun k => decide (part k = a) := by
    funext k
    rw [Function.comp_apply, hg]
  unfold groupBy
  rw [hkeys, ← filter_dedup, rowsWith, List.filter_map, hpart]
  refine List.map_congr_left fun k hk => ?_
  have hka : part k = a := of_decide_eq_true (List.mem_filter.mp hk).2
  have hgroup : rowsWith key k (rowsWith (fun r => part (key r)) a rows) = rowsWith key k rows :=
    rowsWith_filter fun r hr => decide_eq_true ((congrArg part hr).trans hka)
  rw [hgroup]

/-- What a selection makes of the rows of a part. -/
lemma rowsWith_select {g : β → α} {out : ρ → β} (p : ρ → Bool) (a : α) (rows : List ρ) :
    rowsWith g a ((rows.filter p).map out) =
      ((rowsWith (fun r => g (out r)) a rows).filter p).map out := by
  rw [rowsWith, List.filter_map, rowsWith, List.filter_comm]
  rfl

/-- What a selection from the groups of a part depends on: the rows of the part, and what the
selection does with its groups. -/
lemma rowsWith_select_groupBy {γ : Type*} (part : κ → α) {out : β → γ} {g : γ → α}
    (hg : ∀ k rs, g (out (f k rs)) = part k) {p q : β → Bool} {a : α}
    (hpq : ∀ b, g (out b) = a → p b = q b) (rows : List ρ) :
    rowsWith g a (((groupBy key f (rowsWith (fun r => part (key r)) a rows)).filter p).map out) =
      rowsWith g a (((groupBy key f rows).filter q).map out) := by
  have hown : rowsWith (fun r => part (key r)) a (rowsWith (fun r => part (key r)) a rows) =
      rowsWith (fun r => part (key r)) a rows :=
    rowsWith_filter fun _ hr => decide_eq_true hr
  have hgroups : ∀ rows : List ρ, rowsWith (fun b => g (out b)) a (groupBy key f rows) =
      groupBy key f (rowsWith (fun r => part (key r)) a rows) :=
    rowsWith_groupBy (g := fun b => g (out b)) hg a
  rw [rowsWith_select, rowsWith_select, hgroups, hown, hgroups]
  refine congrArg _ (List.filter_congr fun b hb => hpq b ?_)
  obtain ⟨k, hk, rfl⟩ := mem_groupBy.mp hb
  obtain ⟨r, hr, rfl⟩ := List.mem_map.mp hk
  rw [hg]
  exact (mem_rowsWith.mp hr).2

/-- The group of a key is a matter of the rows with this key. -/
lemma find?_groupBy_congr {rows rows' : List ρ} {g : β → κ} (hg : ∀ k rs, g (f k rs) = k) {k : κ}
    (h : rowsWith key k rows = rowsWith key k rows') :
    (groupBy key f rows).find? (fun b => decide (g b = k)) =
      (groupBy key f rows').find? (fun b => decide (g b = k)) := by
  have hmem : k ∈ rows.map key ↔ k ∈ rows'.map key := by
    rw [← not_iff_not, ← rowsWith_eq_nil_iff, h, rowsWith_eq_nil_iff]
  rw [find?_groupBy hg, find?_groupBy hg, h]
  simp only [hmem]

end Parts

/-! ## Aggregates -/

/-- `SUM(…)`. -/
def sumSome {α : Type*} [AddMonoid α] (vs : List (Option α)) : Option α :=
  match vs.reduceOption with
  | [] => none
  | ws => some ws.sum

/-- `bool_or(…)`. -/
def boolOr (vs : List (Option Bool)) : Option Bool :=
  match vs.reduceOption with
  | [] => none
  | ws => some (ws.any id)

/-- With `COALESCE(…, 0)` around it a sum adds nothing for what is absent. -/
lemma sumSome_getD {α : Type*} [AddMonoid α] (vs : List (Option α)) :
    (sumSome vs).getD 0 = (vs.map fun v => v.getD 0).sum := by
  have hsum : (vs.map fun v => v.getD 0).sum = vs.reduceOption.sum := by
    induction vs with
    | nil => rfl
    | cons v vs ih =>
      cases v with
      | none => simpa using ih
      | some v => simp [ih]
  rw [hsum, sumSome]
  cases vs.reduceOption <;> rfl

lemma sum_filter {α : Type*} [AddMonoid α] (p : ρ → Bool) (f : ρ → α) (rows : List ρ) :
    ((rows.filter p).map f).sum = (rows.map fun r => if p r then f r else 0).sum := by
  induction rows with
  | nil => rfl
  | cons r rows ih =>
    cases hr : p r <;> simp [hr, ih]

/-- A sum is that of the rows that meet a condition and that of the others. -/
lemma sum_eq_sum_filter_add {α : Type*} [AddCommMonoid α] (p : ρ → Bool) (f : ρ → α)
    (rows : List ρ) :
    (rows.map f).sum =
      ((rows.filter p).map f).sum + ((rows.filter fun r => !p r).map f).sum := by
  induction rows with
  | nil => simp
  | cons r rows ih =>
    by_cases hr : p r
    · simp [hr, ih, add_assoc]
    · simp [hr, ih, add_left_comm]

/-- One of the values that are there is true. -/
lemma boolOr_eq_some_true_iff {vs : List (Option Bool)} :
    boolOr vs = some true ↔ some true ∈ vs := by
  rw [← List.reduceOption_mem_iff, boolOr]
  cases vs.reduceOption <;> simp

/-! ## Three-valued logic -/

/-- `AND`: false decides, otherwise what is unknown stays unknown. -/
def sqlAnd : Option Bool → Option Bool → Option Bool
  | some false, _ | _, some false => some false
  | some true, some true => some true
  | _, _ => none

/-- `OR`: true decides, otherwise what is unknown stays unknown. -/
def sqlOr : Option Bool → Option Bool → Option Bool
  | some true, _ | _, some true => some true
  | some false, some false => some false
  | _, _ => none

/-! ## The row before -/

section Lag

variable {τ : Type*} [LinearOrder τ] [DecidableEq κ]

/-- The row of `LAG(…) OVER (PARTITION BY part ORDER BY time)`. -/
def lag (part : ρ → κ) (time : ρ → τ) (rows : List ρ) (r : ρ) : Option ρ :=
  Table.latest time (rows.filter fun a => part a = part r ∧ time a < time r)

/-- `f - LAG(f)`. -/
def lagDelta {α : Type*} [Sub α] (part : ρ → κ) (time : ρ → τ) (f : ρ → Option α) (rows : List ρ)
    (r : ρ) : Option α :=
  (lag part time rows r).bind fun prev =>
    (f r).bind fun cur => (f prev).map fun old => cur - old

/-- The row before is in the same partition; rows of other partitions do not matter. -/
lemma lag_filter {part : ρ → κ} {time : ρ → τ} {rows : List ρ} {r : ρ} {p : ρ → Bool}
    (hp : ∀ a, part a = part r → p a = true) :
    lag part time (rows.filter p) r = lag part time rows r := by
  rw [lag, lag, List.filter_filter]
  refine congrArg _ (List.filter_congr fun a _ => ?_)
  by_cases ha : part a = part r
  · simp [ha, hp a ha]
  · simp [ha]

end Lag

/-- `GREATEST(v, 0)`: an absent argument is ignored. -/
def greatestZero {α : Type*} [Zero α] [Max α] (v : Option α) : α := v.elim 0 fun v => max v 0

end RowGroups
