import Mathlib.Data.List.Dedup
import Mathlib.Data.List.MinMax
import Mathlib.Data.List.Nodup
import Mathlib.Data.List.Perm.Basic

/-!
# Tables of a database

A table is the list of its rows.  `updateWhere` is `UPDATE … SET … WHERE …`, `findId` is the lookup
by primary key, and `UniqueWhere` says that a partial unique index is kept: no two rows inside the
condition of the index share a key.
-/

namespace Table

variable {ρ ι κ : Type*}

/-! ## Updates -/

/-- Every row that meets the condition is rewritten, the others stay. -/
def updateWhere (p : ρ → Bool) (f : ρ → ρ) (rows : List ρ) : List ρ :=
  rows.map fun r => if p r then f r else r

lemma updateWhere_key {p : ρ → Bool} {f : ρ → ρ} {g : ρ → ι} (hg : ∀ r, g (f r) = g r) (r : ρ) :
    g (if p r then f r else r) = g r := by
  by_cases hr : p r
  · rw [if_pos hr, hg]
  · rw [if_neg hr]

/-- A column that the assignment leaves alone keeps its values. -/
lemma map_updateWhere {p : ρ → Bool} {f : ρ → ρ} {g : ρ → ι} (hg : ∀ r, g (f r) = g r)
    (rows : List ρ) : (updateWhere p f rows).map g = rows.map g := by
  rw [updateWhere, List.map_map]
  exact List.map_congr_left fun r _ => updateWhere_key hg r

/-! ## Lookup by primary key -/

section findId

variable [DecidableEq ι] (key : ρ → ι)

/-- The row with a given primary key. -/
def findId (i : ι) (rows : List ρ) : Option ρ :=
  rows.find? fun r => decide (key r = i)

variable {key}

lemma findId_key {i : ι} {rows : List ρ} {r : ρ} (h : findId key i rows = some r) : key r = i := by
  simpa using List.find?_some h

lemma findId_mem {i : ι} {rows : List ρ} {r : ρ} (h : findId key i rows = some r) : r ∈ rows :=
  List.mem_of_find?_eq_some h

/-- Where keys do not repeat, a row is found under its own key. -/
lemma findId_of_mem {rows : List ρ} (hkeys : (rows.map key).Nodup) {r : ρ} (hr : r ∈ rows) :
    findId key (key r) rows = some r := by
  have hsome : (findId key (key r) rows).isSome := by
    rw [findId, List.find?_isSome]
    exact ⟨r, hr, by simp⟩
  obtain ⟨a, ha⟩ := Option.isSome_iff_exists.mp hsome
  have heq : a = r := List.inj_on_of_nodup_map hkeys (findId_mem ha) hr (findId_key ha)
  rw [ha, heq]

/-- An update that keeps the keys acts on the row found. -/
lemma findId_updateWhere {p : ρ → Bool} {f : ρ → ρ} (hkey : ∀ r, key (f r) = key r) (i : ι)
    (rows : List ρ) :
    findId key i (updateWhere p f rows) =
      (findId key i rows).map fun r => if p r then f r else r := by
  rw [findId, updateWhere, List.find?_map, findId]
  congr 2
  funext r
  by_cases hr : p r <;> simp [hr, hkey]

/-- The row found is untouched by an update whose condition it does not meet. -/
lemma findId_updateWhere_of_not {p : ρ → Bool} {f : ρ → ρ} (hkey : ∀ r, key (f r) = key r)
    {i : ι} {rows : List ρ} {r : ρ} (h : findId key i rows = some r) (hr : p r = false) :
    findId key i (updateWhere p f rows) = some r := by
  rw [findId_updateWhere hkey, h]
  simp [hr]

lemma findId_append_of_some {i : ι} {rows : List ρ} {r : ρ} (h : findId key i rows = some r)
    (more : List ρ) : findId key i (rows ++ more) = some r := by
  rw [findId, List.find?_append, ← findId, h, Option.some_or]

lemma findId_eq_none_iff {i : ι} {rows : List ρ} :
    findId key i rows = none ↔ i ∉ rows.map key := by
  simp [findId, List.find?_eq_none]

lemma findId_append (i : ι) (rows more : List ρ) :
    findId key i (rows ++ more) = (findId key i rows).or (findId key i more) := by
  rw [findId, List.find?_append]
  rfl

lemma findId_singleton (i : ι) (r : ρ) :
    findId key i [r] = if key r = i then some r else none := by
  by_cases hr : key r = i <;> simp [findId, hr]

/-- Where keys do not repeat, the rows with a key are the one that is found. -/
lemma filter_eq_singleton_iff {i : ι} {rows : List ρ} (hkeys : (rows.map key).Nodup) {r : ρ} :
    (rows.filter fun a => decide (key a = i)) = [r] ↔ findId key i rows = some r := by
  induction rows with
  | nil => simp [findId]
  | cons a rows ih =>
    rw [List.map_cons, List.nodup_cons] at hkeys
    obtain ⟨ha, hrest⟩ := hkeys
    by_cases hi : key a = i
    · have hnone : (rows.filter fun b => decide (key b = i)) = [] := by
        refine List.filter_eq_nil_iff.mpr fun b hb hbi => ha ?_
        rw [hi, ← of_decide_eq_true hbi]
        exact List.mem_map_of_mem hb
      simp [findId, hi, hnone]
    · have htail := ih hrest
      simpa [findId, hi] using htail

/-- The same as a list, empty or of one row. -/
lemma filter_key_eq {rows : List ρ} (hkeys : (rows.map key).Nodup) (i : ι) :
    (rows.filter fun a => decide (key a = i)) = (findId key i rows).toList := by
  cases hfound : findId key i rows with
  | some r => exact (filter_eq_singleton_iff hkeys).mpr hfound
  | none =>
    apply List.filter_eq_nil_iff.mpr
    intro a ha hkey
    apply findId_eq_none_iff.mp hfound
    rw [← of_decide_eq_true hkey]
    exact List.mem_map_of_mem ha

lemma findId_map {σ : Type*} {f : ρ → σ} {key' : σ → ι} (hkey : ∀ r, key' (f r) = key r) (i : ι)
    (rows : List ρ) : findId key' i (rows.map f) = (findId key i rows).map f := by
  rw [findId, List.find?_map]
  simp only [Function.comp_def, hkey]
  rfl

/-- A row under a new key leaves keys without repetition. -/
lemma nodup_append_row {rows : List ρ} {r : ρ} (hkeys : (rows.map key).Nodup)
    (hnone : findId key (key r) rows = none) : ((rows ++ [r]).map key).Nodup := by
  rw [List.map_append, List.nodup_append]
  refine ⟨hkeys, List.nodup_singleton _, ?_⟩
  intro i hi j hj hij
  rw [List.map_singleton, List.mem_singleton] at hj
  exact findId_eq_none_iff.mp hnone (hj ▸ hij ▸ hi)

/-- An update of one row changes a count by what it does to this row. -/
lemma countP_updateWhere_key {rows : List ρ} (hkeys : (rows.map key).Nodup) {i : ι} {r : ρ}
    (hfound : findId key i rows = some r) {f : ρ → ρ} (p : ρ → Bool) :
    (updateWhere (fun a => decide (key a = i)) f rows).countP p + (if p r then 1 else 0) =
      rows.countP p + (if p (f r) then 1 else 0) := by
  induction rows with
  | nil => cases hfound
  | cons a rows ih =>
    rw [List.map_cons, List.nodup_cons] at hkeys
    obtain ⟨ha, hrest⟩ := hkeys
    by_cases hi : key a = i
    · have hsame : updateWhere (fun b => decide (key b = i)) f rows = rows := by
        refine (List.map_congr_left fun b hb => ?_).trans (List.map_id rows)
        have hb : key b ≠ i := fun hbi => ha (hi ▸ hbi ▸ List.mem_map_of_mem hb)
        simp [hb]
      have hr : a = r := by simpa [findId, hi] using hfound
      subst hr
      have hcons : updateWhere (fun b => decide (key b = i)) f (a :: rows) = f a :: rows := by
        rw [updateWhere, List.map_cons, if_pos (decide_eq_true hi)]
        exact congrArg _ hsame
      rw [hcons, List.countP_cons, List.countP_cons]
      omega
    · have htail := ih hrest (by simpa [findId, hi] using hfound)
      have hcons : updateWhere (fun b => decide (key b = i)) f (a :: rows) =
          a :: updateWhere (fun b => decide (key b = i)) f rows := by
        simp [updateWhere, hi]
      rw [hcons, List.countP_cons, List.countP_cons]
      omega

/-! ## Replacing the row of a key -/

/-- The row takes the place of the one with its key, or is added. -/
def putRow (key : ρ → ι) (r : ρ) (rows : List ρ) : List ρ :=
  match findId key (key r) rows with
  | some _ => updateWhere (fun a => decide (key a = key r)) (fun _ => r) rows
  | none => rows ++ [r]

lemma map_updateWhere_const (r : ρ) (rows : List ρ) :
    (updateWhere (fun a => decide (key a = key r)) (fun _ => r) rows).map key = rows.map key := by
  rw [updateWhere, List.map_map]
  apply List.map_congr_left
  intro a _
  by_cases ha : key a = key r <;> simp [ha]

lemma findId_updateWhere_const (r : ρ) (i : ι) (rows : List ρ) :
    findId key i (updateWhere (fun a => decide (key a = key r)) (fun _ => r) rows) =
      if key r = i then (findId key i rows).map fun _ => r else findId key i rows := by
  induction rows with
  | nil => simp [updateWhere, findId]
  | cons a rows ih =>
    simp only [updateWhere, findId, List.map_cons, List.find?_cons] at ih ⊢
    by_cases ha : key a = key r
    · by_cases hr : key r = i
      · simp [ha, hr]
      · simpa [ha, hr] using ih
    · by_cases hai : key a = i
      · have hr : key r ≠ i := fun hr => ha (hai.trans hr.symm)
        simp [hr, hai, Ne.symm hr]
      · simpa [ha, hai] using ih

/-- A lookup sees the new row under its key, and what was there before under every other. -/
lemma findId_putRow (r : ρ) (i : ι) (rows : List ρ) :
    findId key i (putRow key r rows) = if key r = i then some r else findId key i rows := by
  unfold putRow
  split
  case h_1 a ha =>
    rw [findId_updateWhere_const]
    by_cases hr : key r = i
    · rw [if_pos hr, if_pos hr, ← hr, ha]
      rfl
    · rw [if_neg hr, if_neg hr]
  case h_2 hnone =>
    rw [findId_append, findId_singleton]
    by_cases hr : key r = i
    · rw [if_pos hr, ← hr, hnone, Option.none_or, if_pos rfl]
    · rw [if_neg hr, if_neg hr, Option.or_none]

/-- Keys stay without repetition. -/
lemma nodup_putRow {rows : List ρ} (hkeys : (rows.map key).Nodup) (r : ρ) :
    ((putRow key r rows).map key).Nodup := by
  unfold putRow
  split
  case h_1 => rwa [map_updateWhere_const]
  case h_2 hnone => exact nodup_append_row hkeys hnone

lemma mem_putRow {rows : List ρ} {r a : ρ} (ha : a ∈ putRow key r rows) : a = r ∨ a ∈ rows := by
  unfold putRow at ha
  split at ha
  case h_1 =>
    obtain ⟨b, hb, rfl⟩ := List.mem_map.mp ha
    by_cases hkey : key b = key r
    · exact Or.inl (by simp [hkey])
    · exact Or.inr (by simpa [hkey] using hb)
  case h_2 => exact (List.mem_append.mp ha).symm.imp List.mem_singleton.mp id

/-- Looking up each of the keys, once, gives the rows. -/
lemma filterMap_findId_perm {rows : List ρ} {keys : List ι} (hrows : (rows.map key).Nodup)
    (hkeys : keys.Nodup) (hall : ∀ r ∈ rows, key r ∈ keys) :
    (keys.filterMap fun i => findId key i rows).Perm rows := by
  have hfound : (keys.filterMap fun i => findId key i rows).Nodup := by
    refine hkeys.filterMap fun i i' r hi hi' => ?_
    exact (findId_key hi).symm.trans (findId_key hi')
  refine (List.perm_ext_iff_of_nodup hfound hrows.of_map).mpr fun r => ?_
  rw [List.mem_filterMap]
  constructor
  · rintro ⟨i, _, hi⟩
    exact findId_mem hi
  · exact fun hr => ⟨key r, hall r hr, findId_of_mem hrows hr⟩

end findId

/-! ## The latest row -/

section latest

variable {τ : Type*} [LinearOrder τ]

/-- The first of the rows with the greatest value: `ORDER BY … DESC LIMIT 1`. -/
def latest (time : ρ → τ) (rows : List ρ) : Option ρ :=
  rows.argmax time

variable {time : ρ → τ}

lemma latest_mem {rows : List ρ} {r : ρ} (h : latest time rows = some r) : r ∈ rows :=
  List.argmax_mem h

lemma latest_eq_none_iff {rows : List ρ} : latest time rows = none ↔ rows = [] :=
  List.argmax_eq_none

/-- A row later than all the others is the latest. -/
lemma latest_append {rows : List ρ} {r : ρ} (h : ∀ a ∈ rows, time a < time r) :
    latest time (rows ++ [r]) = some r := by
  rw [latest, List.argmax_concat]
  cases hold : rows.argmax time with
  | none => rfl
  | some a => exact if_pos (h a (List.argmax_mem hold))

/-- Where no two rows have one time, the latest row is the one that no other is later than. -/
lemma latest_eq_some_iff {rows : List ρ} (hinj : ∀ a ∈ rows, ∀ b ∈ rows, time a = time b → a = b)
    {r : ρ} : latest time rows = some r ↔ r ∈ rows ∧ ∀ a ∈ rows, time a ≤ time r := by
  constructor
  · intro h
    exact ⟨latest_mem h, fun a ha => List.le_of_mem_argmax ha h⟩
  · rintro ⟨hr, hle⟩
    cases hlatest : latest time rows with
    | none => simp [latest_eq_none_iff.mp hlatest] at hr
    | some a =>
      have ha := latest_mem hlatest
      have hra : time r ≤ time a := List.le_of_mem_argmax hr hlatest
      rw [hinj a ha r hr (le_antisymm (hle a ha) hra)]

/-- The latest row stays the latest among fewer rows. -/
lemma latest_filter {rows : List ρ} (hinj : ∀ a ∈ rows, ∀ b ∈ rows, time a = time b → a = b)
    {p : ρ → Bool} {r : ρ} (h : latest time rows = some r) (hp : p r = true) :
    latest time (rows.filter p) = some r := by
  obtain ⟨hr, hle⟩ := (latest_eq_some_iff hinj).mp h
  have hsub : ∀ a ∈ rows.filter p, a ∈ rows := fun a ha => List.mem_of_mem_filter ha
  refine (latest_eq_some_iff fun a ha b hb => hinj a (hsub a ha) b (hsub b hb)).mpr ⟨?_, ?_⟩
  · exact List.mem_filter.mpr ⟨hr, hp⟩
  · exact fun a ha => hle a (hsub a ha)

/-- Keeping the rows from an instant on keeps the latest row or, when it is older, no row. -/
lemma latest_filter_le {rows : List ρ} (hinj : ∀ a ∈ rows, ∀ b ∈ rows, time a = time b → a = b)
    (t : τ) : latest time (rows.filter fun a => decide (t ≤ time a)) =
      (latest time rows).filter fun a => decide (t ≤ time a) := by
  cases hlatest : latest time rows with
  | none => rw [latest_eq_none_iff.mp hlatest]; rfl
  | some r =>
    by_cases hr : t ≤ time r
    · rw [latest_filter hinj hlatest (decide_eq_true hr)]
      exact (if_pos (decide_eq_true hr)).symm
    · have hle := ((latest_eq_some_iff hinj).mp hlatest).2
      have hempty : (rows.filter fun a => decide (t ≤ time a)) = [] := by
        refine List.filter_eq_nil_iff.mpr fun a ha hta => hr ?_
        exact (of_decide_eq_true hta).trans (hle a ha)
      rw [latest_eq_none_iff.mpr hempty]
      exact (if_neg (by simpa using hr)).symm

end latest

/-! ## Counting rows -/

lemma countP_eq_countP_and_add (rows : List ρ) (p q : ρ → Prop) [DecidablePred p]
    [DecidablePred q] :
    (rows.countP fun r => p r) =
      (rows.countP fun r => p r ∧ q r) + rows.countP fun r => p r ∧ ¬q r := by
  rw [List.countP_eq_countP_filter_add rows (fun r => decide (p r)) (fun r => decide (q r)),
    List.countP_filter, List.countP_filter]
  simp

/-- Two conditions hold equally often when each holds equally often without the other. -/
lemma countP_eq_iff (rows : List ρ) (p q : ρ → Prop) [DecidablePred p] [DecidablePred q] :
    (rows.countP fun r => p r) = (rows.countP fun r => q r) ↔
      (rows.countP fun r => p r ∧ ¬q r) = rows.countP fun r => q r ∧ ¬p r := by
  have hboth : (rows.countP fun r => p r ∧ q r) = rows.countP fun r => q r ∧ p r :=
    List.countP_congr fun r _ => by simp [and_comm]
  rw [countP_eq_countP_and_add rows p q, countP_eq_countP_and_add rows q p, hboth]
  exact Nat.add_left_cancel_iff

/-! ## Distinct values -/

section distinct

variable {τ : Type*} [LinearOrder τ] (time : ρ → τ) (value : ρ → κ)

/-- No earlier row has the value of the row. -/
def Fresh (rows : List ρ) (r : ρ) : Prop := ∀ a ∈ rows, time a < time r → value a ≠ value r

/-- No row is earlier. -/
def Earliest (rows : List ρ) (r : ρ) : Prop := ∀ a ∈ rows, ¬time a < time r

instance [DecidableEq κ] (rows : List ρ) (r : ρ) : Decidable (Fresh time value rows r) :=
  inferInstanceAs (Decidable (∀ a ∈ rows, time a < time r → value a ≠ value r))

instance (rows : List ρ) (r : ρ) : Decidable (Earliest time rows r) :=
  inferInstanceAs (Decidable (∀ a ∈ rows, ¬time a < time r))

variable {time value}

lemma fresh_concat {rows : List ρ} {a r : ρ} (ha : time a < time r) :
    Fresh time value (rows ++ [r]) a ↔ Fresh time value rows a := by
  constructor
  · exact fun h b hb => h b (List.mem_append_left _ hb)
  · intro h b hb hlt
    rcases List.mem_append.mp hb with hb | hb
    · exact h b hb hlt
    · rw [List.mem_singleton.mp hb] at hlt
      exact absurd hlt ha.not_gt

/-- `COUNT(DISTINCT …)`: each value is counted where it comes first. -/
lemma length_dedup_map [DecidableEq κ] {rows : List ρ}
    (hordered : rows.Pairwise fun a b => time a < time b) :
    (rows.map value).dedup.length = rows.countP fun r => Fresh time value rows r := by
  induction rows using List.reverseRecOn with
  | nil => rfl
  | append_singleton rows r ih =>
    obtain ⟨hrows, _, hlast⟩ := List.pairwise_append.mp hordered
    have hbefore : ∀ a ∈ rows, time a < time r := fun a ha => hlast a ha r (by simp)
    have hkept : (rows.countP fun a => Fresh time value (rows ++ [r]) a) =
        rows.countP fun a => Fresh time value rows a :=
      List.countP_congr fun a ha => by simp [fresh_concat (hbefore a ha)]
    have hnew : Fresh time value (rows ++ [r]) r ↔ value r ∉ rows.map value := by
      simp only [Fresh, List.mem_map, not_exists, not_and]
      constructor
      · exact fun h a ha => h a (List.mem_append_left _ ha) (hbefore a ha)
      · intro h a ha hlt
        rcases List.mem_append.mp ha with ha | ha
        · exact h a ha
        · rw [List.mem_singleton.mp ha] at hlt
          exact absurd hlt (lt_irrefl _)
    have hperm : (rows.map value ++ [value r]).Perm (value r :: rows.map value) :=
      List.perm_append_singleton _ _
    rw [List.map_append, List.map_singleton, List.countP_append, hkept, ← ih hrows,
      hperm.dedup.length_eq, List.dedup_cons, List.countP_singleton]
    by_cases hmem : value r ∈ rows.map value
    · rw [if_pos hmem, if_neg (by simpa using fun h => hnew.mp h hmem), Nat.add_zero]
    · rw [if_neg hmem, if_pos (decide_eq_true (hnew.mpr hmem)), List.length_cons]

/-- The earliest row brings a value, so one fewer come after it. -/
lemma length_dedup_map_sub_one [DecidableEq κ] {rows : List ρ}
    (hordered : rows.Pairwise fun a b => time a < time b) :
    (rows.map value).dedup.length - 1 =
      rows.countP fun r => Fresh time value rows r ∧ ¬Earliest time rows r := by
  rw [length_dedup_map hordered]
  cases rows with
  | nil => rfl
  | cons first rest =>
    obtain ⟨hlast, _⟩ := List.pairwise_cons.mp hordered
    have hearliest : Earliest time (first :: rest) first := by
      intro a ha hlt
      rcases List.mem_cons.mp ha with rfl | ha
      · exact lt_irrefl _ hlt
      · exact (hlast a ha).not_gt hlt
    have hfresh : Fresh time value (first :: rest) first := fun a ha hlt =>
      absurd hlt (hearliest a ha)
    have hrest : (rest.countP fun r => Fresh time value (first :: rest) r) =
        rest.countP fun r =>
          Fresh time value (first :: rest) r ∧ ¬Earliest time (first :: rest) r := by
      refine List.countP_congr fun a ha => ?_
      have hlater : ¬Earliest time (first :: rest) a :=
        fun h => h first List.mem_cons_self (hlast a ha)
      simp [hlater]
    rw [List.countP_cons, if_pos (decide_eq_true hfresh), Nat.add_sub_cancel, hrest,
      List.countP_cons, if_neg (by simp [hearliest]), Nat.add_zero]

end distinct

/-! ## Partial unique indexes -/

section UniqueWhere

variable (active : ρ → Bool) (key : ρ → κ)

/-- A unique index on `key` restricted to the rows with `active`. -/
def UniqueWhere (rows : List ρ) : Prop :=
  rows.Pairwise fun a b => active a = true → active b = true → key a ≠ key b

instance [DecidableEq κ] (rows : List ρ) : Decidable (UniqueWhere active key rows) :=
  inferInstanceAs (Decidable (rows.Pairwise _))

variable {active key}

/-- The order in which the rows lie does not matter to the index. -/
lemma UniqueWhere.perm {rows rows' : List ρ} (h : UniqueWhere active key rows)
    (hperm : rows.Perm rows') : UniqueWhere active key rows' :=
  (hperm.pairwise_iff fun hab ha hb => (hab hb ha).symm).mp h

lemma UniqueWhere.sublist {rows rows' : List ρ} (h : UniqueWhere active key rows)
    (hsub : rows'.Sublist rows) : UniqueWhere active key rows' :=
  List.Pairwise.sublist hsub h

/-- A row is accepted when no active row holds its key. -/
lemma UniqueWhere.append_row {rows : List ρ} {r : ρ} (h : UniqueWhere active key rows)
    (hfree : ∀ a ∈ rows, active a = true → key a ≠ key r) :
    UniqueWhere active key (rows ++ [r]) := by
  refine List.pairwise_append.mpr ⟨h, List.pairwise_singleton _ _, ?_⟩
  intro a ha b hb hact _
  rw [List.mem_singleton.mp hb]
  exact hfree a ha hact

/-- Rewriting rows without changing their keys and without activating any keeps the index. -/
lemma UniqueWhere.map {rows : List ρ} (h : UniqueWhere active key rows) {f : ρ → ρ}
    (hkey : ∀ r, key (f r) = key r) (hact : ∀ r ∈ rows, active (f r) = true → active r = true) :
    UniqueWhere active key (rows.map f) := by
  refine List.pairwise_map.mpr (List.Pairwise.imp_of_mem ?_ h)
  intro a b ha hb hab hfa hfb
  rw [hkey, hkey]
  exact hab (hact a ha hfa) (hact b hb hfb)

/-- An update keeps the index when it leaves the key alone and activates no row it rewrites. -/
lemma UniqueWhere.updateWhere {rows : List ρ} (h : UniqueWhere active key rows) {p : ρ → Bool}
    {f : ρ → ρ} (hkey : ∀ r, key (f r) = key r)
    (hact : ∀ r ∈ rows, p r = true → active (f r) = true → active r = true) :
    UniqueWhere active key (updateWhere p f rows) := by
  refine h.map (updateWhere_key hkey) ?_
  intro r hmem ha
  by_cases hr : p r
  · rw [if_pos hr] at ha
    exact hact r hmem hr ha
  · rwa [if_neg hr] at ha

/-- The same for an update of a part of the rows. -/
lemma UniqueWhere.append_updateWhere {rows part : List ρ}
    (h : UniqueWhere active key (rows ++ part)) {p : ρ → Bool} {f : ρ → ρ}
    (hkey : ∀ r, key (f r) = key r)
    (hact : ∀ r ∈ part, p r = true → active (f r) = true → active r = true) :
    UniqueWhere active key (rows ++ Table.updateWhere p f part) := by
  obtain ⟨hrows, hpart, hcross⟩ := List.pairwise_append.mp h
  refine List.pairwise_append.mpr ⟨hrows, UniqueWhere.updateWhere hpart hkey hact, ?_⟩
  intro a ha b hb haa hba
  obtain ⟨r, hr, rfl⟩ := List.mem_map.mp hb
  have hra : active r = true := by
    by_cases hp : p r
    · rw [if_pos hp] at hba
      exact hact r hr hp hba
    · rwa [if_neg hp] at hba
  rw [updateWhere_key hkey r]
  exact hcross a ha r hr haa hra

/-- Under the index at most one active row holds a given key. -/
lemma UniqueWhere.length_filter_le_one [DecidableEq κ] {rows : List ρ}
    (h : UniqueWhere active key rows) (k : κ) :
    (rows.filter fun r => active r && decide (key r = k)).length ≤ 1 := by
  induction rows with
  | nil => simp
  | cons a rows ih =>
    obtain ⟨hhead, htail⟩ := List.pairwise_cons.mp h
    by_cases ha : (active a && decide (key a = k)) = true
    · rw [Bool.and_eq_true, decide_eq_true_eq] at ha
      have hnone : (rows.filter fun r => active r && decide (key r = k)) = [] := by
        apply List.filter_eq_nil_iff.mpr
        intro b hb hbk
        rw [Bool.and_eq_true, decide_eq_true_eq] at hbk
        exact hhead b hb ha.1 hbk.1 (ha.2.trans hbk.2.symm)
      rw [List.filter_cons, hnone]
      split_ifs <;> simp
    · rw [List.filter_cons, if_neg ha]
      exact ih htail

end UniqueWhere

end Table
