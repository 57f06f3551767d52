import Mathlib.Data.List.Perm.Basic
import AssessmentEngine.Library.Table

/-!
# Insertions that give way

`INSERT … VALUES … ON CONFLICT DO NOTHING`: rows are taken in order, and a row whose key is there is
passed over.  A lookup then sees the row that was there, or else the first of the new ones
(`findId_insertAll`); everything else follows from that: nothing happens twice, and tables with the
same lookups have the same rows.
-/

namespace Table

variable {ρ κ : Type*} [DecidableEq κ] (key : ρ → κ)

/-- The row is added unless its key is there. -/
def insertRow (rows : List ρ) (r : ρ) : List ρ :=
  if (findId key (key r) rows).isSome then rows else rows ++ [r]

/-- The rows are added in order, each unless its key is there. -/
def insertAll (rows new : List ρ) : List ρ :=
  new.foldl (insertRow key) rows

/-- The row count of the insertion. -/
def insertedCount (rows new : List ρ) : ℕ :=
  (insertAll key rows new).length - rows.length

/-- Every key of `new` is in `rows`. -/
def Covers (rows new : List ρ) : Prop :=
  ∀ r ∈ new, (findId key (key r) rows).isSome

variable {key}

lemma insertAll_nil (rows : List ρ) : insertAll key rows [] = rows := rfl

lemma insertAll_cons (rows : List ρ) (r : ρ) (new : List ρ) :
    insertAll key rows (r :: new) = insertAll key (insertRow key rows r) new := rfl

/-- A lookup after the insertion of a row. -/
lemma findId_insertRow (rows : List ρ) (r : ρ) (i : κ) :
    findId key i (insertRow key rows r) = (findId key i rows).or (findId key i [r]) := by
  unfold insertRow
  split_ifs with hsome
  · by_cases hr : key r = i
    · subst hr
      obtain ⟨a, ha⟩ := Option.isSome_iff_exists.mp hsome
      rw [ha, Option.some_or]
    · rw [findId_singleton, if_neg hr, Option.or_none]
  · exact findId_append i rows [r]

/-- A lookup after an insertion sees the row that was there, or else the first of the new rows with
the key. -/
lemma findId_insertAll (rows new : List ρ) (i : κ) :
    findId key i (insertAll key rows new) = (findId key i rows).or (findId key i new) := by
  induction new generalizing rows with
  | nil =>
    have hnil : findId key i ([] : List ρ) = none := rfl
    rw [insertAll_nil, hnil, Option.or_none]
  | cons r new ih =>
    have hcons : findId key i (r :: new) = (findId key i [r]).or (findId key i new) :=
      findId_append i [r] new
    rw [insertAll_cons, ih, findId_insertRow, hcons, Option.or_assoc]

/-- Keys stay without repetition. -/
lemma nodup_insertRow {rows : List ρ} (hkeys : (rows.map key).Nodup) (r : ρ) :
    ((insertRow key rows r).map key).Nodup := by
  unfold insertRow
  split_ifs with hsome
  · exact hkeys
  · rw [Bool.not_eq_true, Option.isSome_eq_false_iff, Option.isNone_iff_eq_none] at hsome
    exact nodup_append_row hkeys hsome

lemma nodup_insertAll {rows : List ρ} (hkeys : (rows.map key).Nodup) (new : List ρ) :
    ((insertAll key rows new).map key).Nodup := by
  induction new generalizing rows with
  | nil => exact hkeys
  | cons r new ih => exact ih (nodup_insertRow hkeys r)

/-! ## Nothing happens twice -/

/-- Rows whose keys are there change nothing. -/
lemma Covers.insertAll_eq {rows new : List ρ} (h : Covers key rows new) :
    insertAll key rows new = rows := by
  induction new with
  | nil => rfl
  | cons r new ih =>
    have hr : insertRow key rows r = rows := if_pos (h r (List.mem_cons_self ..))
    rw [insertAll_cons, hr]
    exact ih fun a ha => h a (List.mem_cons_of_mem r ha)

lemma Covers.insertedCount_eq {rows new : List ρ} (h : Covers key rows new) :
    insertedCount key rows new = 0 := by
  rw [insertedCount, h.insertAll_eq, Nat.sub_self]

/-- What has been inserted is there. -/
lemma covers_insertAll (rows new : List ρ) : Covers key (insertAll key rows new) new := by
  intro r hr
  have hfound : (findId key (key r) new).isSome := by
    rw [findId, List.find?_isSome]
    exact ⟨r, hr, by simp⟩
  rw [findId_insertAll]
  cases findId key (key r) rows with
  | none => exact hfound
  | some a => rfl

/-- And stays there. -/
lemma Covers.insertAll {rows new : List ρ} (h : Covers key rows new) (more : List ρ) :
    Covers key (insertAll key rows more) new := by
  intro r hr
  obtain ⟨a, ha⟩ := Option.isSome_iff_exists.mp (h r hr)
  rw [findId_insertAll, ha]
  rfl

/-! ## Nothing is passed over -/

lemma length_insertAll_le (rows new : List ρ) :
    (insertAll key rows new).length ≤ rows.length + new.length := by
  induction new generalizing rows with
  | nil => exact le_rfl
  | cons r new ih =>
    have hrow : (insertRow key rows r).length ≤ rows.length + 1 := by
      unfold insertRow
      split_ifs
      · omega
      · exact (List.length_append ..).le
    have hrest := ih (insertRow key rows r)
    rw [insertAll_cons, List.length_cons]
    omega

/-- All rows are added exactly if their keys are new and differ from each other. -/
lemma insertAll_eq_append_iff {rows new : List ρ} :
    insertAll key rows new = rows ++ new ↔
      (∀ r ∈ new, findId key (key r) rows = none) ∧ (new.map key).Nodup := by
  induction new generalizing rows with
  | nil => simp [insertAll_nil]
  | cons r new ih =>
    cases hfind : findId key (key r) rows with
    | some a =>
      have hrow : insertRow key rows r = rows := if_pos (by rw [hfind]; rfl)
      refine iff_of_false (fun heq => ?_) fun h => ?_
      · have hlength := congrArg List.length heq
        have hle : (insertAll key rows new).length ≤ rows.length + new.length :=
          length_insertAll_le rows new
        rw [insertAll_cons, hrow, List.length_append, List.length_cons] at hlength
        omega
      · exact Option.some_ne_none a (hfind.symm.trans (h.1 r List.mem_cons_self))
    | none =>
      have hrow : insertRow key rows r = rows ++ [r] := if_neg (by simp [hfind])
      have hfresh : ∀ a ∈ new, findId key (key a) (rows ++ [r]) = none ↔
          findId key (key a) rows = none ∧ key r ≠ key a := by
        intro a _
        rw [findId_append, findId_singleton, Option.or_eq_none_iff]
        simp
      have hsplit : rows ++ r :: new = rows ++ [r] ++ new := List.append_cons rows r new
      rw [insertAll_cons, hrow, hsplit]
      refine ih.trans ?_
      rw [forall₂_congr hfresh, List.map_cons, List.nodup_cons, List.forall_mem_cons, hfind]
      constructor
      · rintro ⟨hnew, hnodup⟩
        refine ⟨⟨rfl, fun a ha => (hnew a ha).1⟩, fun hmem => ?_, hnodup⟩
        obtain ⟨a, ha, hkey⟩ := List.mem_map.mp hmem
        exact (hnew a ha).2 hkey.symm
      · rintro ⟨⟨_, hrows⟩, hmem, hnodup⟩
        exact ⟨fun a ha => ⟨hrows a ha, fun hkey => hmem (List.mem_map.mpr ⟨a, ha, hkey.symm⟩)⟩,
          hnodup⟩

/-- What first appears is kept, and its repetitions are not. -/
lemma nodup_eraseDups {α : Type*} [BEq α] [LawfulBEq α] (l : List α) : l.eraseDups.Nodup := by
  induction hlen : l.length using Nat.strong_induction_on generalizing l with
  | _ n ih =>
    cases l with
    | nil => simp
    | cons a l =>
      have hshort : (l.filter fun b => !b == a).length < n :=
        hlen ▸ Nat.lt_succ_of_le (List.length_filter_le _ l)
      rw [List.eraseDups_cons, List.nodup_cons]
      refine ⟨fun ha => ?_, ih _ hshort _ rfl⟩
      have hfilter := (List.mem_filter.mp (List.mem_eraseDups.mp ha)).2
      simp at hfilter

/-! ## Lookups determine the rows -/

/-- Tables with the same lookups have the same rows. -/
lemma perm_of_findId {rows rows' : List ρ} (hkeys : (rows.map key).Nodup)
    (hkeys' : (rows'.map key).Nodup) (h : ∀ i, findId key i rows = findId key i rows') :
    rows.Perm rows' := by
  have hmem : ∀ {l : List ρ}, (l.map key).Nodup → ∀ r, r ∈ l ↔ findId key (key r) l = some r :=
    fun hl r => ⟨findId_of_mem hl, findId_mem⟩
  refine (List.perm_ext_iff_of_nodup hkeys.of_map hkeys'.of_map).mpr fun r => ?_
  rw [hmem hkeys, hmem hkeys', h]

end Table
