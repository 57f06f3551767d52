import Mathlib.Data.List.Perm.Lattice
import AssessmentEngine.Library.Table

/-!
# Open transactions on a table

A table with its committed rows and with the insertions of transactions that are still open, each
under the client it belongs to.  Primary key and partial unique index are checked over both.  `Kept`
says that they hold, and there is one rule for each thing that can happen: rows are rewritten, a
transaction commits or is undone, a row is inserted.
-/

namespace Table

variable {ρ ι κ γ : Type*}

/-- Primary key and partial index are kept by the committed rows and the open insertions. -/
structure Kept (id : ρ → ι) (active : ρ → Bool) (key : ρ → κ) (rows : List ρ)
    (opened : List (γ × ρ)) : Prop where
  ids : ((rows ++ opened.map Prod.snd).map id).Nodup
  unique : UniqueWhere active key (rows ++ opened.map Prod.snd)

variable {id : ρ → ι} {active : ρ → Bool} {key : ρ → κ} {rows : List ρ} {opened : List (γ × ρ)}

/-- What an empty table keeps. -/
lemma Kept.nil : Kept id active key [] ([] : List (γ × ρ)) where
  ids := List.nodup_nil
  unique := List.Pairwise.nil

lemma Kept.ids_rows (h : Kept id active key rows opened) : (rows.map id).Nodup := by
  have hids := h.ids
  rw [List.map_append] at hids
  exact hids.of_append_left

/-- The committed rows keep the index. -/
lemma Kept.unique_rows (h : Kept id active key rows opened) : UniqueWhere active key rows :=
  h.unique.sublist (List.sublist_append_left _ _)

/-- An open row has an id that no committed row has. -/
lemma Kept.ids_disjoint (h : Kept id active key rows opened) {c : γ} {r : ρ}
    (hr : (c, r) ∈ opened) : id r ∉ rows.map id := by
  have hids := h.ids
  rw [List.map_append] at hids
  have hopen : id r ∈ (opened.map Prod.snd).map id :=
    List.mem_map.mpr ⟨r, List.mem_map.mpr ⟨(c, r), hr, rfl⟩, rfl⟩
  exact fun hrow => (List.nodup_append.mp hids).2.2 _ hrow _ hopen rfl

/-- An update that keeps ids leaves the question to the index. -/
lemma Kept.updateWhere_of_unique (h : Kept id active key rows opened) {p : ρ → Bool} {f : ρ → ρ}
    (hid : ∀ r, id (f r) = id r)
    (hunique : UniqueWhere active key (updateWhere p f rows ++ opened.map Prod.snd)) :
    Kept id active key (updateWhere p f rows) opened where
  ids := by
    rw [List.map_append, map_updateWhere hid, ← List.map_append]
    exact h.ids
  unique := hunique

/-- An update of the committed rows that keeps ids and keys and activates no row it rewrites. -/
lemma Kept.updateWhere (h : Kept id active key rows opened) {p : ρ → Bool} {f : ρ → ρ}
    (hid : ∀ r, id (f r) = id r) (hkey : ∀ r, key (f r) = key r)
    (hact : ∀ r ∈ rows, p r = true → active (f r) = true → active r = true) :
    Kept id active key (updateWhere p f rows) opened := by
  have hswap : UniqueWhere active key (opened.map Prod.snd ++ rows) :=
    h.unique.perm List.perm_append_comm
  refine h.updateWhere_of_unique hid ?_
  exact (hswap.append_updateWhere hkey hact).perm List.perm_append_comm

/-- An accepted insertion: its id is fresh and its key free. -/
lemma Kept.insert (h : Kept id active key rows opened) {c : γ} {r : ρ}
    (hid : ∀ a ∈ rows ++ opened.map Prod.snd, id a ≠ id r)
    (hkey : ∀ a ∈ rows ++ opened.map Prod.snd, active a = true → key a ≠ key r) :
    Kept id active key rows (opened ++ [(c, r)]) := by
  have hindex :
      rows ++ (opened ++ [(c, r)]).map Prod.snd = (rows ++ opened.map Prod.snd) ++ [r] := by
    rw [List.map_append, List.append_assoc]
    rfl
  constructor
  · rw [hindex, List.map_append]
    refine List.nodup_append.mpr ⟨h.ids, List.nodup_singleton _, ?_⟩
    intro i hi j hj hij
    obtain ⟨a, ha, rfl⟩ := List.mem_map.mp hi
    rw [List.map_singleton, List.mem_singleton] at hj
    exact hid a ha (hij.trans hj)
  · rw [hindex]
    exact h.unique.append_row hkey

section clients

variable [DecidableEq γ]

/-- The rows that a client has inserted and not committed. -/
def openBy (c : γ) (opened : List (γ × ρ)) : List ρ :=
  (opened.filter fun e => decide (e.1 = c)).map Prod.snd

/-- The open insertions of everybody else. -/
def openOthers (c : γ) (opened : List (γ × ρ)) : List (γ × ρ) :=
  opened.filter fun e => !decide (e.1 = c)

lemma mem_openBy {c : γ} {r : ρ} : r ∈ openBy c opened ↔ (c, r) ∈ opened := by
  simp [openBy]

lemma mem_openOthers {c c' : γ} {r : ρ} :
    (c', r) ∈ openOthers c opened ↔ (c', r) ∈ opened ∧ c' ≠ c := by
  simp [openOthers]

lemma openBy_eq_nil {c : γ} (h : ∀ r, (c, r) ∉ opened) : openBy c opened = [] :=
  List.eq_nil_iff_forall_not_mem.mpr fun r hr => h r (mem_openBy.mp hr)

lemma openBy_ne_nil {c : γ} {r : ρ} (hr : (c, r) ∈ opened) : openBy c opened ≠ [] :=
  List.ne_nil_of_mem (mem_openBy.mpr hr)

/-- An insertion of `c` is none of `c'`. -/
lemma openBy_append_other {c c' : γ} (h : c' ≠ c) (r : ρ) :
    openBy c' (opened ++ [(c, r)]) = openBy c' opened := by
  simp [openBy, List.filter_append, Ne.symm h]

lemma openBy_openOthers {c c' : γ} (h : c' ≠ c) :
    openBy c' (openOthers c opened) = openBy c' opened := by
  rw [openBy, openOthers, List.filter_filter, openBy]
  congr 1
  apply List.filter_congr
  intro e _
  by_cases he : e.1 = c'
  · simp [he, h]
  · simp [he]

/-- Undone insertions leave the index. -/
lemma Kept.undo (h : Kept id active key rows opened) (c : γ) :
    Kept id active key rows (openOthers c opened) := by
  have hsub : (rows ++ (openOthers c opened).map Prod.snd).Sublist (rows ++ opened.map Prod.snd) :=
    (List.filter_sublist.map Prod.snd).append_left rows
  exact ⟨h.ids.sublist (hsub.map id), h.unique.sublist hsub⟩

/-- A commit moves rows from the open insertions to the table, after a last rewriting `g` that keeps
their ids and what the index asks of them. -/
lemma Kept.commit (h : Kept id active key rows opened) (c : γ) {g : List ρ → List ρ}
    (hids : ∀ own, (g own).map id = own.map id)
    (hunique : ∀ others own, UniqueWhere active key (others ++ own) →
      UniqueWhere active key (others ++ g own)) :
    Kept id active key (rows ++ g (openBy c opened)) (openOthers c opened) := by
  set others := (openOthers c opened).map Prod.snd with hothers
  have hsplit : (openBy c opened ++ others).Perm (opened.map Prod.snd) := by
    rw [hothers, openBy, openOthers, ← List.map_append]
    exact (List.filter_append_perm _ opened).map Prod.snd
  have hswap : (rows ++ opened.map Prod.snd).Perm ((rows ++ others) ++ openBy c opened) := by
    rw [List.append_assoc]
    exact (hsplit.symm.trans List.perm_append_comm).append_left rows
  have hindex : ((rows ++ g (openBy c opened)) ++ others).Perm
      ((rows ++ others) ++ g (openBy c opened)) := by
    rw [List.append_assoc, List.append_assoc]
    exact List.perm_append_comm.append_left rows
  constructor
  · refine (hindex.map id).nodup_iff.mpr ?_
    rw [List.map_append, hids, ← List.map_append]
    exact (hswap.map id).nodup_iff.mp h.ids
  · exact UniqueWhere.perm (hunique _ _ (h.unique.perm hswap)) hindex.symm

end clients

end Table
