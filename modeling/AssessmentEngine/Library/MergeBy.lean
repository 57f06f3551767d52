import AssessmentEngine.Library.Table

/-!
# Merging entries into rows

A dictionary filled entry by entry: each entry names the key of a row, takes that row (or a new one
when there is none) and changes it.  The row of a key is then the fold of the entries that name it
(`findId_mergeAll`), whatever entries of other keys lie between them.
-/

namespace Table

variable {ρ ε κ : Type*} [DecidableEq κ]

/-- How entries are merged: the key of an entry, the row it opens, and what it changes in its
row. -/
structure Merge (key : ρ → κ) (ε : Type*) where
  keyOf : ε → κ
  new : ε → ρ
  change : ε → ρ → ρ
  key_new : ∀ e, key (new e) = keyOf e
  key_change : ∀ e r, key (change e r) = key r

variable {key : ρ → κ} (m : Merge key ε)

/-- The row of an entry once it is merged. -/
def Merge.row (e : ε) (found : Option ρ) : ρ :=
  m.change e (found.getD (m.new e))

def mergeRow (rows : List ρ) (e : ε) : List ρ :=
  putRow key (m.row e (findId key (m.keyOf e) rows)) rows

def mergeAll (rows : List ρ) (es : List ε) : List ρ :=
  es.foldl (mergeRow m) rows

variable {m}

lemma key_row (rows : List ρ) (e : ε) :
    key (m.row e (findId key (m.keyOf e) rows)) = m.keyOf e := by
  rw [Merge.row, m.key_change]
  cases hfound : findId key (m.keyOf e) rows with
  | none => exact m.key_new e
  | some r => exact findId_key hfound

lemma findId_mergeRow (rows : List ρ) (e : ε) (i : κ) :
    findId key i (mergeRow m rows e) =
      if m.keyOf e = i then some (m.row e (findId key i rows)) else findId key i rows := by
  have hkey : key (m.row e (findId key (m.keyOf e) rows)) = m.keyOf e := key_row rows e
  rw [mergeRow, findId_putRow, hkey]
  by_cases hi : m.keyOf e = i
  · subst hi
    rfl
  · rw [if_neg hi, if_neg hi]

/-- The row of a key is the fold of the entries that name it. -/
lemma findId_mergeAll (rows : List ρ) (es : List ε) (i : κ) :
    findId key i (mergeAll m rows es) =
      (es.filter fun e => decide (m.keyOf e = i)).foldl (fun found e => some (m.row e found))
        (findId key i rows) := by
  induction es generalizing rows with
  | nil => rfl
  | cons e es ih =>
    have hstep : findId key i (mergeAll m rows (e :: es)) =
        findId key i (mergeAll m (mergeRow m rows e) es) := rfl
    rw [hstep, ih, findId_mergeRow]
    by_cases hi : m.keyOf e = i
    · rw [if_pos hi, List.filter_cons_of_pos (by simpa using hi), List.foldl_cons]
    · rw [if_neg hi, List.filter_cons_of_neg (by simpa using hi)]

/-- Keys stay without repetition. -/
lemma nodup_mergeAll {rows : List ρ} (hkeys : (rows.map key).Nodup) (es : List ε) :
    ((mergeAll m rows es).map key).Nodup := by
  induction es generalizing rows with
  | nil => exact hkeys
  | cons e es ih => exact ih (nodup_putRow hkeys _)

/-- What new rows have and changes keep, every row has. -/
lemma mergeAll_forall {P : ρ → Prop} {rows : List ρ} {es : List ε} (hrows : ∀ r ∈ rows, P r)
    (hnew : ∀ e ∈ es, P (m.new e)) (hchange : ∀ e ∈ es, ∀ r, P r → P (m.change e r)) :
    ∀ r ∈ mergeAll m rows es, P r := by
  induction es generalizing rows with
  | nil => exact hrows
  | cons e es ih =>
    refine ih ?_ (fun e' he' => hnew e' (List.mem_cons_of_mem e he'))
      fun e' he' => hchange e' (List.mem_cons_of_mem e he')
    intro r hr
    rcases mem_putRow hr with rfl | hr
    · apply hchange e (List.mem_cons_self ..)
      cases hfound : findId key (m.keyOf e) rows with
      | none => exact hnew e (List.mem_cons_self ..)
      | some a => exact hrows a (findId_mem hfound)
    · exact hrows r hr

end Table
