import AssessmentEngine.Library.Transactions
import AssessmentEngine.Jobs.Steps

/-!
# At most one active job per request

The invariant is about the rows that PostgreSQL checks, committed or not: ids do not repeat and the
active index is kept.  Only `enqueue` looks at the index; that claims and recoveries keep it as well
is what the module shows.
-/

namespace AssessmentEngine

open Table Runs

/-! ## The table invariant -/

/-- What the primary key and the active index keep, over committed and uncommitted rows. -/
structure TableInv (s : World) : Prop where
  ids : (s.index.map JobRow.id).Nodup
  unique : UniqueActive s.index

lemma tableInv_init : TableInv World.init where
  ids := List.nodup_nil
  unique := List.Pairwise.nil

/-- The invariant is what the database keeps over the open insertions. -/
lemma tableInv_iff {s : World} :
    TableInv s ↔ Kept JobRow.id JobRow.active JobRow.key s.rows s.uncommitted :=
  ⟨fun hinv => ⟨hinv.ids, hinv.unique⟩, fun hkept => ⟨hkept.ids, hkept.unique⟩⟩

lemma TableInv.ids_rows {s : World} (hinv : TableInv s) : (s.rows.map JobRow.id).Nodup :=
  (tableInv_iff.mp hinv).ids_rows

/-- The committed rows keep the index. -/
lemma TableInv.unique_rows {s : World} (hinv : TableInv s) : UniqueActive s.rows :=
  (tableInv_iff.mp hinv).unique_rows

/-- Nothing changes for the index when neither part of it does. -/
lemma TableInv.congr {s t : World} (hinv : TableInv s) (hrows : t.rows = s.rows)
    (hopen : t.uncommitted = s.uncommitted) : TableInv t := by
  rw [tableInv_iff, hrows, hopen]
  exact tableInv_iff.mp hinv

/-- An update of the committed rows keeps the invariant if it keeps ids and keys and activates no
row that it rewrites. -/
lemma TableInv.update {s t : World} (hinv : TableInv s) {p : JobRow → Bool} {f : JobRow → JobRow}
    (hid : ∀ r, (f r).id = r.id) (hkey : ∀ r, (f r).key = r.key)
    (hact : ∀ r ∈ s.rows, p r = true → (f r).active = true → r.active = true)
    (hrows : t.rows = updateWhere p f s.rows) (hopen : t.uncommitted = s.uncommitted) :
    TableInv t := by
  rw [tableInv_iff, hrows, hopen]
  exact (tableInv_iff.mp hinv).updateWhere hid hkey hact

/-- A recovery activates nothing: it touches running jobs only.  So it cannot meet a second active
row, although it never asks the index. -/
lemma recoverStaleRunning_keeps {now staleSeconds : ℕ} {s : World} (hinv : TableInv s) :
    UniqueActive (recoverStaleRunning now staleSeconds s.rows ++ s.uncommitted.map Prod.snd) := by
  have hact : ∀ r ∈ s.rows, r.stale now staleSeconds = true → r.requeue.active = true →
      r.active = true :=
    fun r _ hstale _ => JobRow.active_of_running (JobRow.running_of_stale hstale)
  exact (hinv.update (t := { s with rows := recoverStaleRunning now staleSeconds s.rows })
    JobRow.requeue_id JobRow.requeue_key hact rfl rfl).unique

/-- A commit only moves rows from the open insertions to the table, `emit_report` after taking its
own row out of the index. -/
lemma TableInv.commit {s t : World} (hinv : TableInv s) {c id : ℕ} {kind : CallKind}
    (hrows : t.rows = (s.closeInsert c (kind.mark s.now id)).rows)
    (hopen : t.uncommitted = s.uncommitted.filter fun e => !decide (e.1 = c)) : TableInv t := by
  rw [tableInv_iff, hrows, hopen]
  refine (tableInv_iff.mp hinv).commit c (g := kind.mark s.now id) ?ids ?unique
  case ids =>
    intro own
    cases kind with
    | enqueueReport => rfl
    | emitReport result => exact map_updateWhere (JobRow.succeed_id s.now result) own
  case unique =>
    intro others own hunique
    cases kind with
    | enqueueReport => exact hunique
    | emitReport result =>
      refine hunique.append_updateWhere (JobRow.succeed_key s.now result) ?_
      intro r _ _ hact
      simp at hact

/-- Undone insertions leave the index. -/
lemma TableInv.undo {s t : World} (hinv : TableInv s) {c : ℕ} (hrows : t.rows = s.rows)
    (hopen : t.uncommitted = s.uncommitted.filter fun e => !decide (e.1 = c)) : TableInv t := by
  rw [tableInv_iff, hrows, hopen]
  exact (tableInv_iff.mp hinv).undo c

/-- An accepted insertion: its id is fresh and its key free. -/
lemma TableInv.insert {s t : World} (hinv : TableInv s) {c : ℕ} {r : JobRow}
    (hid : ∀ a ∈ s.index, a.id ≠ r.id)
    (hkey : ∀ a ∈ s.index, a.active = true → a.key ≠ r.key)
    (hrows : t.rows = s.rows) (hopen : t.uncommitted = s.uncommitted ++ [(c, r)]) :
    TableInv t := by
  rw [tableInv_iff, hrows, hopen]
  exact (tableInv_iff.mp hinv).insert hid hkey

/-- Every move of the table keeps the invariant. -/
theorem tableInv_move {s t : World} (hinv : TableInv s) (hmove : TableMove s t) : TableInv t := by
  cases hmove with
  | quiet hrows hopen => exact hinv.congr hrows hopen
  | insert c r hid hkey hrows hopen => exact hinv.insert hid hkey hrows hopen
  | commit c id kind hrows hopen => exact hinv.commit hrows hopen
  | undo c hrows hopen => exact hinv.undo hrows hopen
  | recover staleSeconds hrows hopen =>
    refine hinv.update JobRow.requeue_id JobRow.requeue_key ?_ hrows hopen
    intro r _ hstale _
    exact JobRow.active_of_running (JobRow.running_of_stale hstale)
  | claim r hmem hpending hrows hopen =>
    refine hinv.update (JobRow.start_id s.now) (JobRow.start_key s.now) ?_ hrows hopen
    -- the only row with the claimed id is the pending one
    intro a ha hid _
    have heq : a = r := List.inj_on_of_nodup_map hinv.ids_rows ha hmem (of_decide_eq_true hid)
    exact JobRow.active_of_pending (heq ▸ hpending)
  | succeed w id claimedAt result hworker hrows hopen =>
    refine hinv.update (JobRow.succeed_id s.now result) (JobRow.succeed_key s.now result) ?_
      hrows hopen
    intro r _ _ hact
    simp at hact
  | fail w id claimedAt errorMessage hworker hrows hopen =>
    refine hinv.update (JobRow.fail_id s.now errorMessage) (JobRow.fail_key s.now errorMessage) ?_
      hrows hopen
    intro r _ _ hact
    simp at hact

variable {h : Hashing}

/-- The invariant holds in every reachable state. -/
theorem tableInv_run {as : List Action} {s : World} (hrun : run (step h) as World.init = some s) :
    TableInv s :=
  run_invariant (fun _ _ _ hinv hstep => tableInv_move hinv (step_tableMove hstep)) hrun
    tableInv_init

end AssessmentEngine
