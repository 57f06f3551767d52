import Mathlib.Data.List.MinMax
import Mathlib.Data.String.Basic
import AssessmentEngine.Library.Table

/-!
# The table of report jobs

Rows of `diagnostic_jobs` and the statements that `SqlDiagnosticRepository` runs on them, each as a
function of the rows it sees and of the transaction's `now()`.  Times are microseconds.  The
partial unique index `uq_diagnostic_jobs_active_per_input` covers the rows for which
`JobRow.active` holds and is keyed by `JobRow.key`.
-/

namespace AssessmentEngine

open Table

/-- A JSONB document, kept as its text: no statement below looks inside one. -/
abbrev JsonObject := String

/-- `diagnostic_jobs.status`. -/
inductive JobStatus
  | pending
  | running
  | succeeded
  | failed
  deriving DecidableEq, Repr

/-- `input_params` as `_build_input_params` fills it. -/
structure InputParams where
  view : String
  serverPublicIds : List String
  timeRange : String
  anchorAt : String
  serverPublicId : Option String
  deriving DecidableEq, Repr

/-- The columns of the active index: `scope`, `input_hash` and `job_type`. -/
structure JobKey where
  scope : String
  inputHash : String
  jobType : String
  deriving DecidableEq, Repr

/-- The input of `DiagnosticRepository.enqueue`. -/
structure DiagnosticJobCreate where
  key : JobKey
  inputParams : InputParams
  requestedBy : Option String
  deriving DecidableEq, Repr

/-- A row of `diagnostic_jobs`. -/
structure JobRow where
  id : ℕ
  key : JobKey
  inputParams : InputParams
  status : JobStatus
  progressStage : Option String
  result : Option JsonObject
  errorMessage : Option String
  createdAt : ℕ
  startedAt : Option ℕ
  finishedAt : Option ℕ
  requestedBy : Option String
  deriving DecidableEq, Repr

/-- `status IN ('pending', 'running')`, the condition of the partial index. -/
def JobRow.active (r : JobRow) : Bool :=
  r.status = .pending || r.status = .running

/-- What the partial unique index enforces. -/
def UniqueActive (rows : List JobRow) : Prop :=
  UniqueWhere JobRow.active JobRow.key rows

/-! ## The statements -/

/-- The row that `enqueue` inserts under a fresh id. -/
def newJob (now id : ℕ) (job : DiagnosticJobCreate) : JobRow where
  id := id
  key := job.key
  inputParams := job.inputParams
  status := .pending
  progressStage := some "queued"
  result := none
  errorMessage := none
  createdAt := now
  startedAt := none
  finishedAt := none
  requestedBy := job.requestedBy

/-- `INSERT … ON CONFLICT DO NOTHING RETURNING id` on the active index; `none` on a conflict. -/
def enqueue (now id : ℕ) (job : DiagnosticJobCreate) (index : List JobRow) : Option JobRow :=
  if index.any fun r => r.active && decide (r.key = job.key) then none else some (newJob now id job)

/-- The id of a visible active job with the key. -/
def getActiveByHash (key : JobKey) (rows : List JobRow) : Option ℕ :=
  (rows.find? fun r => decide (r.key = key) && r.active).map JobRow.id

/-- The assignment of `mark_succeeded`. -/
def JobRow.succeed (now : ℕ) (result : JsonObject) (r : JobRow) : JobRow :=
  { r with status := .succeeded, result := some result, finishedAt := some now,
           progressStage := none }

/-- The assignment of `mark_failed`. -/
def JobRow.fail (now : ℕ) (errorMessage : String) (r : JobRow) : JobRow :=
  { r with status := .failed, errorMessage := some errorMessage, finishedAt := some now,
           progressStage := none }

/-- The assignment of `claim_next_pending`. -/
def JobRow.start (now : ℕ) (r : JobRow) : JobRow :=
  { r with status := .running, startedAt := some now, progressStage := some "running" }

/-- The assignment of `recover_stale_running`. -/
def JobRow.requeue (r : JobRow) : JobRow :=
  { r with status := .pending, startedAt := none, progressStage := some "requeued" }

/-- `UPDATE … WHERE id = job_id`, whatever the status of the job. -/
def markSucceeded (now id : ℕ) (result : JsonObject) (rows : List JobRow) : List JobRow :=
  updateWhere (fun r => decide (r.id = id)) (JobRow.succeed now result) rows

/-- `UPDATE … WHERE id = job_id`, whatever the status of the job. -/
def markFailed (now id : ℕ) (errorMessage : String) (rows : List JobRow) : List JobRow :=
  updateWhere (fun r => decide (r.id = id)) (JobRow.fail now errorMessage) rows

/-- The oldest pending job that no other transaction has locked (`FOR UPDATE SKIP LOCKED`). -/
def nextPending (locked : List ℕ) (rows : List JobRow) : Option JobRow :=
  (rows.filter fun r => decide (r.status = .pending) && !decide (r.id ∈ locked)).argmin
    JobRow.createdAt

/-- `claim_next_pending`: the job as it is handed to the worker, and the rows after it. -/
def claimNextPending (now : ℕ) (locked : List ℕ) (rows : List JobRow) :
    Option JobRow × List JobRow :=
  match nextPending locked rows with
  | none => (none, rows)
  | some r =>
    (some (r.start now), updateWhere (fun a => decide (a.id = r.id)) (JobRow.start now) rows)

/-- A number of seconds in microseconds. -/
def seconds (n : ℕ) : ℕ := n * 1000000

/-- `started_at < now() - stale`; false for a null `started_at`, as in SQL. -/
def startedBefore (now staleSeconds : ℕ) : Option ℕ → Bool
  | none => false
  | some t => decide (t + seconds staleSeconds < now)

/-- The `WHERE` clause of `recover_stale_running`. -/
def JobRow.stale (now staleSeconds : ℕ) (r : JobRow) : Bool :=
  decide (r.status = .running) && startedBefore now staleSeconds r.startedAt

/-- `recover_stale_running`. -/
def recoverStaleRunning (now staleSeconds : ℕ) (rows : List JobRow) : List JobRow :=
  updateWhere (JobRow.stale now staleSeconds) JobRow.requeue rows

/-! ## What each statement leaves alone -/

section simp

variable (now : ℕ) (text : String) (r : JobRow)

@[simp] lemma JobRow.succeed_id : (r.succeed now text).id = r.id := rfl
@[simp] lemma JobRow.fail_id : (r.fail now text).id = r.id := rfl
@[simp] lemma JobRow.start_id : (r.start now).id = r.id := rfl
@[simp] lemma JobRow.requeue_id : r.requeue.id = r.id := rfl

@[simp] lemma JobRow.succeed_key : (r.succeed now text).key = r.key := rfl
@[simp] lemma JobRow.fail_key : (r.fail now text).key = r.key := rfl
@[simp] lemma JobRow.start_key : (r.start now).key = r.key := rfl
@[simp] lemma JobRow.requeue_key : r.requeue.key = r.key := rfl

@[simp] lemma JobRow.succeed_active : (r.succeed now text).active = false := rfl
@[simp] lemma JobRow.fail_active : (r.fail now text).active = false := rfl

end simp

lemma JobRow.active_of_pending {r : JobRow} (h : r.status = .pending) : r.active = true := by
  simp [JobRow.active, h]

lemma JobRow.active_of_running {r : JobRow} (h : r.status = .running) : r.active = true := by
  simp [JobRow.active, h]

lemma JobRow.running_of_stale {now staleSeconds : ℕ} {r : JobRow}
    (h : r.stale now staleSeconds = true) : r.status = .running := by
  rw [JobRow.stale, Bool.and_eq_true, decide_eq_true_eq] at h
  exact h.1

/-- An insertion that goes through found no active row with the key. -/
lemma enqueue_eq_some {now id : ℕ} {job : DiagnosticJobCreate} {index : List JobRow} {r : JobRow}
    (h : enqueue now id job index = some r) :
    r = newJob now id job ∧ ∀ a ∈ index, a.active = true → a.key ≠ job.key := by
  unfold enqueue at h
  split_ifs at h with hany
  refine ⟨(Option.some_inj.mp h).symm, fun a ha hact hkey => hany ?_⟩
  exact List.any_eq_true.mpr ⟨a, ha, by simp [hact, hkey]⟩

/-- A recovered id belongs to a visible active job with the key. -/
lemma getActiveByHash_eq_some {key : JobKey} {rows : List JobRow} {id : ℕ}
    (h : getActiveByHash key rows = some id) :
    ∃ r ∈ rows, r.id = id ∧ r.key = key ∧ r.active = true := by
  obtain ⟨r, hfind, hid⟩ := Option.map_eq_some_iff.mp h
  have hr : r.key = key ∧ r.active = true := by simpa using List.find?_some hfind
  exact ⟨r, List.mem_of_find?_eq_some hfind, hid, hr⟩

/-- The job picked is a pending row of the table. -/
lemma nextPending_eq_some {locked : List ℕ} {rows : List JobRow} {r : JobRow}
    (h : nextPending locked rows = some r) : r ∈ rows ∧ r.status = .pending := by
  have hmem : r ∈ rows.filter fun r => decide (r.status = .pending) && !decide (r.id ∈ locked) :=
    List.argmin_mem (by rw [← nextPending, h]; rfl)
  rw [List.mem_filter, Bool.and_eq_true, decide_eq_true_eq] at hmem
  exact ⟨hmem.1, hmem.2.1⟩

end AssessmentEngine
