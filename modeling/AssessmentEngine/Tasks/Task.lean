import Mathlib.Algebra.Group.Nat.Defs
import Mathlib.Data.Int.Basic
import AssessmentEngine.Library.Table

/-!
# The table of install tasks

Rows of `tasks` and the statements that `SqlCollectRepository` runs on them.  The partial unique
index `uq_tasks_pending_per_server_type` covers the pending rows and is keyed by target server and
task type.  Times are microseconds since the epoch; statuses are strings, as on the wire.
-/

namespace AssessmentEngine

open Table

/-- A text that is present and not empty. -/
def nonempty (text : Option String) : Option String :=
  text.filter fun s => !s.isEmpty

/-- The input of `create_task`. -/
structure TaskCreate where
  targetServerId : ℕ
  targetAgentId : String
  taskType : String
  params : Option (List (String × String))
  deadlineAt : Option ℤ
  deriving DecidableEq, Repr

/-- The input of `complete_task`. -/
structure TaskResultUpdate where
  publicId : String
  status : String
  failureReason : Option String
  exitCode : Option ℤ
  signalNo : Option ℤ
  taskPolicy : Option Bool
  durationMs : ℕ
  stdoutTail : String
  stderrTail : String
  completedAt : ℤ
  deriving DecidableEq, Repr

/-- A row of `tasks`. -/
structure Task where
  publicId : String
  targetServerId : ℕ
  targetAgentId : String
  taskType : String
  params : Option (List (String × String))
  status : String
  createdAt : ℤ
  deadlineAt : Option ℤ
  completedAt : Option ℤ
  failureReason : Option String
  exitCode : Option ℤ
  signalNo : Option ℤ
  durationMs : Option ℕ
  stdoutTail : Option String
  stderrTail : Option String
  taskPolicy : Option Bool
  deriving DecidableEq, Repr

/-- `status = 'pending'`, the condition of the partial index. -/
def Task.pending (r : Task) : Bool :=
  r.status = "pending"

/-- The columns of the partial index. -/
def Task.slot (r : Task) : ℕ × String :=
  (r.targetServerId, r.taskType)

/-- What the partial unique index enforces. -/
def UniquePending (rows : List Task) : Prop :=
  UniqueWhere Task.pending Task.slot rows

instance (rows : List Task) : Decidable (UniquePending rows) :=
  inferInstanceAs (Decidable (UniqueWhere Task.pending Task.slot rows))

/-! ## The statements -/

/-- The row that `create_task` inserts under a fresh public id. -/
def newTask (now : ℤ) (publicId : String) (data : TaskCreate) : Task where
  publicId := publicId
  targetServerId := data.targetServerId
  targetAgentId := data.targetAgentId
  taskType := data.taskType
  params := data.params
  status := "pending"
  createdAt := now
  deadlineAt := data.deadlineAt
  completedAt := none
  failureReason := none
  exitCode := none
  signalNo := none
  durationMs := none
  stdoutTail := none
  stderrTail := none
  taskPolicy := none

/-- `create_task`; `none` is the `IntegrityError` of the partial index. -/
def createTask (now : ℤ) (publicId : String) (data : TaskCreate) (rows : List Task) :
    Option (List Task) :=
  if rows.any fun r => r.pending && decide (r.slot = (data.targetServerId, data.taskType)) then none
  else some (rows ++ [newTask now publicId data])

/-- The `WHERE` clause that the expiring statements share: pending, and past a deadline it has. -/
def Task.overdue (now : ℤ) (r : Task) : Bool :=
  r.pending && r.deadlineAt.any fun deadline => decide (deadline < now)

/-- The assignment of the expiring statements. -/
def Task.expire (now : ℤ) (r : Task) : Task :=
  { r with status := "failure", failureReason := some "timeout", completedAt := some now }

/-- `expire_overdue_tasks`. -/
def expireOverdueTasks (now : ℤ) (serverIds : List ℕ) (rows : List Task) : List Task :=
  if serverIds = [] then rows
  else updateWhere (fun r => decide (r.targetServerId ∈ serverIds) && r.overdue now)
    (Task.expire now) rows

/-- `expire_all_overdue_tasks`. -/
def expireAllOverdueTasks (now : ℤ) (rows : List Task) : List Task :=
  updateWhere (Task.overdue now) (Task.expire now) rows

/-- `find_pending_deadline_servers`. -/
def findPendingDeadlineServers (serverIds : List ℕ) (rows : List Task) : List ℕ :=
  ((rows.filter fun r =>
    decide (r.targetServerId ∈ serverIds) && r.pending && r.deadlineAt.isSome).map
      Task.targetServerId).dedup

/-- The assignment of `complete_task`. -/
def Task.complete (data : TaskResultUpdate) (r : Task) : Task :=
  { r with
    status := data.status
    completedAt := some data.completedAt
    failureReason := data.failureReason
    exitCode := data.exitCode
    signalNo := data.signalNo
    taskPolicy := data.taskPolicy
    durationMs := some data.durationMs
    stdoutTail := some data.stdoutTail
    stderrTail := some data.stderrTail }

/-- The values fit their columns: `SmallInteger` for codes, `BigInteger` for the duration. -/
def TaskResultUpdate.storable (data : TaskResultUpdate) : Bool :=
  (data.exitCode.all fun n => decide (-32768 ≤ n ∧ n ≤ 32767)) &&
    (data.signalNo.all fun n => decide (-32768 ≤ n ∧ n ≤ 32767)) &&
    decide (data.durationMs < 2 ^ 63)

/-- `complete_task`, by public id whatever the status; `none` when PostgreSQL refuses the values, or
a status `pending` in them would break the partial index. -/
def completeTask (data : TaskResultUpdate) (rows : List Task) : Option (List Task) :=
  let updated :=
    updateWhere (fun r => decide (r.publicId = data.publicId)) (Task.complete data) rows
  if data.storable ∧ UniquePending updated then some updated else none

/-! ## What the statements leave alone -/

section simp

variable (now : ℤ) (data : TaskResultUpdate) (r : Task)

@[simp] lemma Task.expire_publicId : (r.expire now).publicId = r.publicId := rfl
@[simp] lemma Task.complete_publicId : (r.complete data).publicId = r.publicId := rfl
@[simp] lemma Task.expire_pending : (r.expire now).pending = false := rfl

end simp

/-- Only pending rows are overdue. -/
lemma Task.pending_of_overdue {now : ℤ} {r : Task} (h : r.overdue now = true) :
    r.pending = true := by
  rw [Task.overdue, Bool.and_eq_true] at h
  exact h.1

/-- A task is inserted when no pending one holds its slot. -/
lemma createTask_eq_some {now : ℤ} {publicId : String} {data : TaskCreate} {rows rows' : List Task}
    (h : createTask now publicId data rows = some rows') :
    rows' = rows ++ [newTask now publicId data] ∧
      ∀ a ∈ rows, a.pending = true → a.slot ≠ (data.targetServerId, data.taskType) := by
  unfold createTask at h
  split_ifs at h with hany
  refine ⟨(Option.some_inj.mp h).symm, fun a ha hpending hslot => hany ?_⟩
  exact List.any_eq_true.mpr ⟨a, ha, by simp [hpending, hslot]⟩

/-- The insertion fails exactly when a pending task holds the slot. -/
lemma createTask_eq_none_iff {now : ℤ} {publicId : String} {data : TaskCreate} {rows : List Task} :
    createTask now publicId data rows = none ↔
      ∃ a ∈ rows, a.pending = true ∧ a.slot = (data.targetServerId, data.taskType) := by
  unfold createTask
  split_ifs with hany
  · simpa using hany
  · simpa using hany

/-- A result that is stored rewrites the row of its task. -/
lemma completeTask_eq_some {data : TaskResultUpdate} {rows rows' : List Task}
    (h : completeTask data rows = some rows') :
    rows' = updateWhere (fun r => decide (r.publicId = data.publicId)) (Task.complete data) rows ∧
      UniquePending rows' := by
  simp only [completeTask] at h
  split_ifs at h with hok
  obtain rfl := Option.some_inj.mp h
  exact ⟨rfl, hok.2⟩

end AssessmentEngine
