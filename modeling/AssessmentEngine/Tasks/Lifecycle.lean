import AssessmentEngine.Library.Runs
import AssessmentEngine.Tasks.ResultPolicy

/-!
# The life of an install task

Three writers share the row of a task: the emitter creates it, expiry (before an emission, and in
the background) ends it when its deadline has passed, and the consumer stores what the agent
reports.  Messages come in any order and any number of times.  Expiry writes to pending rows only;
the consumer writes by id, so that a late report overwrites a timeout.
-/

namespace AssessmentEngine

open Table Runs

/-- The table, the clock of the database, and the message ids marked as seen in Redis. -/
structure TaskWorld where
  now : ℤ
  rows : List Task
  seen : List String
  deriving DecidableEq, Repr

def TaskWorld.init : TaskWorld where
  now := 0
  rows := []
  seen := []

/-- The row of a task. -/
def TaskWorld.task (s : TaskWorld) (publicId : String) : Option Task :=
  findId Task.publicId publicId s.rows

inductive TaskAction
  | tick (elapsed : ℕ)
  | createTask (publicId : String) (data : TaskCreate)
  | taskResult (msg : TaskResultInput) (redisUp dbUp : Bool)
  | expireOverdueTasks (serverIds : List ℕ)
  | expireAllOverdueTasks
  | forgetMessage (messageId : String)

/-- `_check_idempotent` by `SET NX`: whether to process the message, and the marks afterwards.
Without Redis every message is processed. -/
def checkIdempotent (redisUp : Bool) (messageId : String) (seen : List String) :
    Bool × List String :=
  if redisUp then
    if messageId ∈ seen then (false, seen) else (true, messageId :: seen)
  else (true, seen)

/-- The handler of `task.result`: a duplicate is skipped, an id that is no UUID matches no task, and
what the database does not take leaves the table alone. -/
def storeResult (cfg : ConsumerConfig) (msg : TaskResultInput) (redisUp dbUp : Bool)
    (s : TaskWorld) : TaskWorld :=
  match checkIdempotent redisUp msg.messageId s.seen with
  | (false, seen) => { s with seen := seen }
  | (true, seen) =>
    match cfg.canonicalUuid msg.taskId with
    | none => { s with seen := seen }
    | some publicId =>
      match completeTask (msg.toUpdate cfg publicId) s.rows with
      | none => { s with seen := seen }
      | some rows => { s with seen := seen, rows := if dbUp then rows else s.rows }

/-- One step.  Public ids come from `gen_random_uuid()`, so a used one is no step; a creation that
meets the partial index raises and leaves the table alone. -/
def taskStep (cfg : ConsumerConfig) : TaskAction → TaskWorld → Option TaskWorld
  | .tick elapsed, s => some { s with now := s.now + elapsed }
  | .createTask publicId data, s =>
    if s.rows.any fun r => decide (r.publicId = publicId) then none
    else some { s with rows := (createTask s.now publicId data s.rows).getD s.rows }
  | .taskResult msg redisUp dbUp, s => some (storeResult cfg msg redisUp dbUp s)
  | .expireOverdueTasks serverIds, s =>
    some { s with rows := expireOverdueTasks s.now serverIds s.rows }
  | .expireAllOverdueTasks, s => some { s with rows := expireAllOverdueTasks s.now s.rows }
  | .forgetMessage messageId, s => some { s with seen := s.seen.filter (· ≠ messageId) }

/-- The action stores, if anything, a report on the task. -/
def TaskAction.reportsOn (cfg : ConsumerConfig) (publicId : String) : TaskAction → Bool
  | .taskResult msg _ _ => decide (cfg.canonicalUuid msg.taskId = some publicId)
  | _ => false

/-- A report, if the action is one, says success or failure. -/
def TaskAction.wellRated : TaskAction → Bool
  | .taskResult msg _ _ => decide (msg.status = "success" ∨ msg.status = "failure")
  | _ => true

variable {cfg : ConsumerConfig}

/-! ## What one step does to the rows -/

/-- How the rows move in one step. -/
inductive TaskMove (cfg : ConsumerConfig) (a : TaskAction) (s t : TaskWorld) : Prop
  | quiet (hrows : t.rows = s.rows)
  | create (publicId : String) (data : TaskCreate)
      (hrows : t.rows = s.rows ++ [newTask s.now publicId data])
  | expire (p : Task → Bool) (hp : ∀ r, p r = true → r.pending = true)
      (hrows : t.rows = updateWhere p (Task.expire s.now) s.rows)
  | report (msg : TaskResultInput) (redisUp dbUp : Bool) (publicId : String)
      (ha : a = .taskResult msg redisUp dbUp) (hid : cfg.canonicalUuid msg.taskId = some publicId)
      (hrows : t.rows = updateWhere (fun r => decide (r.publicId = publicId))
        (Task.complete (msg.toUpdate cfg publicId)) s.rows)

lemma storeResult_move (msg : TaskResultInput) (redisUp dbUp : Bool) (s : TaskWorld) :
    TaskMove cfg (.taskResult msg redisUp dbUp) s (storeResult cfg msg redisUp dbUp s) := by
  unfold storeResult
  split
  case h_1 => exact .quiet rfl
  case h_2 seen _ =>
    cases hid : cfg.canonicalUuid msg.taskId with
    | none => exact .quiet rfl
    | some publicId =>
      simp only []
      cases hrows : completeTask (msg.toUpdate cfg publicId) s.rows with
      | none => exact .quiet rfl
      | some rows =>
        cases dbUp with
        | false => exact .quiet rfl
        | true =>
          exact .report msg redisUp true publicId rfl hid (completeTask_eq_some hrows).1

theorem taskStep_move {a : TaskAction} {s t : TaskWorld} (hstep : taskStep cfg a s = some t) :
    TaskMove cfg a s t := by
  cases a with
  | tick elapsed =>
    cases hstep
    exact .quiet rfl
  | createTask publicId data =>
    simp only [taskStep] at hstep
    split_ifs at hstep
    cases hstep
    cases hcreate : createTask s.now publicId data s.rows with
    | none => exact .quiet rfl
    | some rows => exact .create publicId data (createTask_eq_some hcreate).1
  | taskResult msg redisUp dbUp =>
    cases hstep
    exact storeResult_move msg redisUp dbUp s
  | expireOverdueTasks serverIds =>
    cases hstep
    by_cases hempty : serverIds = []
    · exact .quiet (if_pos hempty)
    · refine .expire (fun r => decide (r.targetServerId ∈ serverIds) && r.overdue s.now) ?_
        (if_neg hempty)
      intro r hr
      rw [Bool.and_eq_true] at hr
      exact Task.pending_of_overdue hr.2
  | expireAllOverdueTasks =>
    cases hstep
    exact .expire (Task.overdue s.now) (fun _ hr => Task.pending_of_overdue hr) rfl
  | forgetMessage messageId =>
    cases hstep
    exact .quiet rfl

/-- A task that has left `pending` keeps its row, unless the step reports on it. -/
lemma settled_step {a : TaskAction} {s t : TaskWorld} {publicId : String} {r : Task}
    (hstep : taskStep cfg a s = some t) (hrow : s.task publicId = some r)
    (hsettled : r.pending = false) :
    t.task publicId = some r ∨
      ∃ msg redisUp dbUp, a = .taskResult msg redisUp dbUp ∧
        cfg.canonicalUuid msg.taskId = some publicId ∧
        t.task publicId = some (r.complete (msg.toUpdate cfg publicId)) := by
  cases taskStep_move hstep with
  | quiet hrows =>
    left
    rw [TaskWorld.task, hrows]
    exact hrow
  | create publicId' data hrows =>
    left
    rw [TaskWorld.task, hrows]
    exact findId_append_of_some hrow _
  | expire p hp hrows =>
    left
    have hr : p r = false :=
      Bool.eq_false_iff.mpr fun hpr => by simp [hp r hpr] at hsettled
    rw [TaskWorld.task, hrows]
    exact findId_updateWhere_of_not (Task.expire_publicId s.now) hrow hr
  | report msg redisUp dbUp publicId' ha hid hrows =>
    have hkey := Task.complete_publicId (msg.toUpdate cfg publicId')
    by_cases hsame : publicId' = publicId
    · subst hsame
      refine Or.inr ⟨msg, redisUp, dbUp, ha, hid, ?_⟩
      rw [TaskWorld.task, hrows, findId_updateWhere hkey, ← TaskWorld.task, hrow]
      simp [findId_key hrow]
    · left
      rw [TaskWorld.task, hrows]
      refine findId_updateWhere_of_not hkey hrow (decide_eq_false ?_)
      rw [findId_key hrow]
      exact fun heq => hsame heq.symm

/-! ## Runs -/

/-- Without a report on it, a task that has left `pending` never changes. -/
theorem settled_run {publicId : String} {r : Task} {bs : List TaskAction} {s t : TaskWorld}
    (hrow : s.task publicId = some r) (hsettled : r.pending = false)
    (hnone : ∀ a ∈ bs, a.reportsOn cfg publicId = false) (hrun : run (taskStep cfg) bs s = some t) :
    t.task publicId = some r := by
  refine run_history (J := fun _ u => u.task publicId = some r) hrow ?_ hrun
  intro cs a u v hpre _ hu hstep
  rcases settled_step hstep hu hsettled with hsame | ⟨msg, redisUp, dbUp, rfl, hid, _⟩
  · exact hsame
  · have hmem : TaskAction.taskResult msg redisUp dbUp ∈ bs := hpre.subset (by simp)
    have hreport := hnone _ hmem
    simp [TaskAction.reportsOn, hid] at hreport

/-- Where reports say success or failure, a task that has left `pending` does not return to it. -/
theorem settled_run_of_wellRated {publicId : String} {bs : List TaskAction} {s t : TaskWorld}
    {r : Task} (hrow : s.task publicId = some r) (hsettled : r.pending = false)
    (hrated : ∀ a ∈ bs, a.wellRated = true) (hrun : run (taskStep cfg) bs s = some t) :
    ∃ r', t.task publicId = some r' ∧ r'.pending = false := by
  refine run_history (J := fun _ u => ∃ r', u.task publicId = some r' ∧ r'.pending = false)
    ⟨r, hrow, hsettled⟩ ?_ hrun
  rintro cs a u v hpre _ ⟨r', hu, hr'⟩ hstep
  rcases settled_step hstep hu hr' with hsame | ⟨msg, redisUp, dbUp, rfl, _, hv⟩
  · exact ⟨r', hsame, hr'⟩
  · refine ⟨_, hv, ?_⟩
    have hmem : TaskAction.taskResult msg redisUp dbUp ∈ bs := hpre.subset (by simp)
    have hstatus : msg.status = "success" ∨ msg.status = "failure" := by
      simpa [TaskAction.wellRated] using hrated _ hmem
    rcases TaskResultInput.effective_status cfg hstatus with heff | heff <;>
      simp [Task.pending, Task.complete, TaskResultInput.toUpdate, heff]

/-- The statuses the engine itself writes. -/
def Task.known (r : Task) : Prop :=
  r.status = "pending" ∨ r.status = "success" ∨ r.status = "failure"

/-- Where reports say success or failure, every status is one of the three. -/
theorem known_run {bs : List TaskAction} {s t : TaskWorld} (hs : ∀ r ∈ s.rows, r.known)
    (hrated : ∀ a ∈ bs, a.wellRated = true) (hrun : run (taskStep cfg) bs s = some t) :
    ∀ r ∈ t.rows, r.known := by
  refine run_history (J := fun _ u => ∀ r ∈ u.rows, r.known) hs ?_ hrun
  intro cs a u v hpre _ hu hstep
  have hupdate : ∀ (p : Task → Bool) (f : Task → Task), (∀ r, (f r).known) →
      v.rows = updateWhere p f u.rows → ∀ r ∈ v.rows, r.known := by
    intro p f hf hrows r hr
    rw [hrows] at hr
    obtain ⟨a, ha, rfl⟩ := List.mem_map.mp hr
    split_ifs
    · exact hf a
    · exact hu a ha
  cases taskStep_move hstep with
  | quiet hrows => rwa [hrows]
  | create publicId data hrows =>
    rw [hrows]
    intro r hr
    rcases List.mem_append.mp hr with hold | hnew
    · exact hu r hold
    · rw [List.mem_singleton.mp hnew]
      exact Or.inl rfl
  | expire p hp hrows => exact hupdate p _ (fun _ => Or.inr (Or.inr rfl)) hrows
  | report msg redisUp dbUp publicId ha hid hrows =>
    have hmem : a ∈ bs := hpre.subset (by simp)
    have hstatus : msg.status = "success" ∨ msg.status = "failure" := by
      have hrate := hrated a hmem
      rw [ha] at hrate
      simpa [TaskAction.wellRated] using hrate
    exact hupdate _ _ (fun _ => Or.inr (TaskResultInput.effective_status cfg hstatus)) hrows

/-- Once a task has left `pending`, no creation and no expiry changes it again; a report on it does,
and stores its rating.  As long as reports say success or failure, every status is pending, success
or failure, and no task returns to pending. -/
theorem settled_task_changed_by_reports_only (cfg : ConsumerConfig) (as : List TaskAction)
    (s : TaskWorld) (hrun : run (taskStep cfg) as TaskWorld.init = some s) :
    (∀ publicId r bs t, s.task publicId = some r → r.status ≠ "pending" →
      run (taskStep cfg) bs s = some t → (∀ a ∈ bs, a.reportsOn cfg publicId = false) →
      t.task publicId = some r) ∧
    (∀ publicId r a t, s.task publicId = some r → r.status ≠ "pending" →
      taskStep cfg a s = some t → t.task publicId = some r ∨
        ∃ msg redisUp dbUp, a = .taskResult msg redisUp dbUp ∧
          cfg.canonicalUuid msg.taskId = some publicId ∧
          t.task publicId = some (r.complete (msg.toUpdate cfg publicId))) ∧
    ((∀ a ∈ as, a.wellRated = true) → ∀ r ∈ s.rows,
      r.status = "pending" ∨ r.status = "success" ∨ r.status = "failure") ∧
    (∀ publicId r bs t, s.task publicId = some r → r.status ≠ "pending" →
      run (taskStep cfg) bs s = some t → (∀ a ∈ bs, a.wellRated = true) →
      ∃ r', t.task publicId = some r' ∧ r'.status ≠ "pending") := by
  have hpending : ∀ r : Task, r.status ≠ "pending" → r.pending = false :=
    fun r hr => decide_eq_false hr
  refine ⟨?_, ?_, ?_, ?_⟩
  · intro publicId r bs t hrow hr hbs hnone
    exact settled_run hrow (hpending r hr) hnone hbs
  · intro publicId r a t hrow hr hstep
    exact settled_step hstep hrow (hpending r hr)
  · intro hrated
    exact known_run (fun _ hr => absurd hr List.not_mem_nil) hrated hrun
  · intro publicId r bs t hrow hr hbs hrated
    obtain ⟨r', hr', hsettled⟩ := settled_run_of_wellRated hrow (hpending r hr) hrated hbs
    exact ⟨r', hr', of_decide_eq_false hsettled⟩

/-! ## A late report -/

/-- Task ids of the sample messages are canonical already. -/
def sampleConsumer : ConsumerConfig where
  successExitCodes := taskInstallSuccessExitCodes
  canonicalUuid := some

/-- A report on one task with a given status. -/
def sampleReport (messageId status : String)
    (hstatus : 1 ≤ status.length ∧ status.length ≤ 32) : TaskResultInput where
  messageId := messageId
  osFamily := "linux"
  osId := some "rocky"
  osVersion := some "9.4"
  taskId := "00000000-0000-4000-8000-000000000001"
  status := status
  failureReason := none
  exitCode := some 0
  signalNo := none
  taskPolicy := none
  durationMs := 1000
  stdoutTail := ""
  stderrTail := ""
  completedAt := 1
  osFamily_literal := Or.inl rfl
  status_length := hstatus

def sampleTask : TaskCreate where
  targetServerId := 1
  targetAgentId := "00000000-0000-4000-8000-000000000002"
  taskType := "zconverter_install"
  params := none
  deadlineAt := some 10

/-- A task is created and its deadline passes. -/
def timedOut : List TaskAction :=
  [.createTask "00000000-0000-4000-8000-000000000001" sampleTask, .tick 11, .expireAllOverdueTasks]

theorem settled_task_changed_by_reports_only_timedOut :
    ∃ s r, run (taskStep sampleConsumer) timedOut TaskWorld.init = some s ∧
      s.task "00000000-0000-4000-8000-000000000001" = some r ∧ r.status = "failure" ∧
      ∀ bs t, run (taskStep sampleConsumer) bs s = some t →
        (∀ a ∈ bs, a.reportsOn sampleConsumer "00000000-0000-4000-8000-000000000001" = false) →
        t.task "00000000-0000-4000-8000-000000000001" = some r :=
  ⟨_, _, rfl, rfl, rfl, fun bs t =>
    (settled_task_changed_by_reports_only sampleConsumer timedOut _ rfl).1
      "00000000-0000-4000-8000-000000000001" _ bs t rfl (by decide)⟩

/-- A report after the timeout replaces status, reason and time; a status of its own is stored as it
is; one that says `pending` reopens the task. -/
theorem late_report_overwrites :
    ∃ s r, run (taskStep sampleConsumer) timedOut TaskWorld.init = some s ∧
      s.task "00000000-0000-4000-8000-000000000001" = some r ∧
      (r.status, r.failureReason, r.completedAt) = ("failure", some "timeout", some 11) ∧
      (∃ t r', taskStep sampleConsumer
          (.taskResult (sampleReport "late" "success" (by decide)) true true) s = some t ∧
        t.task "00000000-0000-4000-8000-000000000001" = some r' ∧
        (r'.status, r'.failureReason, r'.completedAt) = ("success", none, some 1)) ∧
      (∃ t r', taskStep sampleConsumer
          (.taskResult (sampleReport "late" "cancelled" (by decide)) true true) s = some t ∧
        t.task "00000000-0000-4000-8000-000000000001" = some r' ∧ r'.status = "cancelled") ∧
      (∃ t r', taskStep sampleConsumer
          (.taskResult (sampleReport "late" "pending" (by decide)) true true) s = some t ∧
        t.task "00000000-0000-4000-8000-000000000001" = some r' ∧ r'.status = "pending") :=
  ⟨_, _, rfl, rfl, rfl, ⟨_, _, rfl, rfl, rfl⟩, ⟨_, _, rfl, rfl, rfl⟩, ⟨_, _, rfl, rfl, rfl⟩⟩

end AssessmentEngine
