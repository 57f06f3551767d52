import AssessmentEngine.Library.Transactions
import AssessmentEngine.Jobs.World
import AssessmentEngine.Tasks.Install

/-!
# Install tasks under concurrent emitters

`create_install_tasks` statement by statement, run by any number of web processes on one table and
one broker.  For each target the loop inserts the task, declares the queue of the machine, publishes
and only then commits, so that a row nobody has been told of is never seen by others.  A process may
die between any two statements, every statement may fail, and a publication or a commit may take
effect without its caller learning so.

As for the report jobs, `tasks` is the committed table and `uncommitted` holds the insertions still
open, which only the unique index sees.
-/

namespace AssessmentEngine

open Table Runs

/-! ## States -/

/-- The arguments of a call with the environment of its process; the targets are paired with the
ids of `sid_map`. -/
structure EmitCall where
  env : InstallEnv
  zdmIp : String
  zdmUser : String
  targets : List (String × ℕ)

/-- The variables of the loop; `rest` are the targets it has not come to. -/
structure Emission where
  call : EmitCall
  job : InstallJob
  startedAt : ℤ
  rest : List (String × ℕ)
  created : List TaskCreated

/-- The target whose transaction is open. -/
structure OpenTask where
  publicId : String
  plan : PlannedInstall
  taskId : String

/-- Where a web process stands in its call. -/
inductive EmitterState
  | idle
  | resolved (call : EmitCall)
  | detailed (call : EmitCall) (details : List ServerDetail)
  | prechecked (call : EmitCall) (details : List ServerDetail) (startedAt : ℤ)
  | looping (e : Emission)
  | inserted (e : Emission) (o : OpenTask)
  | declared (e : Emission) (o : OpenTask)
  | published (e : Emission) (o : OpenTask)
  | failing (error : InstallError)
  | returned (created : List TaskCreated)
  | raised (error : InstallError)

structure EmissionWorld where
  now : ℤ
  servers : ServerTable
  tasks : List Task
  uncommitted : List (ℕ × Task)
  /-- The messages that the broker has accepted, whatever became of them since. -/
  accepted : List InstallMessage
  emitters : ℕ → EmitterState

/-- No task yet, and nobody at work. -/
def EmissionWorld.init (servers : ServerTable) : EmissionWorld where
  now := 0
  servers := servers
  tasks := []
  uncommitted := []
  accepted := []
  emitters := fun _ => .idle

/-- The rows that the unique index covers. -/
def EmissionWorld.index (s : EmissionWorld) : List Task :=
  s.tasks ++ s.uncommitted.map Prod.snd

/-! ## Steps -/

/-- How `exchange.publish` ends.  It returns only after the broker has accepted the message; an
`AMQPError` or a timeout leaves open whether it has. -/
inductive Delivery
  | confirmed
  | refused
  | unconfirmed
  deriving DecidableEq, Repr

def Delivery.accepted : Delivery → Bool
  | .refused => false
  | _ => true

inductive EmitAction
  | tick (elapsed : ℕ)
  | changeServers (servers : ServerTable)
  | expireAllOverdueTasks
  | completeTask (data : TaskResultUpdate)
  | call (c : ℕ) (env : InstallEnv) (targetPublicIds : List String) (zdmIp zdmUser : String)
  | getServers (c : ℕ)
  | precheck (c : ℕ)
  | plan (c : ℕ)
  | insert (c : ℕ) (taskId : String)
  | ensureMachineQueue (c : ℕ) (ok : Bool)
  | publish (c : ℕ) (delivery : Delivery)
  | commit (c : ℕ) (outcome : Outcome)
  | rollback (c : ℕ)
  | finish (c : ℕ)
  | crash (c : ℕ)

def EmissionWorld.setEmitter (s : EmissionWorld) (c : ℕ) (state : EmitterState) : EmissionWorld :=
  { s with emitters := Function.update s.emitters c state }

@[simp] lemma EmissionWorld.setEmitter_self (s : EmissionWorld) (c : ℕ) (state : EmitterState) :
    (s.setEmitter c state).emitters c = state := by
  simp [EmissionWorld.setEmitter]

lemma EmissionWorld.setEmitter_other (s : EmissionWorld) {c c' : ℕ} (state : EmitterState)
    (h : c' ≠ c) : (s.setEmitter c state).emitters c' = s.emitters c' := by
  simp [EmissionWorld.setEmitter, Function.update_of_ne h]

/-- The end of the transaction of client `c`: its rows are committed or undone. -/
def EmissionWorld.endTransaction (s : EmissionWorld) (c : ℕ) (keep : Bool) : EmissionWorld :=
  { s with
    tasks := if keep then s.tasks ++ openBy c s.uncommitted else s.tasks
    uncommitted := openOthers c s.uncommitted }

/-- `resolve_server_ids`; a target it does not know ends the call. -/
def stepCall (c : ℕ) (env : InstallEnv) (targetPublicIds : List String) (zdmIp zdmUser : String)
    (s : EmissionWorld) : Option EmissionWorld :=
  match s.emitters c with
  | .idle | .returned _ | .raised _ =>
    if targetPublicIds.any fun publicId => (s.servers.lookup publicId).isNone then
      some (s.setEmitter c (.raised .targetNotFound))
    else
      let targets := targetPublicIds.filterMap fun publicId =>
        (s.servers.lookup publicId).map fun serverId => (publicId, serverId)
      some (s.setEmitter c (.resolved ⟨env, zdmIp, zdmUser, targets⟩))
  | _ => none

/-- `get_servers`. -/
def stepGetServers (c : ℕ) (s : EmissionWorld) : Option EmissionWorld :=
  match s.emitters c with
  | .resolved call =>
    let details := s.servers.rows.filter fun d => decide (d.id ∈ call.targets.map Prod.snd)
    some (s.setEmitter c (.detailed call details))
  | _ => none

/-- The transaction that expires overdue tasks and looks for tasks in progress. -/
def stepPrecheck (c : ℕ) (s : EmissionWorld) : Option EmissionWorld :=
  match s.emitters c with
  | .detailed call details =>
    let serverIds := call.targets.map Prod.snd
    let tasks := expireOverdueTasks s.now serverIds s.tasks
    let busyIds := findPendingDeadlineServers serverIds tasks
    let state :=
      if busyIds ≠ [] then
        EmitterState.raised (.busy (((details.filter fun d => decide (d.id ∈ busyIds)).map
          ServerDetail.hostname).insertionSort (· ≤ ·)))
      else .prechecked call details s.now
    some ({ s with tasks := tasks }.setEmitter c state)
  | _ => none

/-- The pass over the servers, which asks the resolver. -/
def stepPlan (c : ℕ) (s : EmissionWorld) : Option EmissionWorld :=
  match s.emitters c with
  | .prechecked call details startedAt =>
    match planServers call.env (extractZdmHost call.zdmIp) details [] with
    | .error error => some (s.setEmitter c (.raised error))
    | .ok plan =>
      let job : InstallJob := ⟨call.zdmIp, call.zdmUser, plan⟩
      some (s.setEmitter c (.looping ⟨call, job, startedAt, call.targets, []⟩))
  | _ => none

/-- `create_task` for the next target.  Ids come from `gen_random_uuid()`, so a used one is no
step. -/
def stepCreateTask (c : ℕ) (taskId : String) (s : EmissionWorld) : Option EmissionWorld :=
  match s.emitters c with
  | .looping e =>
    match e.rest with
    | [] => none
    | (publicId, serverId) :: _ =>
      match e.job.find serverId with
      | none => some (s.setEmitter c (.raised .detailMissing))
      | some p =>
        let data := e.job.create e.call.env e.startedAt p
        if s.index.any fun r => decide (r.publicId = taskId) then none
        else match createTask s.now taskId data s.index with
          | none => some (s.setEmitter c (.failing (.conflict p.detail.hostname)))
          | some _ =>
            some { s.setEmitter c (.inserted e ⟨publicId, p, taskId⟩) with
                   uncommitted := s.uncommitted ++ [(c, newTask s.now taskId data)] }
  | _ => none

/-- `_ensure_machine_queue`. -/
def stepEnsureMachineQueue (c : ℕ) (ok : Bool) (s : EmissionWorld) : Option EmissionWorld :=
  match s.emitters c with
  | .inserted e o =>
    let state :=
      if ok then EmitterState.declared e o else .failing (.publishFailed o.plan.detail.hostname)
    some (s.setEmitter c state)
  | _ => none

/-- `_publish_install`. -/
def stepPublish (c : ℕ) (delivery : Delivery) (s : EmissionWorld) : Option EmissionWorld :=
  match s.emitters c with
  | .declared e o =>
    let sent :=
      if delivery.accepted then [e.job.message e.call.env s.now o.taskId o.plan] else []
    let state :=
      if delivery = .confirmed then EmitterState.published e o
      else .failing (.publishFailed o.plan.detail.hostname)
    some { s.setEmitter c state with accepted := s.accepted ++ sent }
  | _ => none

/-- The commit; when it raises, the exception leaves the call. -/
def stepCommitTask (c : ℕ) (outcome : Outcome) (s : EmissionWorld) : Option EmissionWorld :=
  match s.emitters c with
  | .published e o =>
    let created : TaskCreated :=
      ⟨o.publicId, o.taskId, e.call.env.online.all (· o.plan.detail.id)⟩
    let state :=
      if outcome.raises then EmitterState.idle
      else .looping { e with rest := e.rest.tail, created := e.created ++ [created] }
    some ((s.endTransaction c outcome.persists).setEmitter c state)
  | _ => none

/-- An exception ends the session, and with it the transaction. -/
def stepRollbackTask (c : ℕ) (s : EmissionWorld) : Option EmissionWorld :=
  match s.emitters c with
  | .failing error => some ((s.endTransaction c false).setEmitter c (.raised error))
  | _ => none

/-- The call returns after the last target. -/
def stepFinish (c : ℕ) (s : EmissionWorld) : Option EmissionWorld :=
  match s.emitters c with
  | .looping e => if e.rest = [] then some (s.setEmitter c (.returned e.created)) else none
  | _ => none

/-- One step.  A report that would break the partial index with an open insertion is refused. -/
def emissionStep : EmitAction → EmissionWorld → Option EmissionWorld
  | .tick elapsed, s => some { s with now := s.now + elapsed }
  | .changeServers servers, s => some { s with servers := servers }
  | .expireAllOverdueTasks, s => some { s with tasks := expireAllOverdueTasks s.now s.tasks }
  | .completeTask data, s =>
    match completeTask data s.tasks with
    | none => none
    | some tasks =>
      if UniquePending (tasks ++ s.uncommitted.map Prod.snd) then some { s with tasks := tasks }
      else none
  | .call c env targetPublicIds zdmIp zdmUser, s => stepCall c env targetPublicIds zdmIp zdmUser s
  | .getServers c, s => stepGetServers c s
  | .precheck c, s => stepPrecheck c s
  | .plan c, s => stepPlan c s
  | .insert c taskId, s => stepCreateTask c taskId s
  | .ensureMachineQueue c ok, s => stepEnsureMachineQueue c ok s
  | .publish c delivery, s => stepPublish c delivery s
  | .commit c outcome, s => stepCommitTask c outcome s
  | .rollback c, s => stepRollbackTask c s
  | .finish c, s => stepFinish c s
  -- the process dies, or a statement raises a database error
  | .crash c, s => some ((s.endTransaction c false).setEmitter c .idle)

/-! ## What a row has to show -/

/-- The broker has accepted the install message of the task. -/
def Announced (accepted : List InstallMessage) (r : Task) : Prop :=
  ∃ m ∈ accepted, m.messageType = "task.install" ∧ m.taskId = r.publicId ∧
    m.agentId = r.targetAgentId

instance (accepted : List InstallMessage) (r : Task) : Decidable (Announced accepted r) :=
  inferInstanceAs (Decidable (∃ m ∈ accepted, _))

/-- How an open row and the state of its emitter fit together. -/
def OpenRow (accepted : List InstallMessage) (r : Task) : EmitterState → Prop
  | .inserted _ o | .declared _ o =>
    r.publicId = o.taskId ∧ r.targetAgentId = o.plan.detail.agentId
  | .published _ _ => Announced accepted r
  | .failing _ => True
  | _ => False

lemma Announced.mono {accepted accepted' : List InstallMessage} {r : Task}
    (h : Announced accepted r) (hsub : accepted ⊆ accepted') : Announced accepted' r := by
  obtain ⟨m, hm, hmessage⟩ := h
  exact ⟨m, hsub hm, hmessage⟩

lemma OpenRow.mono {accepted accepted' : List InstallMessage} {r : Task} {state : EmitterState}
    (h : OpenRow accepted r state) (hsub : accepted ⊆ accepted') : OpenRow accepted' r state := by
  cases state with
  | published e o => exact Announced.mono h hsub
  | idle | resolved | detailed | prechecked | looping | returned | raised => exact h.elim
  | inserted | declared | failing => exact h

/-- The invariant: the primary key and the partial index are kept, what is committed is announced,
and what is open is on its way there. -/
structure EmissionInv (s : EmissionWorld) : Prop where
  kept : Kept Task.publicId Task.pending Task.slot s.tasks s.uncommitted
  announced : ∀ r ∈ s.tasks, Announced s.accepted r
  opened : ∀ c r, (c, r) ∈ s.uncommitted → OpenRow s.accepted r (s.emitters c)

lemma emissionInv_init (servers : ServerTable) : EmissionInv (EmissionWorld.init servers) where
  kept := Kept.nil
  announced _ hr := nomatch hr
  opened _ _ hr := nomatch hr

/-! ## What one step can do -/

/-- How rows, messages and emitters move in one step. -/
inductive EmissionMove (s t : EmissionWorld) : Prop
  | quiet (htasks : t.tasks = s.tasks) (hopen : t.uncommitted = s.uncommitted)
      (haccepted : s.accepted ⊆ t.accepted)
      (hemitters : ∀ c r, OpenRow s.accepted r (s.emitters c) →
        OpenRow t.accepted r (t.emitters c))
  | rewrite (p : Task → Bool) (f : Task → Task)
      (hid : ∀ r, (f r).publicId = r.publicId)
      (hagent : ∀ r, (f r).targetAgentId = r.targetAgentId)
      (hunique : UniquePending (s.tasks ++ s.uncommitted.map Prod.snd) →
        UniquePending (updateWhere p f s.tasks ++ s.uncommitted.map Prod.snd))
      (htasks : t.tasks = updateWhere p f s.tasks) (hopen : t.uncommitted = s.uncommitted)
      (haccepted : t.accepted = s.accepted)
      (hemitters : ∀ c r, OpenRow s.accepted r (s.emitters c) →
        OpenRow s.accepted r (t.emitters c))
  | insert (c : ℕ) (r : Task) (hid : ∀ a ∈ s.index, a.publicId ≠ r.publicId)
      (hslot : ∀ a ∈ s.index, a.pending = true → a.slot ≠ r.slot)
      (htasks : t.tasks = s.tasks) (hopen : t.uncommitted = s.uncommitted ++ [(c, r)])
      (haccepted : t.accepted = s.accepted)
      (hclosed : ∀ a, ¬ OpenRow s.accepted a (s.emitters c))
      (hrow : OpenRow s.accepted r (t.emitters c))
      (hothers : ∀ c', c' ≠ c → t.emitters c' = s.emitters c')
  | close (c : ℕ) (keep : Bool)
      (hkeep : keep = true → ∀ a, OpenRow s.accepted a (s.emitters c) → Announced s.accepted a)
      (htasks : t.tasks = if keep then s.tasks ++ openBy c s.uncommitted else s.tasks)
      (hopen : t.uncommitted = openOthers c s.uncommitted)
      (haccepted : t.accepted = s.accepted)
      (hothers : ∀ c', c' ≠ c → t.emitters c' = s.emitters c')

/-- A client moves between states that say the same of its open rows, or in the second of which
there can be none but was none in the first. -/
lemma setEmitter_openRow {s : EmissionWorld} {c : ℕ} {state : EmitterState}
    (hstate : ∀ r, OpenRow s.accepted r (s.emitters c) → OpenRow s.accepted r state)
    (c' : ℕ) (r : Task) (h : OpenRow s.accepted r (s.emitters c')) :
    OpenRow s.accepted r ((s.setEmitter c state).emitters c') := by
  by_cases hc : c' = c
  · subst hc
    rw [EmissionWorld.setEmitter_self]
    exact hstate r h
  · rwa [EmissionWorld.setEmitter_other _ _ hc]

/-- A step that only moves a client. -/
lemma EmissionMove.client {s : EmissionWorld} {c : ℕ} {state : EmitterState}
    (hstate : ∀ r, OpenRow s.accepted r (s.emitters c) → OpenRow s.accepted r state) :
    EmissionMove s (s.setEmitter c state) :=
  .quiet rfl rfl (List.Subset.refl _) (setEmitter_openRow hstate)

/-- Expiry of overdue rows frees slots and takes none. -/
lemma EmissionMove.expire {s t : EmissionWorld} {p : Task → Bool}
    (htasks : t.tasks = updateWhere p (Task.expire s.now) s.tasks)
    (hopen : t.uncommitted = s.uncommitted) (haccepted : t.accepted = s.accepted)
    (hemitters : ∀ c r, OpenRow s.accepted r (s.emitters c) →
      OpenRow s.accepted r (t.emitters c)) : EmissionMove s t := by
  refine .rewrite p (Task.expire s.now) (fun _ => rfl) (fun _ => rfl) ?_ htasks hopen haccepted
    hemitters
  intro hunique
  have hswap : UniquePending (s.uncommitted.map Prod.snd ++ s.tasks) :=
    hunique.perm List.perm_append_comm
  have hact : ∀ r ∈ s.tasks, p r = true → (Task.expire s.now r).pending = true →
      r.pending = true := by
    intro r _ _ hpending
    rw [Task.expire_pending] at hpending
    cases hpending
  exact (hswap.append_updateWhere (f := Task.expire s.now) (fun _ => rfl) hact).perm
    List.perm_append_comm

/-- `resolve_server_ids` only moves its client, which has no open row before it. -/
lemma stepCall_move {s t : EmissionWorld} {c : ℕ} {env : InstallEnv}
    {targetPublicIds : List String} {zdmIp zdmUser : String}
    (hstep : stepCall c env targetPublicIds zdmIp zdmUser s = some t) : EmissionMove s t := by
  simp only [stepCall] at hstep
  split at hstep
  case h_4 => cases hstep
  all_goals
    rename_i hemitter
    have hclosed : ∀ r, ¬ OpenRow s.accepted r (s.emitters c) := by
      intro r h
      rw [hemitter] at h
      exact h
    split_ifs at hstep <;> cases hstep <;> exact .client fun r h => absurd h (hclosed r)

/-- The precheck expires tasks of the targets, if there is a target. -/
lemma stepPrecheck_move {s t : EmissionWorld} {c : ℕ} (hstep : stepPrecheck c s = some t) :
    EmissionMove s t := by
  simp only [stepPrecheck] at hstep
  split at hstep
  case h_2 => cases hstep
  case h_1 call details hemitter =>
    cases hstep
    have hclosed : ∀ r, ¬ OpenRow s.accepted r (s.emitters c) := by
      intro r h
      rw [hemitter] at h
      exact h
    by_cases hempty : call.targets.map Prod.snd = []
    · refine .quiet (if_pos hempty) rfl (List.Subset.refl _) ?_
      exact setEmitter_openRow fun r h => absurd h (hclosed r)
    · refine .expire (if_neg hempty) rfl rfl ?_
      exact setEmitter_openRow fun r h => absurd h (hclosed r)

/-- `create_task` opens one row, with an id and a slot that are free. -/
lemma stepCreateTask_move {s t : EmissionWorld} {c : ℕ} {taskId : String}
    (hstep : stepCreateTask c taskId s = some t) : EmissionMove s t := by
  simp only [stepCreateTask] at hstep
  split at hstep
  case h_2 => cases hstep
  case h_1 e hemitter =>
    have hclosed : ∀ r, ¬ OpenRow s.accepted r (s.emitters c) := by
      intro r h
      rw [hemitter] at h
      exact h
    split at hstep
    case h_1 => cases hstep
    case h_2 publicId serverId rest _ =>
      split at hstep
      case h_1 =>
        cases hstep
        exact .client fun r h => absurd h (hclosed r)
      case h_2 p _ =>
        split_ifs at hstep with hused
        split at hstep
        case h_1 =>
          cases hstep
          exact .client fun r h => absurd h (hclosed r)
        case h_2 tasks hcreate =>
          cases hstep
          have hfree := (createTask_eq_some hcreate).2
          refine .insert c (newTask s.now taskId (e.job.create e.call.env e.startedAt p)) ?_ hfree
            rfl rfl rfl hclosed ?_ ?_
          · intro a ha hid
            exact hused (List.any_eq_true.mpr ⟨a, ha, decide_eq_true hid⟩)
          · simp only [EmissionWorld.setEmitter_self]
            exact ⟨rfl, rfl⟩
          · exact fun c' hc => EmissionWorld.setEmitter_other _ _ hc

/-- `_publish_install` adds the message of the open row, if the broker has accepted it. -/
lemma stepPublish_move {s t : EmissionWorld} {c : ℕ} {delivery : Delivery}
    (hstep : stepPublish c delivery s = some t) : EmissionMove s t := by
  simp only [stepPublish] at hstep
  split at hstep
  case h_2 => cases hstep
  case h_1 e o hemitter =>
    cases hstep
    have hsub : s.accepted ⊆ s.accepted ++ if delivery.accepted then
        [e.job.message e.call.env s.now o.taskId o.plan] else [] :=
      List.subset_append_left _ _
    refine .quiet rfl rfl hsub fun c' r h => ?_
    by_cases hc : c' = c
    · subst hc
      rw [hemitter] at h
      obtain ⟨hid, hagent⟩ := h
      simp only [EmissionWorld.setEmitter_self]
      by_cases hdelivery : delivery = .confirmed
      · -- the message that the broker has just accepted is the row's own
        subst hdelivery
        exact ⟨_, List.mem_append_right _ (List.mem_singleton_self _), rfl, hid.symm, hagent.symm⟩
      · rw [if_neg hdelivery]
        trivial
    · rw [EmissionWorld.setEmitter_other _ _ hc]
      exact h.mono hsub

/-- Every step moves the state in one of these ways. -/
theorem emissionStep_move {a : EmitAction} {s t : EmissionWorld}
    (hstep : emissionStep a s = some t) : EmissionMove s t := by
  cases a with
  | tick elapsed =>
    cases hstep
    exact .quiet rfl rfl (List.Subset.refl _) fun _ _ h => h
  | changeServers servers =>
    cases hstep
    exact .quiet rfl rfl (List.Subset.refl _) fun _ _ h => h
  | expireAllOverdueTasks =>
    cases hstep
    exact .expire rfl rfl rfl fun _ _ h => h
  | completeTask data =>
    simp only [emissionStep] at hstep
    split at hstep
    case h_1 => cases hstep
    case h_2 tasks hcomplete =>
      split_ifs at hstep with hunique
      cases hstep
      have htasks := (completeTask_eq_some hcomplete).1
      exact .rewrite _ (Task.complete data) (fun _ => rfl) (fun _ => rfl)
        (fun _ => htasks ▸ hunique) htasks rfl rfl fun _ _ h => h
  | call c env targetPublicIds zdmIp zdmUser => exact stepCall_move hstep
  | getServers c =>
    simp only [emissionStep, stepGetServers] at hstep
    split at hstep
    case h_2 => cases hstep
    case h_1 call hemitter =>
      cases hstep
      exact .client fun r h => by rw [hemitter] at h; exact h
  | precheck c => exact stepPrecheck_move hstep
  | plan c =>
    simp only [emissionStep, stepPlan] at hstep
    split at hstep
    case h_2 => cases hstep
    case h_1 call details startedAt hemitter =>
      split at hstep <;> cases hstep <;>
        exact .client fun r h => by rw [hemitter] at h; exact h.elim
  | insert c taskId => exact stepCreateTask_move hstep
  | ensureMachineQueue c ok =>
    simp only [emissionStep, stepEnsureMachineQueue] at hstep
    split at hstep
    case h_2 => cases hstep
    case h_1 e o hemitter =>
      cases hstep
      refine .client fun r h => ?_
      rw [hemitter] at h
      cases ok with
      | true => exact h
      | false => trivial
  | publish c delivery => exact stepPublish_move hstep
  | commit c outcome =>
    simp only [emissionStep, stepCommitTask] at hstep
    split at hstep
    case h_2 => cases hstep
    case h_1 e o hemitter =>
      cases hstep
      refine .close c outcome.persists (fun _ r h => ?_) rfl rfl rfl fun c' hc =>
        EmissionWorld.setEmitter_other _ _ hc
      rw [hemitter] at h
      exact h
  | rollback c =>
    simp only [emissionStep, stepRollbackTask] at hstep
    split at hstep
    case h_2 => cases hstep
    case h_1 error hemitter =>
      cases hstep
      exact .close c false nofun rfl rfl rfl fun c' hc => EmissionWorld.setEmitter_other _ _ hc
  | finish c =>
    simp only [emissionStep, stepFinish] at hstep
    split at hstep
    case h_2 => cases hstep
    case h_1 e hemitter =>
      split_ifs at hstep
      cases hstep
      exact .client fun r h => by rw [hemitter] at h; exact h
  | crash c =>
    cases hstep
    exact .close c false nofun rfl rfl rfl fun c' hc => EmissionWorld.setEmitter_other _ _ hc

/-! ## The invariant over runs -/

/-- Every move keeps the invariant. -/
theorem emissionInv_move {s t : EmissionWorld} (hinv : EmissionInv s) (hmove : EmissionMove s t) :
    EmissionInv t := by
  cases hmove with
  | quiet htasks hopen haccepted hemitters =>
    refine ⟨?_, fun r hr => ?_, fun c r hr => hemitters c r ?_⟩
    · rw [htasks, hopen]
      exact hinv.kept
    · rw [htasks] at hr
      exact (hinv.announced r hr).mono haccepted
    · rw [hopen] at hr
      exact hinv.opened c r hr
  | rewrite p f hid hagent hunique htasks hopen haccepted hemitters =>
    refine ⟨?_, fun r hr => ?_, fun c r hr => ?_⟩
    · rw [htasks, hopen]
      exact hinv.kept.updateWhere_of_unique hid (hunique hinv.kept.unique)
    · rw [htasks] at hr
      obtain ⟨a, ha, rfl⟩ := List.mem_map.mp hr
      obtain ⟨m, hm, htype, htask, hmagent⟩ := hinv.announced a ha
      rw [haccepted]
      refine ⟨m, hm, htype, ?_, ?_⟩
      · rw [updateWhere_key hid, htask]
      · rw [updateWhere_key hagent, hmagent]
    · rw [hopen] at hr
      rw [haccepted]
      exact hemitters c r (hinv.opened c r hr)
  | insert c r hid hslot htasks hopen haccepted hclosed hrow hothers =>
    refine ⟨?_, fun a ha => ?_, fun c' a ha => ?_⟩
    · rw [htasks, hopen]
      exact hinv.kept.insert hid hslot
    · rw [htasks] at ha
      rw [haccepted]
      exact hinv.announced a ha
    · rw [haccepted]
      rw [hopen, List.mem_append, List.mem_singleton] at ha
      rcases ha with hold | hnew
      · have hopened : OpenRow s.accepted a (s.emitters c') := hinv.opened c' a hold
        have hc : c' ≠ c := by
          rintro rfl
          exact hclosed a hopened
        rwa [hothers c' hc]
      · cases hnew
        exact hrow
  | close c keep hkeep htasks hopen haccepted hothers =>
    refine ⟨?_, fun r hr => ?_, fun c' r hr => ?_⟩
    · rw [htasks, hopen]
      cases keep with
      | false => exact hinv.kept.undo c
      | true => exact hinv.kept.commit c (g := fun own => own) (fun _ => rfl) fun _ _ h => h
    · rw [haccepted]
      rw [htasks] at hr
      cases keep with
      | false => exact hinv.announced r hr
      | true =>
        rcases List.mem_append.mp hr with hold | hnew
        · exact hinv.announced r hold
        · exact hkeep rfl r (hinv.opened c r (mem_openBy.mp hnew))
    · rw [hopen, mem_openOthers] at hr
      rw [haccepted, hothers c' hr.2]
      exact hinv.opened c' r hr.1

/-- The invariant holds in every reachable state. -/
theorem emissionInv_run {as : List EmitAction} {servers : ServerTable} {s : EmissionWorld}
    (hrun : run emissionStep as (EmissionWorld.init servers) = some s) : EmissionInv s :=
  run_invariant (fun _ _ _ hinv hstep => emissionInv_move hinv (emissionStep_move hstep)) hrun
    (emissionInv_init servers)

/-- Wherever emitters have failed or died, every pending install task in the table has had a message
of its own accepted by the broker, and no server has two pending ones with a deadline. -/
theorem no_ghost_pending (as : List EmitAction) (servers : ServerTable) (s : EmissionWorld)
    (hrun : run emissionStep as (EmissionWorld.init servers) = some s) :
    (∀ r ∈ s.tasks, r.pending = true → r.taskType = taskTypeInstall → Announced s.accepted r) ∧
    (s.tasks.map Task.publicId).Nodup ∧
    ∀ serverId, (s.tasks.filter fun r =>
      r.pending && decide (r.slot = (serverId, taskTypeInstall)) &&
        r.deadlineAt.isSome).length ≤ 1 := by
  have hinv : EmissionInv s := emissionInv_run hrun
  refine ⟨fun r hr _ _ => hinv.announced r hr, hinv.kept.ids_rows, fun serverId => ?_⟩
  have hone := hinv.kept.unique_rows.length_filter_le_one (serverId, taskTypeInstall)
  refine le_trans (List.Sublist.length_le ?_) hone
  exact List.monotone_filter_right s.tasks fun r hr => (Bool.and_eq_true _ _ ▸ hr).1

/-! ## Two emitters for one host -/

def emissionServers : ServerTable where
  rows := [⟨1, "5f0c2a34-0000-4000-8000-000000000001", "5f0c2a34-0000-4000-8000-0000000000a1",
    "db-01", some "linux"⟩]
  ids := List.nodup_singleton _
  publicIds := List.nodup_singleton _

def emissionEnv : InstallEnv where
  settings := {}
  resolver := fun _ _ => .ok ("9f86d081884c7d65", 104857600)
  broker := fun _ => true
  taskId := fun _ => ""
  online := none

/-- A client comes to the loop for the host. -/
def emissionPasses (c : ℕ) : List EmitAction :=
  [.call c emissionEnv ["5f0c2a34-0000-4000-8000-000000000001"] "10.0.0.5" "admin",
   .getServers c, .precheck c, .plan c]

/-- Client 0 dies between publication and commit, client 1 is not told that it has committed. -/
def crashedRun : List EmitAction :=
  emissionPasses 0 ++ emissionPasses 1 ++
    [.insert 0 "task-0", .ensureMachineQueue 0 true, .publish 0 .confirmed, .crash 0,
     .insert 1 "task-1", .ensureMachineQueue 1 true, .publish 1 .confirmed,
     .commit 1 .unacknowledged]

/-- The message of client 0 has no task, the task of client 1 has its message. -/
theorem no_ghost_pending_crashedRun :
    ∃ s, run emissionStep crashedRun (EmissionWorld.init emissionServers) = some s ∧
      s.tasks.map Task.publicId = ["task-1"] ∧
      s.accepted.map InstallMessage.taskId = ["task-0", "task-1"] ∧
      ∀ r ∈ s.tasks, r.pending = true → r.taskType = taskTypeInstall → Announced s.accepted r :=
  ⟨_, rfl, rfl, rfl, (no_ghost_pending crashedRun emissionServers _ rfl).1⟩

end AssessmentEngine
