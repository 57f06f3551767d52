import AssessmentEngine.Jobs.EnqueueReport
import AssessmentEngine.Jobs.Finality

/-!
# The child reports of a report on several servers

`build_report_result_for_job` on a selection of N servers first generates the child summaries, then
emits one finished single-server report for each, and links their ids from its own result.  The
emissions are calls of `emit_report` by one client among all the others, so the loop is a program
over the steps of `World`: what it reads of the database is a parameter, what it does to the job
table is not.

`emit_report` answers a conflict on the active index with whatever job the lookup finds, and the
loop links that one, or nothing.  Where no other client has committed an active job for a child, the
links are complete and final; a run with such jobs shows both ways of missing them.
-/

namespace AssessmentEngine

open Table Runs

variable {h : Hashing} {Raw Detail Summary : Type}

/-! ## The function -/

/-- What the query service answers to one call of `build_report_result_for_job`. -/
structure ReportSources (Raw Detail Summary : Type) where
  /-- `resolve_server_ids`. -/
  sidMap : String → Option ℕ
  /-- The rows of `_assemble_report_raws` and `get_servers` by server id. -/
  raws : ℕ → Option Raw
  details : ℕ → Option Detail
  /-- `get_single_server_report` with its prefetched rows. -/
  singleServerReport : String → Raw → Detail → Option Summary
  selectionReport : List String → Option Summary
  /-- `build_report_result` of the child's snapshot, with its signals as `aux`. -/
  childResult : String → Summary → JsonObject

/-- The requested servers that are registered. -/
def ReportSources.valid (q : ReportSources Raw Detail Summary) (ids : List String) : List String :=
  ids.filter fun pid => (q.sidMap pid).isSome

/-- The report of one child, where all its rows were found. -/
def ReportSources.childReport (q : ReportSources Raw Detail Summary) (pid : String) :
    Option Summary := do
  let sid ← q.sidMap pid
  let raw ← q.raws sid
  let detail ← q.details sid
  q.singleServerReport pid raw detail

/-- `build_child_prefetched_reports`. -/
def ReportSources.buildChildPrefetchedReports (q : ReportSources Raw Detail Summary)
    (serverPublicIds : List String) : List (String × Option Summary) :=
  if (serverPublicIds.filterMap q.sidMap).isEmpty then serverPublicIds.map fun pid => (pid, none)
  else serverPublicIds.map fun pid => (pid, q.childReport pid)

/-- The results to emit, in order; a child without a summary is passed over. -/
def ReportSources.childResults (q : ReportSources Raw Detail Summary) (ids : List String) :
    List (String × JsonObject) :=
  (q.buildChildPrefetchedReports (q.valid ids)).filterMap fun child =>
    child.2.map fun summary => (child.1, q.childResult child.1 summary)

/-- The arguments of `emit_report` for a child of the job with these `input_params`. -/
def childRequest (p : InputParams) (pid : String) : ReportRequest where
  view := p.view
  scope := "server"
  serverPublicIds := [pid]
  timeRange := p.timeRange
  anchorAt := p.anchorAt
  requestedBy := none

/-- The dict `child_jobs`. -/
abbrev ChildJobs := String → Option ℕ

/-- Where the function stands: `todo` are the children it has not emitted yet. -/
inductive FanOutPhase
  | waiting
  | emitting (todo : List (String × JsonObject)) (childJobs : ChildJobs)
  | awaiting (pid : String) (result : JsonObject) (todo : List (String × JsonObject))
      (childJobs : ChildJobs)
  | returned (childJobs : ChildJobs)
  | raised

/-- The job table with one call of `build_report_result_for_job` at work on it. -/
structure FanOut where
  world : World
  phase : FanOutPhase

def FanOut.init : FanOut where
  world := World.init
  phase := .waiting

inductive FanOutAction
  | other (a : Action)
  | start
  | emit
  | statement (a : Action)
  | record
  | finish
  | fail

/-- One step, where client `c` makes the calls of `emit_report` for a job with `input_params` `p`
and scope `server`. -/
def stepFanOut (h : Hashing) (c : ℕ) (q : ReportSources Raw Detail Summary) (p : InputParams) :
    FanOutAction → FanOut → Option FanOut
  | .other a, s =>
    if a.client = some c then none else (step h a s.world).map fun w => { s with world := w }
  | .start, s =>
    match s.phase with
    | .waiting =>
      -- no valid server is an error, and one is reported without children
      if 2 ≤ (q.valid p.serverPublicIds).length then
        some { s with phase := .emitting (q.childResults p.serverPublicIds) fun _ => none }
      else none
    | _ => none
  | .emit, s =>
    match s.phase with
    | .emitting ((pid, result) :: todo) childJobs =>
      (step h (.call c (.emitReport result) (childRequest p pid)) s.world).map fun w =>
        ⟨w, .awaiting pid result todo childJobs⟩
    | _ => none
  | .statement a, s =>
    match s.phase with
    | .awaiting _ _ _ _ =>
      if a.statement c then (step h a s.world).map fun w => { s with world := w } else none
    | _ => none
  | .record, s =>
    match s.phase, s.world.clients c with
    | .awaiting pid _ todo childJobs, .returned _ cid =>
      let childJobs' := match cid with
        | some id => Function.update childJobs pid (some id)
        | none => childJobs
      some { s with phase := .emitting todo childJobs' }
    | _, _ => none
  | .finish, s =>
    match s.phase with
    | .emitting [] childJobs =>
      let phase := match q.selectionReport (q.valid p.serverPublicIds) with
        | some _ => FanOutPhase.returned childJobs
        | none => .raised
      some { s with phase := phase }
    | _ => none
  -- an exception of the database or of the query service, or the end of the process
  | .fail, s =>
    match s.phase with
    | .returned _ => none
    | _ => some ⟨stepAbandon c s.world, .raised⟩

variable {c : ℕ} {q : ReportSources Raw Detail Summary} {p : InputParams}

/-! ## Jobs out of the workers' reach -/

/-- What a worker has in hand is in the table. -/
def WorkersKnow (s : World) : Prop :=
  ∀ w id claimedAt, (s.workers w).processing = some (id, claimedAt) → id ∈ s.rows.map JobRow.id

/-- A worker comes to a job by claiming it. -/
lemma step_processing {a : Action} {s t : World} (hstep : step h a s = some t)
    {w id claimedAt : ℕ} (hproc : (t.workers w).processing = some (id, claimedAt)) :
    (s.workers w).processing = some (id, claimedAt) ∨
      ∃ r ∈ s.rows, r.id = id ∧ r.status = .pending := by
  have hsame : t.workers = s.workers → (s.workers w).processing = some (id, claimedAt) := by
    intro hworkers
    rwa [hworkers] at hproc
  have hidle : ∀ w' state outcome f, state.processing = none →
      t.workers = ((s.transact outcome f).setWorker w' state).workers →
      (s.workers w).processing = some (id, claimedAt) := by
    intro w' state outcome f hstate hworkers
    rw [hworkers, World.transact_setWorker] at hproc
    exact (processing_setWorker hstate hproc).2
  have hstays : ∀ w' state outcome f, (s.workers w').processing = state.processing →
      t.workers = ((s.transact outcome f).setWorker w' state).workers →
      (s.workers w).processing = some (id, claimedAt) := by
    intro w' state outcome f hstate hworkers
    rw [hworkers, World.transact_setWorker] at hproc
    exact processing_setWorker_same hstate hproc
  cases a with
  | tick elapsed =>
    cases hstep
    exact Or.inl (hsame rfl)
  | call c kind req =>
    simp only [step] at hstep
    split at hstep <;> cases hstep <;> exact Or.inl (hsame rfl)
  | insert c id' =>
    obtain ⟨call, attempt, _, rfl | ⟨_, _, rfl⟩⟩ := stepInsert_eq_some hstep <;>
      exact Or.inl (hsame rfl)
  | commit c =>
    obtain ⟨call, id', _, rfl⟩ := stepCommit_eq_some hstep
    exact Or.inl (hsame rfl)
  | select c =>
    obtain ⟨call, attempt, _, rfl⟩ := stepSelect_eq_some hstep
    exact Or.inl (hsame rfl)
  | rollback c =>
    obtain ⟨call, attempt, active, _, ⟨rfl, _⟩ | ⟨_, rfl⟩ | rfl⟩ := stepRollback_eq_some hstep <;>
      exact Or.inl (hsame rfl)
  | abandon c =>
    cases hstep
    exact Or.inl (hsame rfl)
  | startWorker w' =>
    simp only [step] at hstep
    split_ifs at hstep
    cases hstep
    exact Or.inl (processing_setWorker rfl hproc).2
  | recoverStale w' staleSeconds outcome =>
    obtain ⟨_, rfl⟩ := stepRecover_eq_some hstep
    exact Or.inl (hidle w' .idle outcome _ rfl rfl)
  | claimPending w' locked outcome =>
    obtain ⟨_, rfl | ⟨r, hmem, hpending, rfl⟩⟩ := stepClaim_eq_some hstep
    · exact Or.inl (hsame rfl)
    · by_cases hw : w = w'
      · subst hw
        rw [World.setWorker_self] at hproc
        split_ifs at hproc
        · cases hproc
        · cases hproc
          exact Or.inr ⟨r, hmem, rfl, hpending⟩
      · rw [World.setWorker_other _ _ _ hw, World.transact_workers] at hproc
        exact Or.inl hproc
  | finishSucceeded w' result outcome =>
    obtain ⟨id', claimedAt', hworker, rfl⟩ := stepSucceed_eq_some hstep
    have hproc' : (s.workers w').processing = some (id', claimedAt') :=
      congrArg WorkerState.processing hworker
    by_cases hraises : outcome.raises = true
    · rw [if_pos hraises] at hproc hstays
      exact Or.inl (hstays w' (.failing id' claimedAt' _) outcome _ hproc' rfl)
    · rw [if_neg hraises] at hproc hidle
      exact Or.inl (hidle w' .idle outcome _ rfl rfl)
  | generationFails w' errorMessage =>
    obtain ⟨id', claimedAt', hworker, rfl⟩ := stepGenerationFails_eq_some hstep
    have hproc' : (s.workers w').processing = some (id', claimedAt') :=
      congrArg WorkerState.processing hworker
    exact Or.inl (processing_setWorker_same hproc' hproc)
  | finishFailed w' outcome =>
    obtain ⟨id', claimedAt', errorMessage, hworker, rfl⟩ := stepFail_eq_some hstep
    exact Or.inl (hidle w' .idle outcome _ rfl rfl)
  | stopWorker w' =>
    cases hstep
    exact Or.inl (processing_setWorker rfl hproc).2

/-- No step deletes a row. -/
lemma ids_move {s t : World} (hmove : TableMove s t) {id : ℕ} (hid : id ∈ s.rows.map JobRow.id) :
    id ∈ t.rows.map JobRow.id := by
  cases hmove with
  | quiet hrows | insert _ _ _ _ hrows | undo _ hrows => rwa [hrows]
  | commit c id' kind hrows =>
    rw [hrows, World.closeInsert, List.map_append]
    exact List.mem_append_left _ hid
  | recover staleSeconds hrows =>
    rwa [hrows, recoverStaleRunning, map_updateWhere JobRow.requeue_id]
  | claim r _ _ hrows => rwa [hrows, map_updateWhere (JobRow.start_id s.now)]
  | succeed _ _ _ result _ hrows =>
    rwa [hrows, markSucceeded, map_updateWhere (JobRow.succeed_id s.now result)]
  | fail _ _ _ errorMessage _ hrows =>
    rwa [hrows, markFailed, map_updateWhere (JobRow.fail_id s.now errorMessage)]

lemma WorkersKnow.step {a : Action} {s t : World} (hknow : WorkersKnow s)
    (hstep : step h a s = some t) : WorkersKnow t := by
  intro w id claimedAt hproc
  have hid : id ∈ s.rows.map JobRow.id := by
    rcases step_processing hstep hproc with hold | ⟨r, hr, rfl, _⟩
    · exact hknow w id claimedAt hold
    · exact List.mem_map.mpr ⟨r, hr, rfl⟩
  exact ids_move (step_tableMove hstep) hid

/-- The job is finished with this result, and no worker has it in hand. -/
def Settled (s : World) (id : ℕ) (result : JsonObject) : Prop :=
  (∃ r, s.job id = some r ∧ r.status = .succeeded ∧ r.result = some result) ∧
    ∀ w claimedAt, (s.workers w).processing ≠ some (id, claimedAt)

/-- Nothing that anybody does changes a settled job. -/
lemma Settled.step {a : Action} {s t : World} {id : ℕ} {result : JsonObject} (htable : TableInv s)
    (hsettled : Settled s id result) (hstep : step h a s = some t) : Settled t id result := by
  obtain ⟨⟨r, hjob, hstatus, hresult⟩, hfree⟩ := hsettled
  refine ⟨⟨r, ?_, hstatus, hresult⟩, fun w claimedAt hproc => ?_⟩
  · exact job_move_of_free htable (step_tableMove hstep) hfree hjob hstatus
  · rcases step_processing hstep hproc with hold | ⟨r', hr', rfl, hpending⟩
    · exact hfree w claimedAt hold
    · -- the row claimed would be the succeeded one
      have hfound : s.job r'.id = some r' := findId_of_mem htable.ids_rows hr'
      rw [hjob, Option.some_inj] at hfound
      rw [← hfound, hstatus] at hpending
      cases hpending

/-! ## One emission -/

/-- The child whose emission is under way. -/
def FanOutPhase.awaited : FanOutPhase → Option String
  | .awaiting pid _ _ _ => some pid
  | _ => none

def FanOutAction.inserts : FanOutAction → Bool
  | .statement (.insert _ _) => true
  | _ => false

/-- No active job in the table has the key of a child when its insertion runs.  An insertion that
meets an open one is no step before that is over. -/
def Uncontended (h : Hashing) (p : InputParams) (a : FanOutAction) (s : FanOut) : Prop :=
  a.inserts = true → ∀ pid ∈ s.phase.awaited, ∀ r ∈ s.world.rows, r.active = true →
    r.key ≠ ((childRequest p pid).create h).key

instance (a : FanOutAction) (s : FanOut) : Decidable (Uncontended h p a s) :=
  inferInstanceAs (Decidable (_ → _))

/-- Where client `c` can stand in the emission of a child, when its insertion meets no conflict. -/
def EmitInv (h : Hashing) (c : ℕ) (p : InputParams) (pid : String) (result : JsonObject)
    (s : World) : Prop :=
  match s.clients c with
  | .attempting call _ => call = ⟨.emitReport result, (childRequest p pid).create h⟩
  | .inserted call id => call.kind = .emitReport result ∧ ∃ r, (c, r) ∈ s.uncommitted ∧ r.id = id
  | .returned _ cid => ∃ id, cid = some id ∧ Settled s id result
  | _ => False

lemma EmitInv.other {pid : String} {result : JsonObject} {a : Action} {s t : World}
    (htable : TableInv s) (hinv : EmitInv h c p pid result s) (hclient : a.client ≠ some c)
    (hstep : step h a s = some t) : EmitInv h c p pid result t := by
  obtain ⟨hsame, hopen⟩ := step_other hstep hclient
  unfold EmitInv at hinv ⊢
  rw [hsame]
  cases hstate : s.clients c with
  | attempting call attempt =>
    rw [hstate] at hinv
    exact hinv
  | inserted call id =>
    rw [hstate] at hinv
    obtain ⟨hkind, r, hr, hid⟩ := hinv
    exact ⟨hkind, r, hopen r hr, hid⟩
  | returned call cid =>
    rw [hstate] at hinv
    obtain ⟨id, hcid, hsettled⟩ := hinv
    exact ⟨id, hcid, hsettled.step htable hstep⟩
  | idle | conflicted | selected | raised =>
    rw [hstate] at hinv
    exact hinv

/-- Where no active job has the key, an insertion that does not wait goes through. -/
lemma stepInsert_of_free {c id attempt : ℕ} {call : Call} {s t : World}
    (hstep : stepInsert c id s = some t) (hclient : s.clients c = .attempting call attempt)
    (hfree : ∀ r ∈ s.rows, r.active = true → r.key ≠ call.job.key) :
    t.clients c = .inserted call id ∧ (c, newJob s.now id call.job) ∈ t.uncommitted := by
  have henqueue : enqueue s.now id call.job s.rows = some (newJob s.now id call.job) := by
    refine if_neg fun hany => ?_
    obtain ⟨r, hr, hclash⟩ := List.any_eq_true.mp hany
    rw [Bool.and_eq_true, decide_eq_true_eq] at hclash
    exact hfree r hr hclash.1 hclash.2
  simp only [stepInsert, hclient, henqueue] at hstep
  split_ifs at hstep
  cases hstep
  exact ⟨World.setClient_self s c _, List.mem_append_right _ (List.mem_singleton_self _)⟩

/-- What `emit_report` commits is settled: no worker can have known the id. -/
lemma settled_commit {call : Call} {id : ℕ} {result : JsonObject} {s t : World}
    (htable : TableInv s) (hknow : WorkersKnow s) (htable' : TableInv t)
    (hkind : call.kind = .emitReport result) {r : JobRow} (hr : (c, r) ∈ s.uncommitted)
    (hid : r.id = id)
    (ht : t = (s.closeInsert c (call.kind.mark s.now id)).setClient c (.returned call (some id))) :
    Settled t id result := by
  have hnew : id ∉ s.rows.map JobRow.id := hid ▸ (tableInv_iff.mp htable).ids_disjoint hr
  have hmem : r.succeed s.now result ∈ t.rows := by
    rw [ht, hkind, World.setClient_rows, World.closeInsert, CallKind.mark]
    refine List.mem_append_right _ (List.mem_map.mpr ⟨r, ?_, ?_⟩)
    · exact List.mem_map.mpr ⟨(c, r), List.mem_filter.mpr ⟨hr, by simp⟩, rfl⟩
    · exact if_pos (decide_eq_true hid)
  have hjob : t.job id = some (r.succeed s.now result) := by
    have hfound := findId_of_mem htable'.ids_rows hmem
    rwa [JobRow.succeed_id, hid] at hfound
  refine ⟨⟨_, hjob, rfl, rfl⟩, fun w claimedAt hproc => hnew ?_⟩
  rw [ht] at hproc
  exact hknow w id claimedAt hproc

/-- A statement of the emission keeps its invariant, if its insertion meets no conflict. -/
lemma EmitInv.statement {pid : String} {result : JsonObject} {a : Action} {s t : World}
    (htable : TableInv s) (hknow : WorkersKnow s) (hinv : EmitInv h c p pid result s)
    (hstmt : a.statement c = true) (hstep : step h a s = some t)
    (hfree : ∀ c' id, a = .insert c' id →
      ∀ r ∈ s.rows, r.active = true → r.key ≠ ((childRequest p pid).create h).key) :
    EmitInv h c p pid result t := by
  have htable' : TableInv t := tableInv_move htable (step_tableMove hstep)
  cases a with
  | insert c' id =>
    obtain rfl : c' = c := of_decide_eq_true hstmt
    have hfree' := hfree c' id rfl
    cases hclient : s.clients c' with
    | attempting call attempt =>
      unfold EmitInv at hinv
      rw [hclient] at hinv
      have hcall : call = ⟨.emitReport result, (childRequest p pid).create h⟩ := hinv
      obtain ⟨hinserted, hmem⟩ := stepInsert_of_free hstep hclient (hcall ▸ hfree')
      unfold EmitInv
      rw [hinserted]
      exact ⟨by rw [hcall], _, hmem, rfl⟩
    | idle | inserted | conflicted | selected | returned | raised =>
      simp only [step, stepInsert, hclient] at hstep
      cases hstep
  | commit c' =>
    obtain rfl : c' = c := of_decide_eq_true hstmt
    obtain ⟨call, id, hclient, ht⟩ := stepCommit_eq_some hstep
    unfold EmitInv at hinv
    rw [hclient] at hinv
    obtain ⟨hkind, r, hr, hid⟩ := hinv
    have hsettled : Settled t id result := settled_commit htable hknow htable' hkind hr hid ht
    have hreturned : t.clients c' = .returned call (some id) := by
      rw [ht, World.setClient_self]
    unfold EmitInv
    rw [hreturned]
    exact ⟨id, rfl, hsettled⟩
  | select c' =>
    obtain rfl : c' = c := of_decide_eq_true hstmt
    obtain ⟨call, attempt, hclient, _⟩ := stepSelect_eq_some hstep
    unfold EmitInv at hinv
    rw [hclient] at hinv
    exact hinv.elim
  | rollback c' =>
    obtain rfl : c' = c := of_decide_eq_true hstmt
    obtain ⟨call, attempt, active, hclient, _⟩ := stepRollback_eq_some hstep
    unfold EmitInv at hinv
    rw [hclient] at hinv
    exact hinv.elim
  | tick | call | abandon | startWorker | recoverStale | claimPending | finishSucceeded
  | generationFails | finishFailed | stopWorker => cases hstmt

/-! ## The loop -/

/-- The links to the children emitted so far: to finished jobs with their results, one for each. -/
structure Links (s : World) (done : List (String × JsonObject)) (childJobs : ChildJobs) : Prop where
  settled : ∀ pid id, childJobs pid = some id → ∃ result, (pid, result) ∈ done ∧ Settled s id result
  complete : ∀ pid result, (pid, result) ∈ done → (childJobs pid).isSome = true

lemma Links.nil (s : World) : Links s [] fun _ => none where
  settled _ _ hid := by cases hid
  complete _ _ hmem := by cases hmem

lemma Links.step {done : List (String × JsonObject)} {childJobs : ChildJobs} {a : Action}
    {s t : World} (htable : TableInv s) (hlinks : Links s done childJobs)
    (hstep : step h a s = some t) : Links t done childJobs where
  settled pid id hid := by
    obtain ⟨result, hmem, hsettled⟩ := hlinks.settled pid id hid
    exact ⟨result, hmem, hsettled.step htable hstep⟩
  complete := hlinks.complete

/-- The next child is linked. -/
lemma Links.record {done : List (String × JsonObject)} {childJobs : ChildJobs} {s : World}
    (hlinks : Links s done childJobs) {pid : String} {result : JsonObject} {id : ℕ}
    (hsettled : Settled s id result) :
    Links s (done ++ [(pid, result)]) (Function.update childJobs pid (some id)) where
  settled pid' id' hid := by
    by_cases hpid : pid' = pid
    · subst hpid
      rw [Function.update_self, Option.some_inj] at hid
      exact ⟨result, by simp, hid ▸ hsettled⟩
    · rw [Function.update_of_ne hpid] at hid
      obtain ⟨result', hmem, hold⟩ := hlinks.settled pid' id' hid
      exact ⟨result', List.mem_append_left _ hmem, hold⟩
  complete pid' result' hmem := by
    by_cases hpid : pid' = pid
    · rw [hpid, Function.update_self]
      rfl
    · rw [Function.update_of_ne hpid]
      have hold : (pid', result') ∈ done := by simpa [hpid] using hmem
      exact hlinks.complete pid' result' hold

/-- The links that the phase holds cover what it has emitted. -/
def PhaseInv (h : Hashing) (c : ℕ) (q : ReportSources Raw Detail Summary) (p : InputParams)
    (s : FanOut) : Prop :=
  match s.phase with
  | .waiting | .raised => True
  | .emitting todo childJobs =>
    ∃ done, done ++ todo = q.childResults p.serverPublicIds ∧ Links s.world done childJobs
  | .awaiting pid result todo childJobs =>
    (∃ done, done ++ (pid, result) :: todo = q.childResults p.serverPublicIds ∧
      Links s.world done childJobs) ∧ EmitInv h c p pid result s.world
  | .returned childJobs => Links s.world (q.childResults p.serverPublicIds) childJobs

structure FanOutInv (h : Hashing) (c : ℕ) (q : ReportSources Raw Detail Summary) (p : InputParams)
    (s : FanOut) : Prop where
  table : TableInv s.world
  know : WorkersKnow s.world
  phase : PhaseInv h c q p s

lemma fanOutInv_init : FanOutInv h c q p FanOut.init where
  table := tableInv_init
  know _ _ _ hproc := by cases hproc
  phase := trivial

/-- A step of the world leaves the invariant to the phase. -/
lemma FanOutInv.world {s : FanOut} (hinv : FanOutInv h c q p s) {a : Action} {t : World}
    (hstep : step h a s.world = some t) {phase : FanOutPhase}
    (hphase : PhaseInv h c q p ⟨t, phase⟩) : FanOutInv h c q p ⟨t, phase⟩ where
  table := tableInv_move hinv.table (step_tableMove hstep)
  know := hinv.know.step hstep
  phase := hphase

/-- What another client or a worker does. -/
lemma PhaseInv.other {s : FanOut} (hinv : FanOutInv h c q p s) {a : Action} {t : World}
    (hclient : a.client ≠ some c) (hstep : step h a s.world = some t) :
    PhaseInv h c q p { s with world := t } := by
  have hphase := hinv.phase
  unfold PhaseInv at hphase ⊢
  cases hs : s.phase with
  | waiting | raised => trivial
  | emitting todo childJobs =>
    rw [hs] at hphase
    obtain ⟨done, hdone, hlinks⟩ := hphase
    exact ⟨done, hdone, hlinks.step hinv.table hstep⟩
  | awaiting pid result todo childJobs =>
    rw [hs] at hphase
    obtain ⟨⟨done, hdone, hlinks⟩, hemit⟩ := hphase
    exact ⟨⟨done, hdone, hlinks.step hinv.table hstep⟩, hemit.other hinv.table hclient hstep⟩
  | returned childJobs =>
    rw [hs] at hphase
    exact Links.step hinv.table hphase hstep

/-- Every step keeps the invariant, as long as no insertion of a child meets a conflict. -/
lemma fanOutInv_step {a : FanOutAction} {s t : FanOut} (hfree : Uncontended h p a s)
    (hinv : FanOutInv h c q p s) (hstep : stepFanOut h c q p a s = some t) :
    FanOutInv h c q p t := by
  cases a with
  | other a =>
    simp only [stepFanOut] at hstep
    split_ifs at hstep with hclient
    obtain ⟨w, hw, rfl⟩ := Option.map_eq_some_iff.mp hstep
    exact hinv.world hw (PhaseInv.other hinv hclient hw)
  | start =>
    simp only [stepFanOut] at hstep
    split at hstep
    case h_2 => cases hstep
    case h_1 =>
      split_ifs at hstep
      cases hstep
      exact ⟨hinv.table, hinv.know, [], rfl, Links.nil _⟩
  | emit =>
    simp only [stepFanOut] at hstep
    split at hstep
    case h_2 => cases hstep
    case h_1 pid result todo childJobs hs =>
      obtain ⟨w, hw, rfl⟩ := Option.map_eq_some_iff.mp hstep
      have hphase := hinv.phase
      unfold PhaseInv at hphase
      rw [hs] at hphase
      obtain ⟨done, hdone, hlinks⟩ := hphase
      refine hinv.world hw ⟨⟨done, hdone, hlinks.step hinv.table hw⟩, ?_⟩
      have hstart : w.clients c =
          .attempting ⟨.emitReport result, (childRequest p pid).create h⟩ 1 := by
        simp only [step] at hw
        split at hw <;> cases hw <;> exact World.setClient_self _ _ _
      unfold EmitInv
      rw [hstart]
  | statement a =>
    simp only [stepFanOut] at hstep
    split at hstep
    case h_2 => cases hstep
    case h_1 pid result todo childJobs hs =>
      split_ifs at hstep with hstmt
      obtain ⟨w, hw, rfl⟩ := Option.map_eq_some_iff.mp hstep
      have hphase := hinv.phase
      unfold PhaseInv at hphase
      rw [hs] at hphase
      obtain ⟨⟨done, hdone, hlinks⟩, hemit⟩ := hphase
      have hemit' : EmitInv h c p pid result w := by
        refine hemit.statement hinv.table hinv.know hstmt hw ?_
        rintro c' id rfl
        exact hfree rfl pid (by rw [hs]; rfl)
      refine hinv.world hw ?_
      unfold PhaseInv
      rw [hs]
      exact ⟨⟨done, hdone, hlinks.step hinv.table hw⟩, hemit'⟩
  | record =>
    simp only [stepFanOut] at hstep
    split at hstep
    case h_2 => cases hstep
    case h_1 pid result todo childJobs call cid hs hclient =>
      cases hstep
      have hphase := hinv.phase
      unfold PhaseInv at hphase
      rw [hs] at hphase
      obtain ⟨⟨done, hdone, hlinks⟩, hemit⟩ := hphase
      unfold EmitInv at hemit
      rw [hclient] at hemit
      obtain ⟨id, rfl, hsettled⟩ := hemit
      refine ⟨hinv.table, hinv.know, done ++ [(pid, result)], ?_, hlinks.record hsettled⟩
      rw [List.append_assoc, ← hdone]
      rfl
  | finish =>
    simp only [stepFanOut] at hstep
    split at hstep
    case h_2 => cases hstep
    case h_1 childJobs hs =>
      cases hstep
      have hphase := hinv.phase
      unfold PhaseInv at hphase
      rw [hs] at hphase
      obtain ⟨done, hdone, hlinks⟩ := hphase
      rw [List.append_nil] at hdone
      refine ⟨hinv.table, hinv.know, ?_⟩
      unfold PhaseInv
      cases q.selectionReport (q.valid p.serverPublicIds) with
      | none => trivial
      | some selection => exact hdone ▸ hlinks
  | fail =>
    simp only [stepFanOut] at hstep
    split at hstep
    case h_1 => cases hstep
    case h_2 =>
      cases hstep
      have habandon : step h (.abandon c) s.world = some (stepAbandon c s.world) := rfl
      exact hinv.world habandon trivial

/-! ## A report on two servers -/

/-- The canonical text of a child request of `pairParams`. -/
def pairText (pid : String) : String :=
  "\x7b\"anchor_at\":\"2026-01-01T00:00:00+00:00\",\"server_public_id\":\"" ++ pid ++
    "\",\"server_public_ids\":[\"" ++ pid ++ "\"],\"time_range\":\"7d\",\"view\":\"customer\"\x7d"

def pairHashing : Hashing where
  dumps p := pairText (p.serverPublicId.getD "")
  sha256Hex text :=
    if text = "server|" ++ pairText "a" then
      "d0818e7376462919072364d96a62682299b6e8978287772a3a77f6c7b8214efa"
    else "3a58fe8be0c7ebc448a6bd36962ad04c39b9a9764a937daf33e92d9417f93d06"

def pairParams : InputParams where
  view := "customer"
  serverPublicIds := ["a", "b"]
  timeRange := "7d"
  anchorAt := "2026-01-01T00:00:00+00:00"
  serverPublicId := none

/-- Both servers are registered and have rows; a report is told by its server. -/
def pairSources : ReportSources Unit Unit String where
  sidMap pid := if pid = "a" then some 1 else if pid = "b" then some 2 else none
  raws _ := some ()
  details _ := some ()
  singleServerReport pid _ _ := some pid
  selectionReport ids := some (String.intercalate " " ids)
  childResult _ summary := summary

/-- The function emits both children while another client has a job of its own. -/
def pairRun : List FanOutAction :=
  [.other (.call 1 .enqueueReport environmentRequest), .other (.insert 1 7), .other (.commit 1),
   .start,
   .emit, .statement (.insert 0 8), .statement (.commit 0), .record,
   .emit, .statement (.insert 0 9), .statement (.commit 0), .record,
   .finish]

/-- Before the function starts, other clients have enqueued the reports of both servers, that of "b"
first.  A worker comes to it and finishes it between the insertion for "b" and its lookup. -/
def contendedRun : List FanOutAction :=
  [.other (.call 1 .enqueueReport (childRequest pairParams "b")), .other (.insert 1 6),
   .other (.commit 1),
   .other (.tick 1),
   .other (.call 2 .enqueueReport (childRequest pairParams "a")), .other (.insert 2 7),
   .other (.commit 2),
   .other (.startWorker 0), .other (.recoverStale 0 600 .committed),
   .start,
   .emit, .statement (.insert 0 8), .statement (.select 0), .statement (.rollback 0), .record,
   .emit, .statement (.insert 0 8),
   .other (.claimPending 0 [] .committed), .other (.finishSucceeded 0 "b" .committed),
   .statement (.select 0), .statement (.rollback 0), .record,
   .finish]

/-- The job of another client for "a" is joined as well, but a worker finishes it with the same
result before the function returns. -/
def joinedInTime : List FanOutAction :=
  [.other (.call 1 .enqueueReport (childRequest pairParams "a")), .other (.insert 1 7),
   .other (.commit 1), .other (.startWorker 0), .other (.recoverStale 0 600 .committed),
   .start,
   .emit, .statement (.insert 0 8), .statement (.select 0), .statement (.rollback 0), .record,
   .other (.claimPending 0 [] .committed), .other (.finishSucceeded 0 "a" .committed),
   .emit, .statement (.insert 0 8), .statement (.commit 0), .record,
   .finish]

/-! ## The contract -/

/-- The job is finished and keeps this result. -/
def SucceededWith (s : World) (id : ℕ) (result : JsonObject) : Prop :=
  ∃ r, s.job id = some r ∧ r.status = .succeeded ∧ r.result = some result

/-- Every link leads to a finished job with the result generated for the child, and every result
that was generated is linked. -/
def LinksFinishedChildren (q : ReportSources Raw Detail Summary) (p : InputParams) (s : FanOut) :
    Prop :=
  match s.phase with
  | .returned childJobs =>
    (∀ pid id, childJobs pid = some id →
      ∃ result, (pid, result) ∈ q.childResults p.serverPublicIds ∧
        SucceededWith s.world id result) ∧
    ∀ pid result, (pid, result) ∈ q.childResults p.serverPublicIds →
      ∃ id, childJobs pid = some id ∧ SucceededWith s.world id result
  | _ => True

/-- The result of a child comes from its own report. -/
lemma mem_childResults {ids : List String} {pid : String} {result : JsonObject}
    (hmem : (pid, result) ∈ q.childResults ids) :
    (q.childReport pid).map (q.childResult pid) = some result := by
  obtain ⟨⟨pid', report⟩, hchild, hresult⟩ := List.mem_filterMap.mp hmem
  obtain ⟨summary, hsummary, hpair⟩ := Option.map_eq_some_iff.mp hresult
  obtain ⟨rfl, rfl⟩ := Prod.ext_iff.mp hpair
  obtain rfl : report = some summary := hsummary
  unfold ReportSources.buildChildPrefetchedReports at hchild
  split_ifs at hchild
  · obtain ⟨pid'', _, heq⟩ := List.mem_map.mp hchild
    cases heq
  · obtain ⟨pid'', _, heq⟩ := List.mem_map.mp hchild
    obtain ⟨rfl, hreport⟩ := Prod.ext_iff.mp heq
    rw [show q.childReport pid'' = some summary from hreport]
    rfl

/-- When no insertion of a child meets an active job of another client with its key, the result that
`build_report_result_for_job` returns links exactly the children it generated, each by a finished
job with its snapshot, and so it stays whatever the other clients and the workers do. -/
theorem child_jobs_finished (c : ℕ) (q : ReportSources Raw Detail Summary) (p : InputParams)
    (as : List FanOutAction) (s : FanOut)
    (hrun : run (stepFanOut h c q p) as FanOut.init = some s)
    (hfree : Meets (stepFanOut h c q p) (Uncontended h p) as FanOut.init) :
    LinksFinishedChildren q p s := by
  have hinv : FanOutInv h c q p s :=
    run_invariant_of_meets (fun _ _ _ hC hI hstep => fanOutInv_step hC hI hstep) hfree hrun
      fanOutInv_init
  have hphase := hinv.phase
  unfold PhaseInv at hphase
  unfold LinksFinishedChildren
  cases hs : s.phase with
  | waiting | emitting | awaiting | raised => trivial
  | returned childJobs =>
    rw [hs] at hphase
    refine ⟨fun pid id hid => ?_, fun pid result hmem => ?_⟩
    · obtain ⟨result, hmem, hsettled⟩ := hphase.settled pid id hid
      exact ⟨result, hmem, hsettled.1⟩
    · obtain ⟨id, hid⟩ := Option.isSome_iff_exists.mp (hphase.complete pid result hmem)
      obtain ⟨result', hmem', hsettled⟩ := hphase.settled pid id hid
      have hsame : some result' = some result :=
        (mem_childResults hmem').symm.trans (mem_childResults hmem)
      exact ⟨id, hid, Option.some_inj.mp hsame ▸ hsettled.1⟩

/-- The links of `pairRun` are complete. -/
theorem child_jobs_finished_pairRun :
    ∃ s, run (stepFanOut pairHashing 0 pairSources pairParams) pairRun FanOut.init = some s ∧
      LinksFinishedChildren pairSources pairParams s :=
  ⟨_, rfl, child_jobs_finished 0 pairSources pairParams pairRun _ rfl (of_decide_eq_true rfl)⟩

/-- A link to a job that is not finished breaks the contract. -/
lemma not_linksFinishedChildren {s : FanOut} {childJobs : ChildJobs} (pid : String) (id : ℕ)
    {r : JobRow} (hphase : s.phase = .returned childJobs) (hid : childJobs pid = some id)
    (hjob : s.world.job id = some r) (hstatus : r.status ≠ .succeeded) :
    ¬ LinksFinishedChildren q p s := by
  unfold LinksFinishedChildren
  rw [hphase]
  rintro ⟨hsettled, _⟩
  obtain ⟨result, _, r', hjob', hstatus', _⟩ := hsettled pid id hid
  rw [hjob, Option.some_inj] at hjob'
  exact hstatus (hjob' ▸ hstatus')

set_option maxRecDepth 2000 in
/-- In `contendedRun` the report of "a" is linked by a pending job, and that of "b" by none. -/
theorem child_jobs_joins_pending :
    ∃ s childJobs,
      run (stepFanOut pairHashing 0 pairSources pairParams) contendedRun FanOut.init = some s ∧
      s.phase = .returned childJobs ∧ childJobs "a" = some 7 ∧
      s.world.job 7 = some (newJob 1 7 ((childRequest pairParams "a").create pairHashing)) ∧
      ("b", "b") ∈ pairSources.childResults pairParams.serverPublicIds ∧ childJobs "b" = none ∧
      ¬ LinksFinishedChildren pairSources pairParams s := by
  have hpending : (newJob 1 7 ((childRequest pairParams "a").create pairHashing)).status ≠
      .succeeded := nofun
  refine ⟨_, _, rfl, rfl, rfl, rfl, by decide +kernel, rfl, ?_⟩
  exact not_linksFinishedChildren "a" 7 rfl rfl rfl hpending

set_option maxRecDepth 2000 in
/-- A contended insertion need not break the contract. -/
example : ∃ s childJobs,
    run (stepFanOut pairHashing 0 pairSources pairParams) joinedInTime FanOut.init = some s ∧
      s.phase = .returned childJobs ∧ childJobs "a" = some 7 ∧ SucceededWith s.world 7 "a" ∧
      childJobs "b" = some 8 ∧ SucceededWith s.world 8 "b" :=
  ⟨_, _, rfl, rfl, rfl, ⟨_, rfl, rfl, rfl⟩, rfl, ⟨_, rfl, rfl, rfl⟩⟩

end AssessmentEngine
