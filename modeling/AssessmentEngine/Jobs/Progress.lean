import AssessmentEngine.Jobs.Finality

/-!
# Jobs whose worker is gone

A worker that dies leaves its job running.  Recovery happens when a worker starts and at no other
time, so that until then the job stays as it is, whatever the other workers do, and a request for
the same report is led to it (`orphan_waits`).  One worker is enough that starts again when the jobs
left running are stale: left alone it finishes every job there is (`restart_drains`).
-/

namespace AssessmentEngine

open Table Runs

variable {h : Hashing}

/-! ## Until a worker starts -/

/-- The action is the recovery of a worker that starts. -/
def Action.recovers : Action → Bool
  | .recoverStale _ _ _ => true
  | _ => false

/-- The job is running, and no worker has it in hand. -/
structure Orphaned (s : World) (r : JobRow) : Prop where
  job : s.job r.id = some r
  running : r.status = .running
  free : ∀ w, ¬ Generates s w r.id

section Orphan

variable {s t : World} {r : JobRow}

/-- A worker that turns to another job, or to none, leaves it orphaned. -/
lemma Orphaned.setWorker (horphan : Orphaned s r) {w : ℕ} {state : WorkerState}
    (hrows : t.job r.id = s.job r.id) (hworkers : t.workers = (s.setWorker w state).workers)
    (hstate : ∀ id claimedAt, state.processing = some (id, claimedAt) →
      Generates s w id ∨ id ≠ r.id) : Orphaned t r := by
  refine ⟨hrows.trans horphan.job, horphan.running, fun w' => ?_⟩
  rintro ⟨claimedAt, hproc⟩
  rw [hworkers] at hproc
  by_cases hw : w' = w
  · subst hw
    rw [World.setWorker_self] at hproc
    rcases hstate _ _ hproc with hgen | hne
    · exact horphan.free w' hgen
    · exact hne rfl
  · rw [World.setWorker_other _ _ _ hw] at hproc
    exact horphan.free w' ⟨claimedAt, hproc⟩

/-- A transaction that does not write to the job. -/
lemma job_transact {outcome : Outcome} {p : JobRow → Bool} {f : JobRow → JobRow}
    (hid : ∀ a, (f a).id = a.id) (hjob : s.job r.id = some r) (hr : p r = false) :
    (s.transact outcome (updateWhere p f)).job r.id = s.job r.id := by
  rcases World.transact_rows s outcome (updateWhere p f) with hrows | ⟨-, hrows⟩
  · exact job_congr hrows _
  · exact (job_updateWhere hrows hid hjob hr).trans hjob.symm

/-- No step but a recovery touches a job that no worker has in hand. -/
theorem orphaned_step (htable : TableInv s) (horphan : Orphaned s r) {a : Action}
    (ha : a.recovers = false) (hstep : step h a s = some t) : Orphaned t r := by
  have hother : ∀ w id claimedAt, (s.workers w).processing = some (id, claimedAt) →
      decide (r.id = id) = false := by
    intro w id claimedAt hproc
    exact decide_eq_false fun hid => horphan.free w ⟨claimedAt, hid ▸ hproc⟩
  have hclient : ∀ u : World, u.workers = s.workers → u.job r.id = s.job r.id → Orphaned u r := by
    intro u hworkers hjob
    refine ⟨hjob.trans horphan.job, horphan.running, fun w => ?_⟩
    rintro ⟨claimedAt, hproc⟩
    rw [hworkers] at hproc
    exact horphan.free w ⟨claimedAt, hproc⟩
  cases a with
  | tick elapsed =>
    cases hstep
    exact hclient _ rfl rfl
  | call c kind req =>
    simp only [step] at hstep
    split at hstep <;> cases hstep <;> exact hclient _ rfl rfl
  | insert c id =>
    obtain ⟨call, attempt, _, rfl | ⟨_, _, rfl⟩⟩ := stepInsert_eq_some hstep <;>
      exact hclient _ rfl rfl
  | commit c =>
    obtain ⟨call, id, _, rfl⟩ := stepCommit_eq_some hstep
    exact hclient _ rfl ((findId_append_of_some horphan.job _).trans horphan.job.symm)
  | select c =>
    obtain ⟨call, attempt, _, rfl⟩ := stepSelect_eq_some hstep
    exact hclient _ rfl rfl
  | rollback c =>
    obtain ⟨call, attempt, active, _, ⟨rfl, _⟩ | ⟨_, rfl⟩ | rfl⟩ := stepRollback_eq_some hstep <;>
      exact hclient _ rfl rfl
  | abandon c =>
    cases hstep
    exact hclient _ rfl ((findId_append_of_some horphan.job _).trans horphan.job.symm)
  | startWorker w =>
    simp only [step] at hstep
    split_ifs at hstep
    cases hstep
    exact horphan.setWorker rfl rfl fun id claimedAt hproc => by cases hproc
  | recoverStale w staleSeconds outcome => cases ha
  | claimPending w locked outcome =>
    obtain ⟨_, rfl | ⟨a, hmem, hpending, rfl⟩⟩ := stepClaim_eq_some hstep
    · exact horphan
    · have hne : r.id ≠ a.id := by
        intro hid
        have hsame : r = a :=
          List.inj_on_of_nodup_map htable.ids_rows (findId_mem horphan.job) hmem hid
        rw [← hsame, horphan.running] at hpending
        cases hpending
      refine horphan.setWorker (job_transact (JobRow.start_id s.now) horphan.job
        (decide_eq_false hne)) (World.transact_setWorker _ _ _ _ _) fun id claimedAt hproc => ?_
      split_ifs at hproc
      · cases hproc
      · cases hproc
        exact Or.inr hne.symm
  | finishSucceeded w result outcome =>
    obtain ⟨id, claimedAt, hworker, rfl⟩ := stepSucceed_eq_some hstep
    have hproc : (s.workers w).processing = some (id, claimedAt) :=
      congrArg WorkerState.processing hworker
    refine horphan.setWorker (job_transact (JobRow.succeed_id s.now result) horphan.job
      (hother w id claimedAt hproc)) (World.transact_setWorker _ _ _ _ _) fun id' τ hstate => ?_
    split_ifs at hstate
    · cases hstate
      exact Or.inl ⟨_, hproc⟩
    · cases hstate
  | generationFails w errorMessage =>
    obtain ⟨id, claimedAt, hworker, rfl⟩ := stepGenerationFails_eq_some hstep
    refine horphan.setWorker rfl rfl fun id' τ hstate => Or.inl ⟨τ, ?_⟩
    rw [hworker]
    exact hstate
  | finishFailed w outcome =>
    obtain ⟨id, claimedAt, errorMessage, hworker, rfl⟩ := stepFail_eq_some hstep
    have hproc : (s.workers w).processing = some (id, claimedAt) :=
      congrArg WorkerState.processing hworker
    exact horphan.setWorker (job_transact (JobRow.fail_id s.now errorMessage) horphan.job
      (hother w id claimedAt hproc)) (World.transact_setWorker _ _ _ _ _)
      fun id' τ hstate => by cases hstate
  | stopWorker w =>
    cases hstep
    exact horphan.setWorker rfl rfl fun id claimedAt hproc => by cases hproc

/-- A job whose worker is gone stays running until some worker starts, and while it does, no request
for the same report gets a job of its own. -/
theorem orphan_waits (as : List Action) (s : World) (hrun : run (step h) as World.init = some s)
    (r : JobRow) (horphan : Orphaned s r) (bs : List Action) (t : World)
    (hbs : run (step h) bs s = some t) (hno : ∀ b ∈ bs, b.recovers = false) :
    Orphaned t r ∧ ∀ now id job, job.key = r.key → enqueue now id job t.index = none := by
  have hboth : TableInv t ∧ Orphaned t r := by
    refine run_history (J := fun _ u => TableInv u ∧ Orphaned u r) ⟨tableInv_run hrun, horphan⟩ ?_
      hbs
    rintro cs b u v hpre - ⟨htable, hu⟩ hstep
    have hb : b ∈ bs := hpre.subset (List.mem_append_right _ (List.mem_singleton_self b))
    exact ⟨tableInv_move htable (step_tableMove hstep),
      orphaned_step htable hu (hno b hb) hstep⟩
  refine ⟨hboth.2, fun now id job hkey => if_pos (List.any_eq_true.mpr ⟨r, ?_, ?_⟩)⟩
  · exact List.mem_append_left _ (findId_mem hboth.2.job)
  · rw [JobRow.active_of_running hboth.2.running, hkey, decide_eq_true rfl]
    rfl

/-- Worker 0 is gone with job 7 in hand, worker 1 has been started before and looks for work. -/
def orphaningRun : List Action :=
  [.call 0 .enqueueReport environmentRequest, .insert 0 7, .commit 0,
   .startWorker 0, .recoverStale 0 600 .committed, .startWorker 1, .recoverStale 1 600 .committed,
   .claimPending 0 [] .committed, .stopWorker 0]

/-- Hours later worker 1 has still not found it, although it has looked. -/
theorem orphan_waits_orphaningRun :
    ∃ s t r, run (step environmentHashing) orphaningRun World.init = some s ∧ s.job 7 = some r ∧
      run (step environmentHashing) [.tick (seconds 10000), .claimPending 1 [] .committed] s =
        some t ∧ Orphaned t r := by
  have hfree : ∀ s, run (step environmentHashing) orphaningRun World.init = some s →
      ∀ w, ¬ Generates s w 7 := by
    intro s hs
    cases hs
    rintro (_ | _ | w) ⟨claimedAt, hproc⟩ <;> cases hproc
  refine ⟨_, _, _, rfl, rfl, rfl, ?_⟩
  exact (orphan_waits (h := environmentHashing) orphaningRun _ rfl _ ⟨rfl, rfl, hfree _ rfl⟩
    [.tick (seconds 10000), .claimPending 1 [] .committed] _ rfl (by decide)).1

end Orphan

/-! ## Running jobs have started -/

/-- Running jobs have started, and what is not committed is waiting. -/
structure Clocked (s : World) : Prop where
  started : ∀ r ∈ s.rows, r.status = .running → ∃ τ, r.startedAt = some τ ∧ τ ≤ s.now
  queued : ∀ e ∈ s.uncommitted, e.2.status = .pending

lemma clocked_init : Clocked World.init where
  started _ hr := nomatch hr
  queued _ he := nomatch he

section Clock

variable {s t : World}

lemma Clocked.setWorker (hs : Clocked s) (w : ℕ) (state : WorkerState) :
    Clocked (s.setWorker w state) := ⟨hs.started, hs.queued⟩

lemma Clocked.setClient (hs : Clocked s) (c : ℕ) (state : ClientState) :
    Clocked (s.setClient c state) := ⟨hs.started, hs.queued⟩

/-- A transaction that starts jobs at its own time only. -/
lemma Clocked.transact (hs : Clocked s) (outcome : Outcome) {p : JobRow → Bool}
    {f : JobRow → JobRow}
    (hf : ∀ r, (f r).status = .running → (f r).startedAt = some s.now) :
    Clocked (s.transact outcome (updateWhere p f)) := by
  unfold World.transact
  split_ifs
  · refine ⟨fun r hr hrunning => ?_, hs.queued⟩
    obtain ⟨a, ha, rfl⟩ := List.mem_map.mp hr
    by_cases hp : p a = true
    · rw [if_pos hp] at hrunning ⊢
      exact ⟨s.now, hf a hrunning, le_rfl⟩
    · rw [if_neg hp] at hrunning ⊢
      exact hs.started a ha hrunning
  · exact hs

/-- The end of an insertion, which leaves no job running. -/
lemma Clocked.closeInsert (hs : Clocked s) (c : ℕ) {f : List JobRow → List JobRow}
    (hf : ∀ rows, (∀ r ∈ rows, r.status = .pending) → ∀ r ∈ f rows, r.status ≠ .running) :
    Clocked (s.closeInsert c f) := by
  constructor
  · intro r hr hrunning
    rcases List.mem_append.mp hr with hold | hnew
    · exact hs.started r hold hrunning
    · refine absurd hrunning (hf _ (fun a ha => ?_) r hnew)
      obtain ⟨e, he, rfl⟩ := List.mem_map.mp ha
      exact hs.queued e (List.mem_filter.mp he).1
  · exact fun e he => hs.queued e (List.mem_filter.mp he).1

lemma CallKind.mark_not_running (kind : CallKind) (now id : ℕ) (rows : List JobRow)
    (hrows : ∀ r ∈ rows, r.status = .pending) :
    ∀ r ∈ kind.mark now id rows, r.status ≠ .running := by
  cases kind with
  | enqueueReport =>
    intro r hr hrunning
    rw [hrows r hr] at hrunning
    cases hrunning
  | emitReport result =>
    intro r hr hrunning
    obtain ⟨a, ha, rfl⟩ := List.mem_map.mp hr
    split_ifs at hrunning
    · cases hrunning
    · rw [hrows a ha] at hrunning
      cases hrunning

lemma clocked_step {a : Action} (hs : Clocked s) (hstep : step h a s = some t) : Clocked t := by
  cases a with
  | tick elapsed =>
    cases hstep
    refine ⟨fun r hr hrunning => ?_, hs.queued⟩
    obtain ⟨τ, hτ, hle⟩ := hs.started r hr hrunning
    exact ⟨τ, hτ, hle.trans (Nat.le_add_right _ _)⟩
  | call c kind req =>
    simp only [step] at hstep
    split at hstep <;> cases hstep <;> exact hs.setClient _ _
  | insert c id =>
    obtain ⟨call, attempt, _, rfl | ⟨_, _, rfl⟩⟩ := stepInsert_eq_some hstep
    · exact hs.setClient _ _
    · refine ⟨hs.started, fun e he => ?_⟩
      rcases List.mem_append.mp he with hold | hnew
      · exact hs.queued e hold
      · rw [List.mem_singleton.mp hnew]
        rfl
  | commit c =>
    obtain ⟨call, id, _, rfl⟩ := stepCommit_eq_some hstep
    exact (hs.closeInsert c (CallKind.mark_not_running call.kind s.now id)).setClient _ _
  | select c =>
    obtain ⟨call, attempt, _, rfl⟩ := stepSelect_eq_some hstep
    exact hs.setClient _ _
  | rollback c =>
    obtain ⟨call, attempt, active, _, ⟨rfl, _⟩ | ⟨_, rfl⟩ | rfl⟩ := stepRollback_eq_some hstep <;>
      exact hs.setClient _ _
  | abandon c =>
    cases hstep
    exact (hs.closeInsert c fun _ _ _ hr => by cases hr).setClient _ _
  | startWorker w =>
    simp only [step] at hstep
    split_ifs at hstep
    cases hstep
    exact hs.setWorker _ _
  | recoverStale w staleSeconds outcome =>
    obtain ⟨_, rfl⟩ := stepRecover_eq_some hstep
    exact (hs.transact outcome fun _ hrunning => by cases hrunning).setWorker _ _
  | claimPending w locked outcome =>
    obtain ⟨_, rfl | ⟨r, hmem, hpending, rfl⟩⟩ := stepClaim_eq_some hstep
    · exact hs
    · exact (hs.transact outcome fun _ _ => rfl).setWorker _ _
  | finishSucceeded w result outcome =>
    obtain ⟨id, claimedAt, _, rfl⟩ := stepSucceed_eq_some hstep
    exact (hs.transact outcome fun _ hrunning => by cases hrunning).setWorker _ _
  | generationFails w errorMessage =>
    obtain ⟨id, claimedAt, _, rfl⟩ := stepGenerationFails_eq_some hstep
    exact hs.setWorker _ _
  | finishFailed w outcome =>
    obtain ⟨id, claimedAt, errorMessage, _, rfl⟩ := stepFail_eq_some hstep
    exact (hs.transact outcome fun _ hrunning => by cases hrunning).setWorker _ _
  | stopWorker w =>
    cases hstep
    exact hs.setWorker _ _

lemma clocked_run {as : List Action} (hrun : run (step h) as World.init = some s) : Clocked s :=
  run_invariant (fun _ _ _ hs hstep => clocked_step hs hstep) hrun clocked_init

end Clock

/-! ## From the start of a worker on -/

/-- A worker is started again after the time that makes a running job stale. -/
def restart (w staleSeconds : ℕ) : List Action :=
  [.stopWorker w, .tick (seconds staleSeconds + 1), .startWorker w,
    .recoverStale w staleSeconds .committed]

/-- `_process_one` for the next job. -/
def processOne (w : ℕ) (result : JsonObject) : List Action :=
  [.claimPending w [] .committed, .finishSucceeded w result .committed]

/-- What has become of a job when there is nothing left to do. -/
def Drained (r r' : JobRow) : Prop :=
  r'.key = r.key ∧ r'.inputParams = r.inputParams ∧
    if r.active then r'.status = .succeeded else r' = r

section Drain

variable {s t : World} {w : ℕ}

/-- A worker that comes back after any delay puts the stale jobs back. -/
lemma restartAfter_run (h : Hashing) (s : World) (w staleSeconds delay : ℕ) :
    ∃ t, run (step h) [.stopWorker w, .tick delay, .startWorker w,
        .recoverStale w staleSeconds .committed] s = some t ∧ t.workers w = .idle ∧
      t.rows = recoverStaleRunning (s.now + delay) staleSeconds s.rows := by
  set later : World := { s.setWorker w .off with now := s.now + delay }
  set u := later.setWorker w .starting with hu
  have hstart : step h (.startWorker w) later = some u :=
    if_pos (World.setWorker_self s w .off)
  have hrecover : stepRecover w staleSeconds .committed u =
      some ((u.transact .committed (recoverStaleRunning u.now staleSeconds)).setWorker w
        .idle) := by
    unfold stepRecover
    rw [hu, World.setWorker_self]
  exact ⟨_, run_cons_eq_some.mpr ⟨s.setWorker w .off, rfl, run_cons_eq_some.mpr ⟨later, rfl,
    run_cons_eq_some.mpr ⟨u, hstart, run_cons_eq_some.mpr ⟨_, hrecover, run_nil _⟩⟩⟩⟩,
    World.setWorker_self _ _ _, rfl⟩

lemma restart_run (h : Hashing) (s : World) (w staleSeconds : ℕ) :
    ∃ t, run (step h) (restart w staleSeconds) s = some t ∧ t.workers w = .idle ∧
      t.rows = recoverStaleRunning (s.now + (seconds staleSeconds + 1)) staleSeconds s.rows :=
  restartAfter_run h s w staleSeconds _

/-- After it no job is running, and those that were active are pending. -/
lemma recovered_row (hs : Clocked s) (staleSeconds : ℕ) {r : JobRow} (hr : r ∈ s.rows) :
    let r' := if r.stale (s.now + (seconds staleSeconds + 1)) staleSeconds then r.requeue else r
    r'.status ≠ .running ∧ (r'.status = .pending ↔ r.active = true) ∧
      (r.active = false → r' = r) := by
  by_cases hrunning : r.status = .running
  · obtain ⟨τ, hτ, hle⟩ := hs.started r hr hrunning
    have hlate : τ + seconds staleSeconds < s.now + (seconds staleSeconds + 1) := by omega
    have hstale : r.stale (s.now + (seconds staleSeconds + 1)) staleSeconds = true := by
      rw [JobRow.stale, hrunning, hτ, startedBefore, decide_eq_true hlate]
      rfl
    have hactive := JobRow.active_of_running hrunning
    simp [hstale, hactive, JobRow.requeue]
  · have hstale : r.stale (s.now + (seconds staleSeconds + 1)) staleSeconds = false := by
      rw [JobRow.stale, decide_eq_false hrunning, Bool.false_and]
    simp [hstale, hrunning, JobRow.active]

/-- A turn of an idle worker, on a table with a pending job, finishes this job. -/
lemma processOne_run (h : Hashing) (result : JsonObject) (hidle : s.workers w = .idle) {r : JobRow}
    (hnext : nextPending [] s.rows = some r) :
    ∃ t, run (step h) (processOne w result) s = some t ∧ t.workers w = .idle ∧
      t.rows = updateWhere (fun a => decide (a.id = r.id))
        (fun a => (a.start s.now).succeed s.now result) s.rows := by
  set u := (s.transact .committed (updateWhere (fun a => decide (a.id = r.id))
    (JobRow.start s.now))).setWorker w (.generating r.id s.now) with hu
  have hclaim : stepClaim w [] .committed s = some u := by
    unfold stepClaim
    rw [hidle]
    simp only [claimNextPending, hnext]
    rfl
  have hfinish : stepSucceed w result .committed u =
      some ((u.transact .committed (markSucceeded u.now r.id result)).setWorker w .idle) := by
    unfold stepSucceed
    rw [hu, World.setWorker_self]
    rfl
  refine ⟨_, run_cons_eq_some.mpr ⟨u, hclaim, run_cons_eq_some.mpr ⟨_, hfinish, run_nil _⟩⟩,
    World.setWorker_self _ _ _, ?_⟩
  change updateWhere _ (JobRow.succeed s.now result) (updateWhere _ _ s.rows) = _
  unfold updateWhere
  rw [List.map_map]
  refine List.map_congr_left fun a _ => ?_
  by_cases ha : a.id = r.id <;> simp [ha]

/-- As many turns as there are pending jobs finish them all. -/
lemma drain_run (h : Hashing) (results : List JsonObject) {s : World} (hidle : s.workers w = .idle)
    (hids : (s.rows.map JobRow.id).Nodup) (hnone : ∀ r ∈ s.rows, r.status ≠ .running)
    (hcount : (s.rows.countP fun r => decide (r.status = .pending)) = results.length) :
    ∃ t, run (step h) (results.flatMap (processOne w)) s = some t ∧
      t.rows.map JobRow.id = s.rows.map JobRow.id ∧
      ∀ id r, s.job id = some r → ∃ r', t.job id = some r' ∧ Drained r r' := by
  induction results generalizing s with
  | nil =>
    refine ⟨s, rfl, rfl, fun id r hjob => ⟨r, hjob, rfl, rfl, ?_⟩⟩
    have hr := findId_mem hjob
    have hpending : r.status ≠ .pending := by
      have h := List.countP_eq_zero.mp hcount r hr
      simpa using h
    have hactive : r.active = false := by
      rw [JobRow.active, decide_eq_false hpending, decide_eq_false (hnone r hr)]
      rfl
    rw [hactive]
    rfl
  | cons result results ih =>
    have hsome : ∃ r, nextPending [] s.rows = some r := by
      rw [← Option.isSome_iff_exists, Option.isSome_iff_ne_none]
      intro hnil
      have hempty := List.argmin_eq_none.mp hnil
      rw [List.countP_eq_length_filter] at hcount
      simp only [List.not_mem_nil, decide_false, Bool.not_false, Bool.and_true] at hempty
      rw [hempty] at hcount
      cases hcount
    obtain ⟨r, hnext⟩ := hsome
    obtain ⟨hr, hpending⟩ := nextPending_eq_some hnext
    obtain ⟨u, hu, huidle, hrows⟩ := processOne_run h result hidle hnext
    have hid : ∀ a : JobRow, ((a.start s.now).succeed s.now result).id = a.id := fun _ => rfl
    have hfound : findId JobRow.id r.id s.rows = some r := findId_of_mem hids hr
    have hleft : (u.rows.countP fun a => decide (a.status = .pending)) = results.length := by
      have hone := countP_updateWhere_key hids hfound
        (f := fun a => (a.start s.now).succeed s.now result)
        (fun a => decide (a.status = .pending))
      rw [← hrows, hcount] at hone
      simp [hpending, JobRow.succeed] at hone
      exact hone
    have hukeys : u.rows.map JobRow.id = s.rows.map JobRow.id := by
      rw [hrows]
      exact map_updateWhere hid _
    obtain ⟨t, ht, hids', hjobs⟩ := ih huidle (hukeys ▸ hids) (fun a ha => by
      rw [hrows] at ha
      obtain ⟨b, hb, rfl⟩ := List.mem_map.mp ha
      split_ifs
      · intro hrunning
        cases hrunning
      · exact hnone b hb) hleft
    refine ⟨t, run_append_eq_some.mpr ⟨u, hu, ht⟩, hids'.trans hukeys, fun id a hjob => ?_⟩
    have hujob : u.job id =
        some (if decide (a.id = r.id) then (a.start s.now).succeed s.now result else a) := by
      rw [World.job, hrows, findId_updateWhere hid, ← World.job, hjob]
      rfl
    by_cases ha : a.id = r.id
    · -- the job of this turn is done, and stays so
      have hsame : a = r := List.inj_on_of_nodup_map hids (findId_mem hjob) hr ha
      rw [if_pos (decide_eq_true ha)] at hujob
      obtain ⟨a', ha', hkey, hparams, hdone⟩ := hjobs id _ hujob
      refine ⟨a', ha', hkey, hparams, ?_⟩
      rw [JobRow.succeed_active, if_neg Bool.false_ne_true] at hdone
      rw [hsame, JobRow.active_of_pending hpending, if_pos rfl, hdone]
      rfl
    · rw [decide_eq_false ha, if_neg Bool.false_ne_true] at hujob
      exact hjobs id _ hujob

end Drain

/-- Whatever has happened, a worker that is started again after the running jobs have gone stale,
and is left alone, finishes every job that is waiting or was left behind, in as many turns as there
are such jobs, and no other. -/
theorem restart_drains (as : List Action) (s : World) (hrun : run (step h) as World.init = some s)
    (w staleSeconds : ℕ) (results : List JsonObject)
    (hcount : s.rows.countP JobRow.active = results.length) :
    ∃ t, run (step h) (restart w staleSeconds ++ results.flatMap (processOne w)) s = some t ∧
      t.rows.map JobRow.id = s.rows.map JobRow.id ∧
      ∀ id r, s.job id = some r → ∃ r', t.job id = some r' ∧ Drained r r' := by
  have hclock : Clocked s := clocked_run hrun
  obtain ⟨u, hu, hidle, hrows⟩ := restart_run h s w staleSeconds
  have hkeys : u.rows.map JobRow.id = s.rows.map JobRow.id := by
    rw [hrows]
    exact map_updateWhere JobRow.requeue_id _
  have hnone : ∀ r ∈ u.rows, r.status ≠ .running := by
    intro r hr
    rw [hrows] at hr
    obtain ⟨a, ha, rfl⟩ := List.mem_map.mp hr
    exact (recovered_row hclock staleSeconds ha).1
  have hpending : (u.rows.countP fun r => decide (r.status = .pending)) = results.length := by
    rw [← hcount, hrows, recoverStaleRunning, updateWhere, List.countP_map]
    refine List.countP_congr fun a ha => ?_
    rw [Function.comp_apply, decide_eq_true_eq]
    exact (recovered_row hclock staleSeconds ha).2.1
  obtain ⟨t, ht, hids, hjobs⟩ :=
    drain_run h results hidle (hkeys ▸ (tableInv_run hrun).ids_rows) hnone hpending
  refine ⟨t, run_append_eq_some.mpr ⟨u, hu, ht⟩, hids.trans hkeys, fun id r hjob => ?_⟩
  have hujob : u.job id = some
      (if r.stale (s.now + (seconds staleSeconds + 1)) staleSeconds then r.requeue else r) := by
    rw [World.job, hrows, recoverStaleRunning, findId_updateWhere JobRow.requeue_id, ← World.job,
      hjob]
    rfl
  obtain ⟨-, hactive, hsame⟩ := recovered_row hclock staleSeconds (findId_mem hjob)
  obtain ⟨r', hr', hkey, hparams, hdone⟩ := hjobs id _ hujob
  refine ⟨r', hr', ?_, ?_, ?_⟩
  · rw [hkey]
    split_ifs <;> rfl
  · rw [hparams]
    split_ifs <;> rfl
  · cases hr : r.active with
    | true =>
      rw [JobRow.active_of_pending (hactive.mpr hr)] at hdone
      exact hdone
    | false =>
      rw [hsame hr] at hdone
      rwa [hr] at hdone

/-- The job left behind, and how it ends when worker 0 comes back. -/
theorem restart_drains_orphaningRun :
    ∃ s t r r', run (step environmentHashing) orphaningRun World.init = some s ∧
      s.job 7 = some r ∧ r.status = .running ∧
      run (step environmentHashing) (restart 0 600 ++ processOne 0 "report") s = some t ∧
      t.job 7 = some r' ∧ r'.status = .succeeded := by
  obtain ⟨t, ht, -, hjobs⟩ := restart_drains (h := environmentHashing) orphaningRun _ rfl 0 600
    ["report"] rfl
  rw [List.flatMap_singleton] at ht
  obtain ⟨r', hr', -, -, hdone⟩ := hjobs 7 _ rfl
  exact ⟨_, t, _, r', rfl, rfl, rfl, ht, hr', hdone⟩

end AssessmentEngine
