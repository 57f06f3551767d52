import AssessmentEngine.Jobs.ActiveIndex

/-!
# Succeeded jobs are final, as long as generations keep to their time

`mark_succeeded` and `mark_failed` write by id, whatever the status of the job.  What protects a
finished job is that only the worker that claimed it can write to it, and that holds as long as no
recovery requeues a job whose worker is still at it: the assumption that `config.py` states for
`report_worker_stale_seconds`.  The module proves finality from that assumption and shows runs
without it in which a stalled worker overwrites a finished report.
-/

namespace AssessmentEngine

open Table Runs

variable {h : Hashing}

/-! ## The assumption -/

/-- A worker has claimed the job and has not finished with it. -/
def Generates (s : World) (w id : ℕ) : Prop :=
  ∃ claimedAt, (s.workers w).processing = some (id, claimedAt)

/-- No recovery runs while a generation has outlived its threshold, and no commit of a result is
reported as failed. -/
def Punctual : Action → World → Prop
  | .recoverStale _ staleSeconds _, s =>
    ∀ w id claimedAt, (s.workers w).processing = some (id, claimedAt) →
      s.now ≤ claimedAt + seconds staleSeconds
  | .finishSucceeded _ _ outcome, _ => outcome ≠ .unacknowledged
  | _, _ => True

/-! ## Who works on what -/

/-- Every job in the hands of a worker is running since the time of its claim, and in the hands of
no other. -/
structure Exclusive (s : World) : Prop where
  table : TableInv s
  running : ∀ w id claimedAt, (s.workers w).processing = some (id, claimedAt) →
    ∃ r, s.job id = some r ∧ r.status = .running ∧ r.startedAt = some claimedAt
  distinct : ∀ w w' id, Generates s w id → Generates s w' id → w = w'

lemma exclusive_init : Exclusive World.init where
  table := tableInv_init
  running _ _ _ hproc := by cases hproc
  distinct _ _ _ hgen := by
    obtain ⟨_, hproc⟩ := hgen
    cases hproc

/-- Where no worker takes up a job and the jobs still in hand keep their rows, nothing is lost. -/
lemma Exclusive.shrink {s t : World} (hinv : Exclusive s) (htable : TableInv t)
    (hproc : ∀ w p, (t.workers w).processing = some p → (s.workers w).processing = some p)
    (hjob : ∀ w id claimedAt r, (t.workers w).processing = some (id, claimedAt) →
      s.job id = some r → t.job id = some r) : Exclusive t where
  table := htable
  running w id claimedAt hw := by
    obtain ⟨r, hr, hstatus, hstarted⟩ := hinv.running w id claimedAt (hproc w _ hw)
    exact ⟨r, hjob w id claimedAt r hw hr, hstatus, hstarted⟩
  distinct w w' id hw hw' := by
    obtain ⟨τ, hτ⟩ := hw
    obtain ⟨τ', hτ'⟩ := hw'
    exact hinv.distinct w w' id ⟨τ, hproc w _ hτ⟩ ⟨τ', hproc w' _ hτ'⟩

/-- A worker that turns to no job adds none to those in hand. -/
lemma processing_setWorker {s : World} {w w' : ℕ} {state : WorkerState} {p : ℕ × ℕ}
    (hidle : state.processing = none)
    (hproc : ((s.setWorker w state).workers w').processing = some p) :
    w' ≠ w ∧ (s.workers w').processing = some p := by
  by_cases hw : w' = w
  · subst hw
    rw [World.setWorker_self, hidle] at hproc
    cases hproc
  · rw [World.setWorker_other _ _ _ hw] at hproc
    exact ⟨hw, hproc⟩

/-- A worker that stays at its job adds none either. -/
lemma processing_setWorker_same {s : World} {w w' : ℕ} {state : WorkerState} {p : ℕ × ℕ}
    (hsame : (s.workers w).processing = state.processing)
    (hproc : ((s.setWorker w state).workers w').processing = some p) :
    (s.workers w').processing = some p := by
  by_cases hw : w' = w
  · subst hw
    rwa [World.setWorker_self, ← hsame] at hproc
  · rwa [World.setWorker_other _ _ _ hw] at hproc

/-- A row outside the condition of an update is found unchanged. -/
lemma job_updateWhere {s t : World} {p : JobRow → Bool} {f : JobRow → JobRow} {id : ℕ} {r : JobRow}
    (hrows : t.rows = updateWhere p f s.rows) (hid : ∀ r, (f r).id = r.id)
    (hjob : s.job id = some r) (hr : p r = false) : t.job id = some r := by
  rw [World.job, hrows]
  exact findId_updateWhere_of_not hid hjob hr

lemma job_congr {s t : World} (hrows : t.rows = s.rows) (id : ℕ) : t.job id = s.job id := by
  rw [World.job, World.job, hrows]

/-- A pending job is in nobody's hands. -/
lemma Exclusive.not_generates_of_pending {s : World} (hinv : Exclusive s) {r : JobRow}
    (hmem : r ∈ s.rows) (hpending : r.status = .pending) (w : ℕ) : ¬ Generates s w r.id := by
  rintro ⟨claimedAt, hproc⟩
  obtain ⟨r', hr', hrunning, _⟩ := hinv.running w r.id claimedAt hproc
  have hfound : s.job r.id = some r := findId_of_mem hinv.table.ids_rows hmem
  rw [hfound, Option.some_inj] at hr'
  rw [← hr', hpending] at hrunning
  cases hrunning

/-! ## One step -/

/-- A claim hands out a job that nobody has. -/
lemma Exclusive.claim {s t : World} (hinv : Exclusive s) (htable : TableInv t) {w : ℕ}
    {r : JobRow} (hmem : r ∈ s.rows) (hpending : r.status = .pending) {state : WorkerState}
    (hstate : state.processing = none ∨ state.processing = some (r.id, s.now))
    (hrows : t.rows = updateWhere (fun a => decide (a.id = r.id)) (JobRow.start s.now) s.rows)
    (hworkers : t.workers = (s.setWorker w state).workers) : Exclusive t := by
  have hfree := hinv.not_generates_of_pending hmem hpending
  have hfound : t.job r.id = some (r.start s.now) := by
    rw [World.job, hrows, findId_updateWhere (JobRow.start_id s.now),
      findId_of_mem hinv.table.ids_rows hmem]
    simp
  -- whoever has a job now had it before, except the claiming worker
  have hcases : ∀ w' id claimedAt, (t.workers w').processing = some (id, claimedAt) →
      (w' = w ∧ (id, claimedAt) = (r.id, s.now)) ∨
        (w' ≠ w ∧ (s.workers w').processing = some (id, claimedAt)) := by
    intro w' id claimedAt hproc
    rw [hworkers] at hproc
    by_cases hw : w' = w
    · subst hw
      rw [World.setWorker_self] at hproc
      rcases hstate with hnone | hsome
      · rw [hnone] at hproc
        cases hproc
      · rw [hsome, Option.some_inj] at hproc
        exact Or.inl ⟨rfl, hproc.symm⟩
    · rw [World.setWorker_other _ _ _ hw] at hproc
      exact Or.inr ⟨hw, hproc⟩
  refine ⟨htable, ?_, ?_⟩
  · intro w' id claimedAt hproc
    rcases hcases w' id claimedAt hproc with ⟨_, heq⟩ | ⟨_, hold⟩
    · obtain ⟨rfl, rfl⟩ := Prod.mk.inj heq
      exact ⟨r.start s.now, hfound, rfl, rfl⟩
    · obtain ⟨r', hr', hstatus, hstarted⟩ := hinv.running w' id claimedAt hold
      refine ⟨r', job_updateWhere hrows (JobRow.start_id s.now) hr' ?_, hstatus, hstarted⟩
      refine decide_eq_false fun hid => hfree w' ⟨claimedAt, ?_⟩
      rw [← hid, findId_key hr']
      exact hold
  · rintro w₁ w₂ id ⟨τ₁, h₁⟩ ⟨τ₂, h₂⟩
    rcases hcases w₁ id τ₁ h₁ with ⟨hw₁, heq₁⟩ | ⟨_, hold₁⟩ <;>
      rcases hcases w₂ id τ₂ h₂ with ⟨hw₂, heq₂⟩ | ⟨_, hold₂⟩
    · rw [hw₁, hw₂]
    · obtain ⟨rfl, _⟩ := Prod.mk.inj heq₁
      exact absurd ⟨τ₂, hold₂⟩ (hfree w₂)
    · obtain ⟨rfl, _⟩ := Prod.mk.inj heq₂
      exact absurd ⟨τ₁, hold₁⟩ (hfree w₁)
    · exact hinv.distinct w₁ w₂ id ⟨τ₁, hold₁⟩ ⟨τ₂, hold₂⟩

/-- A worker that writes by id and lets its job go touches no job in other hands. -/
lemma Exclusive.finish {s t : World} (hinv : Exclusive s) (htable : TableInv t)
    {w id claimedAt : ℕ} (hworker : (s.workers w).processing = some (id, claimedAt))
    {f : JobRow → JobRow} (hid : ∀ r, (f r).id = r.id)
    (hrows : t.rows = s.rows ∨ t.rows = updateWhere (fun r => decide (r.id = id)) f s.rows)
    (hworkers : t.workers = (s.setWorker w .idle).workers) : Exclusive t := by
  refine hinv.shrink htable ?_ ?_
  · intro w' p hproc
    rw [hworkers] at hproc
    exact (processing_setWorker rfl hproc).2
  · intro w' id' claimedAt' r hproc hjob
    rw [hworkers] at hproc
    obtain ⟨hne, hold⟩ := processing_setWorker rfl hproc
    rcases hrows with hrows | hrows
    · rw [job_congr hrows, hjob]
    · refine job_updateWhere hrows hid hjob (decide_eq_false fun heq => hne ?_)
      rw [findId_key hjob] at heq
      exact hinv.distinct w' w id ⟨claimedAt', heq ▸ hold⟩ ⟨claimedAt, hworker⟩

/-- A worker that moves without taking up a job, while the rows stay. -/
lemma Exclusive.release {s t : World} (hinv : Exclusive s) (htable : TableInv t) {w : ℕ}
    {state : WorkerState}
    (hstate : state.processing = none ∨ (s.workers w).processing = state.processing)
    (hrows : t.rows = s.rows) (hworkers : t.workers = (s.setWorker w state).workers) :
    Exclusive t := by
  refine hinv.shrink htable ?_ fun _ id _ _ _ hjob => by rw [job_congr hrows, hjob]
  intro w' p hproc
  rw [hworkers] at hproc
  rcases hstate with hidle | hsame
  · exact (processing_setWorker hidle hproc).2
  · exact processing_setWorker_same hsame hproc

/-- Steps of the services: no worker moves and every job stays. -/
lemma Exclusive.serve {s t : World} (hinv : Exclusive s) (htable : TableInv t)
    (hworkers : t.workers = s.workers)
    (hjob : ∀ id r, s.job id = some r → t.job id = some r) : Exclusive t :=
  hinv.shrink htable (fun w p hproc => by rwa [hworkers] at hproc)
    (fun _ id _ r _ hr => hjob id r hr)

/-- A punctual step keeps the jobs apart. -/
theorem exclusive_step {a : Action} {s t : World} (hpunctual : Punctual a s) (hinv : Exclusive s)
    (hstep : step h a s = some t) : Exclusive t := by
  have htable : TableInv t := tableInv_move hinv.table (step_tableMove hstep)
  cases a with
  | tick elapsed =>
    cases hstep
    exact hinv.serve htable rfl fun _ _ hr => hr
  | call c kind req =>
    simp only [step] at hstep
    split at hstep <;> cases hstep <;> exact hinv.serve htable rfl fun _ _ hr => hr
  | insert c id =>
    obtain ⟨call, attempt, _, rfl | ⟨_, _, rfl⟩⟩ := stepInsert_eq_some hstep <;>
      exact hinv.serve htable rfl fun _ _ hr => hr
  | commit c =>
    obtain ⟨call, id, _, rfl⟩ := stepCommit_eq_some hstep
    exact hinv.serve htable rfl fun _ _ hr => findId_append_of_some hr _
  | select c =>
    obtain ⟨call, attempt, _, rfl⟩ := stepSelect_eq_some hstep
    exact hinv.serve htable rfl fun _ _ hr => hr
  | rollback c =>
    obtain ⟨call, attempt, active, _, ⟨rfl, _⟩ | ⟨_, rfl⟩ | rfl⟩ := stepRollback_eq_some hstep <;>
      exact hinv.serve htable rfl fun _ _ hr => hr
  | abandon c =>
    cases hstep
    exact hinv.serve htable rfl fun _ _ hr => findId_append_of_some hr _
  | startWorker w =>
    simp only [step] at hstep
    split_ifs at hstep
    cases hstep
    exact hinv.release htable (Or.inl rfl) rfl rfl
  | recoverStale w staleSeconds outcome =>
    obtain ⟨_, rfl⟩ := stepRecover_eq_some hstep
    refine hinv.shrink htable (fun w' p hproc => ?_) (fun w' id claimedAt r hproc hr => ?_)
    · have hold := (processing_setWorker rfl hproc).2
      rwa [World.transact_workers] at hold
    · have hold := (processing_setWorker rfl hproc).2
      rw [World.transact_workers] at hold
      rcases World.transact_rows s outcome (recoverStaleRunning s.now staleSeconds) with
        hrows | ⟨_, hrows⟩
      · rw [← hr]
        exact job_congr hrows id
      · -- the job is running since its claim, which is not too long ago
        obtain ⟨r', hr', hstatus, hstarted⟩ := hinv.running w' id claimedAt hold
        rw [hr, Option.some_inj] at hr'
        subst hr'
        have hfresh : r.stale s.now staleSeconds = false := by
          have hle := hpunctual w' id claimedAt hold
          simp [JobRow.stale, hstarted, startedBefore, hle]
        exact job_updateWhere hrows JobRow.requeue_id hr hfresh
  | claimPending w locked outcome =>
    obtain ⟨_, rfl | ⟨r, hmem, hpending, rfl⟩⟩ := stepClaim_eq_some hstep
    · exact hinv
    · have hworkers := World.transact_setWorker s w
        (if outcome.raises then .idle else .generating r.id s.now) outcome
        (updateWhere (fun a => decide (a.id = r.id)) (JobRow.start s.now))
      cases outcome with
      | committed => exact hinv.claim htable hmem hpending (Or.inr rfl) rfl hworkers
      | unacknowledged => exact hinv.claim htable hmem hpending (Or.inl rfl) rfl hworkers
      | rolledBack => exact hinv.release htable (Or.inl rfl) rfl hworkers
  | finishSucceeded w result outcome =>
    obtain ⟨id, claimedAt, hworker, rfl⟩ := stepSucceed_eq_some hstep
    have hproc : (s.workers w).processing = some (id, claimedAt) :=
      congrArg WorkerState.processing hworker
    cases outcome with
    | committed =>
      exact hinv.finish htable hproc (JobRow.succeed_id s.now result) (Or.inr rfl) rfl
    | unacknowledged => exact absurd rfl hpunctual
    | rolledBack => exact hinv.release htable (Or.inr hproc) rfl rfl
  | generationFails w errorMessage =>
    obtain ⟨id, claimedAt, hworker, rfl⟩ := stepGenerationFails_eq_some hstep
    have hproc : (s.workers w).processing = some (id, claimedAt) :=
      congrArg WorkerState.processing hworker
    exact hinv.release htable (Or.inr hproc) rfl rfl
  | finishFailed w outcome =>
    obtain ⟨id, claimedAt, errorMessage, hworker, rfl⟩ := stepFail_eq_some hstep
    have hproc : (s.workers w).processing = some (id, claimedAt) :=
      congrArg WorkerState.processing hworker
    refine hinv.finish htable hproc (JobRow.fail_id s.now errorMessage) ?_
      (World.transact_setWorker _ _ _ _ _)
    exact (World.transact_rows s outcome _).imp_right And.right
  | stopWorker w =>
    cases hstep
    exact hinv.release htable (Or.inl rfl) rfl rfl

/-- No move of the table rewrites a succeeded job that no worker has in hand. -/
lemma job_move_of_free {s t : World} (htable : TableInv s) (hmove : TableMove s t) {id : ℕ}
    {r : JobRow} (hfree : ∀ w claimedAt, (s.workers w).processing ≠ some (id, claimedAt))
    (hjob : s.job id = some r) (hstatus : r.status = .succeeded) : t.job id = some r := by
  have hother : ∀ w id' claimedAt, (s.workers w).processing = some (id', claimedAt) →
      decide (r.id = id') = false := by
    intro w id' claimedAt hproc
    refine decide_eq_false fun heq => hfree w claimedAt ?_
    rw [hproc, ← heq, findId_key hjob]
  cases hmove with
  | quiet hrows | insert _ _ _ _ hrows | undo _ hrows => rw [job_congr hrows, hjob]
  | commit c id' kind hrows =>
    rw [World.job, hrows]
    exact findId_append_of_some hjob _
  | recover staleSeconds hrows =>
    refine job_updateWhere hrows JobRow.requeue_id hjob ?_
    simp [JobRow.stale, hstatus]
  | claim r' hmem hpending hrows =>
    refine job_updateWhere hrows (JobRow.start_id s.now) hjob (decide_eq_false fun heq => ?_)
    have hsame : r = r' := List.inj_on_of_nodup_map htable.ids_rows (findId_mem hjob) hmem heq
    rw [hsame, hpending] at hstatus
    cases hstatus
  | succeed w id' claimedAt result hworker hrows =>
    have hne : decide (r.id = id') = false := hother w id' claimedAt hworker
    exact job_updateWhere hrows (JobRow.succeed_id s.now result) hjob hne
  | fail w id' claimedAt errorMessage hworker hrows =>
    exact job_updateWhere hrows (JobRow.fail_id s.now errorMessage) hjob
      (hother w id' claimedAt hworker)

/-- No move of the table rewrites a succeeded job: who writes by id has a running one. -/
lemma succeeded_move {s t : World} (hinv : Exclusive s) (hmove : TableMove s t) {id : ℕ}
    {r : JobRow} (hjob : s.job id = some r) (hstatus : r.status = .succeeded) :
    t.job id = some r := by
  refine job_move_of_free hinv.table hmove (fun w claimedAt hproc => ?_) hjob hstatus
  obtain ⟨r', hr', hrunning, _⟩ := hinv.running w id claimedAt hproc
  rw [hjob, Option.some_inj] at hr'
  rw [← hr', hstatus] at hrunning
  cases hrunning

/-! ## Runs -/

/-- The jobs stay apart in every state of a punctual run. -/
theorem exclusive_run {as : List Action} {s t : World} (hpunctual : Meets (step h) Punctual as s)
    (hrun : run (step h) as s = some t) (hinv : Exclusive s) : Exclusive t :=
  run_invariant_of_meets (fun _ _ _ hC hI hstep => exclusive_step hC hI hstep) hpunctual hrun hinv

/-- In punctual runs no job is generated by two workers at a time, and the row of a succeeded job
stays as it is, whatever follows. -/
theorem succeeded_job_final (as : List Action) (s : World)
    (hrun : run (step h) as World.init = some s)
    (hpunctual : Meets (step h) Punctual as World.init) :
    (∀ w w' id, Generates s w id → Generates s w' id → w = w') ∧
    ∀ id r bs t, s.job id = some r → r.status = .succeeded → run (step h) bs s = some t →
      Meets (step h) Punctual bs s → t.job id = some r := by
  have hinv : Exclusive s := exclusive_run hpunctual hrun exclusive_init
  refine ⟨hinv.distinct, fun id r bs t hjob hstatus hbs hmeets => ?_⟩
  have hboth : Exclusive t ∧ t.job id = some r := by
    refine run_invariant_of_meets (I := fun u => Exclusive u ∧ u.job id = some r) ?_ hmeets hbs
      ⟨hinv, hjob⟩
    rintro a u v hC ⟨hexcl, hu⟩ hstep
    exact ⟨exclusive_step hC hexcl hstep,
      succeeded_move hexcl (step_tableMove hstep) hu hstatus⟩
  exact hboth.2

def punctualRun : List Action :=
  [.call 0 .enqueueReport environmentRequest, .insert 0 7, .commit 0,
   .startWorker 0, .recoverStale 0 600 .committed, .claimPending 0 [] .committed,
   .tick (seconds 500),
   .startWorker 1, .recoverStale 1 600 .committed, .finishSucceeded 0 "report" .committed]

lemma punctualRun_punctual : Meets (step environmentHashing) Punctual punctualRun World.init := by
  refine .cons trivial rfl (.cons trivial rfl (.cons trivial rfl (.cons trivial rfl
    (.cons ?first rfl (.cons trivial rfl (.cons trivial rfl (.cons trivial rfl
      (.cons ?second rfl (.cons nofun rfl .nil)))))))))
  case first =>
    rintro (_ | w) id claimedAt hproc <;> cases hproc
  case second =>
    rintro (_ | _ | w) id claimedAt hproc <;> cases hproc
    exact of_decide_eq_true rfl

/-- A worker is within its time when a second one starts, and finishes after that. -/
theorem succeeded_job_final_punctualRun :
    ∃ s r, run (step environmentHashing) punctualRun World.init = some s ∧ s.job 7 = some r ∧
      r.status = .succeeded ∧
      ∀ bs t, run (step environmentHashing) bs s = some t →
        Meets (step environmentHashing) Punctual bs s → t.job 7 = some r :=
  ⟨_, _, rfl, rfl, rfl, fun bs t =>
    (succeeded_job_final punctualRun _ rfl punctualRun_punctual).2 7 _ bs t rfl rfl⟩

/-! ## Runs that are not punctual -/

/-- Worker 0 stalls for longer than the threshold, worker 1 starts and claims the same job. -/
def stalledRun : List Action :=
  [.call 0 .enqueueReport environmentRequest, .insert 0 7, .commit 0,
   .startWorker 0, .recoverStale 0 600 .committed, .claimPending 0 [] .committed,
   .tick (seconds 601),
   .startWorker 1, .recoverStale 1 600 .committed, .claimPending 1 [] .committed]

/-- Both workers generate the job; when the second has finished, the first overwrites its result.
And a worker whose commit was not acknowledged marks its own succeeded job as failed. -/
theorem stalled_worker_overwrites :
    (∃ s, run (step environmentHashing) stalledRun World.init = some s ∧
      Generates s 0 7 ∧ Generates s 1 7) ∧
    (∃ s t r r', run (step environmentHashing)
        (stalledRun ++ [.finishSucceeded 1 "second" .committed]) World.init = some s ∧
      s.job 7 = some r ∧ r.status = .succeeded ∧ r.result = some "second" ∧
      step environmentHashing (.finishSucceeded 0 "first" .committed) s = some t ∧
      t.job 7 = some r' ∧ r'.result = some "first") ∧
    (∃ s t r r', run (step environmentHashing)
        (stalledRun.take 6 ++ [.finishSucceeded 0 "only" .unacknowledged]) World.init = some s ∧
      s.job 7 = some r ∧ r.status = .succeeded ∧
      step environmentHashing (.finishFailed 0 .committed) s = some t ∧
      t.job 7 = some r' ∧ r'.status = .failed) :=
  ⟨⟨_, rfl, ⟨0, rfl⟩, ⟨seconds 601, rfl⟩⟩,
    ⟨_, _, _, _, rfl, rfl, rfl, rfl, rfl, rfl, rfl⟩,
    ⟨_, _, _, _, rfl, rfl, rfl, rfl, rfl, rfl⟩⟩

end AssessmentEngine
