import AssessmentEngine.Jobs.World

/-!
# What one step can do

`TableMove` lists the ways in which a step changes the rows, and `step_tableMove` is the only place
where all actions are run through for them.  `step_other` says that a step of one client leaves
every other client and its open insertion alone, `step_own` what the steps of a call do to it.
-/

namespace AssessmentEngine

open Table Runs

/-! ## Parts of the state -/

section simp

variable (s : World) (n : ℕ) (c : ClientState) (w : WorkerState) (o : Outcome)
  (f : List JobRow → List JobRow)

@[simp] lemma World.setClient_rows : (s.setClient n c).rows = s.rows := rfl
@[simp] lemma World.setClient_self : (s.setClient n c).clients n = c := by
  simp [World.setClient]
lemma World.setClient_other {m : ℕ} (h : m ≠ n) : (s.setClient n c).clients m = s.clients m := by
  simp [World.setClient, Function.update_of_ne h]

@[simp] lemma World.setWorker_uncommitted : (s.setWorker n w).uncommitted = s.uncommitted := rfl
@[simp] lemma World.setWorker_clients : (s.setWorker n w).clients = s.clients := rfl
@[simp] lemma World.setWorker_self : (s.setWorker n w).workers n = w := by
  simp [World.setWorker]
lemma World.setWorker_other {m : ℕ} (h : m ≠ n) : (s.setWorker n w).workers m = s.workers m := by
  simp [World.setWorker, Function.update_of_ne h]

@[simp] lemma World.transact_uncommitted : (s.transact o f).uncommitted = s.uncommitted := by
  unfold World.transact; split_ifs <;> rfl
@[simp] lemma World.transact_clients : (s.transact o f).clients = s.clients := by
  unfold World.transact; split_ifs <;> rfl
@[simp] lemma World.transact_workers : (s.transact o f).workers = s.workers := by
  unfold World.transact; split_ifs <;> rfl
/-- A transaction of a worker moves that worker only. -/
lemma World.transact_setWorker :
    ((s.transact o f).setWorker n w).workers = (s.setWorker n w).workers := by
  rw [World.setWorker, World.setWorker, World.transact_workers]
lemma World.transact_rows :
    (s.transact o f).rows = s.rows ∨ (o.persists = true ∧ (s.transact o f).rows = f s.rows) := by
  unfold World.transact
  split_ifs with ho
  · exact Or.inr ⟨ho, rfl⟩
  · exact Or.inl rfl

end simp

/-! ## Inversion of the steps of a call -/

/-- An attempt either inserts a fresh pending row or meets a conflict. -/
lemma stepInsert_eq_some {c id : ℕ} {s t : World} (h : stepInsert c id s = some t) :
    ∃ call attempt, s.clients c = .attempting call attempt ∧
      (t = s.setClient c (.conflicted call attempt) ∨
        ((∀ a ∈ s.index, a.id ≠ id) ∧ (∀ a ∈ s.index, a.active = true → a.key ≠ call.job.key) ∧
          t = { s.setClient c (.inserted call id) with
                uncommitted := s.uncommitted ++ [(c, newJob s.now id call.job)] })) := by
  unfold stepInsert at h
  split at h
  case h_2 => cases h
  case h_1 call attempt hclient =>
    refine ⟨call, attempt, hclient, ?_⟩
    split_ifs at h with hused hblocks
    cases henq : enqueue s.now id call.job s.rows with
    | none =>
      rw [henq] at h
      exact Or.inl (Option.some_inj.mp h).symm
    | some r =>
      rw [henq] at h
      obtain ⟨rfl, hfree⟩ := enqueue_eq_some henq
      refine Or.inr ⟨fun a ha hid => hused ?_, fun a ha hactive hkey => ?_,
        (Option.some_inj.mp h).symm⟩
      · exact List.any_eq_true.mpr ⟨a, ha, by simp [hid]⟩
      · rcases List.mem_append.mp ha with ha | ha
        · exact hfree a ha hactive hkey
        · obtain ⟨e, he, rfl⟩ := List.mem_map.mp ha
          exact hblocks (List.any_eq_true.mpr ⟨e, he, by rw [hactive, hkey]; simp⟩)

/-- What `emit_report` does to its row before the commit. -/
def CallKind.mark (kind : CallKind) (now id : ℕ) : List JobRow → List JobRow :=
  match kind with
  | .enqueueReport => fun rows => rows
  | .emitReport result => markSucceeded now id result

lemma stepCommit_eq_some {c : ℕ} {s t : World} (h : stepCommit c s = some t) :
    ∃ call id, s.clients c = .inserted call id ∧
      t = (s.closeInsert c (call.kind.mark s.now id)).setClient c (.returned call (some id)) := by
  unfold stepCommit at h
  split at h
  case h_2 => cases h
  case h_1 call id hclient => exact ⟨call, id, hclient, (Option.some_inj.mp h).symm⟩

lemma stepSelect_eq_some {c : ℕ} {s t : World} (h : stepSelect c s = some t) :
    ∃ call attempt, s.clients c = .conflicted call attempt ∧
      t = s.setClient c (.selected call attempt (getActiveByHash call.job.key s.rows)) := by
  unfold stepSelect at h
  split at h
  case h_2 => cases h
  case h_1 call attempt hclient => exact ⟨call, attempt, hclient, (Option.some_inj.mp h).symm⟩

/-- After a lookup the call returns what was found, or tries again, or gives up. -/
lemma stepRollback_eq_some {c : ℕ} {s t : World} (h : stepRollback c s = some t) :
    ∃ call attempt active, s.clients c = .selected call attempt active ∧
      ((t = s.setClient c (.returned call active) ∧
          (call.kind = .enqueueReport → active.isSome = true)) ∨
        (attempt < enqueueMaxAttempts ∧ t = s.setClient c (.attempting call (attempt + 1))) ∨
        t = s.setClient c (.raised call)) := by
  unfold stepRollback at h
  split at h
  case h_2 => cases h
  case h_1 call attempt active hclient =>
    refine ⟨call, attempt, active, hclient, ?_⟩
    split at h
    case h_1 result _ hkind =>
      exact Or.inl ⟨(Option.some_inj.mp h).symm, fun hq => by rw [hq] at hkind; cases hkind⟩
    case h_2 => exact Or.inl ⟨(Option.some_inj.mp h).symm, fun _ => rfl⟩
    case h_3 =>
      split_ifs at h with hlt
      · exact Or.inr (Or.inl ⟨hlt, (Option.some_inj.mp h).symm⟩)
      · exact Or.inr (Or.inr (Option.some_inj.mp h).symm)

/-! ## Inversion of the steps of a worker -/

lemma stepRecover_eq_some {w staleSeconds : ℕ} {outcome : Outcome} {s t : World}
    (h : stepRecover w staleSeconds outcome s = some t) :
    s.workers w = .starting ∧
      t = (s.transact outcome (recoverStaleRunning s.now staleSeconds)).setWorker w .idle := by
  unfold stepRecover at h
  split at h
  case h_2 => cases h
  case h_1 hworker => exact ⟨hworker, (Option.some_inj.mp h).symm⟩

/-- A claim finds nothing, or takes a pending job; the worker may not learn of it. -/
lemma stepClaim_eq_some {w : ℕ} {locked : List ℕ} {outcome : Outcome} {s t : World}
    (h : stepClaim w locked outcome s = some t) :
    s.workers w = .idle ∧
      (t = s ∨ ∃ r ∈ s.rows, r.status = .pending ∧
        t = (s.transact outcome
              (updateWhere (fun a => decide (a.id = r.id)) (JobRow.start s.now))).setWorker w
                (if outcome.raises then .idle else .generating r.id s.now)) := by
  unfold stepClaim at h
  split at h
  case h_2 => cases h
  case h_1 hworker =>
    refine ⟨hworker, ?_⟩
    cases hnext : nextPending locked s.rows with
    | none =>
      rw [claimNextPending, hnext] at h
      exact Or.inl (Option.some_inj.mp h).symm
    | some r =>
      rw [claimNextPending, hnext] at h
      obtain ⟨hmem, hpending⟩ := nextPending_eq_some hnext
      exact Or.inr ⟨r, hmem, hpending, (Option.some_inj.mp h).symm⟩

lemma stepSucceed_eq_some {w : ℕ} {result : JsonObject} {outcome : Outcome} {s t : World}
    (h : stepSucceed w result outcome s = some t) :
    ∃ id claimedAt, s.workers w = .generating id claimedAt ∧
      t = (s.transact outcome (markSucceeded s.now id result)).setWorker w
            (if outcome.raises then .failing id claimedAt "internal error" else .idle) := by
  unfold stepSucceed at h
  split at h
  case h_2 => cases h
  case h_1 id claimedAt hworker => exact ⟨id, claimedAt, hworker, (Option.some_inj.mp h).symm⟩

lemma stepGenerationFails_eq_some {w : ℕ} {errorMessage : String} {s t : World}
    (h : stepGenerationFails w errorMessage s = some t) :
    ∃ id claimedAt, s.workers w = .generating id claimedAt ∧
      t = s.setWorker w (.failing id claimedAt errorMessage) := by
  unfold stepGenerationFails at h
  split at h
  case h_2 => cases h
  case h_1 id claimedAt hworker => exact ⟨id, claimedAt, hworker, (Option.some_inj.mp h).symm⟩

lemma stepFail_eq_some {w : ℕ} {outcome : Outcome} {s t : World}
    (h : stepFail w outcome s = some t) :
    ∃ id claimedAt errorMessage, s.workers w = .failing id claimedAt errorMessage ∧
      t = (s.transact outcome (markFailed s.now id errorMessage)).setWorker w .idle := by
  unfold stepFail at h
  split at h
  case h_2 => cases h
  case h_1 id claimedAt errorMessage hworker =>
    exact ⟨id, claimedAt, errorMessage, hworker, (Option.some_inj.mp h).symm⟩

/-! ## The table under a step -/

/-- How the rows of the table and the open insertions move in one step. -/
inductive TableMove (s t : World) : Prop
  | quiet (hrows : t.rows = s.rows) (hopen : t.uncommitted = s.uncommitted)
  | insert (c : ℕ) (r : JobRow) (hid : ∀ a ∈ s.index, a.id ≠ r.id)
      (hkey : ∀ a ∈ s.index, a.active = true → a.key ≠ r.key)
      (hrows : t.rows = s.rows) (hopen : t.uncommitted = s.uncommitted ++ [(c, r)])
  | commit (c id : ℕ) (kind : CallKind)
      (hrows : t.rows = (s.closeInsert c (kind.mark s.now id)).rows)
      (hopen : t.uncommitted = s.uncommitted.filter fun e => !decide (e.1 = c))
  | undo (c : ℕ) (hrows : t.rows = s.rows)
      (hopen : t.uncommitted = s.uncommitted.filter fun e => !decide (e.1 = c))
  | recover (staleSeconds : ℕ) (hrows : t.rows = recoverStaleRunning s.now staleSeconds s.rows)
      (hopen : t.uncommitted = s.uncommitted)
  | claim (r : JobRow) (hmem : r ∈ s.rows) (hpending : r.status = .pending)
      (hrows : t.rows = updateWhere (fun a => decide (a.id = r.id)) (JobRow.start s.now) s.rows)
      (hopen : t.uncommitted = s.uncommitted)
  | succeed (w id claimedAt : ℕ) (result : JsonObject)
      (hworker : (s.workers w).processing = some (id, claimedAt))
      (hrows : t.rows = markSucceeded s.now id result s.rows)
      (hopen : t.uncommitted = s.uncommitted)
  | fail (w id claimedAt : ℕ) (errorMessage : String)
      (hworker : (s.workers w).processing = some (id, claimedAt))
      (hrows : t.rows = markFailed s.now id errorMessage s.rows)
      (hopen : t.uncommitted = s.uncommitted)

variable {h : Hashing}

/-- Every step moves the table in one of these ways. -/
theorem step_tableMove {a : Action} {s t : World} (hstep : step h a s = some t) :
    TableMove s t := by
  cases a with
  | tick elapsed =>
    cases hstep
    exact .quiet rfl rfl
  | call c kind req =>
    simp only [step] at hstep
    split at hstep <;> cases hstep <;> exact .quiet rfl rfl
  | insert c id =>
    obtain ⟨call, attempt, _, rfl | ⟨hid, hkey, rfl⟩⟩ := stepInsert_eq_some hstep
    · exact .quiet rfl rfl
    · exact .insert c (newJob s.now id call.job) hid hkey rfl rfl
  | commit c =>
    obtain ⟨call, id, _, rfl⟩ := stepCommit_eq_some hstep
    exact .commit c id call.kind rfl rfl
  | select c =>
    obtain ⟨call, attempt, _, rfl⟩ := stepSelect_eq_some hstep
    exact .quiet rfl rfl
  | rollback c =>
    obtain ⟨call, attempt, active, _, ⟨rfl, _⟩ | ⟨_, rfl⟩ | rfl⟩ := stepRollback_eq_some hstep <;>
      exact .quiet rfl rfl
  | abandon c =>
    cases hstep
    exact .undo c (List.append_nil _) rfl
  | startWorker w =>
    simp only [step] at hstep
    split_ifs at hstep
    cases hstep
    exact .quiet rfl rfl
  | recoverStale w staleSeconds outcome =>
    obtain ⟨_, rfl⟩ := stepRecover_eq_some hstep
    rcases World.transact_rows s outcome (recoverStaleRunning s.now staleSeconds) with
      hrows | ⟨_, hrows⟩
    · exact .quiet hrows (World.transact_uncommitted s outcome _)
    · exact .recover staleSeconds hrows (World.transact_uncommitted s outcome _)
  | claimPending w locked outcome =>
    obtain ⟨_, rfl | ⟨r, hmem, hpending, rfl⟩⟩ := stepClaim_eq_some hstep
    · exact .quiet rfl rfl
    · rcases World.transact_rows s outcome
        (updateWhere (fun a => decide (a.id = r.id)) (JobRow.start s.now)) with hrows | ⟨_, hrows⟩
      · exact .quiet hrows (World.transact_uncommitted s outcome _)
      · exact .claim r hmem hpending hrows (World.transact_uncommitted s outcome _)
  | finishSucceeded w result outcome =>
    obtain ⟨id, claimedAt, hworker, rfl⟩ := stepSucceed_eq_some hstep
    have hproc : (s.workers w).processing = some (id, claimedAt) :=
      congrArg WorkerState.processing hworker
    rcases World.transact_rows s outcome (markSucceeded s.now id result) with hrows | ⟨_, hrows⟩
    · exact .quiet hrows (World.transact_uncommitted s outcome _)
    · exact .succeed w id claimedAt result hproc hrows (World.transact_uncommitted s outcome _)
  | generationFails w errorMessage =>
    obtain ⟨id, claimedAt, _, rfl⟩ := stepGenerationFails_eq_some hstep
    exact .quiet rfl rfl
  | finishFailed w outcome =>
    obtain ⟨id, claimedAt, errorMessage, hworker, rfl⟩ := stepFail_eq_some hstep
    have hproc : (s.workers w).processing = some (id, claimedAt) :=
      congrArg WorkerState.processing hworker
    rcases World.transact_rows s outcome (markFailed s.now id errorMessage) with hrows | ⟨_, hrows⟩
    · exact .quiet hrows (World.transact_uncommitted s outcome _)
    · exact .fail w id claimedAt errorMessage hproc hrows (World.transact_uncommitted s outcome _)
  | stopWorker w =>
    cases hstep
    exact .quiet rfl rfl

end AssessmentEngine
