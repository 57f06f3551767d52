import Mathlib.Data.Fintype.EquivFin
import AssessmentEngine.Jobs.ActiveIndex

/-!
# What a call of `enqueue_report` returns

A call is followed from its start through any interleaving.  It runs at most six statements, while
it lasts one of them can be taken or its insertion waits for another client that can commit, and it
ends with the id of a job that was active under its own key at some moment of the call, or with
`ReportEnqueueError`.
-/

namespace AssessmentEngine

open Table Runs

variable {h : Hashing}

/-! ## The actions of one client -/

/-- The client whose own step an action is. -/
def Action.client : Action → Option ℕ
  | .call c _ _ => some c
  | .insert c _ => some c
  | .commit c => some c
  | .select c => some c
  | .rollback c => some c
  | .abandon c => some c
  | _ => none

/-- A new call of the client, or its end by a crash or a database error. -/
def Action.interrupts (c : ℕ) : Action → Bool
  | .call c' _ _ => decide (c' = c)
  | .abandon c' => decide (c' = c)
  | _ => false

/-- A statement of a call that client `c` is in. -/
def Action.statement (c : ℕ) : Action → Bool
  | .insert c' _ => decide (c' = c)
  | .commit c' => decide (c' = c)
  | .select c' => decide (c' = c)
  | .rollback c' => decide (c' = c)
  | _ => false

/-- How many statements a call can still run. -/
def ClientState.budget : ClientState → ℕ
  | .attempting _ attempt => 3 * (enqueueMaxAttempts - attempt) + 3
  | .conflicted _ attempt => 3 * (enqueueMaxAttempts - attempt) + 2
  | .selected _ attempt _ => 3 * (enqueueMaxAttempts - attempt) + 1
  | .inserted _ _ => 1
  | _ => 0

/-- An action of somebody else leaves a client and its open insertions alone. -/
lemma step_other {a : Action} {s t : World} {c : ℕ} (hstep : step h a s = some t)
    (hclient : a.client ≠ some c) :
    t.clients c = s.clients c ∧ ∀ r, (c, r) ∈ s.uncommitted → (c, r) ∈ t.uncommitted := by
  have hkeep : ∀ c', c' ≠ c → ∀ r, (c, r) ∈ s.uncommitted →
      (c, r) ∈ s.uncommitted.filter fun e => !decide (e.1 = c') := by
    intro c' hne r hr
    exact List.mem_filter.mpr ⟨hr, by simp [hne.symm]⟩
  have hother : ∀ c', a.client = some c' → c ≠ c' := by
    rintro _ hown rfl
    exact hclient hown
  cases a with
  | tick elapsed =>
    cases hstep
    exact ⟨rfl, fun _ hr => hr⟩
  | call c' kind req =>
    have hne : c ≠ c' := hother c' rfl
    simp only [step] at hstep
    split at hstep <;> cases hstep <;> exact ⟨World.setClient_other _ _ _ hne, fun _ hr => hr⟩
  | insert c' id =>
    have hne : c ≠ c' := hother c' rfl
    obtain ⟨call, attempt, _, rfl | ⟨_, _, rfl⟩⟩ := stepInsert_eq_some hstep
    · exact ⟨World.setClient_other _ _ _ hne, fun _ hr => hr⟩
    · exact ⟨World.setClient_other s _ (.inserted call id) hne,
        fun _ hr => List.mem_append_left _ hr⟩
  | commit c' =>
    have hne : c ≠ c' := hother c' rfl
    obtain ⟨call, id, _, rfl⟩ := stepCommit_eq_some hstep
    exact ⟨World.setClient_other _ _ _ hne, hkeep c' hne.symm⟩
  | select c' =>
    have hne : c ≠ c' := hother c' rfl
    obtain ⟨call, attempt, _, rfl⟩ := stepSelect_eq_some hstep
    exact ⟨World.setClient_other _ _ _ hne, fun _ hr => hr⟩
  | rollback c' =>
    have hne : c ≠ c' := hother c' rfl
    obtain ⟨call, attempt, active, _, ⟨rfl, _⟩ | ⟨_, rfl⟩ | rfl⟩ := stepRollback_eq_some hstep <;>
      exact ⟨World.setClient_other _ _ _ hne, fun _ hr => hr⟩
  | abandon c' =>
    have hne : c ≠ c' := hother c' rfl
    cases hstep
    exact ⟨World.setClient_other _ _ _ hne, hkeep c' hne.symm⟩
  | startWorker w =>
    simp only [step] at hstep
    split_ifs at hstep
    cases hstep
    exact ⟨rfl, fun _ hr => hr⟩
  | recoverStale w staleSeconds outcome =>
    obtain ⟨_, rfl⟩ := stepRecover_eq_some hstep
    simp
  | claimPending w locked outcome =>
    obtain ⟨_, rfl | ⟨r, _, _, rfl⟩⟩ := stepClaim_eq_some hstep
    · exact ⟨rfl, fun _ hr => hr⟩
    · simp
  | finishSucceeded w result outcome =>
    obtain ⟨id, claimedAt, _, rfl⟩ := stepSucceed_eq_some hstep
    simp
  | generationFails w errorMessage =>
    obtain ⟨id, claimedAt, _, rfl⟩ := stepGenerationFails_eq_some hstep
    exact ⟨rfl, fun _ hr => hr⟩
  | finishFailed w outcome =>
    obtain ⟨id, claimedAt, errorMessage, _, rfl⟩ := stepFail_eq_some hstep
    simp
  | stopWorker w =>
    cases hstep
    exact ⟨rfl, fun _ hr => hr⟩

/-- The actions of a client are the statements of its call, or interrupt it. -/
lemma Action.statement_of_client {a : Action} {c : ℕ} (hclient : a.client = some c)
    (hint : a.interrupts c = false) : a.statement c = true := by
  cases a <;> simp_all [Action.client, Action.interrupts, Action.statement]

lemma Action.statement_eq_false {a : Action} {c : ℕ} (hclient : a.client ≠ some c) :
    a.statement c = false := by
  cases a <;> simp_all [Action.client, Action.statement]

/-! ## The call as an invariant -/

/-- The table shows an active job with the id and the key. -/
def HasActiveJob (key : JobKey) (id : ℕ) (s : World) : Prop :=
  ∃ r ∈ s.rows, r.id = id ∧ r.key = key ∧ r.active = true

/-- Where client `c` can stand in a call of `enqueue_report`, when `Seen id` says that the call has
seen `id` as an active job. -/
def CallInv (Seen : ℕ → Prop) (c : ℕ) (call : Call) (uncommitted : List (ℕ × JobRow)) :
    ClientState → Prop
  | .idle => False
  | .attempting call' _ => call' = call
  | .inserted call' id =>
    call' = call ∧ ∃ r, (c, r) ∈ uncommitted ∧ r.id = id ∧ r.key = call.job.key ∧ r.active = true
  | .conflicted call' _ => call' = call
  | .selected call' _ active => call' = call ∧ ∀ id, active = some id → Seen id
  | .returned _ id => ∃ i, id = some i ∧ Seen i
  | .raised _ => True

/-- What the others do leaves the call where it is. -/
lemma CallInv.mono {Seen Seen' : ℕ → Prop} {c : ℕ} {call : Call} {rows rows' : List (ℕ × JobRow)}
    {state : ClientState} (hinv : CallInv Seen c call rows state) (hseen : ∀ id, Seen id → Seen' id)
    (hopen : ∀ r, (c, r) ∈ rows → (c, r) ∈ rows') : CallInv Seen' c call rows' state := by
  cases state with
  | idle => exact hinv
  | attempting call' attempt => exact hinv
  | inserted call' id =>
    obtain ⟨hcall, r, hr, hrow⟩ := hinv
    exact ⟨hcall, r, hopen r hr, hrow⟩
  | conflicted call' attempt => exact hinv
  | selected call' attempt active => exact ⟨hinv.1, fun id hid => hseen id (hinv.2 id hid)⟩
  | returned call' id =>
    obtain ⟨i, hi, hs⟩ := hinv
    exact ⟨i, hi, hseen i hs⟩
  | raised call' => exact hinv

/-- A statement of the call keeps its invariant and uses up some of its budget.  A job is seen when
it is committed here or found by the lookup. -/
lemma callInv_statement {Seen Seen' : ℕ → Prop} {c : ℕ} {call : Call} {a : Action} {s t : World}
    (hkind : call.kind = .enqueueReport) (hinv : CallInv Seen c call s.uncommitted (s.clients c))
    (hseen : ∀ id, Seen id → Seen' id)
    (hjob : ∀ id, HasActiveJob call.job.key id t → Seen' id)
    (hstmt : a.statement c = true) (hstep : step h a s = some t) :
    CallInv Seen' c call t.uncommitted (t.clients c) ∧
      (t.clients c).budget < (s.clients c).budget := by
  cases a with
  | insert c' id =>
    obtain rfl : c' = c := of_decide_eq_true hstmt
    obtain ⟨call', attempt, hclient, rfl | ⟨_, _, rfl⟩⟩ := stepInsert_eq_some hstep
    · rw [hclient] at hinv ⊢
      rw [World.setClient_self]
      exact ⟨hinv, by simp only [ClientState.budget]; omega⟩
    · rw [hclient] at hinv ⊢
      obtain rfl : call' = call := hinv
      refine ⟨?_, ?_⟩
      · simp only [World.setClient_self]
        exact ⟨rfl, newJob s.now id call'.job, by simp, rfl, rfl, rfl⟩
      · simp only [World.setClient_self, ClientState.budget]
        omega
  | commit c' =>
    obtain rfl : c' = c := of_decide_eq_true hstmt
    obtain ⟨call', id, hclient, rfl⟩ := stepCommit_eq_some hstep
    rw [hclient] at hinv ⊢
    obtain ⟨rfl, r, hr, hid, hkey, hact⟩ := hinv
    rw [World.setClient_self]
    refine ⟨⟨id, rfl, hjob id ⟨r, ?_, hid, hkey, hact⟩⟩, Nat.one_pos⟩
    rw [World.setClient_rows, World.closeInsert, hkind]
    refine List.mem_append_right _ (List.mem_map.mpr ⟨(c', r), ?_, rfl⟩)
    exact List.mem_filter.mpr ⟨hr, by simp⟩
  | select c' =>
    obtain rfl : c' = c := of_decide_eq_true hstmt
    obtain ⟨call', attempt, hclient, rfl⟩ := stepSelect_eq_some hstep
    rw [hclient] at hinv ⊢
    obtain rfl : call' = call := hinv
    rw [World.setClient_self]
    refine ⟨⟨rfl, fun id hid => hjob id ?_⟩, by simp only [ClientState.budget]; omega⟩
    exact getActiveByHash_eq_some hid
  | rollback c' =>
    obtain rfl : c' = c := of_decide_eq_true hstmt
    obtain ⟨call', attempt, active, hclient, ⟨rfl, hsome⟩ | ⟨hlt, rfl⟩ | rfl⟩ :=
      stepRollback_eq_some hstep
    · rw [hclient] at hinv ⊢
      obtain ⟨rfl, hactive⟩ := hinv
      obtain ⟨i, hi⟩ := Option.isSome_iff_exists.mp (hsome hkind)
      rw [World.setClient_self]
      exact ⟨⟨i, hi, hseen i (hactive i hi)⟩, Nat.succ_pos _⟩
    · rw [hclient] at hinv ⊢
      rw [World.setClient_self]
      exact ⟨hinv.1, by simp only [ClientState.budget]; omega⟩
    · rw [hclient] at hinv ⊢
      rw [World.setClient_self]
      exact ⟨trivial, Nat.succ_pos _⟩
  | tick | call | abandon | startWorker | recoverStale | claimPending | finishSucceeded
  | generationFails | finishFailed | stopWorker => cases hstmt

/-- The invariant of a call holds throughout it, and its statements stay within the budget. -/
theorem callInv_run {c : ℕ} {call : Call} {bs : List Action} {s t : World}
    (hkind : call.kind = .enqueueReport) (hstart : s.clients c = .attempting call 1)
    (hint : ∀ a ∈ bs, a.interrupts c = false) (hrun : run (step h) bs s = some t) :
    CallInv (fun id => Passes (step h) (HasActiveJob call.job.key id) bs s) c call t.uncommitted
        (t.clients c) ∧
      bs.countP (Action.statement c) + (t.clients c).budget ≤ 6 := by
  -- the induction is on the actions taken; what the call has seen is what the run passed through
  refine run_history (J := fun cs u =>
    CallInv (fun id => Passes (step h) (HasActiveJob call.job.key id) cs s) c call u.uncommitted
        (u.clients c) ∧
      cs.countP (Action.statement c) + (u.clients c).budget ≤ 6) ?_ ?_ hrun
  · rw [hstart]
    exact ⟨rfl, by simp [ClientState.budget, enqueueMaxAttempts]⟩
  · rintro cs a u v hpre hcs ⟨hinv, hbudget⟩ hstep
    have hseen : ∀ id, Passes (step h) (HasActiveJob call.job.key id) cs s →
        Passes (step h) (HasActiveJob call.job.key id) (cs ++ [a]) s :=
      fun id hpass => hpass.append [a]
    have hrun' : run (step h) (cs ++ [a]) s = some v := run_snoc_eq_some.mpr ⟨u, hcs, hstep⟩
    rw [List.countP_append, List.countP_singleton]
    by_cases hclient : a.client = some c
    · have hmem : a ∈ bs := hpre.subset (by simp)
      have hstmt := Action.statement_of_client hclient (hint a hmem)
      obtain ⟨hinv', hlt⟩ := callInv_statement hkind hinv hseen
        (fun id hjob => Passes.of_prefix List.prefix_rfl hrun' hjob) hstmt hstep
      rw [if_pos hstmt]
      exact ⟨hinv', by omega⟩
    · obtain ⟨hsame, hopen⟩ := step_other hstep hclient
      rw [hsame, Action.statement_eq_false hclient]
      exact ⟨hinv.mono hseen hopen, by simpa using hbudget⟩

/-! ## Waiting -/

/-- Who has an insertion open is about to commit it. -/
def OpenInserts (s : World) : Prop :=
  ∀ e ∈ s.uncommitted, ∃ call id, s.clients e.1 = .inserted call id

lemma openInserts_init : OpenInserts World.init := by
  intro e he
  cases he

/-- A client that has no insertion open moves on. -/
lemma OpenInserts.setClient {c : ℕ} {s : World} (hinv : OpenInserts s)
    (hnone : ∀ call id, s.clients c ≠ .inserted call id) (state : ClientState) :
    OpenInserts (s.setClient c state) := by
  intro e he
  obtain ⟨call, id, hclient⟩ := hinv e he
  have hne : e.1 ≠ c := by
    intro heq
    exact hnone call id (heq ▸ hclient)
  exact ⟨call, id, (World.setClient_other s c state hne).trans hclient⟩

/-- The insertions of a client are closed. -/
lemma OpenInserts.close {c : ℕ} {s : World} (hinv : OpenInserts s)
    (f : List JobRow → List JobRow) (state : ClientState) :
    OpenInserts ((s.closeInsert c f).setClient c state) := by
  intro e he
  obtain ⟨he, hother⟩ := List.mem_filter.mp he
  have hne : e.1 ≠ c := by simpa using hother
  obtain ⟨call, id, hclient⟩ := hinv e he
  exact ⟨call, id, (World.setClient_other _ c state hne).trans hclient⟩

lemma OpenInserts.congr {s t : World} (hinv : OpenInserts s) (hclients : t.clients = s.clients)
    (hopen : t.uncommitted = s.uncommitted) : OpenInserts t := by
  intro e he
  rw [hopen] at he
  rw [hclients]
  exact hinv e he

lemma OpenInserts.step {a : Action} {s t : World} (hinv : OpenInserts s)
    (hstep : step h a s = some t) : OpenInserts t := by
  cases a with
  | tick elapsed =>
    cases hstep
    exact hinv.congr rfl rfl
  | call c kind req =>
    simp only [AssessmentEngine.step] at hstep
    split at hstep <;> cases hstep <;>
      exact hinv.setClient (fun call id hclient => by simp_all) _
  | insert c id =>
    obtain ⟨call, attempt, hclient, rfl | ⟨_, _, rfl⟩⟩ := stepInsert_eq_some hstep
    · exact hinv.setClient (fun call' id' hother => by rw [hclient] at hother; cases hother) _
    · have hbefore := hinv.setClient (c := c)
        (fun call' id' hother => by rw [hclient] at hother; cases hother) (.inserted call id)
      intro e he
      rcases List.mem_append.mp he with he | he
      · exact hbefore e he
      · rw [List.mem_singleton.mp he]
        exact ⟨call, id, World.setClient_self s c _⟩
  | commit c =>
    obtain ⟨call, id, _, rfl⟩ := stepCommit_eq_some hstep
    exact hinv.close _ _
  | select c =>
    obtain ⟨call, attempt, hclient, rfl⟩ := stepSelect_eq_some hstep
    exact hinv.setClient (fun call' id' hother => by rw [hclient] at hother; cases hother) _
  | rollback c =>
    obtain ⟨call, attempt, active, hclient, ⟨rfl, _⟩ | ⟨_, rfl⟩ | rfl⟩ :=
      stepRollback_eq_some hstep <;>
      exact hinv.setClient (fun call' id' hother => by rw [hclient] at hother; cases hother) _
  | abandon c =>
    cases hstep
    exact hinv.close _ _
  | startWorker w =>
    simp only [AssessmentEngine.step] at hstep
    split_ifs at hstep
    cases hstep
    exact hinv.congr rfl rfl
  | recoverStale w staleSeconds outcome =>
    obtain ⟨_, rfl⟩ := stepRecover_eq_some hstep
    exact hinv.congr (by simp) (by simp)
  | claimPending w locked outcome =>
    obtain ⟨_, rfl | ⟨r, _, _, rfl⟩⟩ := stepClaim_eq_some hstep
    · exact hinv
    · exact hinv.congr (by simp) (by simp)
  | finishSucceeded w result outcome =>
    obtain ⟨id, claimedAt, _, rfl⟩ := stepSucceed_eq_some hstep
    exact hinv.congr (by simp) (by simp)
  | generationFails w errorMessage =>
    obtain ⟨id, claimedAt, _, rfl⟩ := stepGenerationFails_eq_some hstep
    exact hinv.congr rfl rfl
  | finishFailed w outcome =>
    obtain ⟨id, claimedAt, errorMessage, _, rfl⟩ := stepFail_eq_some hstep
    exact hinv.congr (by simp) (by simp)
  | stopWorker w =>
    cases hstep
    exact hinv.congr rfl rfl

/-- The insertion of client `c` waits for client `c'`, which can commit. -/
def WaitsFor (h : Hashing) (c c' : ℕ) (s : World) : Prop :=
  ∃ call attempt r, s.clients c = .attempting call attempt ∧ (c', r) ∈ s.uncommitted ∧
    r.key = call.job.key ∧ (step h (.commit c') s).isSome = true

/-- While a call lasts, one of its statements can be taken, or its insertion waits for a client that
can commit. -/
lemma statement_enabled {c : ℕ} {s : World} (hopen : OpenInserts s)
    (hlasts : (s.clients c).budget ≠ 0) :
    (∃ a : Action, a.statement c = true ∧ (step h a s).isSome = true) ∨
      ∃ c', WaitsFor h c c' s := by
  cases hclient : s.clients c with
  | idle | returned | raised =>
    rw [hclient] at hlasts
    exact absurd rfl hlasts
  | attempting call' attempt =>
    by_cases hblocks : s.blocks call'.job.key = true
    · right
      obtain ⟨⟨c', r⟩, he, hkey⟩ := List.any_eq_true.mp hblocks
      rw [Bool.and_eq_true, decide_eq_true_eq] at hkey
      obtain ⟨call, id, hother⟩ := hopen _ he
      exact ⟨c', call', attempt, r, hclient, he, hkey.2, by simp [step, stepCommit, hother]⟩
    · left
      obtain ⟨id, hid⟩ := Infinite.exists_notMem_finset (s.index.map JobRow.id).toFinset
      refine ⟨.insert c id, by simp [Action.statement], ?_⟩
      have hfresh : (s.index.any fun r => decide (r.id = id)) = false := by
        refine List.any_eq_false.mpr fun r hr hrid => hid ?_
        exact List.mem_toFinset.mpr (List.mem_map.mpr ⟨r, hr, of_decide_eq_true hrid⟩)
      simp only [step, stepInsert, hclient, hfresh, Bool.eq_false_iff.mpr hblocks]
      cases enqueue s.now id call'.job s.rows <;> rfl
  | inserted call' id =>
    exact Or.inl ⟨.commit c, by simp [Action.statement], by simp [step, stepCommit, hclient]⟩
  | conflicted call' attempt =>
    exact Or.inl ⟨.select c, by simp [Action.statement], by simp [step, stepSelect, hclient]⟩
  | selected call' attempt active =>
    refine Or.inl ⟨.rollback c, by simp [Action.statement], ?_⟩
    simp only [step, stepRollback, hclient]
    cases call'.kind <;> cases active <;> (try split_ifs) <;> rfl

/-! ## The contract -/

/-- How a call of `enqueue_report` for `key` by client `c` stands after the actions `bs`. -/
def EnqueueOutcome (h : Hashing) (c : ℕ) (key : JobKey) (bs : List Action) (s t : World) : Prop :=
  match t.clients c with
  | .returned _ id => ∃ i, id = some i ∧ Passes (step h) (HasActiveJob key i) bs s
  | .raised _ => True
  | _ => (∃ a : Action, a.statement c = true ∧ (step h a t).isSome = true) ∨
      ∃ c', WaitsFor h c c' t

lemma enqueueOutcome_of_callInv {c : ℕ} {call : Call} {bs : List Action} {s t : World}
    (hopen : OpenInserts t)
    (hinv : CallInv (fun id => Passes (step h) (HasActiveJob call.job.key id) bs s) c call
      t.uncommitted (t.clients c)) : EnqueueOutcome h c call.job.key bs s t := by
  unfold EnqueueOutcome
  split
  case h_1 call' id hclient =>
    rw [hclient] at hinv
    exact hinv
  case h_2 => trivial
  case h_3 hreturned hraised =>
    refine statement_enabled hopen ?_
    cases hclient : t.clients c with
    | idle =>
      rw [hclient] at hinv
      exact hinv.elim
    | returned call' id => exact absurd hclient (hreturned call' id)
    | raised call' => exact absurd hclient (hraised call')
    | attempting | inserted | conflicted | selected => simp [ClientState.budget]

/-- In every reachable state each key has at most one active job, a recovery would not change that
whatever its threshold, and every call of `enqueue_report` raises, or returns the id of a job with
its key that was active during the call; it comes to that within six statements. -/
theorem one_active_job_per_key (as : List Action) (s : World)
    (hrun : run (step h) as World.init = some s) :
    (∀ key, (s.rows.filter fun r => r.active && decide (r.key = key)).length ≤ 1) ∧
    (∀ staleSeconds, UniqueActive
      (recoverStaleRunning s.now staleSeconds s.rows ++ s.uncommitted.map Prod.snd)) ∧
    (∀ c req s₁ bs t, step h (.call c .enqueueReport req) s = some s₁ →
      run (step h) bs s₁ = some t → (∀ a ∈ bs, a.interrupts c = false) →
      bs.countP (Action.statement c) ≤ 6 ∧ EnqueueOutcome h c (req.create h).key bs s₁ t) := by
  have hinv : TableInv s := tableInv_run hrun
  refine ⟨hinv.unique_rows.length_filter_le_one, fun _ => recoverStaleRunning_keeps hinv, ?_⟩
  intro c req s₁ bs t hcall hbs hint
  have hstart : s₁.clients c = .attempting ⟨.enqueueReport, req.create h⟩ 1 := by
    simp only [step] at hcall
    split at hcall <;> cases hcall <;> exact World.setClient_self _ _ _
  obtain ⟨hcallInv, hbudget⟩ := callInv_run rfl hstart hint hbs
  have hopen : OpenInserts t :=
    run_invariant (fun _ _ _ hu hstep => hu.step hstep)
      (run_append_eq_some.mpr ⟨s, hrun, run_cons_eq_some.mpr ⟨s₁, hcall, hbs⟩⟩) openInserts_init
  exact ⟨by omega, enqueueOutcome_of_callInv hopen hcallInv⟩

/-- A second call for the same report has to wait for the insertion of the first one, meets it once
it is committed, and joins its job. -/
theorem one_active_job_per_key_doubleClick :
    ∃ s s₁ t,
      run (step environmentHashing) [.call 0 .enqueueReport environmentRequest, .insert 0 7]
        World.init = some s ∧
      step environmentHashing (.call 1 .enqueueReport environmentRequest) s = some s₁ ∧
      step environmentHashing (.insert 1 8) s₁ = none ∧
      run (step environmentHashing) [.commit 0, .insert 1 8, .select 1, .rollback 1] s₁ = some t ∧
      t.clients 1 =
        .returned ⟨.enqueueReport, environmentRequest.create environmentHashing⟩ (some 7) ∧
      EnqueueOutcome environmentHashing 1 (environmentRequest.create environmentHashing).key
        [.commit 0, .insert 1 8, .select 1, .rollback 1] s₁ t :=
  ⟨_, _, _, rfl, rfl, rfl, rfl, rfl,
    ((one_active_job_per_key [.call 0 .enqueueReport environmentRequest, .insert 0 7] _ rfl).2.2 1
      environmentRequest _ _ _ rfl rfl (by decide)).2⟩

end AssessmentEngine
