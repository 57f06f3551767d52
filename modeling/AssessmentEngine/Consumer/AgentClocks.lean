import AssessmentEngine.Cache.Redis
import AssessmentEngine.Library.Calendar
import AssessmentEngine.Library.Runs

/-!
# Clock warnings and restart alerts

Two things that the consumer says about an agent, and keeps from saying too often.

A message whose times contradict each other is logged, once in the lifetime of a mark per agent.
Whatever Redis answers, an agent whose clock is wrong is never passed over for longer than that.

`_track_agent_restart` compares the start time of an agent with the one it saw last and counts the
changes.  The counter expires an hour after the last change, not after the first; what it counts is
a chain of changes each of which came within the hour after the one before (`streak`).

Both are told of a Redis that has room and evicts no key before its time, as `volatile-lru` lets it
when its memory is full: an evicted mark would give one more warning, an evicted counter one alert
less.
-/

namespace AssessmentEngine

open ExpiringStore Runs

/-! ## Contradictions of time -/

/-- The fields of an agent message that `_log_time_invariants` reads. -/
structure AgentReport where
  agentId : String
  bootTime : Option DateTime
  agentStartedAt : Option DateTime
  collectedAt : DateTime

inductive TimeContradiction
  | bootAfterStart
  | startAfterCollection
  deriving DecidableEq, Repr

/-- The orders that the times of the message break.  An unknown time breaks none. -/
def AgentReport.contradictions (r : AgentReport) : List TimeContradiction :=
  match r.agentStartedAt with
  | none => []
  | some started =>
    (if r.bootTime.any fun boot => decide (started.instant < boot.instant) then
      [.bootAfterStart] else []) ++
    (if r.collectedAt.instant < started.instant then [.startAfterCollection] else [])

/-- `_log_time_invariants`: what is logged, and the marks of `_time_warn_allowed` afterwards. -/
def logTimeInvariants (ttls : RedisTtls) (reply : Reply) (now : ℤ) (r : AgentReport)
    (warned : Store String Unit) : List TimeContradiction × Store String Unit :=
  match r.contradictions with
  | [] => ([], warned)
  | broken =>
    match safeSetNx reply now r.agentId () ttls.redisTtlTimeInvariantWarned warned with
    | (some false, warned) => ([], warned)
    | (_, warned) => (broken, warned)

/-- The warnings of a run, each with its time, the agent and whether Redis had answered. -/
structure WarningWorld where
  now : ℤ
  warned : Store String Unit
  warnings : List (ℤ × String × Bool)

inductive WarningAction
  | tick (elapsed : ℕ)
  | report (r : AgentReport) (reply : Reply)

def warningStep (ttls : RedisTtls) : WarningAction → WarningWorld → Option WarningWorld
  | .tick elapsed, s => some { s with now := s.now + elapsed }
  | .report r reply, s =>
    let (logged, warned) := logTimeInvariants ttls reply s.now r s.warned
    some { s with
      warned := warned
      warnings :=
        if logged = [] then s.warnings else (s.now, r.agentId, reply.heard) :: s.warnings }

def WarningWorld.init : WarningWorld := ⟨0, Store.empty, []⟩

/-- The warnings about an agent that a mark allowed. -/
def WarningWorld.allowed (agentId : String) (s : WarningWorld) : ℕ :=
  s.warnings.countP fun w => decide (w.2.1 = agentId) && w.2.2

/-- The warnings about an agent that came of a failure of Redis. -/
def WarningWorld.failedOpen (agentId : String) (s : WarningWorld) : ℕ :=
  s.warnings.countP fun w => decide (w.2.1 = agentId) && !w.2.2

/-- A mark stands for a warning as old as the mark, and the warnings that a mark allowed are a
lifetime apart. -/
structure WarningInv (ttls : RedisTtls) (s : WarningWorld) : Prop where
  now : 0 ≤ s.now
  marks : ∀ agentId e, s.warned agentId = some e → ∃ time heard,
    (time, agentId, heard) ∈ s.warnings ∧ time ≤ s.now ∧
      e.expiresAt = some (time + ttlMicros ttls.redisTtlTimeInvariantWarned)
  spaced : ∀ agentId, Spaced (ttlMicros ttls.redisTtlTimeInvariantWarned) s.now
    (s.allowed agentId) (s.warned agentId)

variable {ttls : RedisTtls}

/-- A message without contradictions is not logged, and one with some unless a mark forbids it. -/
lemma logTimeInvariants_cases (ttls : RedisTtls) (reply : Reply) (now : ℤ) (r : AgentReport)
    (warned : Store String Unit) :
    (r.contradictions = [] ∧ logTimeInvariants ttls reply now r warned = ([], warned)) ∨
      (r.contradictions ≠ [] ∧ (get now r.agentId warned).isSome ∧
        logTimeInvariants ttls reply now r warned = ([], warned)) ∨
      (r.contradictions ≠ [] ∧ ∃ answer marks, answer ≠ some false ∧
        safeSetNx reply now r.agentId () ttls.redisTtlTimeInvariantWarned warned =
          (answer, marks) ∧
        logTimeInvariants ttls reply now r warned = (r.contradictions, marks)) := by
  unfold logTimeInvariants
  cases hbroken : r.contradictions with
  | nil => exact Or.inl ⟨rfl, rfl⟩
  | cons x xs =>
    right
    rcases hset : safeSetNx reply now r.agentId () ttls.redisTtlTimeInvariantWarned warned with
      ⟨answer, marks⟩
    rcases answer with _ | _ | _
    · exact Or.inr ⟨by simp, none, marks, by simp, rfl, rfl⟩
    · obtain ⟨hlive, hsame⟩ := safeSetNx_repeated hset
      exact Or.inl ⟨by simp, hlive, by rw [hsame]⟩
    · exact Or.inr ⟨by simp, some true, marks, by simp, rfl, rfl⟩

/-- An answer of Redis comes with a result. -/
lemma safeSetNx_isSome {reply : Reply} {now : ℤ} {k : String} {ex : ℕ+} {s s' : Store String Unit}
    {answer : Option Bool} (hset : safeSetNx reply now k () ex s = (answer, s')) :
    answer.isSome = reply.heard := by
  have hanswer := congrArg (fun p => p.1.isSome) hset
  cases reply with
  | answered => exact hanswer.symm
  | failed applied => exact hanswer.symm

/-- A warning is written down. -/
lemma WarningInv.of_warning {s : WarningWorld} (hinv : WarningInv ttls s) {r : AgentReport}
    {reply : Reply} {answer : Option Bool} {marks : Store String Unit}
    (hanswer : answer ≠ some false)
    (hset : safeSetNx reply s.now r.agentId () ttls.redisTtlTimeInvariantWarned s.warned =
      (answer, marks)) :
    WarningInv ttls
      { s with warned := marks, warnings := (s.now, r.agentId, reply.heard) :: s.warnings } where
  now := hinv.now
  marks agentId e he := by
    by_cases hagent : agentId = r.agentId
    · subst hagent
      have hcases : marks = s.warned ∨ marks = ExpiringStore.set s.now r.agentId ()
          (some (ttlMicros ttls.redisTtlTimeInvariantWarned)) s.warned := by
        rcases answer with _ | _ | _
        · exact (safeSetNx_failed hset).imp_right And.right
        · exact absurd rfl hanswer
        · exact Or.inr (safeSetNx_first hset).2
      rcases hcases with rfl | rfl
      · obtain ⟨time, heard, hmem, hrest⟩ := hinv.marks r.agentId e he
        exact ⟨time, heard, List.mem_cons_of_mem _ hmem, hrest⟩
      · simp only [set_self, Option.some_inj] at he
        subst he
        exact ⟨s.now, reply.heard, List.mem_cons_self, le_rfl, rfl⟩
    · have hother := safeSetNx_of_ne hagent reply s.now () ttls.redisTtlTimeInvariantWarned s.warned
      rw [hset] at hother
      obtain ⟨time, heard, hmem, hrest⟩ := hinv.marks agentId e (hother.symm.trans he)
      exact ⟨time, heard, List.mem_cons_of_mem _ hmem, hrest⟩
  spaced agentId := by
    by_cases hagent : agentId = r.agentId
    · subst hagent
      have hspaced := spaced_safeSetNx (hinv.spaced r.agentId) hinv.now hset
      have hcount : WarningWorld.allowed r.agentId { s with
          warned := marks, warnings := (s.now, r.agentId, reply.heard) :: s.warnings } =
            s.allowed r.agentId + if answer = some true then 1 else 0 := by
        have hheard := safeSetNx_isSome hset
        rcases answer with _ | _ | _
        · simp [WarningWorld.allowed, ← hheard]
        · exact absurd rfl hanswer
        · simp [WarningWorld.allowed, ← hheard]
      rw [hcount]
      exact hspaced
    · have hother : marks agentId = s.warned agentId := by
        have hsame :=
          safeSetNx_of_ne hagent reply s.now () ttls.redisTtlTimeInvariantWarned s.warned
        rw [hset] at hsame
        exact hsame
      have hcount : WarningWorld.allowed agentId { s with
          warned := marks, warnings := (s.now, r.agentId, reply.heard) :: s.warnings } =
            s.allowed agentId := by
        have hne : ¬ r.agentId = agentId := fun h => hagent h.symm
        simp [WarningWorld.allowed, hne]
      have hspaced := hinv.spaced agentId
      rw [← hother] at hspaced
      rw [hcount]
      exact hspaced

lemma WarningInv.step {a : WarningAction} {s t : WarningWorld} (hinv : WarningInv ttls s)
    (hstep : warningStep ttls a s = some t) : WarningInv ttls t := by
  cases a with
  | tick elapsed =>
    cases hstep
    refine ⟨by have hnow := hinv.now; simp only; omega, fun agentId e he => ?_, fun agentId => ?_⟩
    · obtain ⟨time, heard, hmem, hle, hexpires⟩ := hinv.marks agentId e he
      exact ⟨time, heard, hmem, by simp only; omega, hexpires⟩
    · exact (hinv.spaced agentId).later (by simp)
  | report r reply =>
    rcases logTimeInvariants_cases ttls reply s.now r s.warned with
      ⟨_, hlog⟩ | ⟨_, _, hlog⟩ | ⟨hbroken, answer, marks, hanswer, hset, hlog⟩
    · simp only [warningStep, hlog, if_true, Option.some_inj] at hstep
      exact hstep ▸ hinv
    · simp only [warningStep, hlog, if_true, Option.some_inj] at hstep
      exact hstep ▸ hinv
    · simp only [warningStep, hlog, if_neg hbroken, Option.some_inj] at hstep
      exact hstep ▸ hinv.of_warning hanswer hset

lemma WarningInv.init : WarningInv ttls WarningWorld.init where
  now := le_rfl
  marks agentId e he := by cases he
  spaced _ := rfl

/-- Every message whose times contradict each other finds, once it is handled, a warning about its
agent that is younger than the lifetime of a mark, whatever Redis did; and the warnings about an
agent that do not come of a failure of Redis are that far apart, so that a run has at most one for
each lifetime it has begun. -/
theorem warnings_cover_and_spare {as : List WarningAction} {t : WarningWorld}
    (hrun : run (warningStep ttls) as WarningWorld.init = some t) :
    (∀ bs r reply u, as = bs ++ [.report r reply] → r.contradictions ≠ [] →
      run (warningStep ttls) bs WarningWorld.init = some u →
        ∃ time heard, (time, r.agentId, heard) ∈ t.warnings ∧ time ≤ t.now ∧
          t.now < time + ttlMicros ttls.redisTtlTimeInvariantWarned) ∧
      ∀ agentId, (t.allowed agentId : ℤ) * ttlMicros ttls.redisTtlTimeInvariantWarned ≤
        t.now + ttlMicros ttls.redisTtlTimeInvariantWarned := by
  have hinvs : ∀ bs u, run (warningStep ttls) bs WarningWorld.init = some u → WarningInv ttls u :=
    fun bs u hu => run_invariant (fun _ _ _ hinv hstep => hinv.step hstep) hu WarningInv.init
  have hpos := ttlMicros_pos ttls.redisTtlTimeInvariantWarned
  refine ⟨fun bs r reply u has hbroken hu => ?_, fun agentId => ?_⟩
  · have hinv := hinvs bs u hu
    subst has
    obtain ⟨u', hu', hstep⟩ := run_snoc_eq_some.mp hrun
    rw [hu, Option.some_inj] at hu'
    subst hu'
    rcases logTimeInvariants_cases ttls reply u.now r u.warned with
      ⟨hnone, _⟩ | ⟨_, hlive, hlog⟩ | ⟨_, answer, marks, hanswer, hset, hlog⟩
    · exact absurd hnone hbroken
    · simp only [warningStep, hlog, if_true, Option.some_inj] at hstep
      subst hstep
      obtain ⟨v, hv⟩ := Option.isSome_iff_exists.mp hlive
      obtain ⟨e, he, hentry, -⟩ := get_eq_some_iff.mp hv
      obtain ⟨time, heard, hmem, hle, hexpires⟩ := hinv.marks r.agentId e he
      refine ⟨time, heard, hmem, hle, ?_⟩
      simpa [Entry.live, hexpires] using hentry
    · simp only [warningStep, hlog, if_neg hbroken, Option.some_inj] at hstep
      subst hstep
      exact ⟨u.now, reply.heard, List.mem_cons_self, le_rfl, by simp only; omega⟩
  · have hinv := hinvs as t hrun
    exact (hinv.spaced agentId).bound hinv.now hpos.le

/-- A host that says it started its agent before it booted, three times within two minutes. -/
def resumedHost : AgentReport where
  agentId := "5f0c2a34-0000-4000-8000-0000000000a1"
  bootTime := some ⟨⟨2026, 3, 2, 14, 30, 0, 0, some 0⟩, by decide⟩
  agentStartedAt := some ⟨⟨2026, 3, 2, 14, 10, 0, 0, some 0⟩, by decide⟩
  collectedAt := ⟨⟨2026, 3, 2, 14, 31, 0, 0, some 0⟩, by decide⟩

theorem warnings_cover_and_spare_resumed :
    ∃ t, run (warningStep {}) [.report resumedHost .answered, .tick 60000000,
        .report resumedHost (.failed false), .tick 60000000, .report resumedHost .answered]
          WarningWorld.init = some t ∧
      (∀ bs r reply u, [WarningAction.report resumedHost .answered, .tick 60000000,
          .report resumedHost (.failed false), .tick 60000000, .report resumedHost .answered] =
            bs ++ [.report r reply] → r.contradictions ≠ [] →
        run (warningStep {}) bs WarningWorld.init = some u →
          ∃ time heard, (time, r.agentId, heard) ∈ t.warnings ∧ time ≤ t.now ∧
            t.now < time + ttlMicros 3600) ∧
        ∀ agentId, (t.allowed agentId : ℤ) * ttlMicros 3600 ≤ t.now + ttlMicros 3600 := by
  obtain ⟨t, ht⟩ : ∃ t, run (warningStep {}) [.report resumedHost .answered, .tick 60000000,
      .report resumedHost (.failed false), .tick 60000000, .report resumedHost .answered]
        WarningWorld.init = some t := ⟨_, rfl⟩
  exact ⟨t, ht, warnings_cover_and_spare ht⟩

/-! ## Restarts -/

/-- A metrics message of a server, with the start time that its agent states. -/
structure AgentStart where
  time : ℤ
  serverId : ℕ
  started : DateTime

/-- What `_track_agent_restart` keeps in Redis, and the alerts it gave: the server and the count,
the last one first. -/
structure RestartWorld where
  lastAgentStart : Store ℕ String
  agentRestarts : Store ℕ ℕ
  alerts : List (ℕ × ℕ)

def RestartWorld.init : RestartWorld := ⟨Store.empty, Store.empty, []⟩

/-- The answers of Redis to the three commands of a call. -/
structure TrackReplies where
  read : Reply := .answered
  count : Reply := .answered
  write : Reply := .answered

/-- The counter goes up when a start time is known and is another one; an alert from the threshold
on. -/
def countRestart (ttls : RedisTtls) (threshold : ℕ) (replies : TrackReplies) (m : AgentStart)
    (s : RestartWorld) : RestartWorld :=
  match safeGet replies.read m.time m.serverId s.lastAgentStart with
  | none => s
  | some lastIso =>
    if lastIso ≠ "" ∧ lastIso ≠ m.started.isoformat then
      let (count, agentRestarts) := safeIncrWithTtl replies.count m.time m.serverId
        ttls.redisTtlAgentRestarts s.agentRestarts
      { s with
        agentRestarts := agentRestarts
        alerts := ((count.filter fun n => decide (threshold ≤ n)).map fun n =>
          (m.serverId, n)).toList ++ s.alerts }
    else s

/-- `_track_agent_restart` of a message that states a start time; one that does not is no call. -/
def trackAgentRestart (ttls : RedisTtls) (threshold : ℕ) (replies : TrackReplies) (m : AgentStart)
    (s : RestartWorld) : RestartWorld :=
  let s := countRestart ttls threshold replies m s
  { s with
    lastAgentStart := (safeSet replies.write m.time m.serverId m.started.isoformat
      (some ttls.redisTtlLastAgentStart) s.lastAgentStart).2 }

/-- The calls of a run in order, with Redis up. -/
def trackAgentRestarts (ttls : RedisTtls) (threshold : ℕ) (ms : List AgentStart) : RestartWorld :=
  ms.foldl (fun s m => trackAgentRestart ttls threshold {} m s) .init

/-! What the counter means, of the messages themselves: the last one first. -/

/-- The start time that is remembered at `now`: that of the last message of the server, if it is not
older than the memory. -/
def rememberedStart (ttls : RedisTtls) (serverId : ℕ) (now : ℤ) (older : List AgentStart) :
    Option DateTime :=
  ((older.find? fun m => decide (m.serverId = serverId)).filter fun m =>
    decide (now < m.time + ttlMicros ttls.redisTtlLastAgentStart)).map AgentStart.started

/-- The message states another start time than the one remembered. -/
def isRestart (ttls : RedisTtls) (m : AgentStart) (older : List AgentStart) : Bool :=
  (rememberedStart ttls m.serverId m.time older).any fun started => decide (started ≠ m.started)

/-- The times of the restarts of a server. -/
def restartTimes (ttls : RedisTtls) (serverId : ℕ) : List AgentStart → List ℤ
  | [] => []
  | m :: older =>
    if m.serverId = serverId ∧ isRestart ttls m older = true then
      m.time :: restartTimes ttls serverId older
    else restartTimes ttls serverId older

/-- How many restarts, from the last one back, came each within the window after the one before. -/
def streak (ttls : RedisTtls) : List ℤ → ℕ
  | [] => 0
  | [_] => 1
  | t :: t' :: ts =>
    if t < t' + ttlMicros ttls.redisTtlAgentRestarts then streak ttls (t' :: ts) + 1 else 1

/-- The alerts that the messages call for: at each restart whose streak is long enough. -/
def restartAlerts (ttls : RedisTtls) (threshold : ℕ) : List AgentStart → List (ℕ × ℕ)
  | [] => []
  | m :: older =>
    let count := streak ttls (restartTimes ttls m.serverId (m :: older))
    if isRestart ttls m older = true ∧ threshold ≤ count then
      (m.serverId, count) :: restartAlerts ttls threshold older
    else restartAlerts ttls threshold older

/-- A streak of `n` restarts: so many, each within the window after the one before. -/
lemma le_streak_iff (ttls : RedisTtls) (n : ℕ) (times : List ℤ) :
    n ≤ streak ttls times ↔ n ≤ times.length ∧
      (times.take n).IsChain fun t t' => t < t' + ttlMicros ttls.redisTtlAgentRestarts := by
  induction times generalizing n with
  | nil => simp [streak]
  | cons t ts ih =>
    cases n with
    | zero => simp
    | succ n =>
      cases ts with
      | nil =>
        have hone : streak ttls [t] = 1 := rfl
        simp [hone]
      | cons t' ts =>
        cases n with
        | zero =>
          have hpos : 1 ≤ streak ttls (t :: t' :: ts) := by
            rw [streak]
            split_ifs <;> omega
          simp [hpos]
        | succ n =>
          have htail := ih (n + 1)
          rw [streak]
          by_cases hclose : t < t' + ttlMicros ttls.redisTtlAgentRestarts
          · simp only [hclose, if_true, List.take_succ_cons, List.isChain_cons_cons, true_and,
              List.length_cons] at htail ⊢
            rw [Nat.add_le_add_iff_right, htail]
            exact and_congr_left fun _ => by omega
          · simp [hclose]

/-- The counter of a server, from the times of its restarts. -/
def restartCounter (ttls : RedisTtls) : List ℤ → Option (Entry ℕ)
  | [] => none
  | t :: ts => some ⟨streak ttls (t :: ts), some (t + ttlMicros ttls.redisTtlAgentRestarts)⟩

/-- Redis holds what the messages say. -/
structure TrackInv (ttls : RedisTtls) (threshold : ℕ) (older : List AgentStart)
    (s : RestartWorld) : Prop where
  last : ∀ serverId, s.lastAgentStart serverId =
    (older.find? fun m => decide (m.serverId = serverId)).map fun m =>
      ⟨m.started.isoformat, some (m.time + ttlMicros ttls.redisTtlLastAgentStart)⟩
  counter : ∀ serverId,
    s.agentRestarts serverId = restartCounter ttls (restartTimes ttls serverId older)
  alerts : s.alerts = restartAlerts ttls threshold older

/-- The start time that is read is the one that is remembered. -/
lemma TrackInv.get_last {threshold : ℕ} {older : List AgentStart} {s : RestartWorld}
    (hinv : TrackInv ttls threshold older s) (now : ℤ) (serverId : ℕ) :
    get now serverId s.lastAgentStart =
      (rememberedStart ttls serverId now older).map DateTime.isoformat := by
  rw [ExpiringStore.get, hinv.last, rememberedStart]
  cases older.find? fun m => decide (m.serverId = serverId) with
  | none => rfl
  | some m =>
    by_cases hlive : now < m.time + ttlMicros ttls.redisTtlLastAgentStart <;>
      simp [Option.filter, Entry.live, hlive]

/-- One more restart makes the streak one longer, or starts a new one. -/
lemma TrackInv.count_eq {threshold : ℕ} {older : List AgentStart} {s : RestartWorld}
    (hinv : TrackInv ttls threshold older s) (now : ℤ) (serverId : ℕ) :
    (get now serverId s.agentRestarts).getD 0 + 1 =
      streak ttls (now :: restartTimes ttls serverId older) := by
  rw [ExpiringStore.get, hinv.counter]
  cases restartTimes ttls serverId older with
  | nil => rfl
  | cons t ts =>
    rw [streak]
    by_cases hlive : now < t + ttlMicros ttls.redisTtlAgentRestarts <;>
      simp [restartCounter, Option.filter, Entry.live, hlive]

/-- The comparison of the texts is that of the start times. -/
lemma isRestart_iff {m : AgentStart} {older : List AgentStart} {started : DateTime}
    (hremembered : rememberedStart ttls m.serverId m.time older = some started) :
    isRestart ttls m older = true ↔
      started.isoformat ≠ "" ∧ started.isoformat ≠ m.started.isoformat := by
  rw [isRestart, hremembered, Option.any_some, decide_eq_true_eq,
    DateTime.isoformat_injective.ne_iff]
  exact (and_iff_right started.isoformat_ne_empty).symm

lemma restartTimes_cons_of_not {m : AgentStart} {older : List AgentStart} {serverId : ℕ}
    (hnot : ¬ (m.serverId = serverId ∧ isRestart ttls m older = true)) :
    restartTimes ttls serverId (m :: older) = restartTimes ttls serverId older := by
  rw [restartTimes, if_neg hnot]

/-- What counting does, when it is a restart and when it is none. -/
lemma countRestart_eq (threshold : ℕ) {older : List AgentStart} {s : RestartWorld}
    (hinv : TrackInv ttls threshold older s) (m : AgentStart) :
    countRestart ttls threshold {} m s =
      if isRestart ttls m older = true then
        let count := streak ttls (m.time :: restartTimes ttls m.serverId older)
        { s with
          agentRestarts := ExpiringStore.set m.time m.serverId count
            (some (ttlMicros ttls.redisTtlAgentRestarts)) s.agentRestarts
          alerts := if threshold ≤ count then (m.serverId, count) :: s.alerts else s.alerts }
      else s := by
  have hget : safeGet Reply.answered m.time m.serverId s.lastAgentStart =
      (rememberedStart ttls m.serverId m.time older).map DateTime.isoformat :=
    hinv.get_last m.time m.serverId
  unfold countRestart
  rw [hget]
  cases hremembered : rememberedStart ttls m.serverId m.time older with
  | none =>
    have hnot : ¬ isRestart ttls m older = true := by simp [isRestart, hremembered]
    rw [if_neg hnot]
    rfl
  | some started =>
    simp only [Option.map_some, ← isRestart_iff hremembered]
    by_cases hrestart : isRestart ttls m older = true
    · rw [if_pos hrestart, if_pos hrestart, ← hinv.count_eq m.time m.serverId]
      by_cases hlong : threshold ≤ (get m.time m.serverId s.agentRestarts).getD 0 + 1 <;>
        simp [safeIncrWithTtl, incrWithTtl, Reply.heard, Reply.applied, hlong, Option.filter]
    · rw [if_neg hrestart, if_neg hrestart]

lemma TrackInv.step {threshold : ℕ} {older : List AgentStart} {s : RestartWorld}
    (hinv : TrackInv ttls threshold older s) (m : AgentStart) :
    TrackInv ttls threshold (m :: older) (trackAgentRestart ttls threshold {} m s) := by
  have hcount := countRestart_eq threshold hinv m
  have hlast : (countRestart ttls threshold {} m s).lastAgentStart = s.lastAgentStart := by
    rw [hcount]
    split_ifs <;> rfl
  refine ⟨fun serverId => ?_, fun serverId => ?_, ?_⟩
  · have hset : (trackAgentRestart ttls threshold {} m s).lastAgentStart =
        ExpiringStore.set m.time m.serverId m.started.isoformat
          (some (ttlMicros ttls.redisTtlLastAgentStart)) s.lastAgentStart := by
      rw [← hlast]
      rfl
    rw [hset]
    by_cases hserver : serverId = m.serverId
    · subst hserver
      rw [set_self]
      simp
    · have hother : ¬ m.serverId = serverId := fun h => hserver h.symm
      rw [set_of_ne hserver, hinv.last, List.find?_cons_of_neg (by simp [hother])]
  · have hsame : (trackAgentRestart ttls threshold {} m s).agentRestarts =
        (countRestart ttls threshold {} m s).agentRestarts := rfl
    rw [hsame, hcount]
    by_cases hrestart : isRestart ttls m older = true
    · rw [if_pos hrestart]
      by_cases hserver : serverId = m.serverId
      · subst hserver
        simp only [set_self, restartTimes, hrestart, and_self, if_true, restartCounter,
          Option.map_some]
      · have hother : ¬ m.serverId = serverId := fun h => hserver h.symm
        rw [restartTimes_cons_of_not fun h => hother h.1, ← hinv.counter]
        exact set_of_ne hserver ..
    · rw [if_neg hrestart, restartTimes_cons_of_not fun h => hrestart h.2, hinv.counter]
  · have hsame : (trackAgentRestart ttls threshold {} m s).alerts =
        (countRestart ttls threshold {} m s).alerts := rfl
    rw [hsame, hcount, restartAlerts]
    by_cases hrestart : isRestart ttls m older = true
    · simp only [hrestart, if_true, true_and, restartTimes, hinv.alerts]
    · simp only [hrestart, if_false, false_and, hinv.alerts, Bool.false_eq_true]

lemma trackInv_run (threshold : ℕ) (ms : List AgentStart) :
    TrackInv ttls threshold ms.reverse (trackAgentRestarts ttls threshold ms) := by
  induction ms using List.reverseRecOn with
  | nil => exact ⟨fun _ => rfl, fun _ => rfl, rfl⟩
  | append_singleton ms m ih =>
    rw [trackAgentRestarts, List.foldl_append, List.reverse_append]
    exact ih.step m

/-- With Redis up, over any sequence of messages of any servers: the alerts are those that the
messages call for, and a message gives one exactly when its start time differs from the one before
it, which is at most a day old, and it ends a chain of as many such restarts of its server as the
threshold says, each within an hour after the one before. -/
theorem restart_alerts_exact (threshold : ℕ) (ms : List AgentStart) :
    (trackAgentRestarts ttls threshold ms).alerts = restartAlerts ttls threshold ms.reverse ∧
      ∀ m, (trackAgentRestarts ttls threshold (ms ++ [m])).alerts ≠
          (trackAgentRestarts ttls threshold ms).alerts ↔
        isRestart ttls m ms.reverse = true ∧
          let times := restartTimes ttls m.serverId (m :: ms.reverse)
          threshold ≤ times.length ∧
            (times.take threshold).IsChain fun t t' =>
              t < t' + ttlMicros ttls.redisTtlAgentRestarts := by
  have hexact : ∀ ms, (trackAgentRestarts ttls threshold ms).alerts =
      restartAlerts ttls threshold ms.reverse := fun ms => (trackInv_run threshold ms).alerts
  refine ⟨hexact ms, fun m => ?_⟩
  rw [hexact, hexact, List.reverse_append, List.reverse_singleton, List.singleton_append,
    restartAlerts]
  simp only [le_streak_iff]
  split_ifs with halert
  · simp [halert.1, halert.2]
  · simpa using halert

end AssessmentEngine
