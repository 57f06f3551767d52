import AssessmentEngine.Cache.Redis
import AssessmentEngine.Ingest.Metrics
import AssessmentEngine.Library.Runs

/-!
# The way of a message from its queue into the database

One queue of the broker, the consumer processes that take messages from it, the idempotency marks in
Redis and the database.  A handler runs inside `message.process(requeue=False)`: it acknowledges the
message when it returns, and the broker dead-letters it when it raises.  A message that is neither
when its channel closes is ready again, and will be delivered once more.

The mark is set before the transaction is committed.  So a handler that is cancelled between the two
leaves a mark without a row, and the redelivery finds a duplicate; `history` records where that
happens.  A process that stops on a signal drains first: it takes no more deliveries and waits for
the handlers that have begun, up to a deadline.

What the queue carries is a parameter: bodies `β`, accepted messages `M`, databases `δ`.
-/

namespace AssessmentEngine

open ExpiringStore Table Runs

/-! ## States -/

/-- A handler: `_parse` of its model, the id that idempotency goes by, and the transaction of a
message, if there is one; where that has no result it can only raise. -/
structure MessageHandler (β M δ : Type) where
  parse : β → Option M
  messageId : M → String
  save : M → Option (δ → Option δ)

/-- How far a handler is. -/
inductive Phase
  /-- Delivered; its task has not begun. -/
  | delivered
  /-- Parsing and the idempotency check are ahead. -/
  | begun
  /-- In an attempt of `_db_retry`, before its commit. -/
  | storing (attempt : ℕ)
  /-- The commit is durable, and the handler has not learnt of it. -/
  | committed (attempt : ℕ)
  /-- All but the acknowledgement is done. -/
  | finishing
  deriving DecidableEq, Repr

/-- The two ways into the dead-letter queue: an exception of the handler, and the limits of the
queue on age and length. -/
inductive DeadLetter
  | rejected
  | dropped
  deriving DecidableEq, Repr

inductive Place
  | ready
  | unacked (c : ℕ) (phase : Phase)
  | acked
  | dead (why : DeadLetter)
  deriving DecidableEq, Repr

/-- A message of the queue, under the number of its publication. -/
structure Envelope (β : Type) where
  tag : ℕ
  body : β
  publishedAt : ℤ
  place : Place

def Envelope.put {β : Type} (p : Place) (e : Envelope β) : Envelope β := { e with place := p }

/-- `x-message-ttl` and `x-max-length` of the queue. -/
structure QueueLimits where
  ttlMs : Option ℕ
  maxLen : Option ℕ

/-- A consumer process; `draining` from the signal on, with the deadline of `_drain` and whether the
broker has confirmed `basic.cancel`. -/
inductive ProcessState
  | down
  | consuming
  | draining (deadline : ℤ) (cancelled : Bool)
  deriving DecidableEq, Repr

/-- What is worth remembering of a message id. -/
inductive DeliveryEvent
  /-- The check set the mark. -/
  | marked (messageId : String)
  /-- The check had no answer of Redis. -/
  | failedOpen (messageId : String)
  /-- The message asks for no transaction. -/
  | nothingToSave (messageId : String)
  /-- The handler saw an exception of a transaction that was committed. -/
  | lostCommit (messageId : String)
  /-- The handler was cancelled between the check and the commit. -/
  | interrupted (messageId : String)
  deriving DecidableEq, Repr

structure QueueWorld (β M δ : Type) where
  now : ℤ
  envelopes : List (Envelope β)
  processes : ℕ → ProcessState
  marks : Store String Unit
  database : δ
  /-- The messages whose transactions are in the database, the last one first. -/
  commits : List M
  history : List DeliveryEvent

def QueueWorld.init {β M δ : Type} (database : δ) : QueueWorld β M δ where
  now := 0
  envelopes := []
  processes := fun _ => .down
  marks := Store.empty
  database := database
  commits := []
  history := []

inductive QueueAction (β : Type)
  | tick (elapsed : ℕ)
  | publish (body : β)
  /-- The broker dead-letters a message over the limits of the queue. -/
  | drop (tag : ℕ)
  | start (c : ℕ)
  | signal (c : ℕ)
  | cancelConsumer (c : ℕ)
  | closeChannel (c : ℕ)
  | channelLost (c : ℕ)
  | crash (c : ℕ)
  | deliver (c tag : ℕ)
  | begin (tag : ℕ)
  | check (tag : ℕ) (reply : Reply)
  | commit (tag : ℕ)
  | returned (tag : ℕ)
  | raised (tag : ℕ) (permanent : Bool)
  | ack (tag : ℕ)

variable {β M δ : Type}

/-! ## Steps -/

/-- `prefetch_count`. -/
def prefetchCount : ℕ := 10

/-- `_SHUTDOWN_DRAIN_SEC`, in microseconds. -/
def shutdownDrain : ℤ := 5 * 1000000

namespace Envelope

/-- Process `c` has the message, unacknowledged. -/
def heldBy (c : ℕ) (e : Envelope β) : Bool :=
  match e.place with
  | .unacked c' _ => decide (c' = c)
  | _ => false

/-- The task of the handler has begun: it is in the set `inflight`. -/
def inflight (e : Envelope β) : Bool :=
  match e.place with
  | .unacked _ .delivered => false
  | .unacked _ _ => true
  | _ => false

/-- The handler is between the idempotency check and the commit. -/
def storing (e : Envelope β) : Bool :=
  match e.place with
  | .unacked _ (.storing _) => true
  | _ => false

def isReady (e : Envelope β) : Bool := decide (e.place = .ready)

/-- Older than the queue keeps messages. -/
def overdue (limits : QueueLimits) (now : ℤ) (e : Envelope β) : Bool :=
  match limits.ttlMs with
  | some ttl => decide (e.publishedAt + ttl * 1000 ≤ now)
  | none => false

end Envelope

/-- The process takes deliveries. -/
def ProcessState.takes : ProcessState → Bool
  | .down => false
  | .consuming => true
  | .draining _ cancelled => !cancelled

namespace QueueWorld

def envelope (tag : ℕ) (s : QueueWorld β M δ) : Option (Envelope β) :=
  findId Envelope.tag tag s.envelopes

/-- The message goes to another place. -/
def move (tag : ℕ) (p : Place) (s : QueueWorld β M δ) : QueueWorld β M δ :=
  { s with envelopes := updateWhere (fun e => decide (e.tag = tag)) (Envelope.put p) s.envelopes }

def setProcess (c : ℕ) (state : ProcessState) (s : QueueWorld β M δ) : QueueWorld β M δ :=
  { s with processes := Function.update s.processes c state }

/-- More messages are ready than the queue keeps. -/
def overfull (limits : QueueLimits) (s : QueueWorld β M δ) : Bool :=
  match limits.maxLen with
  | some n => decide (n < (s.envelopes.filter Envelope.isReady).length)
  | none => false

/-- The channel of `c` is gone: its handlers are cancelled, its messages ready again. -/
def requeue (h : MessageHandler β M δ) (c : ℕ) (s : QueueWorld β M δ) : QueueWorld β M δ :=
  { s with
    envelopes := updateWhere (Envelope.heldBy c) (Envelope.put .ready) s.envelopes
    history :=
      (s.envelopes.filter fun e => e.heldBy c && e.storing).filterMap
        (fun e => (h.parse e.body).map fun m => .interrupted (h.messageId m)) ++ s.history }

/-- No handler of `c` is in `inflight`. -/
def drained (c : ℕ) (s : QueueWorld β M δ) : Bool :=
  s.envelopes.all fun e => !(e.heldBy c && e.inflight)

end QueueWorld

/-- The place of a message whose transaction raised in attempt `n`: `_db_retry` goes on after a
transient failure, but for the last attempt. -/
def afterRaise (c n : ℕ) (permanent : Bool) : Place :=
  if permanent ∨ retryMaxAttempts ≤ n then .dead .rejected else .unacked c (.storing (n + 1))

/-- The record of a check that lets the message pass. -/
def passEvent (answer : Option Bool) (messageId : String) : DeliveryEvent :=
  if answer.isSome then .marked messageId else .failedOpen messageId

/-- Parsing and `_check_idempotent`.  What does not parse raises; a repeated id ends the handler;
otherwise its transaction is next, if it has one. -/
def handleCheck (h : MessageHandler β M δ) (ttls : RedisTtls) (tag : ℕ) (c : ℕ) (e : Envelope β)
    (reply : Reply) (s : QueueWorld β M δ) : QueueWorld β M δ :=
  match h.parse e.body with
  | none => s.move tag (.dead .rejected)
  | some m =>
    let id := h.messageId m
    match safeSetNx reply s.now id () ttls.redisTtlIdempotent s.marks with
    | (some false, marks) => { s with marks := marks }.move tag (.unacked c .finishing)
    | (answer, marks) =>
      let event := passEvent answer id
      match h.save m with
      | some _ =>
        { s with marks := marks, history := event :: s.history }.move tag
          (.unacked c (.storing 1))
      | none =>
        { s with marks := marks, history := .nothingToSave id :: event :: s.history }.move tag
          (.unacked c .finishing)

/-- The commit of the transaction. -/
def handleCommit (h : MessageHandler β M δ) (tag c n : ℕ) (e : Envelope β)
    (s : QueueWorld β M δ) : Option (QueueWorld β M δ) :=
  match h.parse e.body with
  | none => none
  | some m =>
    match h.save m with
    | none => none
    | some save =>
      (save s.database).map fun database =>
        { s with database := database, commits := m :: s.commits }.move tag
          (.unacked c (.committed n))

/-- An exception in attempt `n` of the transaction. -/
def handleRaise (h : MessageHandler β M δ) (tag : ℕ) (permanent : Bool) (e : Envelope β)
    (s : QueueWorld β M δ) : Option (QueueWorld β M δ) :=
  match e.place with
  | .unacked c (.storing n) => some (s.move tag (afterRaise c n permanent))
  | .unacked c (.committed n) =>
    (h.parse e.body).map fun m =>
      { s with history := .lostCommit (h.messageId m) :: s.history }.move tag
        (afterRaise c n permanent)
  | _ => none

/-- The steps of a handler and of the broker on one message. -/
def messageStep (h : MessageHandler β M δ) (ttls : RedisTtls) (limits : QueueLimits)
    (a : QueueAction β) (tag : ℕ) (e : Envelope β) (s : QueueWorld β M δ) :
    Option (QueueWorld β M δ) :=
  match a, e.place with
  | .drop _, .ready =>
    if e.overdue limits s.now || s.overfull limits then some (s.move tag (.dead .dropped)) else none
  | .deliver c _, .ready =>
    if (s.processes c).takes ∧ (s.envelopes.filter (Envelope.heldBy c)).length < prefetchCount then
      some (s.move tag (.unacked c .delivered))
    else none
  | .begin _, .unacked c .delivered => some (s.move tag (.unacked c .begun))
  | .check _ reply, .unacked c .begun => some (handleCheck h ttls tag c e reply s)
  | .commit _, .unacked c (.storing n) => handleCommit h tag c n e s
  | .returned _, .unacked c (.committed _) => some (s.move tag (.unacked c .finishing))
  | .raised _ permanent, _ => handleRaise h tag permanent e s
  | .ack _, .unacked _ .finishing => some (s.move tag .acked)
  | _, _ => none

/-- The steps of a process. -/
def processStep (h : MessageHandler β M δ) (a : QueueAction β) (c : ℕ) (s : QueueWorld β M δ) :
    Option (QueueWorld β M δ) :=
  match a, s.processes c with
  | .start _, .down => some (s.setProcess c .consuming)
  | .signal _, .consuming => some (s.setProcess c (.draining (s.now + shutdownDrain) false))
  | .cancelConsumer _, .draining deadline false =>
    if s.now < deadline then some (s.setProcess c (.draining deadline true)) else none
  | .closeChannel _, .draining deadline _ =>
    if s.drained c ∨ deadline ≤ s.now then some ((s.requeue h c).setProcess c .down) else none
  | .channelLost _, .consuming => some (s.requeue h c)
  | .channelLost _, .draining _ _ => some (s.requeue h c)
  | .crash _, .consuming => some ((s.requeue h c).setProcess c .down)
  | .crash _, .draining _ _ => some ((s.requeue h c).setProcess c .down)
  | _, _ => none

def queueStep (h : MessageHandler β M δ) (ttls : RedisTtls) (limits : QueueLimits)
    (a : QueueAction β) (s : QueueWorld β M δ) : Option (QueueWorld β M δ) :=
  match a with
  | .tick elapsed => some { s with now := s.now + elapsed }
  | .publish body =>
    some { s with envelopes := s.envelopes ++ [⟨s.envelopes.length, body, s.now, .ready⟩] }
  | .start c | .signal c | .cancelConsumer c | .closeChannel c | .channelLost c | .crash c =>
    processStep h a c s
  | .drop tag | .deliver _ tag | .begin tag | .check tag _ | .commit tag | .returned tag
  | .raised tag _ | .ack tag =>
    (s.envelope tag).bind fun e => messageStep h ttls limits a tag e s

/-! ## What a step can do -/

/-- The idempotency check of the message is still ahead. -/
def Place.unchecked : Place → Bool
  | .ready | .unacked _ .delivered | .unacked _ .begun => true
  | _ => false

/-- How the world moves in one step. -/
inductive QueueMove (h : MessageHandler β M δ) (ttls : RedisTtls) (limits : QueueLimits)
    (a : QueueAction β) (s t : QueueWorld β M δ) : Prop
  | quiet (hnow : s.now ≤ t.now) (henvelopes : t.envelopes = s.envelopes)
      (hmarks : t.marks = s.marks) (hdatabase : t.database = s.database)
      (hcommits : t.commits = s.commits) (hhistory : t.history = s.history)
  | publish (body : β) (ha : a = .publish body)
      (ht : t = { s with
        envelopes := s.envelopes ++ [⟨s.envelopes.length, body, s.now, .ready⟩] })
  | wait (e : Envelope β) (p : Place) (he : s.envelope e.tag = some e)
      (hbefore : e.place.unchecked = true)
      (hafter : p.unchecked = true ∨ p = .dead .rejected ∧ h.parse e.body = none ∨
        p = .dead .dropped ∧ (limits.ttlMs.isSome ∨ limits.maxLen.isSome))
      (ht : t = s.move e.tag p)
  | duplicate (e : Envelope β) (c : ℕ) (m : M) (he : s.envelope e.tag = some e)
      (hplace : e.place = .unacked c .begun) (hparse : h.parse e.body = some m)
      (hmark : (get s.now (h.messageId m) s.marks).isSome)
      (ht : t = s.move e.tag (.unacked c .finishing))
  | pass (e : Envelope β) (c : ℕ) (m : M) (reply : Reply) (answer : Option Bool)
      (marks : Store String Unit) (he : s.envelope e.tag = some e)
      (hplace : e.place = .unacked c .begun) (hparse : h.parse e.body = some m)
      (hset : safeSetNx reply s.now (h.messageId m) () ttls.redisTtlIdempotent s.marks =
        (answer, marks))
      (hanswer : answer ≠ some false) (hsave : (h.save m).isSome)
      (ht : t = { s with
        marks := marks
        history := passEvent answer (h.messageId m) :: s.history }.move e.tag
          (.unacked c (.storing 1)))
  | nothingToSave (e : Envelope β) (c : ℕ) (m : M) (reply : Reply) (answer : Option Bool)
      (marks : Store String Unit) (he : s.envelope e.tag = some e)
      (hplace : e.place = .unacked c .begun) (hparse : h.parse e.body = some m)
      (hset : safeSetNx reply s.now (h.messageId m) () ttls.redisTtlIdempotent s.marks =
        (answer, marks))
      (hanswer : answer ≠ some false) (hsave : h.save m = none)
      (ht : t = { s with
        marks := marks
        history := .nothingToSave (h.messageId m) :: passEvent answer (h.messageId m) ::
          s.history }.move e.tag (.unacked c .finishing))
  | commit (e : Envelope β) (c n : ℕ) (m : M) (save : δ → Option δ) (database : δ)
      (he : s.envelope e.tag = some e) (hplace : e.place = .unacked c (.storing n))
      (hparse : h.parse e.body = some m) (hsave : h.save m = some save)
      (hdatabase : save s.database = some database)
      (ht : t = { s with
        database := database
        commits := m :: s.commits }.move e.tag (.unacked c (.committed n)))
  | returned (e : Envelope β) (c n : ℕ) (he : s.envelope e.tag = some e)
      (hplace : e.place = .unacked c (.committed n))
      (ht : t = s.move e.tag (.unacked c .finishing))
  | raised (e : Envelope β) (c n : ℕ) (permanent : Bool) (he : s.envelope e.tag = some e)
      (hplace : e.place = .unacked c (.storing n))
      (ht : t = s.move e.tag (afterRaise c n permanent))
  | lost (e : Envelope β) (c n : ℕ) (m : M) (permanent : Bool) (he : s.envelope e.tag = some e)
      (hplace : e.place = .unacked c (.committed n)) (hparse : h.parse e.body = some m)
      (ht : t = { s with history := .lostCommit (h.messageId m) :: s.history }.move e.tag
        (afterRaise c n permanent))
  | ack (e : Envelope β) (c : ℕ) (he : s.envelope e.tag = some e)
      (hplace : e.place = .unacked c .finishing) (ht : t = s.move e.tag .acked)
  | requeue (c : ℕ) (processes : ℕ → ProcessState)
      (ha : a = .closeChannel c ∧ (s.drained c = true ∨
          ∃ deadline cancelled, s.processes c = .draining deadline cancelled ∧ deadline ≤ s.now) ∨
        a = .channelLost c ∨ a = .crash c)
      (ht : t = { s.requeue h c with processes := processes })

variable {h : MessageHandler β M δ} {ttls : RedisTtls} {limits : QueueLimits}
  {s t : QueueWorld β M δ}

lemma handleCheck_move {a : QueueAction β} {e : Envelope β} {c : ℕ} (reply : Reply)
    (he : s.envelope e.tag = some e) (hplace : e.place = .unacked c .begun) :
    QueueMove h ttls limits a s (handleCheck h ttls e.tag c e reply s) := by
  have hbefore : e.place.unchecked = true := by rw [hplace]; rfl
  unfold handleCheck
  cases hparse : h.parse e.body with
  | none => exact .wait e _ he hbefore (Or.inr (Or.inl ⟨rfl, hparse⟩)) rfl
  | some m =>
    simp only []
    rcases hset : safeSetNx reply s.now (h.messageId m) () ttls.redisTtlIdempotent s.marks with
      ⟨answer, marks⟩
    by_cases hanswer : answer = some false
    · subst hanswer
      obtain ⟨hmark, hsame⟩ := safeSetNx_repeated hset
      exact .duplicate e c m he hplace hparse hmark (by rw [hsame])
    · cases hsave : h.save m with
      | some save =>
        refine .pass e c m reply answer marks he hplace hparse hset hanswer (by simp [hsave]) ?_
        rcases answer with _ | _ | _
        · rfl
        · exact absurd rfl hanswer
        · rfl
      | none =>
        refine .nothingToSave e c m reply answer marks he hplace hparse hset hanswer hsave ?_
        rcases answer with _ | _ | _
        · rfl
        · exact absurd rfl hanswer
        · rfl

lemma handleRaise_move {a : QueueAction β} {e : Envelope β} {permanent : Bool}
    (he : s.envelope e.tag = some e)
    (hstep : handleRaise h e.tag permanent e s = some t) : QueueMove h ttls limits a s t := by
  unfold handleRaise at hstep
  split at hstep
  case h_1 c n hplace =>
    cases hstep
    exact .raised e c n permanent he hplace rfl
  case h_2 c n hplace =>
    obtain ⟨m, hparse, rfl⟩ := Option.map_eq_some_iff.mp hstep
    exact .lost e c n m permanent he hplace hparse rfl
  case h_3 => cases hstep

lemma handleCommit_move {a : QueueAction β} {e : Envelope β} {c n : ℕ}
    (he : s.envelope e.tag = some e)
    (hplace : e.place = .unacked c (.storing n))
    (hstep : handleCommit h e.tag c n e s = some t) : QueueMove h ttls limits a s t := by
  unfold handleCommit at hstep
  cases hparse : h.parse e.body with
  | none =>
    rw [hparse] at hstep
    cases hstep
  | some m =>
    rw [hparse] at hstep
    cases hsave : h.save m with
    | none =>
      simp only [hsave] at hstep
      cases hstep
    | some save =>
      simp only [hsave] at hstep
      obtain ⟨database, hdatabase, rfl⟩ := Option.map_eq_some_iff.mp hstep
      exact .commit e c n m save database he hplace hparse hsave hdatabase rfl

/-- Only a queue with a limit on age or length has messages over its limits. -/
lemma limited_of_over {e : Envelope β}
    (h : (e.overdue limits s.now || s.overfull limits) = true) :
    limits.ttlMs.isSome ∨ limits.maxLen.isSome := by
  rw [Bool.or_eq_true] at h
  rcases h with hold | hfull
  · left
    unfold Envelope.overdue at hold
    cases httl : limits.ttlMs with
    | some ttl => rfl
    | none =>
      rw [httl] at hold
      cases hold
  · right
    unfold QueueWorld.overfull at hfull
    cases hlen : limits.maxLen with
    | some n => rfl
    | none =>
      rw [hlen] at hfull
      cases hfull

lemma messageStep_move {a : QueueAction β} {e : Envelope β} (he : s.envelope e.tag = some e)
    (hstep : messageStep h ttls limits a e.tag e s = some t) : QueueMove h ttls limits a s t := by
  unfold messageStep at hstep
  split at hstep
  case h_1 hplace =>
    split_ifs at hstep with hover
    cases hstep
    exact .wait e _ he (by rw [hplace]; rfl) (Or.inr (Or.inr ⟨rfl, limited_of_over hover⟩)) rfl
  case h_2 hplace =>
    split_ifs at hstep
    cases hstep
    exact .wait e _ he (by rw [hplace]; rfl) (Or.inl rfl) rfl
  case h_3 c hplace =>
    cases hstep
    exact .wait e _ he (by rw [hplace]; rfl) (Or.inl rfl) rfl
  case h_4 reply c hplace =>
    cases hstep
    exact handleCheck_move reply he hplace
  case h_5 c n hplace => exact handleCommit_move he hplace hstep
  case h_6 c n hplace =>
    cases hstep
    exact .returned e c n he hplace rfl
  case h_7 permanent _ => exact handleRaise_move he hstep
  case h_8 c hplace =>
    cases hstep
    exact .ack e c he hplace rfl
  case h_9 => cases hstep

lemma processStep_move {a : QueueAction β} {c : ℕ}
    (ha : a = .start c ∨ a = .signal c ∨ a = .cancelConsumer c ∨ a = .closeChannel c ∨
      a = .channelLost c ∨ a = .crash c)
    (hstep : processStep h a c s = some t) : QueueMove h ttls limits a s t := by
  have hquiet : ∀ state, QueueMove h ttls limits a s (s.setProcess c state) :=
    fun state => .quiet le_rfl rfl rfl rfl rfl rfl
  rcases ha with rfl | rfl | rfl | rfl | rfl | rfl
  · cases hstate : s.processes c <;> simp only [processStep, hstate] at hstep <;> cases hstep
    exact hquiet _
  · cases hstate : s.processes c <;> simp only [processStep, hstate] at hstep <;> cases hstep
    exact hquiet _
  · cases hstate : s.processes c with
    | down | consuming =>
      simp only [processStep, hstate] at hstep
      cases hstep
    | draining deadline cancelled =>
      cases cancelled <;> simp only [processStep, hstate] at hstep
      · split_ifs at hstep
        cases hstep
        exact hquiet _
      · cases hstep
  · cases hstate : s.processes c with
    | down | consuming =>
      simp only [processStep, hstate] at hstep
      cases hstep
    | draining deadline cancelled =>
      simp only [processStep, hstate] at hstep
      split_ifs at hstep with hover
      cases hstep
      refine .requeue c _ (Or.inl ⟨rfl, ?_⟩) rfl
      exact hover.imp_right fun hlate => ⟨deadline, cancelled, hstate, hlate⟩
  · cases hstate : s.processes c <;> simp only [processStep, hstate] at hstep <;> cases hstep <;>
      exact .requeue c s.processes (Or.inr (Or.inl rfl)) rfl
  · cases hstate : s.processes c <;> simp only [processStep, hstate] at hstep <;> cases hstep <;>
      exact .requeue c _ (Or.inr (Or.inr rfl)) rfl

theorem queueStep_move {a : QueueAction β} (hstep : queueStep h ttls limits a s = some t) :
    QueueMove h ttls limits a s t := by
  have hmessage : ∀ tag, ((s.envelope tag).bind fun e => messageStep h ttls limits a tag e s) =
      some t → QueueMove h ttls limits a s t := by
    intro tag hsome
    obtain ⟨e, he, hmove⟩ := Option.bind_eq_some_iff.mp hsome
    obtain rfl : e.tag = tag := findId_key he
    exact messageStep_move he hmove
  cases a with
  | tick elapsed =>
    cases hstep
    exact .quiet (by simp) rfl rfl rfl rfl rfl
  | publish body =>
    cases hstep
    exact .publish body rfl rfl
  | start c => exact processStep_move (by simp) hstep
  | signal c => exact processStep_move (by simp) hstep
  | cancelConsumer c => exact processStep_move (by simp) hstep
  | closeChannel c => exact processStep_move (by simp) hstep
  | channelLost c => exact processStep_move (by simp) hstep
  | crash c => exact processStep_move (by simp) hstep
  | drop tag => exact hmessage tag hstep
  | deliver c tag => exact hmessage tag hstep
  | begin tag => exact hmessage tag hstep
  | check tag reply => exact hmessage tag hstep
  | commit tag => exact hmessage tag hstep
  | returned tag => exact hmessage tag hstep
  | raised tag permanent => exact hmessage tag hstep
  | ack tag => exact hmessage tag hstep

/-- What holds of the database and the commits at the start, and passes over every commit, holds in
every run. -/
theorem commits_invariant {P : List M → δ → Prop} {database : δ} (hstart : P [] database)
    (hcommit : ∀ m save commits db db', P commits db → h.save m = some save → save db = some db' →
      P (m :: commits) db')
    {as : List (QueueAction β)}
    (hrun : run (queueStep h ttls limits) as (QueueWorld.init database) = some t) :
    P t.commits t.database := by
  refine run_invariant (I := fun u => P u.commits u.database) ?_ hrun hstart
  intro a u v hu hstep
  cases queueStep_move hstep with
  | quiet _ _ _ hdatabase hcommits _ =>
    rw [hdatabase, hcommits]
    exact hu
  | commit e c n m save db _ _ _ hsave hdb ht =>
    rw [ht]
    exact hcommit m save u.commits u.database db hu hsave hdb
  | publish _ _ ht | wait _ _ _ _ _ ht | duplicate _ _ _ _ _ _ _ ht
  | pass _ _ _ _ _ _ _ _ _ _ _ _ ht | nothingToSave _ _ _ _ _ _ _ _ _ _ _ _ ht
  | returned _ _ _ _ _ ht | raised _ _ _ _ _ _ ht | lost _ _ _ _ _ _ _ _ ht | ack _ _ _ _ ht
  | requeue _ _ _ ht =>
    rw [ht]
    exact hu

end AssessmentEngine
