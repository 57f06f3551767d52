import Mathlib.Tactic.Linarith
import AssessmentEngine.Consumer.NoSilentLoss

/-!
# How often a message is written

A transaction follows a check that let its message pass.  A check passes because it set the mark,
which it can do once in the lifetime of a mark, or because Redis did not answer; and the transaction
of one passage is committed once, unless its handler takes a commit for a failure.  Counted over a
run, this bounds the commits of one message id by the lifetimes that the run lasts.

Redis runs with `volatile-lru` and may evict a mark when its memory is full.  The runs here are
those in which it has room and evicts none.
-/

namespace AssessmentEngine

open ExpiringStore Table Runs

variable {β M δ : Type} {h : MessageHandler β M δ} {ttls : RedisTtls} {limits : QueueLimits}
  {a : QueueAction β} {s t : QueueWorld β M δ}

/-! ## Counts -/

/-- The handler of a message of this id is between the check and the commit. -/
def MessageHandler.atWork (h : MessageHandler β M δ) (id : String) (e : Envelope β) : Bool :=
  decide (h.idOf e = some id) && e.storing

/-- The commits of a message id. -/
def commitCount (h : MessageHandler β M δ) (id : String) (s : QueueWorld β M δ) : ℕ :=
  s.commits.countP fun m => decide (h.messageId m = id)

/-- The commits of a message id, made and under way. -/
def attemptCount (h : MessageHandler β M δ) (id : String) (s : QueueWorld β M δ) : ℕ :=
  commitCount h id s + s.envelopes.countP (h.atWork id)

/-- What lets a message of this id be written: marks, checks without Redis, and commits that were
taken for failures. -/
def passCount (id : String) (s : QueueWorld β M δ) : ℕ :=
  s.history.count (.marked id) + s.history.count (.failedOpen id) +
    s.history.count (.lostCommit id)

/-- One message moves: the count of the handlers at work changes by its own. -/
lemma atWork_move (hinv : DeliveryInv h s) {e : Envelope β} (he : s.envelope e.tag = some e)
    (p : Place) (id : String) :
    (s.move e.tag p).envelopes.countP (h.atWork id) + (if h.atWork id e then 1 else 0) =
      s.envelopes.countP (h.atWork id) + (if h.atWork id (e.put p) then 1 else 0) :=
  countP_updateWhere_key hinv.nodup he (h.atWork id)

lemma atWork_of_not_storing {e : Envelope β} (hstoring : e.storing = false) (id : String) :
    h.atWork id e = false := by
  rw [MessageHandler.atWork, hstoring, Bool.and_false]

lemma atWork_of_storing {e : Envelope β} (hstoring : e.storing = true) (id : String) :
    h.atWork id e = decide (h.idOf e = some id) := by
  rw [MessageHandler.atWork, hstoring, Bool.and_true]

lemma atWork_requeue (c : ℕ) (id : String) :
    (s.requeue h c).envelopes.countP (h.atWork id) ≤ s.envelopes.countP (h.atWork id) := by
  rw [QueueWorld.requeue, updateWhere, List.countP_map]
  refine List.countP_mono_left fun e _ hwork => ?_
  by_cases hheld : e.heldBy c = true
  · simp [hheld, MessageHandler.atWork, Envelope.storing, Envelope.put] at hwork
  · simpa [hheld] using hwork

/-! ## Every commit has its passage -/

/-- A check that passes is counted, and one only for its own id. -/
lemma count_passEvent (answer : Option Bool) (id id' : String) (history : List DeliveryEvent) :
    (passEvent answer id' :: history).count (.marked id) +
        (passEvent answer id' :: history).count (.failedOpen id) =
      history.count (.marked id) + history.count (.failedOpen id) +
        (if id' = id then 1 else 0) := by
  by_cases hid : id' = id
  · cases answer <;> simp only [passEvent, hid, Option.isSome_none, Option.isSome_some,
      Bool.false_eq_true, if_true, if_false, List.count_cons_self, List.count_cons_of_ne, ne_eq,
      reduceCtorEq, not_false_eq_true] <;> omega
  · cases answer <;> simp [passEvent, hid]

lemma count_lostCommit_passEvent (answer : Option Bool) (id id' : String)
    (history : List DeliveryEvent) :
    (passEvent answer id' :: history).count (.lostCommit id) = history.count (.lostCommit id) := by
  cases answer <;> simp [passEvent]

lemma passCount_requeue (c : ℕ) (id : String) :
    passCount id s ≤ passCount id (s.requeue h c) := by
  unfold passCount QueueWorld.requeue
  simp only [List.count_append]
  omega

lemma passCount_passEvent (answer : Option Bool) (id id' : String) {u : QueueWorld β M δ}
    (hhistory : u.history = passEvent answer id' :: s.history) :
    passCount id u = passCount id s + (if id' = id then 1 else 0) := by
  have hcount := count_passEvent answer id id' s.history
  have hlost := count_lostCommit_passEvent answer id id' s.history
  unfold passCount
  rw [hhistory]
  omega

/-- One message moves: it is enough to compare what it adds to either side. -/
lemma attemptCount_le_of_move (hinv : DeliveryInv h s) {e : Envelope β}
    (he : s.envelope e.tag = some e) {p : Place} {id : String}
    (henvelopes : t.envelopes = (s.move e.tag p).envelopes)
    (hle : attemptCount h id s ≤ passCount id s)
    (hbalance : commitCount h id t + passCount id s + (if h.atWork id (e.put p) then 1 else 0) ≤
      commitCount h id s + passCount id t + (if h.atWork id e then 1 else 0)) :
    attemptCount h id t ≤ passCount id t := by
  have hmoved := atWork_move hinv he p id
  unfold attemptCount at hle ⊢
  rw [henvelopes]
  omega

/-- No step adds a commit without a passage. -/
lemma attemptCount_step (hinv : DeliveryInv h s) (hmove : QueueMove h ttls limits a s t)
    (id : String) (hle : attemptCount h id s ≤ passCount id s) :
    attemptCount h id t ≤ passCount id t := by
  have hidle : ∀ {e : Envelope β} {p : Place}, s.envelope e.tag = some e →
      (e.put p).storing = false → attemptCount h id (s.move e.tag p) ≤
        passCount id (s.move e.tag p) := by
    intro e p he hp
    refine attemptCount_le_of_move hinv he rfl hle ?_
    rw [atWork_of_not_storing hp]
    exact Nat.le_add_right _ _
  cases hmove with
  | quiet _ henvelopes _ _ hcommits hhistory =>
    unfold attemptCount commitCount passCount at *
    rw [henvelopes, hcommits, hhistory]
    exact hle
  | publish body _ ht =>
    subst ht
    simpa [attemptCount, commitCount, passCount, MessageHandler.atWork, Envelope.storing] using hle
  | wait e p he hbefore hafter ht =>
    subst ht
    refine hidle he ?_
    rcases hafter with hp | ⟨rfl, _⟩ | ⟨rfl, _⟩
    · have hpending := pendingOrRejected_of_unchecked (e := e.put p) hp
      exact (Bool.or_eq_false_iff.mp hpending).1
    · rfl
    · rfl
  | duplicate e c m he _ _ _ ht | returned e c n he _ ht | ack e c he _ ht =>
    subst ht
    exact hidle he rfl
  | pass e c m reply answer marks he hplace hparse _ _ _ ht =>
    have hhistory : t.history = passEvent answer (h.messageId m) :: s.history := by rw [ht]; rfl
    have hcommits : commitCount h id t = commitCount h id s := by rw [ht]; rfl
    refine attemptCount_le_of_move hinv he (p := .unacked c (.storing 1)) (by rw [ht]; rfl) hle ?_
    rw [passCount_passEvent answer id (h.messageId m) hhistory, hcommits, atWork_of_storing rfl,
      MessageHandler.idOf_put, MessageHandler.idOf_of_parse hparse]
    simp only [Option.some_inj, decide_eq_true_eq]
    omega
  | nothingToSave e c m reply answer marks he _ _ _ _ _ ht =>
    have hcommits : commitCount h id t = commitCount h id s := by rw [ht]; rfl
    have hhistory : t.history =
        .nothingToSave (h.messageId m) :: passEvent answer (h.messageId m) :: s.history := by
      rw [ht]
      rfl
    have hpasses : passCount id s ≤ passCount id t := by
      have hpass := count_passEvent answer id (h.messageId m) s.history
      have hlost := count_lostCommit_passEvent answer id (h.messageId m) s.history
      simp only [passCount, hhistory, List.count_cons_of_ne, ne_eq, reduceCtorEq,
        not_false_eq_true]
      omega
    refine attemptCount_le_of_move hinv he (p := .unacked c .finishing) (by rw [ht]; rfl) hle ?_
    rw [atWork_of_not_storing (e := e.put _) rfl, hcommits]
    simp only [Bool.false_eq_true, if_false]
    omega
  | commit e c n m save database he hplace hparse _ _ ht =>
    have hcommits : commitCount h id t =
        commitCount h id s + (if h.messageId m = id then 1 else 0) := by
      rw [ht]
      simp [commitCount, QueueWorld.move, List.countP_cons]
    have hpasses : passCount id t = passCount id s := by rw [ht]; rfl
    have hstoring : e.storing = true := by rw [Envelope.storing, hplace]
    refine attemptCount_le_of_move hinv he (p := .unacked c (.committed n)) (by rw [ht]; rfl) hle ?_
    rw [hcommits, hpasses, atWork_of_not_storing (e := e.put _) rfl, atWork_of_storing hstoring,
      MessageHandler.idOf_of_parse hparse]
    simp only [Option.some_inj, decide_eq_true_eq, Bool.false_eq_true, if_false]
    omega
  | raised e c n permanent he hplace ht =>
    subst ht
    refine attemptCount_le_of_move hinv he rfl hle ?_
    have hstoring : e.storing = true := by rw [Envelope.storing, hplace]
    have hput : (if h.atWork id (e.put (afterRaise c n permanent)) then 1 else 0) ≤
        (if h.atWork id e then 1 else 0) := by
      rw [atWork_of_storing hstoring, MessageHandler.atWork, MessageHandler.idOf_put]
      cases (e.put (afterRaise c n permanent)).storing <;> simp
    exact Nat.add_le_add_left hput _
  | lost e c n m permanent he hplace hparse ht =>
    have hcommits : commitCount h id t = commitCount h id s := by rw [ht]; rfl
    have hpasses : passCount id t = passCount id s + (if h.messageId m = id then 1 else 0) := by
      have hhistory : t.history = .lostCommit (h.messageId m) :: s.history := by rw [ht]; rfl
      simp only [passCount, hhistory, List.count_cons, beq_iff_eq, reduceCtorEq, if_false,
        DeliveryEvent.lostCommit.injEq]
      omega
    have hput : (if h.atWork id (e.put (afterRaise c n permanent)) then 1 else 0) ≤
        (if h.messageId m = id then 1 else 0) := by
      rw [MessageHandler.atWork, MessageHandler.idOf_put, MessageHandler.idOf_of_parse hparse]
      cases (e.put (afterRaise c n permanent)).storing <;> simp
    refine attemptCount_le_of_move hinv he (p := afterRaise c n permanent) (by rw [ht]; rfl) hle ?_
    omega
  | requeue c processes _ ht =>
    subst ht
    have hwork := atWork_requeue (s := s) (h := h) c id
    have hpasses := passCount_requeue (s := s) (h := h) c id
    exact (Nat.add_le_add_left hwork _).trans (hle.trans hpasses)

/-! ## One mark for each lifetime -/

/-- The marks of every id are a lifetime apart. -/
structure MarkInv (ttls : RedisTtls) (s : QueueWorld β M δ) : Prop where
  now : 0 ≤ s.now
  spaced : ∀ id, Spaced (ttlMicros ttls.redisTtlIdempotent) s.now
    (s.history.count (.marked id)) (s.marks id)

lemma MarkInv.of_same (hinv : MarkInv ttls s) (hnow : s.now ≤ t.now) (hmarks : t.marks = s.marks)
    (hcount : ∀ id, t.history.count (.marked id) = s.history.count (.marked id)) :
    MarkInv ttls t where
  now := hinv.now.trans hnow
  spaced id := by
    rw [hcount, hmarks]
    exact (hinv.spaced id).later hnow

/-- A check that let its message pass. -/
lemma MarkInv.of_check (hinv : MarkInv ttls s) {reply : Reply} {answer : Option Bool}
    {id : String} {marks : Store String Unit}
    (hset : safeSetNx reply s.now id () ttls.redisTtlIdempotent s.marks = (answer, marks))
    (hnow : t.now = s.now) (hmarks : t.marks = marks)
    (hcount : ∀ id', t.history.count (.marked id') =
      s.history.count (.marked id') + (if id = id' ∧ answer = some true then 1 else 0)) :
    MarkInv ttls t where
  now := hnow ▸ hinv.now
  spaced id' := by
    rw [hnow, hmarks, hcount]
    by_cases hid : id' = id
    · subst hid
      simpa using spaced_safeSetNx (hinv.spaced id') hinv.now hset
    · have hsame := safeSetNx_of_ne hid reply s.now () ttls.redisTtlIdempotent s.marks
      rw [hset] at hsame
      simp only [] at hsame
      rw [hsame, if_neg fun h => hid h.1.symm]
      exact hinv.spaced id'

lemma count_marked_passEvent {answer : Option Bool} (hanswer : answer ≠ some false)
    (id id' : String) (history : List DeliveryEvent) :
    (passEvent answer id :: history).count (.marked id') =
      history.count (.marked id') + (if id = id' ∧ answer = some true then 1 else 0) := by
  rcases answer with _ | _ | _
  · simp [passEvent]
  · exact absurd rfl hanswer
  · simp [passEvent, List.count_cons]

lemma MarkInv.step (hinv : MarkInv ttls s) (hmove : QueueMove h ttls limits a s t) :
    MarkInv ttls t := by
  cases hmove with
  | quiet hnow _ hmarks _ _ hhistory => exact hinv.of_same hnow hmarks fun id => by rw [hhistory]
  | publish _ _ ht =>
    subst ht
    exact hinv.of_same le_rfl rfl fun _ => rfl
  | wait _ _ _ _ _ ht | duplicate _ _ _ _ _ _ _ ht | commit _ _ _ _ _ _ _ _ _ _ _ ht
  | returned _ _ _ _ _ ht | raised _ _ _ _ _ _ ht | ack _ _ _ _ ht =>
    subst ht
    exact hinv.of_same le_rfl rfl fun _ => rfl
  | pass e c m reply answer marks _ _ _ hset hanswer _ ht =>
    subst ht
    exact hinv.of_check hset rfl rfl fun id' => count_marked_passEvent hanswer _ id' _
  | nothingToSave e c m reply answer marks _ _ _ hset hanswer _ ht =>
    subst ht
    refine hinv.of_check hset rfl rfl fun id' => ?_
    refine Eq.trans ?_ (count_marked_passEvent hanswer _ id' _)
    exact List.count_cons_of_ne (by simp)
  | lost e c n m permanent _ _ _ ht =>
    subst ht
    exact hinv.of_same le_rfl rfl fun id => List.count_cons_of_ne (by simp)
  | requeue c processes _ ht =>
    subst ht
    refine hinv.of_same le_rfl rfl fun id => ?_
    have hnone : ∀ rows : List (Envelope β), (rows.filterMap fun e =>
        (h.parse e.body).map fun m => DeliveryEvent.interrupted (h.messageId m)).count
          (.marked id) = 0 := by
      intro rows
      rw [List.count_eq_zero, List.mem_filterMap]
      rintro ⟨e, _, he⟩
      obtain ⟨m, _, hm⟩ := Option.map_eq_some_iff.mp he
      cases hm
    simp only [QueueWorld.requeue, List.count_append, hnone, Nat.zero_add]

lemma MarkInv.init (database : δ) : MarkInv ttls (QueueWorld.init (β := β) (M := M) database) where
  now := le_rfl
  spaced _ := rfl

/-- In every run, however often its messages are published and delivered again and whatever
processes are lost, a message id is committed at most once for each lifetime of a mark that the run
has begun, not counting the checks that Redis did not answer and the commits that a handler took for
failures. -/
theorem commits_bounded {as : List (QueueAction β)} {database : δ}
    (hrun : run (queueStep h ttls limits) as (QueueWorld.init database) = some t) (id : String) :
    ((t.commits.countP fun m => decide (h.messageId m = id)) : ℤ) *
        ttlMicros ttls.redisTtlIdempotent ≤
      t.now + ttlMicros ttls.redisTtlIdempotent *
        (1 + t.history.count (.failedOpen id) + t.history.count (.lostCommit id)) := by
  have hinv : DeliveryInv h t ∧ MarkInv ttls t ∧ attemptCount h id t ≤ passCount id t := by
    refine run_invariant (I := fun u => DeliveryInv h u ∧ MarkInv ttls u ∧
      attemptCount h id u ≤ passCount id u) ?_ hrun
        ⟨DeliveryInv.init database, MarkInv.init database, le_rfl⟩
    intro a u v ⟨hdelivery, hmark, hle⟩ hstep
    have hmove := queueStep_move hstep
    exact ⟨hdelivery.step hmove, hmark.step hmove, attemptCount_step hdelivery hmove id hle⟩
  obtain ⟨-, hmark, hle⟩ := hinv
  have hmarks := (hmark.spaced id).bound hmark.now (ttlMicros_pos _).le
  have hpos := ttlMicros_pos ttls.redisTtlIdempotent
  have hcommits : ((t.commits.countP fun m => decide (h.messageId m = id)) : ℤ) ≤
      t.history.count (.marked id) + t.history.count (.failedOpen id) +
        t.history.count (.lostCommit id) := by
    unfold attemptCount commitCount passCount at hle
    omega
  calc ((t.commits.countP fun m => decide (h.messageId m = id)) : ℤ) *
        ttlMicros ttls.redisTtlIdempotent
      ≤ (t.history.count (.marked id) + t.history.count (.failedOpen id) +
          t.history.count (.lostCommit id)) * ttlMicros ttls.redisTtlIdempotent :=
        mul_le_mul_of_nonneg_right hcommits hpos.le
    _ ≤ _ := by linarith

theorem commits_bounded_second_delivery :
    ∃ t, run (queueStep textHandler {} ⟨none, none⟩) committedRun (QueueWorld.init []) = some t ∧
      ((t.commits.countP fun m => decide (textHandler.messageId m = "cpu 93")) : ℤ) *
          ttlMicros 86400 ≤
        t.now + ttlMicros 86400 * (1 + t.history.count (.failedOpen "cpu 93") +
          t.history.count (.lostCommit "cpu 93")) := by
  obtain ⟨t, ht⟩ : ∃ t, run (queueStep textHandler {} ⟨none, none⟩) committedRun
      (QueueWorld.init []) = some t := ⟨_, rfl⟩
  exact ⟨t, ht, commits_bounded ht "cpu 93"⟩

end AssessmentEngine
