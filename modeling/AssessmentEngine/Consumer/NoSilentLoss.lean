import AssessmentEngine.Consumer.Delivery

/-!
# No message is lost without a trace

An acknowledgement follows a commit, a message that asks for no transaction, or a duplicate.  The
last is where a message could vanish: it is dropped because of a mark, and the mark is older than
the commit it stands for.  So the invariant follows the marks: whoever set one is still at work, has
committed, was dead-lettered, or was cancelled between the mark and the commit (`Accounted`).
Without a cancellation there, everything published ends in the database or in the dead-letter queue;
a process that drains, however late, cancels nothing there unless such a handler is left.
-/

namespace AssessmentEngine

open ExpiringStore Table Runs

variable {β M δ : Type} {h : MessageHandler β M δ} {ttls : RedisTtls} {limits : QueueLimits}
  {a : QueueAction β} {s t : QueueWorld β M δ}

/-! ## What a mark stands for -/

/-- The id of the message, if its body is one. -/
def MessageHandler.idOf (h : MessageHandler β M δ) (e : Envelope β) : Option String :=
  (h.parse e.body).map h.messageId

lemma MessageHandler.idOf_put (h : MessageHandler β M δ) (p : Place) (e : Envelope β) :
    h.idOf (e.put p) = h.idOf e := rfl

lemma MessageHandler.idOf_of_parse {e : Envelope β} {m : M} (hparse : h.parse e.body = some m) :
    h.idOf e = some (h.messageId m) := by
  rw [MessageHandler.idOf, hparse, Option.map_some]

/-- The handler has rejected the message, or it is on its way to the commit. -/
def Envelope.pendingOrRejected (e : Envelope β) : Bool :=
  e.storing || decide (e.place = .dead .rejected)

/-- A message of this id has been committed, asked for no transaction, was cancelled on its way to
the commit, is on this way, or was rejected. -/
def Accounted (h : MessageHandler β M δ) (id : String) (s : QueueWorld β M δ) : Prop :=
  (∃ m ∈ s.commits, h.messageId m = id) ∨ .nothingToSave id ∈ s.history ∨
    .interrupted id ∈ s.history ∨
      ∃ e ∈ s.envelopes, h.idOf e = some id ∧ e.pendingOrRejected = true

/-- The handler has let the message pass, and has not failed since. -/
def Place.passed : Place → Bool
  | .acked | .unacked _ .finishing | .unacked _ (.committed _) => true
  | _ => false

structure DeliveryInv (h : MessageHandler β M δ) (s : QueueWorld β M δ) : Prop where
  tags : s.envelopes.map Envelope.tag = List.range s.envelopes.length
  marks : ∀ id, (s.marks id).isSome → Accounted h id s
  storing : ∀ e ∈ s.envelopes, e.storing = true → (h.idOf e).isSome
  passed : ∀ e ∈ s.envelopes, e.place.passed = true →
    ∃ id, h.idOf e = some id ∧ Accounted h id s

lemma DeliveryInv.nodup (hinv : DeliveryInv h s) : (s.envelopes.map Envelope.tag).Nodup := by
  rw [hinv.tags]
  exact List.nodup_range

/-- The message with a tag is one. -/
lemma DeliveryInv.eq_of_tag (hinv : DeliveryInv h s) {e e' : Envelope β}
    (he : s.envelope e.tag = some e) (he' : e' ∈ s.envelopes) (htag : e'.tag = e.tag) : e' = e :=
  List.inj_on_of_nodup_map hinv.nodup he' (findId_mem he) htag

/-! ## Moving one message -/

lemma mem_updateWhere_tag {rows : List (Envelope β)} {tag : ℕ} {p : Place} {e : Envelope β} :
    e ∈ updateWhere (fun e => decide (e.tag = tag)) (Envelope.put p) rows ↔
      (e ∈ rows ∧ e.tag ≠ tag) ∨ ∃ e₀ ∈ rows, e₀.tag = tag ∧ e = e₀.put p := by
  rw [updateWhere, List.mem_map]
  constructor
  · rintro ⟨e₀, he₀, rfl⟩
    by_cases htag : e₀.tag = tag
    · exact Or.inr ⟨e₀, he₀, htag, by simp [htag]⟩
    · left
      simpa [htag] using he₀
  · rintro (⟨he, htag⟩ | ⟨e₀, he₀, htag, rfl⟩)
    · exact ⟨e, he, by simp [htag]⟩
    · exact ⟨e₀, he₀, by simp [htag]⟩

lemma DeliveryInv.mem_move (hinv : DeliveryInv h s) {e : Envelope β}
    (he : s.envelope e.tag = some e) {p : Place} {e' : Envelope β} :
    e' ∈ (s.move e.tag p).envelopes ↔ (e' ∈ s.envelopes ∧ e'.tag ≠ e.tag) ∨ e' = e.put p := by
  refine (mem_updateWhere_tag (p := p)).trans (or_congr_right ⟨?_, ?_⟩)
  · rintro ⟨e₀, he₀, htag, rfl⟩
    rw [hinv.eq_of_tag he he₀ htag]
  · rintro rfl
    exact ⟨e, findId_mem he, rfl, rfl⟩

/-- What is settled stays settled when a message moves, if this holds of the message itself. -/
lemma Accounted.of_move (hinv : DeliveryInv h s) {e : Envelope β} (he : s.envelope e.tag = some e)
    {p : Place} {id : String} (hset : Accounted h id s)
    (henvelopes : t.envelopes = (s.move e.tag p).envelopes)
    (hcommits : ∀ m ∈ s.commits, m ∈ t.commits) (hhistory : ∀ x ∈ s.history, x ∈ t.history)
    (hself : h.idOf e = some id → e.pendingOrRejected = true → Accounted h id t) :
    Accounted h id t := by
  rcases hset with ⟨m, hm, hid⟩ | hnothing | hinterrupted | ⟨e', he', hid, hpending⟩
  · exact Or.inl ⟨m, hcommits m hm, hid⟩
  · exact Or.inr (Or.inl (hhistory _ hnothing))
  · exact Or.inr (Or.inr (Or.inl (hhistory _ hinterrupted)))
  · by_cases htag : e'.tag = e.tag
    · obtain rfl := hinv.eq_of_tag he he' htag
      exact hself hid hpending
    · refine Or.inr (Or.inr (Or.inr ⟨e', ?_, hid, hpending⟩))
      rw [henvelopes, hinv.mem_move he]
      exact Or.inl ⟨he', htag⟩

/-- A message that moves within the work, or is rejected, settles its id. -/
lemma settled_of_put (hinv : DeliveryInv h s) {e : Envelope β} (he : s.envelope e.tag = some e)
    {p : Place} {id : String} (henvelopes : t.envelopes = (s.move e.tag p).envelopes)
    (hid : h.idOf e = some id) (hp : (e.put p).pendingOrRejected = true) : Accounted h id t := by
  refine Or.inr (Or.inr (Or.inr ⟨e.put p, ?_, hid, hp⟩))
  rw [henvelopes, hinv.mem_move he]
  exact Or.inr rfl

lemma pendingOrRejected_afterRaise (e : Envelope β) (c n : ℕ) (permanent : Bool) :
    (e.put (afterRaise c n permanent)).pendingOrRejected = true := by
  unfold afterRaise
  split_ifs <;> rfl

lemma passed_afterRaise (c n : ℕ) (permanent : Bool) :
    (afterRaise c n permanent).passed = false := by
  unfold afterRaise
  split_ifs <;> rfl

lemma pendingOrRejected_of_unchecked {e : Envelope β} (h : e.place.unchecked = true) :
    e.pendingOrRejected = false := by
  unfold Place.unchecked at h
  unfold Envelope.pendingOrRejected Envelope.storing
  split at h <;> simp_all

lemma mem_requeue (h : MessageHandler β M δ) {c : ℕ} {e' : Envelope β} :
    e' ∈ (s.requeue h c).envelopes ↔
      (e' ∈ s.envelopes ∧ e'.heldBy c = false) ∨
        ∃ e ∈ s.envelopes, e.heldBy c = true ∧ e' = e.put .ready := by
  simp only [QueueWorld.requeue, updateWhere, List.mem_map]
  constructor
  · rintro ⟨e, he, rfl⟩
    cases hheld : e.heldBy c with
    | true => exact Or.inr ⟨e, he, hheld, by simp⟩
    | false =>
      left
      simpa [hheld] using he
  · rintro (⟨he, hheld⟩ | ⟨e, he, hheld, rfl⟩)
    · exact ⟨e', he, by simp [hheld]⟩
    · exact ⟨e, he, by simp [hheld]⟩

/-! ## One step -/

/-- What is settled stays so. -/
theorem Accounted.step (hinv : DeliveryInv h s) {id : String} (hset : Accounted h id s)
    (hmove : QueueMove h ttls limits a s t) : Accounted h id t := by
  have hkeep : ∀ x ∈ s.commits, x ∈ s.commits := fun _ hx => hx
  have hsame : ∀ x ∈ s.history, x ∈ s.history := fun _ hx => hx
  cases hmove with
  | quiet _ henvelopes _ _ hcommits hhistory =>
    unfold Accounted
    rw [henvelopes, hcommits, hhistory]
    exact hset
  | publish body _ ht =>
    subst ht
    rcases hset with hcommit | hnothing | hinterrupted | ⟨e, he, hid⟩
    · exact Or.inl hcommit
    · exact Or.inr (Or.inl hnothing)
    · exact Or.inr (Or.inr (Or.inl hinterrupted))
    · exact Or.inr (Or.inr (Or.inr ⟨e, List.mem_append_left _ he, hid⟩))
  | wait e p he hbefore _ ht =>
    subst ht
    refine hset.of_move hinv he rfl hkeep hsame fun _ hpending => ?_
    rw [pendingOrRejected_of_unchecked hbefore] at hpending
    cases hpending
  | duplicate e c m he hplace _ _ ht =>
    subst ht
    refine hset.of_move hinv he rfl hkeep hsame fun _ hpending => ?_
    rw [pendingOrRejected_of_unchecked (by rw [hplace]; rfl)] at hpending
    cases hpending
  | pass e c m reply answer marks he _ _ _ _ _ ht =>
    subst ht
    exact hset.of_move hinv he rfl hkeep (fun x hx => List.mem_cons_of_mem _ hx)
      fun hid _ => settled_of_put hinv he rfl hid rfl
  | nothingToSave e c m reply answer marks he hplace _ _ _ _ ht =>
    subst ht
    refine hset.of_move hinv he rfl hkeep
      (fun x hx => List.mem_cons_of_mem _ (List.mem_cons_of_mem _ hx)) fun _ hpending => ?_
    rw [pendingOrRejected_of_unchecked (by rw [hplace]; rfl)] at hpending
    cases hpending
  | commit e c n m save database he _ hparse _ _ ht =>
    subst ht
    refine hset.of_move hinv he rfl (fun x hx => List.mem_cons_of_mem _ hx) hsame ?_
    intro hid _
    rw [MessageHandler.idOf_of_parse hparse, Option.some_inj] at hid
    exact Or.inl ⟨m, List.mem_cons_self, hid⟩
  | returned e c n he hplace ht =>
    subst ht
    refine hset.of_move hinv he rfl hkeep hsame fun _ hpending => ?_
    simp [Envelope.pendingOrRejected, Envelope.storing, hplace] at hpending
  | raised e c n permanent he _ ht =>
    subst ht
    exact hset.of_move hinv he rfl hkeep hsame fun hid _ =>
      settled_of_put hinv he rfl hid (pendingOrRejected_afterRaise e c n permanent)
  | lost e c n m permanent he _ _ ht =>
    subst ht
    exact hset.of_move hinv he rfl hkeep (fun x hx => List.mem_cons_of_mem _ hx)
      fun hid _ => settled_of_put hinv he rfl hid (pendingOrRejected_afterRaise e c n permanent)
  | ack e c he hplace ht =>
    subst ht
    refine hset.of_move hinv he rfl hkeep hsame fun _ hpending => ?_
    simp [Envelope.pendingOrRejected, Envelope.storing, hplace] at hpending
  | requeue c processes _ ht =>
    subst ht
    rcases hset with hcommit | hnothing | hinterrupted | ⟨e, he, hid, hpending⟩
    · exact Or.inl hcommit
    · exact Or.inr (Or.inl (List.mem_append_right _ hnothing))
    · exact Or.inr (Or.inr (Or.inl (List.mem_append_right _ hinterrupted)))
    · cases hheld : e.heldBy c with
      | false =>
        exact Or.inr (Or.inr (Or.inr ⟨e, (mem_requeue h).mpr (Or.inl ⟨he, hheld⟩), hid,
          hpending⟩))
      | true =>
        -- A message that a process holds is not in the dead-letter queue: it was being stored.
        have hstoring : e.storing = true := by
          rw [Envelope.pendingOrRejected, Bool.or_eq_true, decide_eq_true_eq] at hpending
          rcases hpending with hstoring | hdead
          · exact hstoring
          · simp [Envelope.heldBy, hdead] at hheld
        obtain ⟨m, hparse, hm⟩ := Option.map_eq_some_iff.mp hid
        refine Or.inr (Or.inr (Or.inl (List.mem_append_left _ ?_)))
        refine List.mem_filterMap.mpr ⟨e, List.mem_filter.mpr ⟨he, by simp [hheld, hstoring]⟩, ?_⟩
        rw [hparse, Option.map_some, hm]

/-- The invariant when one message has moved. -/
lemma DeliveryInv.of_move (hinv : DeliveryInv h s) {e : Envelope β}
    (he : s.envelope e.tag = some e) {p : Place}
    (henvelopes : t.envelopes = (s.move e.tag p).envelopes)
    (hsettled : ∀ id, Accounted h id s → Accounted h id t)
    (hmarks : ∀ id, (t.marks id).isSome → (s.marks id).isSome ∨ Accounted h id t)
    (hstoring : (e.put p).storing = true → (h.idOf e).isSome)
    (hpassed : p.passed = true → ∃ id, h.idOf e = some id ∧ Accounted h id t) :
    DeliveryInv h t where
  tags := by
    have htags : (s.move e.tag p).envelopes.map Envelope.tag = s.envelopes.map Envelope.tag :=
      map_updateWhere (f := Envelope.put p) (g := Envelope.tag) (fun _ => rfl) s.envelopes
    have hlength := congrArg List.length htags
    rw [List.length_map, List.length_map] at hlength
    rw [henvelopes, htags, hlength, hinv.tags]
  marks id hid := 
    (hmarks id hid).elim (fun hbefore => hsettled id (hinv.marks id hbefore)) fun hset => hset
  storing e' he' hstored := by
    rw [henvelopes, hinv.mem_move he] at he'
    rcases he' with ⟨he', _⟩ | rfl
    · exact hinv.storing e' he' hstored
    · exact hstoring hstored
  passed e' he' hpass := by
    rw [henvelopes, hinv.mem_move he] at he'
    rcases he' with ⟨he', _⟩ | rfl
    · obtain ⟨id, hid, hset⟩ := hinv.passed e' he' hpass
      exact ⟨id, hid, hsettled id hset⟩
    · exact hpassed hpass

theorem DeliveryInv.step (hinv : DeliveryInv h s) (hmove : QueueMove h ttls limits a s t) :
    DeliveryInv h t := by
  have hsettled : ∀ id, Accounted h id s → Accounted h id t := fun id hset => hset.step hinv hmove
  cases hmove with
  | quiet _ henvelopes hmarks _ hcommits hhistory =>
    refine ⟨?_, fun id hid => ?_, ?_, ?_⟩
    · rw [henvelopes]
      exact hinv.tags
    · rw [hmarks] at hid
      exact hsettled id (hinv.marks id hid)
    · rw [henvelopes]
      exact hinv.storing
    · intro e he hpass
      rw [henvelopes] at he
      obtain ⟨id, hid, hset⟩ := hinv.passed e he hpass
      exact ⟨id, hid, hsettled id hset⟩
  | publish body _ ht =>
    subst ht
    refine ⟨?_, fun id hid => hsettled id (hinv.marks id hid), ?_, ?_⟩
    · simp [hinv.tags, List.range_succ]
    · intro e he hstored
      rcases List.mem_append.mp he with he | he
      · exact hinv.storing e he hstored
      · obtain rfl := List.mem_singleton.mp he
        cases hstored
    · intro e he hpass
      rcases List.mem_append.mp he with he | he
      · obtain ⟨id, hid, hset⟩ := hinv.passed e he hpass
        exact ⟨id, hid, hsettled id hset⟩
      · obtain rfl := List.mem_singleton.mp he
        cases hpass
  | wait e p he hbefore hafter ht =>
    subst ht
    refine hinv.of_move he rfl hsettled (fun _ => Or.inl) ?_ ?_
    · intro hstored
      exfalso
      rcases hafter with hp | ⟨rfl, _⟩ | ⟨rfl, _⟩
      · have hpending := pendingOrRejected_of_unchecked (e := e.put p) hp
        simp [Envelope.pendingOrRejected, hstored] at hpending
      · cases hstored
      · cases hstored
    · intro hpass
      exfalso
      rcases hafter with hp | ⟨rfl, _⟩ | ⟨rfl, _⟩
      · unfold Place.unchecked at hp
        split at hp <;> simp_all [Place.passed]
      · cases hpass
      · cases hpass
  | duplicate e c m he hplace hparse hmark ht =>
    subst ht
    refine hinv.of_move he rfl hsettled (fun _ => Or.inl) (fun hstored => by cases hstored) ?_
    obtain ⟨u, hu⟩ := Option.isSome_iff_exists.mp hmark
    obtain ⟨entry, hentry, -⟩ := get_eq_some_iff.mp hu
    exact fun _ => ⟨h.messageId m, MessageHandler.idOf_of_parse hparse,
      hsettled _ (hinv.marks _ (by rw [hentry]; rfl))⟩
  | pass e c m reply answer marks he hplace hparse hset _ _ ht =>
    subst ht
    have hid := MessageHandler.idOf_of_parse hparse
    refine hinv.of_move he rfl hsettled ?_ (fun _ => by rw [hid]; rfl) (fun hpass => by cases hpass)
    intro id hmark
    by_cases hsame : id = h.messageId m
    · subst hsame
      exact Or.inr (settled_of_put hinv he rfl hid rfl)
    · left
      have hother := safeSetNx_of_ne hsame reply s.now () ttls.redisTtlIdempotent s.marks
      rw [hset] at hother
      rw [← hother]
      exact hmark
  | nothingToSave e c m reply answer marks he hplace hparse hset _ _ ht =>
    subst ht
    have hid := MessageHandler.idOf_of_parse hparse
    have hnothing : Accounted h (h.messageId m) ({ s with
        marks := marks
        history := .nothingToSave (h.messageId m) :: passEvent answer (h.messageId m) ::
          s.history }.move e.tag (.unacked c .finishing)) :=
      Or.inr (Or.inl List.mem_cons_self)
    refine hinv.of_move he rfl hsettled ?_ (fun hstored => by cases hstored)
      (fun _ => ⟨h.messageId m, hid, hnothing⟩)
    intro id hmark
    by_cases hsame : id = h.messageId m
    · subst hsame
      exact Or.inr hnothing
    · left
      have hother := safeSetNx_of_ne hsame reply s.now () ttls.redisTtlIdempotent s.marks
      rw [hset] at hother
      rw [← hother]
      exact hmark
  | commit e c n m save database he hplace hparse _ _ ht =>
    subst ht
    exact hinv.of_move he rfl hsettled (fun _ => Or.inl) (fun hstored => by cases hstored)
      fun _ => ⟨h.messageId m, MessageHandler.idOf_of_parse hparse,
        Or.inl ⟨m, List.mem_cons_self, rfl⟩⟩
  | returned e c n he hplace ht =>
    subst ht
    refine hinv.of_move he rfl hsettled (fun _ => Or.inl) (fun hstored => by cases hstored) ?_
    obtain ⟨id, hid, hset⟩ := hinv.passed e (findId_mem he) (by rw [hplace]; rfl)
    exact fun _ => ⟨id, hid, hsettled id hset⟩
  | raised e c n permanent he hplace ht =>
    subst ht
    have hid : (h.idOf e).isSome :=
      hinv.storing e (findId_mem he) (by rw [Envelope.storing, hplace])
    refine hinv.of_move he rfl hsettled (fun _ => Or.inl) (fun _ => hid) fun hpass => ?_
    rw [passed_afterRaise] at hpass
    cases hpass
  | lost e c n m permanent he hplace hparse ht =>
    subst ht
    have hid : (h.idOf e).isSome := by
      rw [MessageHandler.idOf_of_parse hparse]
      rfl
    refine hinv.of_move he rfl hsettled (fun _ => Or.inl) (fun _ => hid) fun hpass => ?_
    rw [passed_afterRaise] at hpass
    cases hpass
  | ack e c he hplace ht =>
    subst ht
    refine hinv.of_move he rfl hsettled (fun _ => Or.inl) (fun hstored => by cases hstored) ?_
    obtain ⟨id, hid, hset⟩ := hinv.passed e (findId_mem he) (by rw [hplace]; rfl)
    exact fun _ => ⟨id, hid, hsettled id hset⟩
  | requeue c processes _ ht =>
    subst ht
    refine ⟨?_, fun id hid => hsettled id (hinv.marks id hid), ?_, ?_⟩
    · have htags : (s.requeue h c).envelopes.map Envelope.tag = s.envelopes.map Envelope.tag :=
        map_updateWhere (f := Envelope.put .ready) (g := Envelope.tag) (fun _ => rfl) s.envelopes
      have hlength := congrArg List.length htags
      rw [List.length_map, List.length_map] at hlength
      exact htags.trans (hlength ▸ hinv.tags)
    · intro e he hstored
      rcases (mem_requeue h).mp he with ⟨he, _⟩ | ⟨e₀, _, _, rfl⟩
      · exact hinv.storing e he hstored
      · cases hstored
    · intro e he hpass
      rcases (mem_requeue h).mp he with ⟨he, _⟩ | ⟨e₀, _, _, rfl⟩
      · obtain ⟨id, hid, hset⟩ := hinv.passed e he hpass
        exact ⟨id, hid, hsettled id hset⟩
      · cases hpass

lemma DeliveryInv.init (database : δ) : DeliveryInv h (QueueWorld.init database) where
  tags := rfl
  marks id hid := by cases hid
  storing e he := by cases he
  passed e he := by cases he

theorem deliveryInv_run {as : List (QueueAction β)} {database : δ}
    (hrun : run (queueStep h ttls limits) as (QueueWorld.init database) = some t) :
    DeliveryInv h t :=
  run_invariant (fun _ _ _ hinv hstep => hinv.step (queueStep_move hstep)) hrun
    (DeliveryInv.init database)

/-! ## What was published, and where it went -/

/-- What the step publishes. -/
def QueueAction.published : QueueAction β → Option β
  | .publish body => some body
  | _ => none

lemma bodies_move (tag : ℕ) (p : Place) (s : QueueWorld β M δ) :
    (s.move tag p).envelopes.map Envelope.body = s.envelopes.map Envelope.body :=
  map_updateWhere (f := Envelope.put p) (g := Envelope.body) (fun _ => rfl) s.envelopes

/-- A step keeps what was published, or adds one body. -/
lemma bodies_step (hstep : queueStep h ttls limits a s = some t) :
    t.envelopes.map Envelope.body = s.envelopes.map Envelope.body ++ a.published.toList := by
  by_cases hpublish : ∃ body, a = .publish body
  · obtain ⟨body, rfl⟩ := hpublish
    cases hstep
    simp [QueueAction.published]
  · have hnone : a.published = none := by
      cases a <;> simp_all [QueueAction.published]
    rw [hnone, Option.toList_none, List.append_nil]
    cases queueStep_move hstep with
    | quiet _ henvelopes => rw [henvelopes]
    | publish body ha _ => exact absurd ⟨body, ha⟩ hpublish
    | wait _ _ _ _ _ ht | duplicate _ _ _ _ _ _ _ ht | pass _ _ _ _ _ _ _ _ _ _ _ _ ht
    | nothingToSave _ _ _ _ _ _ _ _ _ _ _ _ ht | commit _ _ _ _ _ _ _ _ _ _ _ ht
    | returned _ _ _ _ _ ht | raised _ _ _ _ _ _ ht | lost _ _ _ _ _ _ _ _ ht | ack _ _ _ _ ht =>
      rw [ht, bodies_move]
    | requeue c _ _ ht =>
      rw [ht]
      exact map_updateWhere (f := Envelope.put .ready) (g := Envelope.body) (fun _ => rfl) _

lemma bodies_run {as : List (QueueAction β)} {database : δ}
    (hrun : run (queueStep h ttls limits) as (QueueWorld.init database) = some t) :
    t.envelopes.map Envelope.body = as.filterMap QueueAction.published := by
  refine run_history (J := fun bs u => u.envelopes.map Envelope.body =
    bs.filterMap QueueAction.published) rfl ?_ hrun
  intro bs a u v _ _ hu hstep
  rw [bodies_step hstep, hu, List.filterMap_append]
  cases hpublished : a.published <;> simp [hpublished]

/-- Without a limit on age or length the broker dead-letters nothing by itself. -/
lemma dropped_step (hinv : DeliveryInv h s)
    (hdropped : ∀ e ∈ s.envelopes, e.place = .dead .dropped →
      limits.ttlMs.isSome ∨ limits.maxLen.isSome)
    (hmove : QueueMove h ttls limits a s t) :
    ∀ e ∈ t.envelopes, e.place = .dead .dropped → limits.ttlMs.isSome ∨ limits.maxLen.isSome := by
  have hmoved : ∀ {e : Envelope β} {p : Place}, s.envelope e.tag = some e →
      (p = .dead .dropped → limits.ttlMs.isSome ∨ limits.maxLen.isSome) →
      ∀ e' ∈ (s.move e.tag p).envelopes, e'.place = .dead .dropped →
        limits.ttlMs.isSome ∨ limits.maxLen.isSome := by
    intro e p he hp e' he' hplace
    rcases (hinv.mem_move he).mp he' with ⟨he', _⟩ | rfl
    · exact hdropped e' he' hplace
    · exact hp hplace
  have hraise : ∀ c n permanent, afterRaise c n permanent ≠ .dead .dropped := by
    intro c n permanent
    unfold afterRaise
    split_ifs <;> simp
  cases hmove with
  | quiet _ henvelopes =>
    rw [henvelopes]
    exact hdropped
  | publish body _ ht =>
    subst ht
    intro e he hplace
    rcases List.mem_append.mp he with he | he
    · exact hdropped e he hplace
    · obtain rfl := List.mem_singleton.mp he
      cases hplace
  | wait e p he _ hafter ht =>
    subst ht
    refine hmoved he fun hp => ?_
    subst hp
    rcases hafter with hp | ⟨hp, _⟩ | ⟨_, hlimits⟩
    · cases hp
    · cases hp
    · exact hlimits
  | duplicate _ _ _ he _ _ _ ht | pass _ _ _ _ _ _ he _ _ _ _ _ ht
  | nothingToSave _ _ _ _ _ _ he _ _ _ _ _ ht | commit _ _ _ _ _ _ he _ _ _ _ ht
  | returned _ _ _ he _ ht | ack _ _ he _ ht =>
    subst ht
    exact hmoved he fun hp => by cases hp
  | raised e c n permanent he _ ht | lost e c n _ permanent he _ _ ht =>
    subst ht
    exact hmoved he fun hp => absurd hp (hraise c n permanent)
  | requeue c _ _ ht =>
    subst ht
    intro e he hplace
    rcases (mem_requeue h).mp he with ⟨he, _⟩ | ⟨e₀, _, _, rfl⟩
    · exact hdropped e he hplace
    · cases hplace

lemma limited_of_dropped {as : List (QueueAction β)} {database : δ}
    (hrun : run (queueStep h ttls limits) as (QueueWorld.init database) = some t)
    {e : Envelope β} (he : e ∈ t.envelopes) (hdropped : e.place = .dead .dropped) :
    limits.ttlMs.isSome ∨ limits.maxLen.isSome := by
  have hend := run_invariant
    (I := fun u : QueueWorld β M δ => DeliveryInv h u ∧ ∀ e ∈ u.envelopes,
      e.place = .dead .dropped → limits.ttlMs.isSome ∨ limits.maxLen.isSome)
    (fun a u v hu hstep => ⟨hu.1.step (queueStep_move hstep),
      dropped_step hu.1 hu.2 (queueStep_move hstep)⟩) hrun
    ⟨DeliveryInv.init database, fun e he => by cases he⟩
  exact hend.2 e he hdropped

/-- Every message of every run is found again, under the body it was published with.  If it was
acknowledged, it was a message, and one of its id is in the database, asked for no transaction, is
on its way, was rejected, or was cancelled between its mark and its commit; and only a queue with
limits has dead letters that no handler rejected. -/
theorem no_silent_loss {as : List (QueueAction β)} {database : δ}
    (hrun : run (queueStep h ttls limits) as (QueueWorld.init database) = some t) :
    t.envelopes.map Envelope.body = as.filterMap QueueAction.published ∧
      ∀ e ∈ t.envelopes,
        (e.place = .acked → ∃ m, h.parse e.body = some m ∧ Accounted h (h.messageId m) t) ∧
          (e.place = .dead .dropped → limits.ttlMs.isSome ∨ limits.maxLen.isSome) := by
  refine ⟨bodies_run hrun, fun e he => ⟨fun hacked => ?_, limited_of_dropped hrun he⟩⟩
  obtain ⟨id, hid, hset⟩ := (deliveryInv_run hrun).passed e he (by rw [hacked]; rfl)
  obtain ⟨m, hparse, rfl⟩ := Option.map_eq_some_iff.mp hid
  exact ⟨m, hparse, hset⟩

/-- A queue of texts, of which the empty one is no message; the database lists them. -/
def textHandler : MessageHandler String String (List String) where
  parse body := if body = "" then none else some body
  messageId := id
  save m := some fun db => some (m :: db)

/-- The first delivery of a message, up to its check. -/
def firstDelivery (body : String) : List (QueueAction String) :=
  [.start 0, .publish body, .deliver 0 0, .begin 0, .check 0 .answered]

/-- The channel is lost, and the message delivered again. -/
def secondDelivery : List (QueueAction String) :=
  [.channelLost 0, .deliver 0 0, .begin 0, .check 0 .answered, .ack 0]

/-- The first delivery commits, the second finds a duplicate. -/
def committedRun : List (QueueAction String) :=
  firstDelivery "cpu 93" ++ .commit 0 :: secondDelivery

theorem no_silent_loss_second_delivery :
    ∃ t, run (queueStep textHandler {} ⟨none, none⟩) committedRun (QueueWorld.init []) = some t ∧
      t.envelopes.map Envelope.body = ["cpu 93"] ∧
      ∀ e ∈ t.envelopes,
        (e.place = .acked → ∃ m, textHandler.parse e.body = some m ∧
            Accounted textHandler (textHandler.messageId m) t) ∧
          (e.place = .dead .dropped → (none : Option ℕ).isSome ∨ (none : Option ℕ).isSome) :=
  have hrun : ∃ t, run (queueStep textHandler {} ⟨none, none⟩) committedRun (QueueWorld.init []) =
      some t := ⟨_, rfl⟩
  let ⟨t, ht⟩ := hrun
  ⟨t, ht, no_silent_loss ht⟩

/-- Lost before the commit, the message is a duplicate of its own first delivery. -/
example : (run (queueStep textHandler {} ⟨none, none⟩)
    (firstDelivery "cpu 93" ++ secondDelivery) (QueueWorld.init [])).map
      (fun t => (t.envelopes.map Envelope.place, t.database)) = some ([.acked], []) := rfl

/-! ## Runs that cancel no handler on its way to the commit -/

/-- No process closes or loses its channel while one of its handlers is between the check and the
commit. -/
def graceful : QueueAction β → QueueWorld β M δ → Bool
  | .closeChannel c, s | .channelLost c, s | .crash c, s =>
    s.envelopes.all fun e => !(e.heldBy c && e.storing)
  | _, _ => true

lemma inflight_of_storing {e : Envelope β} (hstoring : e.storing = true) : e.inflight = true := by
  unfold Envelope.storing at hstoring
  unfold Envelope.inflight
  split at hstoring <;> simp_all

/-- A drain that waited for every handler closes the channel gracefully. -/
lemma graceful_of_drained {c : ℕ} (hdrained : s.drained c = true) :
    graceful (.closeChannel c) s = true := by
  refine List.all_eq_true.mpr fun e he => ?_
  have hnone := List.all_eq_true.mp hdrained e he
  cases hheld : e.heldBy c with
  | false => rfl
  | true =>
    cases hstoring : e.storing with
    | false => rfl
    | true => simp [hheld, inflight_of_storing hstoring] at hnone

/-- Nothing that is on its way to the commit goes back to the queue. -/
lemma not_storing_of_graceful {c : ℕ}
    (ha : a = .closeChannel c ∨ a = .channelLost c ∨ a = .crash c)
    (hgraceful : graceful a s = true) :
    (s.envelopes.filter fun e => e.heldBy c && e.storing) = [] := by
  have hnone : (s.envelopes.all fun e => !(e.heldBy c && e.storing)) = true := by
    rcases ha with rfl | rfl | rfl <;> exact hgraceful
  refine List.filter_eq_nil_iff.mpr fun e he hboth => ?_
  have hnot := List.all_eq_true.mp hnone e he
  rw [hboth] at hnot
  cases hnot

/-- What the history says is so of the messages, and nothing was cancelled. -/
structure GracefulInv (h : MessageHandler β M δ) (s : QueueWorld β M δ) : Prop where
  delivery : DeliveryInv h s
  nothingToSave : ∀ id, .nothingToSave id ∈ s.history →
    ∃ e ∈ s.envelopes, ∃ m, h.parse e.body = some m ∧ h.messageId m = id ∧ h.save m = none
  interrupted : ∀ id, .interrupted id ∉ s.history

lemma body_mem_step (hstep : queueStep h ttls limits a s = some t) {e : Envelope β}
    (he : e ∈ s.envelopes) : ∃ e' ∈ t.envelopes, e'.body = e.body := by
  have hbody : e.body ∈ t.envelopes.map Envelope.body := by
    rw [bodies_step hstep]
    exact List.mem_append_left _ (List.mem_map_of_mem he)
  obtain ⟨e', he', hsame⟩ := List.mem_map.mp hbody
  exact ⟨e', he', hsame⟩

lemma passEvent_ne (answer : Option Bool) (id id' : String) :
    passEvent answer id ≠ .interrupted id' ∧ passEvent answer id ≠ .nothingToSave id' := by
  unfold passEvent
  split_ifs <;> simp

lemma GracefulInv.step (hinv : GracefulInv h s) (hgraceful : graceful a s = true)
    (hstep : queueStep h ttls limits a s = some t) : GracefulInv h t := by
  have hmove := queueStep_move hstep
  have hbefore : ∀ id, .nothingToSave id ∈ s.history →
      ∃ e ∈ t.envelopes, ∃ m, h.parse e.body = some m ∧ h.messageId m = id ∧ h.save m = none := by
    intro id hid
    obtain ⟨e, he, m, hparse, hrest⟩ := hinv.nothingToSave id hid
    obtain ⟨e', he', hbody⟩ := body_mem_step hstep he
    exact ⟨e', he', m, hbody ▸ hparse, hrest⟩
  have hsame : t.history = s.history → GracefulInv h t := fun hhistory =>
    ⟨hinv.delivery.step hmove, fun id hid => hbefore id (hhistory ▸ hid),
      fun id hid => hinv.interrupted id (hhistory ▸ hid)⟩
  have hone : ∀ x, (∀ id, x ≠ .interrupted id) → (∀ id, x ≠ .nothingToSave id) →
      t.history = x :: s.history → GracefulInv h t := by
    intro x hinterrupted hnothing hhistory
    refine ⟨hinv.delivery.step hmove, fun id hid => ?_, fun id hid => ?_⟩
    · rw [hhistory, List.mem_cons] at hid
      exact hbefore id (hid.resolve_left fun heq => hnothing id heq.symm)
    · rw [hhistory, List.mem_cons] at hid
      exact hinv.interrupted id (hid.resolve_left fun heq => hinterrupted id heq.symm)
  cases hmove with
  | quiet _ _ _ _ _ hhistory => exact hsame hhistory
  | publish _ _ ht => exact hsame (by rw [ht])
  | wait _ _ _ _ _ ht | duplicate _ _ _ _ _ _ _ ht | commit _ _ _ _ _ _ _ _ _ _ _ ht
  | returned _ _ _ _ _ ht | raised _ _ _ _ _ _ ht | ack _ _ _ _ ht =>
    exact hsame (by rw [ht]; rfl)
  | pass e c m reply answer marks _ _ _ _ _ _ ht =>
    exact hone _ (fun id => (passEvent_ne _ _ id).1) (fun id => (passEvent_ne _ _ id).2)
      (by rw [ht]; rfl)
  | lost e c n m permanent _ _ _ ht =>
    exact hone (.lostCommit (h.messageId m)) (fun id => by simp) (fun id => by simp)
      (by rw [ht]; rfl)
  | nothingToSave e c m reply answer marks he _ hparse _ _ hsave ht =>
    have hhistory : t.history = .nothingToSave (h.messageId m) ::
        passEvent answer (h.messageId m) :: s.history := by rw [ht]; rfl
    refine ⟨hinv.delivery.step (queueStep_move hstep), fun id hid => ?_, fun id hid => ?_⟩
    · rw [hhistory, List.mem_cons, List.mem_cons] at hid
      rcases hid with heq | heq | hid
      · obtain rfl : id = h.messageId m := by simpa using heq
        obtain ⟨e', he', hbody⟩ := body_mem_step hstep (findId_mem he)
        exact ⟨e', he', m, hbody ▸ hparse, rfl, hsave⟩
      · exact absurd heq.symm (passEvent_ne _ _ id).2
      · exact hbefore id hid
    · rw [hhistory, List.mem_cons, List.mem_cons] at hid
      rcases hid with heq | heq | hid
      · cases heq
      · exact absurd heq.symm (passEvent_ne _ _ id).1
      · exact hinv.interrupted id hid
  | requeue c processes ha ht =>
    refine hsame ?_
    rw [ht]
    have hcause := ha.imp_left And.left
    simp only [QueueWorld.requeue, not_storing_of_graceful hcause hgraceful, List.filterMap_nil,
      List.nil_append]

lemma GracefulInv.init (database : δ) : GracefulInv h (QueueWorld.init database) where
  delivery := DeliveryInv.init database
  nothingToSave id hid := by cases hid
  interrupted id hid := by cases hid

lemma gracefulInv_run {as : List (QueueAction β)} {database : δ}
    (hmeets : Meets (queueStep h ttls limits) (fun a s => graceful a s = true) as
      (QueueWorld.init database))
    (hrun : run (queueStep h ttls limits) as (QueueWorld.init database) = some t) :
    GracefulInv h t :=
  run_invariant_of_meets (fun _ _ _ hC hu hstep => hu.step hC hstep) hmeets hrun
    (GracefulInv.init database)

/-- What an acknowledged message stands for, when nothing was cancelled. -/
lemma GracefulInv.acked (hinv : GracefulInv h s) {e : Envelope β} (he : e ∈ s.envelopes) {m : M}
    (hparse : h.parse e.body = some m) (hacked : e.place = .acked) :
    (∃ m' ∈ s.commits, h.messageId m' = h.messageId m) ∨
      ∃ e' ∈ s.envelopes, ∃ m', h.parse e'.body = some m' ∧ h.messageId m' = h.messageId m ∧
        (h.save m' = none ∨ e'.place = .dead .rejected ∨ e'.storing = true) := by
  obtain ⟨id, hid, hset⟩ := hinv.delivery.passed e he (by rw [hacked]; rfl)
  rw [MessageHandler.idOf_of_parse hparse, Option.some_inj] at hid
  subst hid
  rcases hset with hcommit | hnothing | hinterrupted | ⟨e', he', hid, hpending⟩
  · exact Or.inl hcommit
  · obtain ⟨e', he', m', hparse', hid, hsave⟩ := hinv.nothingToSave _ hnothing
    exact Or.inr ⟨e', he', m', hparse', hid, Or.inl hsave⟩
  · exact absurd hinterrupted (hinv.interrupted _)
  · obtain ⟨m', hparse', hsame⟩ := Option.map_eq_some_iff.mp hid
    refine Or.inr ⟨e', he', m', hparse', hsame, Or.inr ?_⟩
    rw [Envelope.pendingOrRejected, Bool.or_eq_true, decide_eq_true_eq] at hpending
    exact hpending.symm

/-- In a run that cancels no handler between its mark and its commit, whatever becomes of Redis and
of the database, a message that is neither waiting nor being handled is in the dead-letter queue, or
a message of its id is: in the database, in the dead-letter queue as rejected, still on its way, or
done without a transaction. -/
theorem graceful_run_delivers {as : List (QueueAction β)} {database : δ}
    (hmeets : Meets (queueStep h ttls limits) (fun a s => graceful a s = true) as
      (QueueWorld.init database))
    (hrun : run (queueStep h ttls limits) as (QueueWorld.init database) = some t)
    {e : Envelope β} (he : e ∈ t.envelopes) {m : M} (hparse : h.parse e.body = some m) :
    e.place = .ready ∨ (∃ c phase, e.place = .unacked c phase) ∨ (∃ why, e.place = .dead why) ∨
      (∃ m' ∈ t.commits, h.messageId m' = h.messageId m) ∨
        ∃ e' ∈ t.envelopes, ∃ m', h.parse e'.body = some m' ∧ h.messageId m' = h.messageId m ∧
          (h.save m' = none ∨ e'.place = .dead .rejected ∨ e'.storing = true) := by
  cases hplace : e.place with
  | ready => exact Or.inl rfl
  | unacked c phase => exact Or.inr (Or.inl ⟨c, phase, rfl⟩)
  | dead why => exact Or.inr (Or.inr (Or.inl ⟨why, rfl⟩))
  | acked => exact Or.inr (Or.inr (Or.inr ((gracefulInv_run hmeets hrun).acked he hparse hplace)))

theorem graceful_run_delivers_second_delivery :
    ∃ t, run (queueStep textHandler {} ⟨none, none⟩) committedRun (QueueWorld.init []) = some t ∧
      ∃ e ∈ t.envelopes,
        e.place = .ready ∨ (∃ c phase, e.place = .unacked c phase) ∨
          (∃ why, e.place = .dead why) ∨
            (∃ m' ∈ t.commits, textHandler.messageId m' = "cpu 93") ∨
              ∃ e' ∈ t.envelopes, ∃ m', textHandler.parse e'.body = some m' ∧
                textHandler.messageId m' = "cpu 93" ∧
                (textHandler.save m' = none ∨ e'.place = .dead .rejected ∨
                  e'.storing = true) := by
  obtain ⟨t, ht⟩ : ∃ t, run (queueStep textHandler {} ⟨none, none⟩) committedRun
      (QueueWorld.init []) = some t := ⟨_, rfl⟩
  have hplaces : (run (queueStep textHandler {} ⟨none, none⟩) committedRun
      (QueueWorld.init [])).map QueueWorld.envelopes = some [⟨0, "cpu 93", 0, .acked⟩] := rfl
  rw [ht, Option.map_some, Option.some_inj] at hplaces
  have he : (⟨0, "cpu 93", 0, .acked⟩ : Envelope String) ∈ t.envelopes := by
    rw [hplaces]
    exact List.mem_cons_self
  exact ⟨t, ht, _, he, graceful_run_delivers (by decide) ht he (m := "cpu 93") rfl⟩

end AssessmentEngine
