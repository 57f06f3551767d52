import AssessmentEngine.Library.Runs
import AssessmentEngine.Library.Transactions
import AssessmentEngine.Jobs.World
import AssessmentEngine.Ingest.Inventory

/-!
# Who creates the row of a server

The metrics and the inventory handler, statement by statement, run by any number of consumers at a
time.  `ensure_server_id` looks the agent up, inserts a placeholder that gives way to a row already
there, and looks the agent up again when it did; `upsert_server` writes the row in any case.

`rows` is the committed table, which every lookup reads; `opened` holds the row versions that open
transactions have written.  An insertion that meets such a version waits for the end of its
transaction, so it is no step before that.
-/

namespace AssessmentEngine

open Table Runs

/-! ## States and steps -/

/-- Where a consumer stands in the message it handles. -/
inductive ConsumerState
  | idle
  /-- In `ensure_server_id`: before the first lookup, the insertion and the second lookup. -/
  | finding (data : MetricsEnvelope)
  | inserting (data : MetricsEnvelope)
  | findingAgain (data : MetricsEnvelope)
  /-- `ensure_server_id` has returned, in the transaction of the message. -/
  | ensured (data : MetricsEnvelope) (serverId : ℕ) (autoRegistered : Bool)
  /-- In `upsert_server`: before the lookup of the row before, the upsert and the commit. -/
  | selecting (data : ServerInventoryCreate)
  | upserting (data : ServerInventoryCreate) (prev : Option InventoryColumns)
  | upserted (data : ServerInventoryCreate) (serverId : ℕ)
  | returned (agentId : String) (serverId : ℕ)
  /-- `RuntimeError`: the race was not resolved. -/
  | raised (agentId : String)

structure IngestWorld where
  rows : List ServerRow
  opened : List (ℕ × ServerRow)
  consumers : ℕ → ConsumerState

/-- No server yet, and nobody at work. -/
def IngestWorld.init : IngestWorld where
  rows := []
  opened := []
  consumers := fun _ => .idle

/-- The committed row of an agent. -/
def IngestWorld.server (s : IngestWorld) (agentId : String) : Option ServerRow :=
  findId ServerRow.agentId agentId s.rows

/-- An open transaction has written the row of the agent. -/
def IngestWorld.locked (s : IngestWorld) (agentId : String) : Bool :=
  s.opened.any fun e => decide (e.2.agentId = agentId)

/-- The id is in use. -/
def IngestWorld.drawn (s : IngestWorld) (draw : Draw) : Bool :=
  (s.rows ++ s.opened.map Prod.snd).any fun r => decide (r.id = draw.id)

inductive IngestAction
  | metrics (c : ℕ) (data : MetricsEnvelope)
  | inventory (c : ℕ) (data : ServerInventoryCreate)
  | find (c : ℕ)
  | insertPlaceholder (c : ℕ) (draw : Draw)
  | findAgain (c : ℕ)
  | selectPrev (c : ℕ)
  | upsert (c : ℕ) (draw : Draw)
  | commit (c : ℕ) (outcome : Outcome)
  | abort (c : ℕ)

def IngestWorld.setConsumer (s : IngestWorld) (c : ℕ) (state : ConsumerState) : IngestWorld :=
  { s with consumers := Function.update s.consumers c state }

/-- The end of the transaction of consumer `c`. -/
def IngestWorld.endTransaction (s : IngestWorld) (c : ℕ) (keep : Bool) : IngestWorld :=
  { s with
    rows :=
      if keep then
        (openBy c s.opened).foldl (fun rows r => putRow ServerRow.agentId r rows) s.rows
      else s.rows
    opened := openOthers c s.opened }

/-- The consumer takes up a message. -/
def ConsumerState.free : ConsumerState → Bool
  | .idle | .returned _ _ | .raised _ => true
  | _ => false

/-- The row that `upsert_server` leaves in its transaction, and the id it returns. -/
def upsertedRow (draw : Draw) (data : ServerInventoryCreate) (rows : List ServerRow) : ServerRow :=
  match findId ServerRow.agentId data.agentId rows with
  | some r => r.overwrite data
  | none => inventoryRow draw data

/-- Committed at once, that row makes the table that `upsert_server` makes. -/
lemma putRow_upsertedRow {rows : List ServerRow} (hagents : (rows.map ServerRow.agentId).Nodup)
    (draw : Draw) (data : ServerInventoryCreate) :
    putRow ServerRow.agentId (upsertedRow draw data rows) rows =
      (upsertServerRow draw data rows).2 := by
  unfold upsertedRow upsertServerRow putRow
  cases hfind : findId ServerRow.agentId data.agentId rows with
  | none =>
    have hnone : findId ServerRow.agentId (inventoryRow draw data).agentId rows = none := hfind
    simp only [hnone]
  | some r =>
    have hagent : (r.overwrite data).agentId = data.agentId := findId_key (r := r) hfind
    simp only [hagent, hfind]
    apply List.map_congr_left
    intro a ha
    by_cases hsame : a.agentId = data.agentId
    · have hfound := findId_of_mem hagents ha
      rw [hsame, hfind, Option.some_inj] at hfound
      rw [hfound]
    · simp [hsame]

/-- And the row of a placeholder, where it is inserted, the table that the insertion makes. -/
lemma putRow_inventoryRow {rows : List ServerRow} {draw : Draw} {data : ServerInventoryCreate}
    {id : ℕ} (hid : (insertPlaceholderServer draw data rows).1 = some id) :
    putRow ServerRow.agentId (inventoryRow draw data) rows =
      (insertPlaceholderServer draw data rows).2 := by
  unfold insertPlaceholderServer at hid ⊢
  cases hfind : findId ServerRow.agentId data.agentId rows with
  | some r =>
    rw [hfind] at hid
    cases hid
  | none =>
    have hnone : findId ServerRow.agentId (inventoryRow draw data).agentId rows = none := hfind
    simp only [putRow, hnone]

/-- The insertion of `ensure_server_id`. -/
def stepInsertPlaceholder (c : ℕ) (draw : Draw) (s : IngestWorld) : Option IngestWorld :=
  match s.consumers c with
  | .inserting data =>
    if s.locked data.agentId || s.drawn draw then none
    else
      match (insertPlaceholderServer draw (buildPlaceholderInventory data) s.rows).1 with
      | some id =>
        some { s.setConsumer c (.ensured data id true) with
               opened := s.opened ++ [(c, inventoryRow draw (buildPlaceholderInventory data))] }
      | none => some (s.setConsumer c (.findingAgain data))
  | _ => none

/-- The insertion of `upsert_server`. -/
def stepUpsert (c : ℕ) (draw : Draw) (s : IngestWorld) : Option IngestWorld :=
  match s.consumers c with
  | .upserting data _ =>
    if s.locked data.agentId || s.drawn draw then none
    else
      some { s.setConsumer c (.upserted data (upsertServerRow draw data s.rows).1) with
             opened := s.opened ++ [(c, upsertedRow draw data s.rows)] }
  | _ => none

/-- The commit; a consumer whose commit raises tries again or gives the message up. -/
def stepCommitIngest (c : ℕ) (outcome : Outcome) (s : IngestWorld) : Option IngestWorld :=
  match s.consumers c with
  | .ensured data id _ =>
    let state := if outcome.raises then ConsumerState.idle else .returned data.agentId id
    some ((s.endTransaction c outcome.persists).setConsumer c state)
  | .upserted data id =>
    let state := if outcome.raises then ConsumerState.idle else .returned data.agentId id
    some ((s.endTransaction c outcome.persists).setConsumer c state)
  | _ => none

/-- One step. -/
def ingestStep : IngestAction → IngestWorld → Option IngestWorld
  | .metrics c data, s =>
    if (s.consumers c).free then some (s.setConsumer c (.finding data)) else none
  | .inventory c data, s =>
    if (s.consumers c).free then some (s.setConsumer c (.selecting data)) else none
  | .find c, s =>
    match s.consumers c with
    | .finding data =>
      match findServerId data.agentId s.rows with
      | some id => some (s.setConsumer c (.ensured data id false))
      | none => some (s.setConsumer c (.inserting data))
    | _ => none
  | .insertPlaceholder c draw, s => stepInsertPlaceholder c draw s
  | .findAgain c, s =>
    match s.consumers c with
    | .findingAgain data =>
      match findServerId data.agentId s.rows with
      | some id => some (s.setConsumer c (.ensured data id false))
      | none => some (s.setConsumer c (.raised data.agentId))
    | _ => none
  | .selectPrev c, s =>
    match s.consumers c with
    | .selecting data =>
      some (s.setConsumer c (.upserting data ((s.server data.agentId).map ServerRow.columns)))
    | _ => none
  | .upsert c draw, s => stepUpsert c draw s
  | .commit c outcome, s => stepCommitIngest c outcome s
  -- a statement raises, or the process dies: the transaction is undone
  | .abort c, s => some ((s.endTransaction c false).setConsumer c .idle)

/-! ## The invariant -/

/-- An open row is the one that the state of its consumer speaks of: a placeholder for an agent
without a row, or the next version of the agent's row. -/
def OpenFits (rows : List ServerRow) (r : ServerRow) : ConsumerState → Prop
  | .ensured data id auto =>
    auto = true ∧ r.agentId = data.agentId ∧ r.id = id ∧
      findId ServerRow.agentId r.agentId rows = none
  | .upserted data id =>
    r.agentId = data.agentId ∧ r.id = id ∧
      ∀ a, findId ServerRow.agentId r.agentId rows = some a → a.id = id
  | _ => False

/-- The agent has this row id. -/
def Registered (rows : List ServerRow) (agentId : String) (id : ℕ) : Prop :=
  ∃ r, findId ServerRow.agentId agentId rows = some r ∧ r.id = id

/-- What the state of a consumer says about the rows. -/
def StateFits (rows : List ServerRow) (opened : List ServerRow) : ConsumerState → Prop
  | .findingAgain data => ∃ id, Registered rows data.agentId id
  | .ensured data id false => Registered rows data.agentId id
  | .ensured _ _ true | .upserted _ _ => opened ≠ []
  | .returned agentId id => Registered rows agentId id
  | .raised _ => False
  | _ => True

structure RegistrationInv (s : IngestWorld) : Prop where
  agents : (s.rows.map ServerRow.agentId).Nodup
  locks : (s.opened.map fun e => e.2.agentId).Nodup
  opened : ∀ c r, (c, r) ∈ s.opened → OpenFits s.rows r (s.consumers c)
  states : ∀ c, StateFits s.rows (openBy c s.opened) (s.consumers c)

lemma registrationInv_init : RegistrationInv IngestWorld.init where
  agents := List.nodup_nil
  locks := List.nodup_nil
  opened _ _ hr := nomatch hr
  states _ := trivial

section simp

variable (s : IngestWorld) {c c' : ℕ} (state : ConsumerState)

@[simp] lemma IngestWorld.setConsumer_self : (s.setConsumer c state).consumers c = state := by
  simp [IngestWorld.setConsumer]

lemma IngestWorld.setConsumer_other (h : c' ≠ c) :
    (s.setConsumer c state).consumers c' = s.consumers c' := by
  simp [IngestWorld.setConsumer, Function.update_of_ne h]

end simp

/-- A committed version of a row keeps every registration, if it keeps that of its own agent. -/
lemma Registered.putRow {rows : List ServerRow} {agentId : String} {id : ℕ} {r : ServerRow}
    (hreg : Registered rows agentId id)
    (hid : ∀ a, findId ServerRow.agentId r.agentId rows = some a → a.id = r.id) :
    Registered (putRow ServerRow.agentId r rows) agentId id := by
  obtain ⟨a, ha, haid⟩ := hreg
  unfold Registered
  rw [findId_putRow]
  by_cases hagent : r.agentId = agentId
  · rw [if_pos hagent]
    subst hagent
    exact ⟨r, rfl, (hid a ha).symm.trans haid⟩
  · rw [if_neg hagent]
    exact ⟨a, ha, haid⟩

/-- A consumer writes one row in a transaction. -/
lemma RegistrationInv.openBy_eq {s : IngestWorld} (hinv : RegistrationInv s) {c : ℕ}
    {r : ServerRow} (hr : (c, r) ∈ s.opened) : openBy c s.opened = [r] := by
  have hsame : ∀ a ∈ openBy c s.opened, a.agentId = r.agentId := by
    intro a ha
    have hfits := hinv.opened c a (mem_openBy.mp ha)
    have hfits' := hinv.opened c r hr
    cases hstate : s.consumers c with
    | ensured data id auto =>
      rw [hstate] at hfits hfits'
      exact hfits.2.1.trans hfits'.2.1.symm
    | upserted data id =>
      rw [hstate] at hfits hfits'
      exact hfits.1.trans hfits'.1.symm
    | idle | finding | inserting | findingAgain | selecting | upserting | returned | raised =>
      rw [hstate] at hfits
      exact hfits.elim
  have hnodup : ((openBy c s.opened).map ServerRow.agentId).Nodup := by
    refine hinv.locks.sublist ?_
    rw [openBy, List.map_map]
    exact List.filter_sublist.map _
  have hmem : r ∈ openBy c s.opened := mem_openBy.mpr hr
  cases hopen : openBy c s.opened with
  | nil =>
    rw [hopen] at hmem
    cases hmem
  | cons a rest =>
    rw [hopen] at hmem hnodup hsame
    cases rest with
    | nil => rw [List.mem_singleton.mp hmem]
    | cons b rest =>
      -- two rows of one agent cannot be open
      have hab : a.agentId = b.agentId := (hsame a (by simp)).trans (hsame b (by simp)).symm
      simp [hab] at hnodup

/-! ## What one step can do -/

inductive IngestMove (a : IngestAction) (s t : IngestWorld) : Prop
  | quiet (c : ℕ) (state : ConsumerState)
      (hnone : ∀ r, (c, r) ∉ s.opened) (hstate : StateFits s.rows [] state)
      (ht : t = s.setConsumer c state)
  | write (c : ℕ) (r : ServerRow) (state : ConsumerState)
      (hnone : ∀ a, (c, a) ∉ s.opened) (hlock : ∀ e ∈ s.opened, e.2.agentId ≠ r.agentId)
      (hfits : OpenFits s.rows r state)
      (ht : t = { s.setConsumer c state with opened := s.opened ++ [(c, r)] })
  | close (c : ℕ) (keep : Bool) (state : ConsumerState)
      (hcommit : keep = true → ∃ outcome, a = .commit c outcome)
      (hstate : state = .idle ∨ keep = true ∧ ∃ agentId id, state = .returned agentId id ∧
        ((∃ data auto, s.consumers c = .ensured data id auto ∧ data.agentId = agentId) ∨
          ∃ data, s.consumers c = .upserted data id ∧ data.agentId = agentId))
      (ht : t = (s.endTransaction c keep).setConsumer c state)

lemma findServerId_eq_some {agentId : String} {rows : List ServerRow} {id : ℕ} :
    findServerId agentId rows = some id ↔ Registered rows agentId id := by
  rw [findServerId, Option.map_eq_some_iff]
  rfl

/-- The consumer has nothing open where its state leaves no room for it. -/
lemma RegistrationInv.not_opened {s : IngestWorld} (hinv : RegistrationInv s) {c : ℕ}
    {state : ConsumerState} (hstate : s.consumers c = state)
    (hclosed : ∀ r, ¬ OpenFits s.rows r state) (r : ServerRow) : (c, r) ∉ s.opened := by
  intro hr
  have hfits := hinv.opened c r hr
  rw [hstate] at hfits
  exact hclosed r hfits

/-- The insertion writes a placeholder, or gives way to the row that is there. -/
lemma stepInsertPlaceholder_move {a : IngestAction} {s t : IngestWorld} (hinv : RegistrationInv s)
    {c : ℕ} {draw : Draw} (hstep : stepInsertPlaceholder c draw s = some t) :
    IngestMove a s t := by
  simp only [stepInsertPlaceholder] at hstep
  split at hstep
  case h_2 => cases hstep
  case h_1 data hstate =>
    have hnone := hinv.not_opened hstate fun _ => not_false
    split_ifs at hstep with hwait
    rw [Bool.or_eq_true, not_or] at hwait
    have hagent : (buildPlaceholderInventory data).agentId = data.agentId := rfl
    cases hfind : findId ServerRow.agentId data.agentId s.rows with
    | some r =>
      simp only [insertPlaceholderServer, hagent, hfind] at hstep
      cases hstep
      exact .quiet c (.findingAgain data) hnone ⟨r.id, r, hfind, rfl⟩ rfl
    | none =>
      simp only [insertPlaceholderServer, hagent, hfind] at hstep
      cases hstep
      refine .write c (inventoryRow draw (buildPlaceholderInventory data))
        (.ensured data draw.id true) hnone (fun e he hsame => hwait.1 ?_)
        ⟨rfl, rfl, rfl, hfind⟩ rfl
      exact List.any_eq_true.mpr ⟨e, he, decide_eq_true hsame⟩

/-- The upsert writes the row in any case. -/
lemma stepUpsert_move {a : IngestAction} {s t : IngestWorld} (hinv : RegistrationInv s) {c : ℕ}
    {draw : Draw} (hstep : stepUpsert c draw s = some t) : IngestMove a s t := by
  simp only [stepUpsert] at hstep
  split at hstep
  case h_2 => cases hstep
  case h_1 data prev hstate =>
    have hnone := hinv.not_opened hstate fun _ => not_false
    split_ifs at hstep with hwait
    rw [Bool.or_eq_true, not_or] at hwait
    cases hstep
    have hagent : (upsertedRow draw data s.rows).agentId = data.agentId := by
      unfold upsertedRow
      cases hfind : findId ServerRow.agentId data.agentId s.rows with
      | some r => exact (ServerRow.overwrite_agentId data r).trans (findId_key hfind)
      | none => rfl
    refine .write c (upsertedRow draw data s.rows)
      (.upserted data (upsertServerRow draw data s.rows).1) hnone
      (fun e he hsame => hwait.1 ?_) ⟨hagent, ?_, fun a ha => ?_⟩ rfl
    · exact List.any_eq_true.mpr ⟨e, he, decide_eq_true (hsame.trans hagent)⟩
    · unfold upsertedRow upsertServerRow
      cases findId ServerRow.agentId data.agentId s.rows <;> rfl
    · rw [hagent] at ha
      exact (upsertServerRow_id ha).symm

/-- A commit that its client learns of returns the id. -/
lemma stepCommitIngest_move {s t : IngestWorld} {c : ℕ} {outcome : Outcome}
    (hstep : stepCommitIngest c outcome s = some t) : IngestMove (.commit c outcome) s t := by
  simp only [stepCommitIngest] at hstep
  have hpersists : outcome.raises ≠ true → outcome.persists = true := by
    intro hraises
    cases outcome <;> simp_all [Outcome.raises, Outcome.persists]
  split at hstep
  case h_3 => cases hstep
  case h_1 data id auto hstate =>
    cases hstep
    refine .close c outcome.persists
      (if outcome.raises then .idle else .returned data.agentId id)
      (fun _ => ⟨outcome, rfl⟩) ?_ rfl
    by_cases hraises : outcome.raises = true
    · exact Or.inl (if_pos hraises)
    · exact Or.inr ⟨hpersists hraises, _, id, if_neg hraises,
        Or.inl ⟨data, auto, hstate, rfl⟩⟩
  case h_2 data id hstate =>
    cases hstep
    refine .close c outcome.persists
      (if outcome.raises then .idle else .returned data.agentId id)
      (fun _ => ⟨outcome, rfl⟩) ?_ rfl
    by_cases hraises : outcome.raises = true
    · exact Or.inl (if_pos hraises)
    · exact Or.inr ⟨hpersists hraises, _, id, if_neg hraises,
        Or.inr ⟨data, hstate, rfl⟩⟩

/-- Every step moves the state in one of these ways. -/
theorem ingestStep_move {a : IngestAction} {s t : IngestWorld} (hinv : RegistrationInv s)
    (hstep : ingestStep a s = some t) : IngestMove a s t := by
  cases a with
  | metrics c data =>
    simp only [ingestStep] at hstep
    split_ifs at hstep with hfree
    cases hstep
    refine .quiet c (.finding data) (hinv.not_opened rfl fun r h => ?_) trivial rfl
    revert hfree h
    cases s.consumers c <;> simp [ConsumerState.free, OpenFits]
  | inventory c data =>
    simp only [ingestStep] at hstep
    split_ifs at hstep with hfree
    cases hstep
    refine .quiet c (.selecting data) (hinv.not_opened rfl fun r h => ?_) trivial rfl
    revert hfree h
    cases s.consumers c <;> simp [ConsumerState.free, OpenFits]
  | find c =>
    simp only [ingestStep] at hstep
    split at hstep
    case h_2 => cases hstep
    case h_1 data hstate =>
      have hnone := hinv.not_opened hstate fun _ => not_false
      split at hstep
      case h_1 id hid =>
        cases hstep
        exact .quiet c (.ensured data id false) hnone (findServerId_eq_some.mp hid) rfl
      case h_2 =>
        cases hstep
        exact .quiet c (.inserting data) hnone trivial rfl
  | insertPlaceholder c draw => exact stepInsertPlaceholder_move hinv hstep
  | findAgain c =>
    simp only [ingestStep] at hstep
    split at hstep
    case h_2 => cases hstep
    case h_1 data hstate =>
      have hnone := hinv.not_opened hstate fun _ => not_false
      -- the row that the insertion gave way to is still there
      have hfits := hinv.states c
      rw [hstate] at hfits
      obtain ⟨id, hreg⟩ := hfits
      rw [findServerId_eq_some.mpr hreg] at hstep
      cases hstep
      exact .quiet c (.ensured data id false) hnone hreg rfl
  | selectPrev c =>
    simp only [ingestStep] at hstep
    split at hstep
    case h_2 => cases hstep
    case h_1 data hstate =>
      have hnone := hinv.not_opened hstate fun _ => not_false
      cases hstep
      exact .quiet c (.upserting data ((s.server data.agentId).map ServerRow.columns)) hnone
        trivial rfl
  | upsert c draw => exact stepUpsert_move hinv hstep
  | commit c outcome => exact stepCommitIngest_move hstep
  | abort c =>
    cases hstep
    exact .close c false .idle (fun h => absurd h Bool.false_ne_true) (Or.inl rfl) rfl

/-! ## The invariant along a step -/

lemma OpenFits.id_eq {rows : List ServerRow} {r : ServerRow} {state : ConsumerState}
    (hfits : OpenFits rows r state) :
    ∀ a, findId ServerRow.agentId r.agentId rows = some a → a.id = r.id := by
  intro a ha
  cases state with
  | ensured data id auto =>
    obtain ⟨_, _, _, hnone⟩ := hfits
    rw [hnone] at ha
    cases ha
  | upserted data id =>
    obtain ⟨_, hid, hsame⟩ := hfits
    exact (hsame a ha).trans hid.symm
  | idle | finding | inserting | findingAgain | selecting | upserting | returned | raised =>
    exact hfits.elim

/-- What an open row rests on is the row of its agent only. -/
lemma OpenFits.congr {rows rows' : List ServerRow} {r : ServerRow} {state : ConsumerState}
    (hfits : OpenFits rows r state)
    (hrows : findId ServerRow.agentId r.agentId rows' = findId ServerRow.agentId r.agentId rows) :
    OpenFits rows' r state := by
  cases state <;> simp only [OpenFits, hrows] at hfits ⊢ <;> exact hfits

lemma StateFits.mono {rows rows' : List ServerRow} {own : List ServerRow} {state : ConsumerState}
    (hfits : StateFits rows own state)
    (hrows : ∀ {agentId id}, Registered rows agentId id → Registered rows' agentId id) :
    StateFits rows' own state := by
  cases state with
  | ensured data id auto =>
    cases auto with
    | false => exact hrows hfits
    | true => exact hfits
  | findingAgain data =>
    obtain ⟨id, hid⟩ := hfits
    exact ⟨id, hrows hid⟩
  | returned agentId id => exact hrows hfits
  | idle | finding | inserting | selecting | upserting | upserted | raised => exact hfits

/-- Who has a row open is in a state that calls for one. -/
lemma OpenFits.stateFits {rows own : List ServerRow} {r : ServerRow} {state : ConsumerState}
    (hfits : OpenFits rows r state) (hown : own ≠ []) : StateFits rows own state := by
  cases state with
  | ensured data id auto =>
    obtain ⟨rfl, _⟩ := hfits
    exact hown
  | upserted data id => exact hown
  | idle | finding | inserting | findingAgain | selecting | upserting | returned | raised =>
    exact hfits.elim

/-- A transaction that is kept brings in the row that its consumer wrote. -/
lemma RegistrationInv.rows_of_keep {s : IngestWorld} (hinv : RegistrationInv s) {c : ℕ}
    {r : ServerRow} (hr : (c, r) ∈ s.opened) :
    (s.endTransaction c true).rows = putRow ServerRow.agentId r s.rows := by
  rw [IngestWorld.endTransaction, hinv.openBy_eq hr]
  rfl

/-- The end of a transaction leaves the rows alone or brings in one row. -/
lemma RegistrationInv.rows_endTransaction {s : IngestWorld} (hinv : RegistrationInv s) (c : ℕ)
    (keep : Bool) :
    (s.endTransaction c keep).rows = s.rows ∨
      keep = true ∧ ∃ r, (c, r) ∈ s.opened ∧
        (s.endTransaction c keep).rows = putRow ServerRow.agentId r s.rows := by
  cases keep with
  | false => exact Or.inl rfl
  | true =>
    by_cases hopen : ∃ r, (c, r) ∈ s.opened
    · obtain ⟨r, hr⟩ := hopen
      exact Or.inr ⟨rfl, r, hr, hinv.rows_of_keep hr⟩
    · rw [not_exists] at hopen
      rw [IngestWorld.endTransaction, openBy_eq_nil hopen]
      exact Or.inl rfl

/-- No registration is lost by the end of a transaction. -/
lemma RegistrationInv.registered_endTransaction {s : IngestWorld} (hinv : RegistrationInv s)
    (c : ℕ) (keep : Bool) {agentId : String} {id : ℕ} (hreg : Registered s.rows agentId id) :
    Registered (s.endTransaction c keep).rows agentId id := by
  rcases hinv.rows_endTransaction c keep with hrows | ⟨_, r, hr, hrows⟩
  · rwa [hrows]
  · rw [hrows]
    exact hreg.putRow (hinv.opened c r hr).id_eq

/-- The row that a consumer has open is the one its transaction brings in. -/
lemma RegistrationInv.registered_of_open {s : IngestWorld} (hinv : RegistrationInv s) {c : ℕ}
    {r : ServerRow} (hr : (c, r) ∈ s.opened) :
    Registered (s.endTransaction c true).rows r.agentId r.id := by
  rw [hinv.rows_of_keep hr]
  exact ⟨r, by rw [findId_putRow, if_pos rfl], rfl⟩

/-- A consumer whose state calls for an open row has one. -/
lemma RegistrationInv.exists_open {s : IngestWorld} {c : ℕ} (hopen : openBy c s.opened ≠ []) :
    ∃ r, (c, r) ∈ s.opened := by
  obtain ⟨r, hr⟩ := List.exists_mem_of_ne_nil _ hopen
  exact ⟨r, mem_openBy.mp hr⟩

/-- What a message returns is registered once its transaction is kept. -/
lemma RegistrationInv.registered_returned {s : IngestWorld} (hinv : RegistrationInv s) {c : ℕ}
    {agentId : String} {id : ℕ}
    (hstate : (∃ data auto, s.consumers c = .ensured data id auto ∧ data.agentId = agentId) ∨
      ∃ data, s.consumers c = .upserted data id ∧ data.agentId = agentId) :
    Registered (s.endTransaction c true).rows agentId id := by
  have hfits := hinv.states c
  rcases hstate with ⟨data, auto, hstate, rfl⟩ | ⟨data, hstate, rfl⟩
  · rw [hstate] at hfits
    cases auto with
    | false => exact hinv.registered_endTransaction c true hfits
    | true =>
      obtain ⟨r, hr⟩ := RegistrationInv.exists_open hfits
      have hopen := hinv.opened c r hr
      rw [hstate] at hopen
      obtain ⟨_, hagent, hid, _⟩ := hopen
      have hreg := hinv.registered_of_open hr
      rwa [hagent, hid] at hreg
  · rw [hstate] at hfits
    obtain ⟨r, hr⟩ := RegistrationInv.exists_open hfits
    have hopen := hinv.opened c r hr
    rw [hstate] at hopen
    obtain ⟨hagent, hid, _⟩ := hopen
    have hreg := hinv.registered_of_open hr
    rwa [hagent, hid] at hreg

/-- One step keeps the invariant. -/
theorem RegistrationInv.step {a : IngestAction} {s t : IngestWorld} (hinv : RegistrationInv s)
    (hmove : IngestMove a s t) : RegistrationInv t := by
  cases hmove with
  | quiet c state hnone hstate ht =>
    subst ht
    refine ⟨hinv.agents, hinv.locks, fun c' r hr => ?_, fun c' => ?_⟩
    · have hc : c' ≠ c := fun hc => hnone r (hc ▸ hr)
      rw [s.setConsumer_other state hc]
      exact hinv.opened c' r hr
    · by_cases hc : c' = c
      · subst hc
        have hown : openBy c' (s.setConsumer c' state).opened = [] := openBy_eq_nil hnone
        rw [hown, s.setConsumer_self]
        exact hstate
      · rw [s.setConsumer_other state hc]
        exact hinv.states c'
  | write c r state hnone hlock hfits ht =>
    subst ht
    refine ⟨hinv.agents, ?_, fun c' r' hr' => ?_, fun c' => ?_⟩
    · rw [List.map_append, List.nodup_append]
      refine ⟨hinv.locks, List.nodup_singleton _, ?_⟩
      intro x hx y hy hxy
      obtain ⟨e, he, rfl⟩ := List.mem_map.mp hx
      rw [List.map_singleton, List.mem_singleton] at hy
      exact hlock e he (hxy.trans hy)
    · rcases List.mem_append.mp hr' with hr' | hr'
      · have hc : c' ≠ c := fun hc => hnone r' (hc ▸ hr')
        have hopen := hinv.opened c' r' hr'
        rwa [← s.setConsumer_other state hc] at hopen
      · rw [List.mem_singleton, Prod.mk.injEq] at hr'
        obtain ⟨rfl, rfl⟩ := hr'
        rw [← s.setConsumer_self state (c := c')] at hfits
        exact hfits
    · by_cases hc : c' = c
      · subst hc
        have hopen : openBy c' (s.opened ++ [(c', r)]) ≠ [] := openBy_ne_nil (r := r) (by simp)
        have hstate : StateFits s.rows (openBy c' (s.opened ++ [(c', r)])) state :=
          hfits.stateFits hopen
        rw [← s.setConsumer_self state (c := c')] at hstate
        exact hstate
      · have hstates := hinv.states c'
        rwa [← openBy_append_other hc r, ← s.setConsumer_other state hc] at hstates
  | close c keep state hcommit hstate ht =>
    subst ht
    have hsub : (openOthers c s.opened).Sublist s.opened := List.filter_sublist
    refine ⟨?_, hinv.locks.sublist (hsub.map _), fun c' r' hr' => ?_, fun c' => ?_⟩
    · rcases hinv.rows_endTransaction c keep with hrows | ⟨_, r, _, hrows⟩
      · exact hrows ▸ hinv.agents
      · exact hrows ▸ nodup_putRow hinv.agents r
    · obtain ⟨hopen, hc⟩ := mem_openOthers.mp hr'
      rw [IngestWorld.setConsumer_other _ state hc]
      refine (hinv.opened c' r' hopen).congr ?_
      rcases hinv.rows_endTransaction c keep with hrows | ⟨_, r, hr, hrows⟩
      · exact congrArg _ hrows
      · -- the row that comes in is of another agent
        have hother : r.agentId ≠ r'.agentId := by
          intro hsame
          have heq := List.inj_on_of_nodup_map hinv.locks hr hopen hsame
          exact hc (congrArg Prod.fst heq).symm
        refine (congrArg _ hrows).trans ?_
        rw [findId_putRow, if_neg hother]
    · by_cases hc : c' = c
      · subst hc
        rw [IngestWorld.setConsumer_self]
        rcases hstate with rfl | ⟨rfl, agentId, id, rfl, hfrom⟩
        · trivial
        · exact hinv.registered_returned hfrom
      · rw [IngestWorld.setConsumer_other _ state hc]
        have hstates := hinv.states c'
        rw [← openBy_openOthers hc] at hstates
        exact hstates.mono (hinv.registered_endTransaction c keep)

theorem registrationInv_run {as : List IngestAction} {s t : IngestWorld}
    (hrun : run ingestStep as s = some t) (hs : RegistrationInv s) : RegistrationInv t :=
  run_invariant (fun _ _ _ hinv hstep => hinv.step (ingestStep_move hinv hstep)) hrun hs

/-! ## Metrics messages after an inventory -/

/-- The step ends a transaction in which `upsert_server` has written the row of the agent. -/
def appliesInventory (agentId : String) : IngestAction → IngestWorld → Bool
  | .commit c _, s =>
    match s.consumers c with
    | .upserted data _ => decide (data.agentId = agentId)
    | _ => false
  | _, _ => false

/-- Every other step leaves the row of an agent that has one as it is. -/
lemma RegistrationInv.server_step {agentId : String} {r : ServerRow} {a : IngestAction}
    {s t : IngestWorld} (hinv : RegistrationInv s) (hmove : IngestMove a s t)
    (happlies : appliesInventory agentId a s = false) (hr : s.server agentId = some r) :
    t.server agentId = some r := by
  cases hmove with
  | quiet c state hnone hstate ht => exact ht ▸ hr
  | write c r' state hnone hlock hfits ht => exact ht ▸ hr
  | close c keep state hcommit hstate ht =>
    have hserver : t.server agentId =
        findId ServerRow.agentId agentId (s.endTransaction c keep).rows := by
      rw [ht]
      rfl
    rw [hserver]
    rcases hinv.rows_endTransaction c keep with hrows | ⟨hkeep, r', hr', hrows⟩
    · rw [hrows]
      exact hr
    · rw [hrows, findId_putRow]
      have hother : r'.agentId ≠ agentId := by
        rintro rfl
        obtain ⟨outcome, rfl⟩ := hcommit hkeep
        have hopen := hinv.opened c r' hr'
        cases hfrom : s.consumers c with
        | ensured data id auto =>
          -- a placeholder is there only for an agent without a row
          rw [hfrom] at hopen
          obtain ⟨_, _, _, hnone⟩ := hopen
          rw [IngestWorld.server, hnone] at hr
          cases hr
        | upserted data id =>
          rw [hfrom] at hopen
          simp only [appliesInventory, hfrom] at happlies
          exact of_decide_eq_false happlies hopen.1.symm
        | idle | finding | inserting | findingAgain | selecting | upserting | returned | raised =>
          rw [hfrom] at hopen
          exact hopen.elim
      rw [if_neg hother]
      exact hr

/-- The committed rows of an agent. -/
def IngestWorld.rowsOf (s : IngestWorld) (agentId : String) : List ServerRow :=
  s.rows.filter fun r => decide (r.agentId = agentId)

lemma RegistrationInv.rowsOf_eq_iff {s : IngestWorld} (hinv : RegistrationInv s) {agentId : String}
    {r : ServerRow} : s.rowsOf agentId = [r] ↔ s.server agentId = some r :=
  filter_eq_singleton_iff hinv.agents

lemma Registered.rowsOf {s : IngestWorld} {agentId : String} {id : ℕ}
    (hreg : Registered s.rows agentId id) (hinv : RegistrationInv s) :
    ∃ r, s.rowsOf agentId = [r] ∧ r.id = id := by
  obtain ⟨r, hr, hid⟩ := hreg
  exact ⟨r, hinv.rowsOf_eq_iff.mpr hr, hid⟩

/-- Registrations last. -/
lemma registered_step {agentId : String} {id : ℕ} {a : IngestAction} {s t : IngestWorld}
    (hinv : RegistrationInv s) (hmove : IngestMove a s t) (hreg : Registered s.rows agentId id) :
    Registered t.rows agentId id := by
  cases hmove with
  | quiet c state hnone hstate ht => exact ht ▸ hreg
  | write c r state hnone hlock hfits ht => exact ht ▸ hreg
  | close c keep state hcommit hstate ht =>
    rw [ht]
    exact hinv.registered_endTransaction c keep hreg

lemma registered_run {agentId : String} {id : ℕ} {as : List IngestAction} {s t : IngestWorld}
    (hinv : RegistrationInv s) (hrun : run ingestStep as s = some t)
    (hreg : Registered s.rows agentId id) : Registered t.rows agentId id := by
  have hboth : RegistrationInv t ∧ Registered t.rows agentId id := by
    refine run_invariant (I := fun u => RegistrationInv u ∧ Registered u.rows agentId id) ?_ hrun
      ⟨hinv, hreg⟩
    intro a u v hu hstep
    have hmove := ingestStep_move hu.1 hstep
    exact ⟨hu.1.step hmove, registered_step hu.1 hmove hu.2⟩
  exact hboth.2

/-- However the messages of all consumers interleave: an agent has at most one row; an agent with a
message whose transaction is over has one, from then on and under the id that the message got;
`ensure_server_id` returns the id of the agent's row, or of the one it is about to add where there
is none, and never raises; and a row once there changes by the inventories of its agent only. -/
theorem placeholder_never_overwrites (as : List IngestAction) (s : IngestWorld)
    (hrun : run ingestStep as IngestWorld.init = some s) :
    (∀ agentId, (s.rowsOf agentId).length ≤ 1) ∧
      (∀ c agentId id, s.consumers c = .returned agentId id →
        ∀ bs t, run ingestStep bs s = some t → ∃ r, t.rowsOf agentId = [r] ∧ r.id = id) ∧
      (∀ c data id auto, s.consumers c = .ensured data id auto →
        ∃ r, r.agentId = data.agentId ∧ r.id = id ∧
          if auto then (c, r) ∈ s.opened ∧ s.rowsOf data.agentId = []
          else s.rowsOf data.agentId = [r]) ∧
      (∀ c agentId, s.consumers c ≠ .raised agentId) ∧
      ∀ agentId r, s.rowsOf agentId = [r] → ∀ bs t,
        Meets ingestStep (fun a u => appliesInventory agentId a u = false) bs s →
          run ingestStep bs s = some t → t.rowsOf agentId = [r] := by
  have hinv : RegistrationInv s := registrationInv_run hrun registrationInv_init
  refine ⟨fun agentId => ?_, fun c agentId id hc bs t ht => ?_, fun c data id auto hc => ?_,
    fun c agentId hc => ?_, fun agentId r hr bs t hmeets ht => ?_⟩
  · cases hserver : s.server agentId with
    | none =>
      have hnone : s.rowsOf agentId = [] := by
        refine List.filter_eq_nil_iff.mpr fun r hr hagent => findId_eq_none_iff.mp hserver ?_
        exact List.mem_map.mpr ⟨r, hr, of_decide_eq_true hagent⟩
      simp [hnone]
    | some r => simp [hinv.rowsOf_eq_iff.mpr hserver]
  · have hfits := hinv.states c
    rw [hc] at hfits
    exact (registered_run hinv ht hfits).rowsOf (registrationInv_run ht hinv)
  · have hfits := hinv.states c
    rw [hc] at hfits
    cases auto with
    | false =>
      obtain ⟨r, hr, hid⟩ := hfits
      exact ⟨r, findId_key hr, hid, hinv.rowsOf_eq_iff.mpr hr⟩
    | true =>
      obtain ⟨r, hr⟩ := RegistrationInv.exists_open hfits
      have hopen := hinv.opened c r hr
      rw [hc] at hopen
      obtain ⟨_, hagent, hid, hnone⟩ := hopen
      rw [hagent] at hnone
      refine ⟨r, hagent, hid, hr, List.filter_eq_nil_iff.mpr fun a ha hsame => ?_⟩
      exact findId_eq_none_iff.mp hnone (List.mem_map.mpr ⟨a, ha, of_decide_eq_true hsame⟩)
  · have hfits := hinv.states c
    rwa [hc] at hfits
  · have hkept : RegistrationInv t ∧ t.server agentId = some r := by
      refine run_invariant_of_meets (I := fun u => RegistrationInv u ∧ u.server agentId = some r)
        ?_ hmeets ht ⟨hinv, hinv.rowsOf_eq_iff.mp hr⟩
      intro a u v happlies hu hstep
      have hmove := ingestStep_move hu.1 hstep
      exact ⟨hu.1.step hmove, hu.1.server_step hmove happlies hu.2⟩
    exact hkept.1.rowsOf_eq_iff.mpr hkept.2

/-- The first metrics message of a host. -/
def bootMetrics : MetricsEnvelope where
  agentId := "5f0c2a34-0000-4000-8000-0000000000a1"
  compositeId := none
  machineId := none
  agentVersion := some "1.4.0"
  collectedAt := 1700000160000000
  bootTime := some 1700000000000000
  agentStartedAt := some 1700000100000000
  osFamily := "linux"

/-- Its first inventory. -/
def bootInventory : ServerInventoryCreate :=
  { buildPlaceholderInventory bootMetrics with hostname := "db-01" }

/-- The inventory gets in between the lookup and the insertion of the metrics message, which then
finds the row of the inventory. -/
def bootRace : List IngestAction :=
  [.metrics 0 bootMetrics, .find 0, .inventory 1 bootInventory, .selectPrev 1,
   .upsert 1 ⟨1, "a-1"⟩, .commit 1 .committed, .insertPlaceholder 0 ⟨2, "a-2"⟩, .findAgain 0,
   .commit 0 .unacknowledged]

theorem placeholder_never_overwrites_bootRace :
    ∃ s, run ingestStep bootRace IngestWorld.init = some s ∧
      (s.rowsOf bootMetrics.agentId).map ServerRow.hostname = ["db-01"] ∧
      ∀ agentId, (s.rowsOf agentId).length ≤ 1 :=
  ⟨_, rfl, rfl, (placeholder_never_overwrites bootRace _ rfl).1⟩

end AssessmentEngine
