import Mathlib.Data.List.Induction
import AssessmentEngine.Ingest.Inventory

/-!
# A server's row and its history over a sequence of inventory messages

`upsert_server` overwrites the row whatever the `collected_at` of the message, and compares the
message with the row that it overwrites.  So the row follows the order in which messages are
applied, not the order in which they were collected; and the history records a change when a
message differs from the one before it, so that the boot time, compared with a tolerance, can drift
away from the last snapshot, and a placeholder that no message differs from has no snapshot at all.
-/

namespace AssessmentEngine

open Table

/-- Inventory messages as they are applied, each with what the database draws for it. -/
abbrev Deliveries := List (Draw × ServerInventoryCreate)

/-- The tables after the messages have been applied in order. -/
def applyDeliveries (ds : Deliveries) (db : InventoryTables) : InventoryTables :=
  ds.foldl (fun db d => (upsertServer d.1 d.2 db).2) db

lemma applyDeliveries_snoc (ds : Deliveries) (d : Draw × ServerInventoryCreate)
    (db : InventoryTables) :
    applyDeliveries (ds ++ [d]) db = (upsertServer d.1 d.2 (applyDeliveries ds db)).2 := by
  rw [applyDeliveries, List.foldl_append]
  rfl

/-- The row of an agent. -/
def InventoryTables.server (db : InventoryTables) (agentId : String) : Option ServerRow :=
  findId ServerRow.agentId agentId db.servers

/-- After a message its agent's row says what it says. -/
lemma upsertServer_server (draw : Draw) (data : ServerInventoryCreate) (db : InventoryTables) :
    ∃ r, (upsertServer draw data db).2.server data.agentId = some r ∧ r.Describes data ∧
      r.id = (upsertServer draw data db).1 :=
  upsertServerRow_find draw data db.servers

/-! ## The row follows the message applied last -/

/-- `last_seen_at` of the agent's row after each message. -/
def lastSeenTrace (agentId : String) : Deliveries → InventoryTables → List (Option ℤ)
  | [], _ => []
  | d :: ds, db =>
    let db' := (upsertServer d.1 d.2 db).2
    (db'.server agentId).bind ServerRow.lastSeenAt :: lastSeenTrace agentId ds db'

lemma lastSeenTrace_eq {agentId : String} {ds : Deliveries}
    (hagent : ∀ d ∈ ds, d.2.agentId = agentId) (db : InventoryTables) :
    lastSeenTrace agentId ds db = ds.map fun d => some d.2.collectedAt := by
  induction ds generalizing db with
  | nil => rfl
  | cons d ds ih =>
    obtain ⟨r, hr, hdescribes, _⟩ := upsertServer_server d.1 d.2 db
    have hd : d.2.agentId = agentId := hagent d List.mem_cons_self
    rw [hd] at hr
    have hseen : ((upsertServer d.1 d.2 db).2.server agentId).bind ServerRow.lastSeenAt =
        some d.2.collectedAt := by
      rw [hr]
      exact hdescribes.lastSeenAt
    rw [lastSeenTrace, List.map_cons, hseen, ih fun e he => hagent e (List.mem_cons_of_mem d he)]

/-- No value of the column is below one before it. -/
def NeverDecreases (trace : List (Option ℤ)) : Prop :=
  trace.Pairwise fun a b => ∀ x ∈ a, ∀ y ∈ b, x ≤ y

/-- The row of the agent describes the message that was applied last, and no other; `last_seen_at`
is after each message its `collected_at`, and so never decreases exactly when the messages are
applied in the order of their collection. -/
theorem inventory_last_applied (agentId : String) (ds : Deliveries) (db : InventoryTables)
    (hne : ds ≠ []) (hagent : ∀ d ∈ ds, d.2.agentId = agentId)
    (hdistinct : ∀ d ∈ ds, ∀ e ∈ ds, d.2.collectedAt = e.2.collectedAt → d.2 = e.2) :
    (∃ r, (applyDeliveries ds db).server agentId = some r ∧
      ∀ d ∈ ds, r.Describes d.2 ↔ d.2 = (ds.getLast hne).2) ∧
    lastSeenTrace agentId ds db = ds.map (fun d => some d.2.collectedAt) ∧
    (NeverDecreases (lastSeenTrace agentId ds db) ↔
      ds.Pairwise fun d e => d.2.collectedAt ≤ e.2.collectedAt) := by
  have htrace := lastSeenTrace_eq hagent db
  refine ⟨?_, htrace, ?_⟩
  · obtain ⟨init, d, rfl⟩ := List.eq_nil_or_concat' ds |>.resolve_left hne
    obtain ⟨r, hr, hdescribes, _⟩ := upsertServer_server d.1 d.2 (applyDeliveries init db)
    have hd : d.2.agentId = agentId := hagent d (by simp)
    refine ⟨r, by rw [applyDeliveries_snoc, ← hd, hr], fun e he => ?_⟩
    rw [List.getLast_append_singleton]
    constructor
    · intro hother
      have htime : some e.2.collectedAt = some d.2.collectedAt :=
        hother.lastSeenAt.symm.trans hdescribes.lastSeenAt
      exact hdistinct e he d (by simp) (Option.some_inj.mp htime)
    · intro hsame
      exact hsame ▸ hdescribes
  · rw [htrace, NeverDecreases, List.pairwise_map]
    simp

/-- A minimal inventory of one host, collected at a given time after a given boot. -/
def hostInventory (collectedAt bootTime : ℤ) : ServerInventoryCreate :=
  let placeholder := buildPlaceholderInventory
    { agentId := "5f0c2a34-0000-4000-8000-0000000000a1"
      compositeId := none
      machineId := none
      agentVersion := some "1.4.0"
      collectedAt := collectedAt
      bootTime := some bootTime
      agentStartedAt := some 1700000100000000
      osFamily := "linux" }
  { placeholder with
    hostname := "db-01"
    columns := { placeholder.columns with cpuCores := some 8, memTotalBytes := some 17179869184 } }

def hostDraw (id : ℕ) : Draw :=
  ⟨id, "5f0c2a34-0000-4000-8000-000000000001"⟩

/-- Two inventories in the order of their collection. -/
def punctualDeliveries : Deliveries :=
  [(hostDraw 1, hostInventory 1700003600000000 1700000000000000),
   (hostDraw 2, hostInventory 1700007200000000 1700000000000000)]

theorem inventory_last_applied_punctual :
    ∃ r, (applyDeliveries punctualDeliveries ⟨[], []⟩).server
        "5f0c2a34-0000-4000-8000-0000000000a1" = some r ∧
      r.Describes (hostInventory 1700007200000000 1700000000000000) := by
  obtain ⟨r, hr, hdescribes⟩ := (inventory_last_applied "5f0c2a34-0000-4000-8000-0000000000a1"
    punctualDeliveries ⟨[], []⟩ (by decide) (by decide) (by decide)).1
  have hmem : (hostDraw 2, hostInventory 1700007200000000 1700000000000000) ∈
      punctualDeliveries := by
    decide
  exact ⟨r, hr, (hdescribes _ hmem).mpr rfl⟩

/-- The older of the two delivered last: the row goes back to it, and `last_seen_at` with it. -/
theorem late_inventory_wins :
    ∃ r, (applyDeliveries punctualDeliveries.reverse ⟨[], []⟩).server
        "5f0c2a34-0000-4000-8000-0000000000a1" = some r ∧
      ¬ r.Describes (hostInventory 1700007200000000 1700000000000000) ∧
      r.Describes (hostInventory 1700003600000000 1700000000000000) ∧
      lastSeenTrace "5f0c2a34-0000-4000-8000-0000000000a1" punctualDeliveries.reverse ⟨[], []⟩ =
        [some 1700007200000000, some 1700003600000000] ∧
      ¬ NeverDecreases (lastSeenTrace "5f0c2a34-0000-4000-8000-0000000000a1"
        punctualDeliveries.reverse ⟨[], []⟩) := by
  refine ⟨_, rfl, by decide, by decide, by decide, ?_⟩
  intro hnever
  have hpair := (List.pairwise_cons.mp hnever).1 (some 1700003600000000) (by decide)
  exact absurd (hpair 1700007200000000 rfl 1700003600000000 rfl) (by decide)

/-! ## The newest snapshot -/

/-- The newest history row of a server. -/
def newestSnapshot (serverId : ℕ) (history : List InventoryHistoryRow) :
    Option InventoryHistoryRow :=
  latest InventoryHistoryRow.collectedAt (history.filter fun h => decide (h.serverId = serverId))

/-- A run of messages of one agent whose row, if it has one, is `serverId` and has no history. -/
structure Unrecorded (agentId : String) (serverId : ℕ) (ds : Deliveries) (db : InventoryTables) :
    Prop where
  agent : ∀ d ∈ ds, d.2.agentId = agentId
  increasing : ds.Pairwise fun d e => d.2.collectedAt < e.2.collectedAt
  row : ∀ r, db.server agentId = some r → r.id = serverId
  drawn : db.server agentId = none → ∀ d ∈ ds.head?, d.1.id = serverId
  empty : ∀ h ∈ db.history, h.serverId ≠ serverId

/-- Every message found a row, and no difference to it. -/
def FoundUnchanged (agentId : String) (ds : Deliveries) (db : InventoryTables) : Prop :=
  ∀ bs d, bs ++ [d] <+: ds → ∃ r, (applyDeliveries bs db).server agentId = some r ∧
    inventoryChanged r.columns d.2.columns = false

/-- Two boot times, after `n` comparisons that each took them for the same. -/
def BootDrift (n : ℕ) (recorded current : Option ℤ) : Prop :=
  (recorded = none ∧ current = none) ∨
    ∃ x y, recorded = some x ∧ current = some y ∧ (x - y).natAbs ≤ n * bootTimeJitterTolerance

/-- The messages collected after a snapshot. -/
def laterThan (h : InventoryHistoryRow) (ds : Deliveries) : ℕ :=
  ds.countP fun d => decide (h.collectedAt < d.2.collectedAt)

/-- The row agrees with the snapshot but for the boot time, and that has drifted. -/
def AgreesWith (ds : Deliveries) (h : InventoryHistoryRow) (r : ServerRow) : Prop :=
  r.columns = { h.columns with bootTime := r.columns.bootTime } ∧
    BootDrift (laterThan h ds) h.columns.bootTime r.columns.bootTime

lemma foundUnchanged_snoc {agentId : String} {ds : Deliveries} {d : Draw × ServerInventoryCreate}
    {db : InventoryTables} :
    FoundUnchanged agentId (ds ++ [d]) db ↔ FoundUnchanged agentId ds db ∧
      ∃ r, (applyDeliveries ds db).server agentId = some r ∧
        inventoryChanged r.columns d.2.columns = false := by
  constructor
  · intro h
    exact ⟨fun bs e hpre => h bs e (hpre.trans (List.prefix_append ds [d])),
      h ds d List.prefix_rfl⟩
  · rintro ⟨hbefore, hlast⟩ bs e hpre
    rcases List.prefix_concat_iff.mp hpre with heq | hshort
    · obtain ⟨rfl, hed⟩ := List.append_inj' heq rfl
      obtain rfl : e = d := by simpa using hed
      exact hlast
    · exact hbefore bs e hshort

/-- One comparison more adds one tolerance. -/
lemma BootDrift.step {n : ℕ} {recorded prev current : Option ℤ} (h : BootDrift n recorded prev)
    (hsame : bootTimeChanged prev current = false) : BootDrift (n + 1) recorded current := by
  rcases bootTimeChanged_eq_false_iff.mp hsame with ⟨hprev, hcurrent⟩ | ⟨y, z, hprev, hcurrent, hyz⟩
  · rcases h with ⟨hrecorded, _⟩ | ⟨x, y, _, hy, _⟩
    · exact Or.inl ⟨hrecorded, hcurrent⟩
    · rw [hprev] at hy
      cases hy
  · rcases h with ⟨_, hnone⟩ | ⟨x, y', hx, hy, hxy⟩
    · rw [hprev] at hnone
      cases hnone
    · rw [hprev, Option.some_inj] at hy
      subst hy
      refine Or.inr ⟨x, z, hx, hcurrent, ?_⟩
      have htriangle : (x - z).natAbs ≤ (x - y).natAbs + (y - z).natAbs := by omega
      have hsum : (n + 1) * bootTimeJitterTolerance =
          n * bootTimeJitterTolerance + bootTimeJitterTolerance := Nat.succ_mul _ _
      omega

/-- No drift at the snapshot itself. -/
lemma BootDrift.refl (n : ℕ) (boot : Option ℤ) : BootDrift n boot boot := by
  cases boot with
  | none => exact Or.inl ⟨rfl, rfl⟩
  | some x => exact Or.inr ⟨x, x, rfl, rfl, by simp⟩

/-- What is known of the tables after the messages `ds`. -/
structure Tracked (agentId : String) (serverId : ℕ) (ds : Deliveries) (db : InventoryTables) :
    Prop where
  row : ∀ r, (applyDeliveries ds db).server agentId = some r → r.id = serverId
  times : ∀ h ∈ (applyDeliveries ds db).history, h.serverId = serverId →
    ∃ d ∈ ds, h.collectedAt = d.2.collectedAt
  none_iff : newestSnapshot serverId (applyDeliveries ds db).history = none ↔
    FoundUnchanged agentId ds db
  agrees : ∀ h, newestSnapshot serverId (applyDeliveries ds db).history = some h →
    ∃ r, (applyDeliveries ds db).server agentId = some r ∧ AgreesWith ds h r

/-- A history row of the server newer than all before it is the newest. -/
lemma newestSnapshot_append {serverId : ℕ} {history : List InventoryHistoryRow}
    {h : InventoryHistoryRow} (hserver : h.serverId = serverId)
    (hnewer : ∀ a ∈ history, a.serverId = serverId → a.collectedAt < h.collectedAt) :
    newestSnapshot serverId (history ++ [h]) = some h := by
  have hfilter : (history ++ [h]).filter (fun a => decide (a.serverId = serverId)) =
      history.filter (fun a => decide (a.serverId = serverId)) ++ [h] := by
    simp [List.filter_append, hserver]
  rw [newestSnapshot, hfilter]
  refine latest_append fun a ha => ?_
  obtain ⟨hmem, hid⟩ := List.mem_filter.mp ha
  exact hnewer a hmem (of_decide_eq_true hid)

lemma newestSnapshot_mem {serverId : ℕ} {history : List InventoryHistoryRow}
    {h : InventoryHistoryRow} (hnewest : newestSnapshot serverId history = some h) :
    h ∈ history ∧ h.serverId = serverId := by
  have hmem := List.mem_filter.mp (latest_mem hnewest)
  exact ⟨hmem.1, of_decide_eq_true hmem.2⟩

lemma upsertServer_history (draw : Draw) (data : ServerInventoryCreate) (db : InventoryTables) :
    (upsertServer draw data db).2.history =
      if (db.server data.agentId).all fun r => inventoryChanged r.columns data.columns then
        appendInventoryHistory (upsertServer draw data db).1 data db.history
      else db.history := rfl

/-- Before the first message there is nothing to know. -/
lemma Unrecorded.tracked_nil {agentId : String} {serverId : ℕ} {ds : Deliveries}
    {db : InventoryTables} (hstart : Unrecorded agentId serverId ds db) :
    Tracked agentId serverId [] db := by
  have hnone : newestSnapshot serverId db.history = none := by
    rw [newestSnapshot, latest_eq_none_iff, List.filter_eq_nil_iff]
    intro h hh hserver
    exact hstart.empty h hh (of_decide_eq_true hserver)
  refine ⟨hstart.row, fun h hh hserver => absurd hserver (hstart.empty h hh),
    iff_of_true hnone ?_, fun h hh => ?_⟩
  · intro bs d hpre
    have hlength := hpre.length_le
    rw [List.length_append, List.length_singleton, List.length_nil] at hlength
    omega
  · rw [applyDeliveries, List.foldl_nil, hnone] at hh
    cases hh

section step

variable {agentId : String} {serverId : ℕ} {ds : Deliveries} {d : Draw × ServerInventoryCreate}
  {db : InventoryTables}

/-- A message that differs from the row it finds, or finds none, is recorded. -/
lemma Tracked.recorded (htracked : Tracked agentId serverId ds db) (hd : d.2.agentId = agentId)
    (hnewer : ∀ e ∈ ds, e.2.collectedAt < d.2.collectedAt)
    (hid : (upsertServer d.1 d.2 (applyDeliveries ds db)).1 = serverId)
    (hchanged : ∀ r, (applyDeliveries ds db).server agentId = some r →
      inventoryChanged r.columns d.2.columns = true) :
    Tracked agentId serverId (ds ++ [d]) db := by
  obtain ⟨r, hr, hdescribes, hrid⟩ := upsertServer_server d.1 d.2 (applyDeliveries ds db)
  set t := applyDeliveries ds db with ht
  set h : InventoryHistoryRow := ⟨serverId, d.2.collectedAt, d.2.hostname, d.2.columns⟩ with hh
  have holder : ∀ a ∈ t.history, a.serverId = serverId → a.collectedAt < d.2.collectedAt := by
    intro a ha hserver
    obtain ⟨e, he, hsame⟩ := htracked.times a ha hserver
    exact hsame ▸ hnewer e he
  have hall :
      ((t.server d.2.agentId).all fun r => inventoryChanged r.columns d.2.columns) = true := by
    rw [hd]
    cases hserver : t.server agentId with
    | none => rfl
    | some r' => exact hchanged r' hserver
  have hfresh : ¬ (t.history.any fun a =>
      decide (a.serverId = serverId ∧ a.collectedAt = d.2.collectedAt)) = true := by
    intro hany
    obtain ⟨a, ha, hclash⟩ := List.any_eq_true.mp hany
    obtain ⟨hserver, htime⟩ := of_decide_eq_true hclash
    have hlt := holder a ha hserver
    omega
  have hhistory : (applyDeliveries (ds ++ [d]) db).history = t.history ++ [h] := by
    rw [applyDeliveries_snoc, upsertServer_history, ← ht, if_pos hall, hid]
    exact if_neg hfresh
  have hnewest : newestSnapshot serverId (applyDeliveries (ds ++ [d]) db).history = some h := by
    rw [hhistory]
    exact newestSnapshot_append rfl holder
  have hserver : (applyDeliveries (ds ++ [d]) db).server agentId = some r := by
    rw [applyDeliveries_snoc, ← ht, ← hd, hr]
  refine ⟨fun r' hr' => ?_, fun a ha hsid => ?_, iff_of_false ?_ ?_, fun a ha => ⟨r, hserver, ?_⟩⟩
  · rw [hserver, Option.some_inj] at hr'
    rw [← hr', hrid, hid]
  · rw [hhistory, List.mem_append, List.mem_singleton] at ha
    rcases ha with hold | rfl
    · obtain ⟨e, he, hsame⟩ := htracked.times a hold hsid
      exact ⟨e, List.mem_append_left _ he, hsame⟩
    · exact ⟨d, by simp, rfl⟩
  · rw [hnewest]
    nofun
  · intro hfound
    obtain ⟨r', hr', hsame⟩ := (foundUnchanged_snoc.mp hfound).2
    rw [hchanged r' hr'] at hsame
    cases hsame
  · rw [hnewest, Option.some_inj] at ha
    have hcolumns : r.columns = a.columns := by rw [← ha, hdescribes.columns]
    unfold AgreesWith
    rw [hcolumns]
    exact ⟨rfl, BootDrift.refl _ _⟩

/-- A message that the row already agrees with leaves the history alone. -/
lemma Tracked.unrecorded (htracked : Tracked agentId serverId ds db) (hd : d.2.agentId = agentId)
    (hnewer : ∀ e ∈ ds, e.2.collectedAt < d.2.collectedAt)
    (hid : (upsertServer d.1 d.2 (applyDeliveries ds db)).1 = serverId) {r₀ : ServerRow}
    (hr₀ : (applyDeliveries ds db).server agentId = some r₀)
    (hsame : inventoryChanged r₀.columns d.2.columns = false) :
    Tracked agentId serverId (ds ++ [d]) db := by
  obtain ⟨r, hr, hdescribes, hrid⟩ := upsertServer_server d.1 d.2 (applyDeliveries ds db)
  have hhistory : (applyDeliveries (ds ++ [d]) db).history = (applyDeliveries ds db).history := by
    rw [applyDeliveries_snoc, upsertServer_history, hd, hr₀]
    simp [hsame]
  have hserver : (applyDeliveries (ds ++ [d]) db).server agentId = some r := by
    rw [applyDeliveries_snoc, ← hd, hr]
  refine ⟨fun r' hr' => ?_, fun a ha hsid => ?_, ?_, fun a ha => ⟨r, hserver, ?_⟩⟩
  · rw [hserver, Option.some_inj] at hr'
    rw [← hr', hrid, hid]
  · rw [hhistory] at ha
    obtain ⟨e, he, htime⟩ := htracked.times a ha hsid
    exact ⟨e, List.mem_append_left _ he, htime⟩
  · rw [hhistory, htracked.none_iff, foundUnchanged_snoc]
    exact ⟨fun hbefore => ⟨hbefore, r₀, hr₀, hsame⟩, And.left⟩
  · rw [hhistory] at ha
    obtain ⟨r₀', hr₀', hagrees, hdrift⟩ := htracked.agrees a ha
    rw [hr₀, Option.some_inj] at hr₀'
    subst hr₀'
    obtain ⟨hrest, hboot⟩ := inventoryChanged_eq_false_iff.mp hsame
    obtain ⟨hmem, hsid⟩ := newestSnapshot_mem ha
    obtain ⟨e, he, htime⟩ := htracked.times a hmem hsid
    have hlater : a.collectedAt < d.2.collectedAt := htime ▸ hnewer e he
    have hcount : laterThan a (ds ++ [d]) = laterThan a ds + 1 := by
      simp [laterThan, List.countP_append, hlater]
    rw [AgreesWith, hdescribes.columns, hcount]
    refine ⟨?_, hdrift.step hboot⟩
    -- the row had the columns of the snapshot but for the boot time, and so has the message
    calc d.2.columns = { r₀.columns with bootTime := d.2.columns.bootTime } := by rw [hrest]
      _ = { a.columns with bootTime := d.2.columns.bootTime } := by rw [hagrees]

/-- The row that the last message wrote is the server's own. -/
lemma Unrecorded.upsertServer_id (hstart : Unrecorded agentId serverId (ds ++ [d]) db)
    (htracked : Tracked agentId serverId ds db) :
    (upsertServer d.1 d.2 (applyDeliveries ds db)).1 = serverId := by
  have hd : d.2.agentId = agentId := hstart.agent d (by simp)
  cases hserver : (applyDeliveries ds db).server agentId with
  | some r =>
    rw [← hd] at hserver
    have hid : (upsertServer d.1 d.2 (applyDeliveries ds db)).1 = r.id := upsertServerRow_id hserver
    exact hid.trans (htracked.row r (hd ▸ hserver))
  | none =>
    rcases List.eq_nil_or_concat' ds with rfl | ⟨init, e, rfl⟩
    · -- the first message creates the row under the id it draws
      have hdraw : d.1.id = serverId := hstart.drawn hserver d (by simp)
      rw [← hd] at hserver
      have hrow : upsertServerRow d.1 d.2 db.servers =
          (d.1.id, db.servers ++ [inventoryRow d.1 d.2]) := by
        unfold upsertServerRow
        rw [show findId ServerRow.agentId d.2.agentId db.servers = none from hserver]
      exact (congrArg Prod.fst hrow).trans hdraw
    · have he : e.2.agentId = agentId := hstart.agent e (by simp)
      obtain ⟨r, hr, _⟩ := upsertServer_server e.1 e.2 (applyDeliveries init db)
      rw [applyDeliveries_snoc, ← he, hr] at hserver
      cases hserver

lemma Unrecorded.init (hstart : Unrecorded agentId serverId (ds ++ [d]) db) :
    Unrecorded agentId serverId ds db where
  agent e he := hstart.agent e (List.mem_append_left _ he)
  increasing := (List.pairwise_append.mp hstart.increasing).1
  row := hstart.row
  drawn hnone e he := hstart.drawn hnone e (List.mem_head?_append_of_mem_head? he)
  empty := hstart.empty

end step

/-- What is known holds after every sequence of messages. -/
theorem Unrecorded.tracked {agentId : String} {serverId : ℕ} {ds : Deliveries}
    {db : InventoryTables} (hstart : Unrecorded agentId serverId ds db) :
    Tracked agentId serverId ds db := by
  induction ds using List.reverseRecOn with
  | nil => exact hstart.tracked_nil
  | append_singleton ds d ih =>
    have htracked : Tracked agentId serverId ds db := ih hstart.init
    have hd : d.2.agentId = agentId := hstart.agent d (by simp)
    have hnewer : ∀ e ∈ ds, e.2.collectedAt < d.2.collectedAt := fun e he =>
      (List.pairwise_append.mp hstart.increasing).2.2 e he d (List.mem_singleton_self d)
    have hid := hstart.upsertServer_id htracked
    by_cases hsame : ∃ r, (applyDeliveries ds db).server agentId = some r ∧
        inventoryChanged r.columns d.2.columns = false
    · obtain ⟨r, hr, hunchanged⟩ := hsame
      exact htracked.unrecorded hd hnewer hid hr hunchanged
    · refine htracked.recorded hd hnewer hid fun r hr => ?_
      by_contra hunchanged
      exact hsame ⟨r, hr, Bool.not_eq_true _ ▸ hunchanged⟩

/-- After each message the history of the server is empty exactly if every message so far has found
a row that it did not differ from; otherwise the newest snapshot agrees with the row on every
compared column but the boot time, which has drifted by at most the jitter for every message since
the snapshot. -/
theorem inventory_history_follows (agentId : String) (serverId : ℕ) (ds : Deliveries)
    (db : InventoryTables) (hne : ds ≠ []) (hstart : Unrecorded agentId serverId ds db) :
    ∃ r, (applyDeliveries ds db).server agentId = some r ∧ r.id = serverId ∧
      (newestSnapshot serverId (applyDeliveries ds db).history = none ↔
        FoundUnchanged agentId ds db) ∧
      ∀ h, newestSnapshot serverId (applyDeliveries ds db).history = some h →
        AgreesWith ds h r := by
  have htracked := hstart.tracked
  obtain ⟨init, d, rfl⟩ := List.eq_nil_or_concat' ds |>.resolve_left hne
  have hd : d.2.agentId = agentId := hstart.agent d (by simp)
  obtain ⟨r, hr, _⟩ := upsertServer_server d.1 d.2 (applyDeliveries init db)
  have hserver : (applyDeliveries (init ++ [d]) db).server agentId = some r := by
    rw [applyDeliveries_snoc, ← hd, hr]
  refine ⟨r, hserver, htracked.row r hserver, htracked.none_iff, fun h hh => ?_⟩
  obtain ⟨r', hr', hagrees⟩ := htracked.agrees h hh
  rw [hserver, Option.some_inj] at hr'
  exact hr' ▸ hagrees

/-- Nothing is known of any agent in empty tables. -/
lemma server_empty (agentId : String) : (⟨[], []⟩ : InventoryTables).server agentId = none := rfl

theorem inventory_history_follows_punctual :
    ∃ r, (applyDeliveries punctualDeliveries ⟨[], []⟩).server
        "5f0c2a34-0000-4000-8000-0000000000a1" = some r ∧
      ∀ h, newestSnapshot 1 (applyDeliveries punctualDeliveries ⟨[], []⟩).history = some h →
        AgreesWith punctualDeliveries h r := by
  have hstart :
      Unrecorded "5f0c2a34-0000-4000-8000-0000000000a1" 1 punctualDeliveries ⟨[], []⟩ := by
    refine ⟨by decide +kernel, by decide +kernel, fun r hr => ?_, fun _ => by decide, by decide⟩
    rw [server_empty] at hr
    cases hr
  obtain ⟨r, hr, _, _, hagrees⟩ := inventory_history_follows _ 1 punctualDeliveries ⟨[], []⟩
    (by decide) hstart
  exact ⟨r, hr, hagrees⟩

/-- Three inventories of one boot, whose measured time moves by four seconds from each to the
next. -/
def driftingDeliveries : Deliveries :=
  [(hostDraw 1, hostInventory 1700003600000000 1700000000000000),
   (hostDraw 2, hostInventory 1700007200000000 1700000004000000),
   (hostDraw 3, hostInventory 1700010800000000 1700000008000000)]

/-- A host of which nothing but its agent is known. -/
def bareEnvelope (collectedAt : ℤ) : MetricsEnvelope where
  agentId := "5f0c2a34-0000-4000-8000-0000000000a1"
  compositeId := none
  machineId := none
  agentVersion := some "1.4.0"
  collectedAt := collectedAt
  bootTime := none
  agentStartedAt := some 1700000100000000
  osFamily := "linux"

/-- The row of such a host after its first metrics message. -/
def placeholderTables : InventoryTables where
  servers := [inventoryRow (hostDraw 7) (buildPlaceholderInventory (bareEnvelope 1700000160000000))]
  history := []

/-- An inventory that fills none of the columns that the metrics message left empty. -/
def bareDeliveries : Deliveries :=
  [(hostDraw 8, { buildPlaceholderInventory (bareEnvelope 1700003600000000) with
    hostname := "db-01" })]

/-- After three messages the boot time of the newest snapshot is eight seconds off the row's, and
after an inventory that agrees with the placeholder there is no snapshot. -/
theorem inventory_history_drifts :
    (Unrecorded "5f0c2a34-0000-4000-8000-0000000000a1" 1 driftingDeliveries ⟨[], []⟩ ∧
      (newestSnapshot 1 (applyDeliveries driftingDeliveries ⟨[], []⟩).history).map
        (fun h => h.columns.bootTime) = some (some 1700000000000000) ∧
      ((applyDeliveries driftingDeliveries ⟨[], []⟩).server
        "5f0c2a34-0000-4000-8000-0000000000a1").map
          (fun r => r.columns.bootTime) = some (some 1700000008000000) ∧
      bootTimeJitterTolerance < ((1700000000000000 : ℤ) - 1700000008000000).natAbs) ∧
    (Unrecorded "5f0c2a34-0000-4000-8000-0000000000a1" 7 bareDeliveries placeholderTables ∧
      newestSnapshot 7 (applyDeliveries bareDeliveries placeholderTables).history = none) := by
  refine ⟨⟨?drifting, by decide +kernel, by decide +kernel, by decide⟩, ?bare, by decide +kernel⟩
  case drifting =>
    refine ⟨by decide +kernel, by decide +kernel, fun r hr => ?_, fun _ => by decide, by decide⟩
    rw [server_empty] at hr
    cases hr
  case bare =>
    have hserver : placeholderTables.server "5f0c2a34-0000-4000-8000-0000000000a1" =
        some (inventoryRow (hostDraw 7)
          (buildPlaceholderInventory (bareEnvelope 1700000160000000))) :=
      by decide +kernel
    refine ⟨by decide +kernel, by decide +kernel, fun r hr => ?_, fun hnone => ?_, by decide⟩
    · rw [hserver, Option.some_inj] at hr
      rw [← hr]
      rfl
    · rw [hserver] at hnone
      cases hnone

end AssessmentEngine
