import AssessmentEngine.Consumer.InventoryMapper
import AssessmentEngine.Consumer.NaturalKeys
import AssessmentEngine.Consumer.NoSilentLoss
import AssessmentEngine.Ingest.Inventory
import AssessmentEngine.Services.ServiceClassifier
import AssessmentEngine.Tasks.Lifecycle

/-!
# The four queues

The handlers of `server.metrics`, `server.inventory`, `task.result` and the error queue, each as the
transaction that it makes of a message, and the limits of its queue.  What is published on the
metrics and the inventory queue is found in the tables, or in the dead-letter queue, once no message
is waiting or being handled, unless a handler was cancelled between its mark and its commit.

How concurrent transactions find or create the row of a server is the subject of
`Ingest/Registration`; here a transaction is one step, and `draw` is what the database draws for a
new row.
-/

namespace AssessmentEngine

open Table Runs

/-! ## Handlers -/

/-- What `build_placeholder_inventory` reads of a metrics message. -/
def AgentMessageBase.envelope (data : AgentMessageBase) : MetricsEnvelope where
  agentId := data.agentId.1
  compositeId := plainText data.compositeId
  machineId := plainText data.machineId
  agentVersion := plainText data.agentVersion
  collectedAt := data.collectedAt
  bootTime := data.bootTime
  agentStartedAt := data.agentStartedAt
  osFamily := data.osFamily.text

/-- An accepted message with the `hex` of its id. -/
structure Identified (M : Type) where
  messageId : String
  data : M

/-- The tables that metrics messages are written to. -/
structure MetricsTables where
  servers : List ServerRow
  series : SeriesTables

/-- `ensure_server_id`: the id of the server, whether it was registered for the message, and the
table. -/
def ensureServerId (draw : List ServerRow → Draw) (data : MetricsEnvelope)
    (servers : List ServerRow) : ℕ × Bool × List ServerRow :=
  match findServerId data.agentId servers with
  | some serverId => (serverId, false, servers)
  | none =>
    let placed := insertPlaceholderServer (draw servers) (buildPlaceholderInventory data) servers
    ((draw servers).id, true, placed.2)

/-- `make_metrics_handler`.  A message that `to_metric_create` cannot map only raises. -/
def metricsHandler {β : Type} (u : Unicode) (draw : List ServerRow → Draw)
    (parse : β → Option (Identified MetricsInput)) :
    MessageHandler β (Identified MetricsInput) MetricsTables where
  parse := parse
  messageId := Identified.messageId
  save m := some fun db => do
    let data ← toMetricCreate u m.data
    let (serverId, _, servers) := ensureServerId draw m.data.envelope db.servers
    let (_, series) ← recordMetrics (fun _ => false) serverId data db.series
    return ⟨servers, series⟩

/-- `make_inventory_handler`; `parse` goes as far as `to_inventory_create`. -/
def inventoryHandler {β : Type} (draw : List ServerRow → Draw)
    (parse : β → Option (Identified ServerInventoryCreate)) :
    MessageHandler β (Identified ServerInventoryCreate) InventoryTables where
  parse := parse
  messageId := Identified.messageId
  save m := some fun db => some (upsertServer (draw db.servers) m.data db).2

/-- `make_task_result_handler`: an id that is no UUID asks for no transaction, and a transaction on
an unknown task changes nothing. -/
def taskResultHandler {β : Type} (cfg : ConsumerConfig) (parse : β → Option TaskResultInput) :
    MessageHandler β TaskResultInput (List Task) where
  parse := parse
  messageId := TaskResultInput.messageId
  save m := (cfg.canonicalUuid m.taskId).map fun publicId rows =>
    some ((completeTask (m.toUpdate cfg publicId) rows).getD rows)

/-- `make_error_handler`: the message is logged. -/
def errorHandler {β M : Type} (parse : β → Option (Identified M)) :
    MessageHandler β (Identified M) Unit where
  parse := parse
  messageId := Identified.messageId
  save _ := none

/-- The queues of `main`. -/
def metricsLimits : QueueLimits := ⟨some (72 * 60 * 60 * 1000), some 1000000⟩
def inventoryLimits : QueueLimits := ⟨none, none⟩
def errorLimits : QueueLimits := ⟨some 300000, none⟩
def taskResultLimits : QueueLimits := ⟨some (24 * 60 * 60 * 1000), some 100000⟩

/-! ## Metrics -/

section metrics

variable {β : Type} {u : Unicode} {draw : List ServerRow → Draw}
  {parse : β → Option (Identified MetricsInput)}

/-- After `ensure_server_id` the agent has a row, with the id that was returned. -/
lemma findId_ensureServerId (draw : List ServerRow → Draw) (data : MetricsEnvelope)
    (servers : List ServerRow) :
    ∃ r, findId ServerRow.agentId data.agentId (ensureServerId draw data servers).2.2 = some r ∧
      r.id = (ensureServerId draw data servers).1 := by
  unfold ensureServerId findServerId insertPlaceholderServer
  cases hfind : findId ServerRow.agentId data.agentId servers with
  | some r => exact ⟨r, by simpa using hfind, rfl⟩
  | none =>
    refine ⟨inventoryRow (draw servers) (buildPlaceholderInventory data), ?_, rfl⟩
    have hagent : (buildPlaceholderInventory data).agentId = data.agentId := rfl
    simp [hagent, hfind, findId_append, findId_singleton]

/-- Rows that are there stay as they are. -/
lemma findId_ensureServerId_of_some (draw : List ServerRow → Draw) (data : MetricsEnvelope)
    {servers : List ServerRow} {agentId : String} {r : ServerRow}
    (hfound : findId ServerRow.agentId agentId servers = some r) :
    findId ServerRow.agentId agentId (ensureServerId draw data servers).2.2 = some r := by
  unfold ensureServerId findServerId insertPlaceholderServer
  cases hfind : findId ServerRow.agentId data.agentId servers with
  | some r' => simpa using hfound
  | none =>
    have hagent : (buildPlaceholderInventory data).agentId = data.agentId := rfl
    simpa [hagent, hfind] using findId_append_of_some hfound _

/-- What the message says is in the tables, under the server of its agent. -/
def Recorded (u : Unicode) (m : Identified MetricsInput) (db : MetricsTables) : Prop :=
  ∃ data r, toMetricCreate u m.data = some data ∧
    findId ServerRow.agentId m.data.agentId.1 db.servers = some r ∧
      ∀ k : Series, Covers k.key (db.series k) (seriesRows r.id data k)

/-- A committed message is recorded, and so are those before it. -/
lemma recorded_commit {m : Identified MetricsInput} {save : MetricsTables → Option MetricsTables}
    {commits : List (Identified MetricsInput)} {db db' : MetricsTables}
    (hbefore : ∀ m ∈ commits, Recorded u m db)
    (hsave : (metricsHandler u draw parse).save m = some save) (hdb : save db = some db') :
    ∀ m' ∈ m :: commits, Recorded u m' db' := by
  cases hsave
  obtain ⟨data, hdata, hrest⟩ := Option.bind_eq_some_iff.mp hdb
  obtain ⟨result, hresult, hdb'⟩ := Option.bind_eq_some_iff.mp hrest
  rw [recordMetrics_eq, if_neg (by simp [statementRaises]), Option.some_inj] at hresult
  subst hresult
  obtain rfl : ⟨(ensureServerId draw m.data.envelope db.servers).2.2,
      written (ensureServerId draw m.data.envelope db.servers).1 data db.series⟩ = db' :=
    Option.some_inj.mp hdb'
  intro m' hm'
  rcases List.mem_cons.mp hm' with rfl | hm'
  · obtain ⟨r, hfound, hid⟩ := findId_ensureServerId draw m'.data.envelope db.servers
    refine ⟨data, r, hdata, hfound, fun k => ?_⟩
    rw [hid]
    exact covers_written _ _ _ k
  · obtain ⟨data', r, hdata', hfound, hcovers⟩ := hbefore m' hm'
    exact ⟨data', r, hdata', findId_ensureServerId_of_some draw _ hfound,
      fun k => (hcovers k).insertAll _⟩

/-- On the metrics queue, in a run that cancels no handler between its mark and its commit: an
acknowledged message was committed, or another of its id was, and what was committed has its rows in
the seven tables, under the server of its agent; or such a message was rejected or is on its way. -/
theorem metrics_delivered {ttls : RedisTtls} {limits : QueueLimits} {as : List (QueueAction β)}
    {database : MetricsTables} {t : QueueWorld β (Identified MetricsInput) MetricsTables}
    (hmeets : Meets (queueStep (metricsHandler u draw parse) ttls limits)
      (fun a s => graceful a s = true) as (QueueWorld.init database))
    (hrun : run (queueStep (metricsHandler u draw parse) ttls limits) as
      (QueueWorld.init database) = some t)
    {e : Envelope β} (he : e ∈ t.envelopes) {m : Identified MetricsInput}
    (hparse : parse e.body = some m) (hacked : e.place = .acked) :
    (∃ m' ∈ t.commits, m'.messageId = m.messageId ∧ Recorded u m' t.database) ∨
      ∃ e' ∈ t.envelopes, ∃ m', parse e'.body = some m' ∧ m'.messageId = m.messageId ∧
        (e'.place = .dead .rejected ∨ e'.storing = true) := by
  have hrecorded : ∀ m ∈ t.commits, Recorded u m t.database :=
    commits_invariant (P := fun commits db => ∀ m ∈ commits, Recorded u m db)
      (fun m hm => by cases hm)
      (fun m save commits db db' hbefore hsave hdb => recorded_commit hbefore hsave hdb) hrun
  rcases (gracefulInv_run hmeets hrun).acked he hparse hacked with
    ⟨m', hm', hid⟩ | ⟨e', he', m', hparse', hid, hsave | hpending⟩
  · exact Or.inl ⟨m', hm', hid, hrecorded m' hm'⟩
  · cases hsave
  · exact Or.inr ⟨e', he', m', hparse', hid, hpending⟩

/-- A message of a host that measures nothing. -/
def quietMetrics : Identified MetricsInput where
  messageId := "7b0e4c5e3f0f4b529a550d6f3c1f2a01"
  data :=
    { agentId := ⟨hostUuid, uuidText_hostUuid⟩
      compositeId := none
      machineId := none
      agentVersion := none
      collectedAt := 1750000000000000
      bootTime := none
      agentStartedAt := none
      osFamily := .linux
      systemCpu := none
      systemMemory := none
      systemDisk := none
      systemNetwork := none
      systemPaging := none
      systemFilesystem := none
      systemPressure := none }

/-- A message is published, stored and acknowledged. -/
def oneDelivery {β : Type} (body : β) : List (QueueAction β) :=
  [.start 0, .publish body, .deliver 0 0, .begin 0, .check 0 .answered, .commit 0, .returned 0,
    .ack 0]

/-- The handler of accepted messages, with ids in sequence. -/
def sampleMetricsHandler :
    MessageHandler (Identified MetricsInput) (Identified MetricsInput) MetricsTables :=
  metricsHandler asciiText (fun servers => ⟨servers.length, toString servers.length⟩) some

theorem metrics_delivered_quiet :
    ∃ t, run (queueStep sampleMetricsHandler {} metricsLimits) (oneDelivery quietMetrics)
        (QueueWorld.init ⟨[], SeriesTables.empty⟩) = some t ∧
      ((∃ m' ∈ t.commits, m'.messageId = quietMetrics.messageId ∧
          Recorded asciiText m' t.database) ∨
        ∃ e' ∈ t.envelopes, ∃ m', some e'.body = some m' ∧
          m'.messageId = quietMetrics.messageId ∧
          (e'.place = .dead .rejected ∨ e'.storing = true)) := by
  obtain ⟨t, ht⟩ : ∃ t, run (queueStep sampleMetricsHandler {} metricsLimits)
      (oneDelivery quietMetrics) (QueueWorld.init ⟨[], SeriesTables.empty⟩) = some t := ⟨_, rfl⟩
  have henvelopes : (run (queueStep sampleMetricsHandler {} metricsLimits)
      (oneDelivery quietMetrics) (QueueWorld.init ⟨[], SeriesTables.empty⟩)).map
        QueueWorld.envelopes = some [⟨0, quietMetrics, 0, .acked⟩] := rfl
  rw [ht, Option.map_some, Option.some_inj] at henvelopes
  refine ⟨t, ht, metrics_delivered (by decide) ht (e := ⟨0, quietMetrics, 0, .acked⟩) ?_ rfl rfl⟩
  rw [henvelopes]
  exact List.mem_cons_self

end metrics

/-! ## Inventory -/

section inventory

variable {β : Type} {draw : List ServerRow → Draw}
  {parse : β → Option (Identified ServerInventoryCreate)}

/-- `upsert_server` writes to the row of its agent only. -/
lemma findId_upsertServerRow_of_ne (draw : Draw) (data : ServerInventoryCreate)
    (servers : List ServerRow) {agentId : String} (hne : data.agentId ≠ agentId) :
    findId ServerRow.agentId agentId (upsertServerRow draw data servers).2 =
      findId ServerRow.agentId agentId servers := by
  unfold upsertServerRow
  cases hfind : findId ServerRow.agentId data.agentId servers with
  | none =>
    have hrow : (inventoryRow draw data).agentId ≠ agentId := hne
    rw [findId_append, findId_singleton, if_neg hrow, Option.or_none]
  | some r =>
    simp only []
    rw [findId_updateWhere (ServerRow.overwrite_agentId data)]
    cases hother : findId ServerRow.agentId agentId servers with
    | none => rfl
    | some r' =>
      have hagent : r'.agentId = agentId := findId_key hother
      simp [hagent, hne.symm]

/-- The row of the agent says what its last committed message says. -/
def FollowsLast (commits : List (Identified ServerInventoryCreate)) (db : InventoryTables) : Prop :=
  ∀ agentId last, commits.find? (fun m => decide (m.data.agentId = agentId)) = some last →
    ∃ r, findId ServerRow.agentId agentId db.servers = some r ∧ r.Describes last.data

lemma followsLast_commit {m : Identified ServerInventoryCreate}
    {save : InventoryTables → Option InventoryTables}
    {commits : List (Identified ServerInventoryCreate)} {db db' : InventoryTables}
    (hbefore : FollowsLast commits db)
    (hsave : (inventoryHandler draw parse).save m = some save) (hdb : save db = some db') :
    FollowsLast (m :: commits) db' := by
  cases hsave
  cases hdb
  intro agentId last hlast
  by_cases hagent : m.data.agentId = agentId
  · obtain rfl : m = last := by simpa [hagent] using hlast
    obtain ⟨r, hfound, hdescribes, -⟩ := upsertServerRow_find (draw db.servers) m.data db.servers
    exact ⟨r, hagent ▸ hfound, hdescribes⟩
  · obtain ⟨r, hfound, hdescribes⟩ := hbefore agentId last (by simpa [hagent] using hlast)
    refine ⟨r, ?_, hdescribes⟩
    exact (findId_upsertServerRow_of_ne (draw db.servers) m.data db.servers hagent).trans hfound

/-- On the inventory queue, which has no limits, the broker drops nothing, and the row of an agent
always says what the message of this agent says that was committed last.  In a run that cancels no
handler between its mark and its commit, an acknowledged message was committed, or another of its id
was, or was rejected, or is on its way. -/
theorem inventory_delivered {ttls : RedisTtls} {as : List (QueueAction β)}
    {database : InventoryTables}
    {t : QueueWorld β (Identified ServerInventoryCreate) InventoryTables}
    (hrun : run (queueStep (inventoryHandler draw parse) ttls inventoryLimits) as
      (QueueWorld.init database) = some t) :
    (∀ e ∈ t.envelopes, e.place ≠ .dead .dropped) ∧ FollowsLast t.commits t.database ∧
      (Meets (queueStep (inventoryHandler draw parse) ttls inventoryLimits)
          (fun a s => graceful a s = true) as (QueueWorld.init database) →
        ∀ e ∈ t.envelopes, ∀ m, parse e.body = some m → e.place = .acked →
          (∃ m' ∈ t.commits, m'.messageId = m.messageId) ∨
            ∃ e' ∈ t.envelopes, ∃ m', parse e'.body = some m' ∧ m'.messageId = m.messageId ∧
              (e'.place = .dead .rejected ∨ e'.storing = true)) := by
  refine ⟨fun e he hdropped => ?_, ?_, fun hmeets e he m hparse hacked => ?_⟩
  · rcases limited_of_dropped hrun he hdropped with httl | hlen
    · cases httl
    · cases hlen
  · exact commits_invariant (P := FollowsLast) (fun _ _ hlast => by cases hlast)
      (fun _ _ _ _ _ hbefore hsave hdb => followsLast_commit hbefore hsave hdb) hrun
  · rcases (gracefulInv_run hmeets hrun).acked he hparse hacked with
      hcommit | ⟨e', he', m', hparse', hid, hsave | hpending⟩
    · exact Or.inl hcommit
    · cases hsave
    · exact Or.inr ⟨e', he', m', hparse', hid, hpending⟩

/-- An inventory of which little is known. -/
def bareInventory : Identified ServerInventoryCreate where
  messageId := "7b0e4c5e3f0f4b529a550d6f3c1f2a02"
  data := buildPlaceholderInventory quietMetrics.data.envelope

/-- The handler of accepted messages, with ids in sequence. -/
def sampleInventoryHandler : MessageHandler (Identified ServerInventoryCreate)
    (Identified ServerInventoryCreate) InventoryTables :=
  inventoryHandler (fun servers => ⟨servers.length, toString servers.length⟩) some

theorem inventory_delivered_bare :
    ∃ t, run (queueStep sampleInventoryHandler {} inventoryLimits) (oneDelivery bareInventory)
        (QueueWorld.init ⟨[], []⟩) = some t ∧
      (∀ e ∈ t.envelopes, e.place ≠ .dead .dropped) ∧ FollowsLast t.commits t.database ∧
        ∀ e ∈ t.envelopes, ∀ m, some e.body = some m → e.place = .acked →
          (∃ m' ∈ t.commits, m'.messageId = m.messageId) ∨
            ∃ e' ∈ t.envelopes, ∃ m', some e'.body = some m' ∧ m'.messageId = m.messageId ∧
              (e'.place = .dead .rejected ∨ e'.storing = true) := by
  obtain ⟨t, ht⟩ : ∃ t, run (queueStep sampleInventoryHandler {} inventoryLimits)
      (oneDelivery bareInventory) (QueueWorld.init ⟨[], []⟩) = some t := ⟨_, rfl⟩
  obtain ⟨hkept, hlast, hdelivered⟩ := inventory_delivered ht
  exact ⟨t, ht, hkept, hlast, hdelivered (by decide)⟩

end inventory

end AssessmentEngine
