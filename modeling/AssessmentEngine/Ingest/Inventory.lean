import Mathlib.Data.List.MinMax
import AssessmentEngine.Library.Table

/-!
# The inventory tables

Rows of `server_inventory` and `server_inventory_history` and the statements that
`SqlCollectRepository` runs on them for inventory and metrics messages.  A server is known by its
`agent_id`; its row is created by whichever handler comes first, by the metrics handler as a
placeholder.  Times are microseconds since the epoch.
-/

namespace AssessmentEngine

open Table

/-- A JSONB value, by its canonical text. -/
abbrev JsonValue := String

/-- The columns that both tables hold and that `_INVENTORY_COMPARE_COLS` lists. -/
structure InventoryColumns where
  agentVersion : Option String
  osFamily : Option String
  osId : Option String
  osVersion : Option String
  osCodename : Option String
  kernelVersion : Option String
  arch : Option String
  bits : Option ℤ
  bootFirmware : Option String
  secureBoot : Option Bool
  edition : Option String
  productName : Option String
  timezone : Option String
  rtcUtc : Option Bool
  cpuCores : Option ℤ
  cpuModel : Option String
  memTotalBytes : Option ℤ
  bootTime : Option ℤ
  agentStartedAt : Option ℤ
  blockDevices : List JsonValue
  netInterfaces : List JsonValue
  lvmVgs : List JsonValue
  boot : Option JsonValue
  nonblockMounts : Option (List JsonValue)
  ipExternal : Option (List String)
  services : Option (List JsonValue)
  listenPorts : List JsonValue
  deriving DecidableEq, Repr

structure ServerInventoryCreate where
  agentId : String
  compositeId : Option String
  machineId : Option String
  hostname : String
  collectedAt : ℤ
  columns : InventoryColumns
  serviceCategories : List String
  deriving DecidableEq, Repr

/-- The fields of a metrics message that `build_placeholder_inventory` reads. -/
structure MetricsEnvelope where
  agentId : String
  compositeId : Option String
  machineId : Option String
  agentVersion : Option String
  collectedAt : ℤ
  bootTime : Option ℤ
  agentStartedAt : Option ℤ
  osFamily : String
  deriving DecidableEq, Repr

/-- `build_placeholder_inventory`; the agent's id stands in for the host name. -/
def buildPlaceholderInventory (data : MetricsEnvelope) : ServerInventoryCreate where
  agentId := data.agentId
  compositeId := data.compositeId
  machineId := data.machineId
  hostname := data.agentId
  collectedAt := data.collectedAt
  columns :=
    { agentVersion := data.agentVersion
      osFamily := some data.osFamily
      osId := none
      osVersion := none
      osCodename := none
      kernelVersion := none
      arch := none
      bits := none
      bootFirmware := none
      secureBoot := none
      edition := none
      productName := none
      timezone := none
      rtcUtc := none
      cpuCores := none
      cpuModel := none
      memTotalBytes := none
      bootTime := data.bootTime
      agentStartedAt := data.agentStartedAt
      blockDevices := []
      netInterfaces := []
      lvmVgs := []
      boot := none
      nonblockMounts := none
      ipExternal := none
      services := none
      listenPorts := [] }
  serviceCategories := []

/-- A row of `server_inventory`. -/
structure ServerRow where
  id : ℕ
  publicId : String
  agentId : String
  compositeId : Option String
  machineId : Option String
  hostname : String
  columns : InventoryColumns
  serviceCategories : List String
  lastSeenAt : Option ℤ
  deriving DecidableEq, Repr

/-- A row of `server_inventory_history`. -/
structure InventoryHistoryRow where
  serverId : ℕ
  collectedAt : ℤ
  hostname : String
  columns : InventoryColumns
  deriving DecidableEq, Repr

/-- What the database draws for an insertion, whether a row comes of it or not: the next id of the
sequence and a `gen_random_uuid()`. -/
structure Draw where
  id : ℕ
  publicId : String
  deriving DecidableEq, Repr

/-! ## The statements on servers -/

/-- `find_server_id`. -/
def findServerId (agentId : String) (servers : List ServerRow) : Option ℕ :=
  (findId ServerRow.agentId agentId servers).map ServerRow.id

/-- The values of `_inventory_row` in a new row. -/
def inventoryRow (draw : Draw) (data : ServerInventoryCreate) : ServerRow where
  id := draw.id
  publicId := draw.publicId
  agentId := data.agentId
  compositeId := data.compositeId
  machineId := data.machineId
  hostname := data.hostname
  columns := data.columns
  serviceCategories := data.serviceCategories
  lastSeenAt := some data.collectedAt

/-- The same values in an existing row: all of `_inventory_row` but the key. -/
def ServerRow.overwrite (data : ServerInventoryCreate) (r : ServerRow) : ServerRow :=
  { r with
    compositeId := data.compositeId
    machineId := data.machineId
    hostname := data.hostname
    columns := data.columns
    serviceCategories := data.serviceCategories
    lastSeenAt := some data.collectedAt }

/-- `INSERT … ON CONFLICT (agent_id) DO UPDATE … RETURNING id`. -/
def upsertServerRow (draw : Draw) (data : ServerInventoryCreate) (servers : List ServerRow) :
    ℕ × List ServerRow :=
  match findId ServerRow.agentId data.agentId servers with
  | some r =>
    (r.id,
      updateWhere (fun a => decide (a.agentId = data.agentId)) (ServerRow.overwrite data) servers)
  | none => (draw.id, servers ++ [inventoryRow draw data])

/-- `_insert_placeholder_server`: `INSERT … ON CONFLICT (agent_id) DO NOTHING RETURNING id`. -/
def insertPlaceholderServer (draw : Draw) (data : ServerInventoryCreate)
    (servers : List ServerRow) : Option ℕ × List ServerRow :=
  match findId ServerRow.agentId data.agentId servers with
  | some _ => (none, servers)
  | none => (some draw.id, servers ++ [inventoryRow draw data])

/-! ## The change trigger -/

/-- `BOOT_TIME_JITTER_TOLERANCE`. -/
def bootTimeJitterTolerance : ℕ := 5000000

/-- `boot_time_changed`. -/
def bootTimeChanged (prevBoot newBoot : Option ℤ) : Bool :=
  match prevBoot, newBoot with
  | none, none => false
  | some prev, some new => decide (bootTimeJitterTolerance < (prev - new).natAbs)
  | _, _ => true

/-- `_inventory_changed`. -/
def inventoryChanged (prev new : InventoryColumns) : Bool :=
  prev.agentVersion != new.agentVersion
    || prev.osFamily != new.osFamily
    || prev.osId != new.osId
    || prev.osVersion != new.osVersion
    || prev.osCodename != new.osCodename
    || prev.kernelVersion != new.kernelVersion
    || prev.arch != new.arch
    || prev.bits != new.bits
    || prev.bootFirmware != new.bootFirmware
    || prev.secureBoot != new.secureBoot
    || prev.edition != new.edition
    || prev.productName != new.productName
    || prev.timezone != new.timezone
    || prev.rtcUtc != new.rtcUtc
    || prev.cpuCores != new.cpuCores
    || prev.cpuModel != new.cpuModel
    || prev.memTotalBytes != new.memTotalBytes
    || bootTimeChanged prev.bootTime new.bootTime
    || prev.agentStartedAt != new.agentStartedAt
    || prev.blockDevices != new.blockDevices
    || prev.netInterfaces != new.netInterfaces
    || prev.lvmVgs != new.lvmVgs
    || prev.boot != new.boot
    || prev.nonblockMounts != new.nonblockMounts
    || prev.ipExternal != new.ipExternal
    || prev.services != new.services
    || prev.listenPorts != new.listenPorts

/-- `_append_inventory_history`: `ON CONFLICT (server_id, collected_at) DO NOTHING`. -/
def appendInventoryHistory (serverId : ℕ) (data : ServerInventoryCreate)
    (history : List InventoryHistoryRow) : List InventoryHistoryRow :=
  if history.any fun h => decide (h.serverId = serverId ∧ h.collectedAt = data.collectedAt) then
    history
  else history ++ [⟨serverId, data.collectedAt, data.hostname, data.columns⟩]

structure InventoryTables where
  servers : List ServerRow
  history : List InventoryHistoryRow
  deriving DecidableEq, Repr

/-- `upsert_server`. -/
def upsertServer (draw : Draw) (data : ServerInventoryCreate) (db : InventoryTables) :
    ℕ × InventoryTables :=
  let prev := findId ServerRow.agentId data.agentId db.servers
  let (serverId, servers) := upsertServerRow draw data db.servers
  let history :=
    if prev.all fun r => inventoryChanged r.columns data.columns then
      appendInventoryHistory serverId data db.history
    else db.history
  (serverId, ⟨servers, history⟩)

/-! ## What the statements do -/

@[simp] lemma ServerRow.overwrite_id (data : ServerInventoryCreate) (r : ServerRow) :
    (r.overwrite data).id = r.id := rfl
@[simp] lemma ServerRow.overwrite_agentId (data : ServerInventoryCreate) (r : ServerRow) :
    (r.overwrite data).agentId = r.agentId := rfl
@[simp] lemma inventoryRow_agentId (draw : Draw) (data : ServerInventoryCreate) :
    (inventoryRow draw data).agentId = data.agentId := rfl

/-- The row says what the message says. -/
def ServerRow.Describes (r : ServerRow) (data : ServerInventoryCreate) : Prop :=
  r = r.overwrite data ∧ r.agentId = data.agentId

instance (r : ServerRow) (data : ServerInventoryCreate) : Decidable (r.Describes data) :=
  inferInstanceAs (Decidable (_ ∧ _))

lemma ServerRow.overwrite_describes (data : ServerInventoryCreate) {r : ServerRow}
    (hagent : r.agentId = data.agentId) : (r.overwrite data).Describes data :=
  ⟨rfl, hagent⟩

lemma inventoryRow_describes (draw : Draw) (data : ServerInventoryCreate) :
    (inventoryRow draw data).Describes data :=
  ⟨rfl, rfl⟩

lemma ServerRow.Describes.columns {r : ServerRow} {data : ServerInventoryCreate}
    (h : r.Describes data) : r.columns = data.columns :=
  congrArg ServerRow.columns h.1

lemma ServerRow.Describes.lastSeenAt {r : ServerRow} {data : ServerInventoryCreate}
    (h : r.Describes data) : r.lastSeenAt = some data.collectedAt :=
  congrArg ServerRow.lastSeenAt h.1

/-- After `upsert_server` the row of the agent says what the message says, under the id it had
before or the one that was drawn. -/
lemma upsertServerRow_find (draw : Draw) (data : ServerInventoryCreate) (servers : List ServerRow) :
    ∃ r, findId ServerRow.agentId data.agentId (upsertServerRow draw data servers).2 = some r ∧
      r.Describes data ∧ r.id = (upsertServerRow draw data servers).1 := by
  unfold upsertServerRow
  cases hfind : findId ServerRow.agentId data.agentId servers with
  | some r =>
    have hagent : r.agentId = data.agentId := findId_key hfind
    refine ⟨r.overwrite data, ?_, ServerRow.overwrite_describes data hagent, rfl⟩
    have hupdate := findId_updateWhere (p := fun a => decide (a.agentId = data.agentId))
      (ServerRow.overwrite_agentId data) data.agentId servers
    rw [hupdate, hfind]
    simp [hagent]
  | none =>
    refine ⟨inventoryRow draw data, ?_, inventoryRow_describes draw data, rfl⟩
    simp only [findId, List.find?_append] at hfind ⊢
    rw [hfind]
    simp

/-- The id of the row is the one it had. -/
lemma upsertServerRow_id {draw : Draw} {data : ServerInventoryCreate} {servers : List ServerRow}
    {r : ServerRow} (hfind : findId ServerRow.agentId data.agentId servers = some r) :
    (upsertServerRow draw data servers).1 = r.id := by
  rw [upsertServerRow, hfind]

/-- Two snapshots that the trigger takes for the same differ in nothing but the boot time, and in
that by no more than the jitter. -/
lemma inventoryChanged_eq_false_iff {prev new : InventoryColumns} :
    inventoryChanged prev new = false ↔
      prev = { new with bootTime := prev.bootTime } ∧
        bootTimeChanged prev.bootTime new.bootTime = false := by
  cases prev
  cases new
  simp only [inventoryChanged, Bool.or_eq_false_iff, bne_eq_false_iff_eq, InventoryColumns.mk.injEq]
  tauto

lemma bootTimeChanged_eq_false_iff {prevBoot newBoot : Option ℤ} :
    bootTimeChanged prevBoot newBoot = false ↔
      (prevBoot = none ∧ newBoot = none) ∨
        ∃ prev new, prevBoot = some prev ∧ newBoot = some new ∧
          (prev - new).natAbs ≤ bootTimeJitterTolerance := by
  cases prevBoot <;> cases newBoot <;> simp [bootTimeChanged]

end AssessmentEngine
