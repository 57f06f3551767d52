import Mathlib.Data.String.Basic
import AssessmentEngine.Library.KeyedTable
import AssessmentEngine.Mappers.Devices
import AssessmentEngine.Queries.CpuTrend

/-!
# The tables of samples

The inventory and the six tables of samples that the metric queries read, each under its unique
constraint.  Times are microseconds, numbers are exact, and an absent value is null.
-/

namespace AssessmentEngine

/-! ## Rows -/

/-- An element of `block_devices`. -/
structure InventoryDevice where
  idType : Option String
  id : Option String
  name : Option String
  type : Option String
  deriving DecidableEq, Repr

/-- An element of `net_interfaces`. -/
structure InventoryIface where
  idType : Option String
  id : Option String
  name : Option String
  kind : Option String
  deriving DecidableEq, Repr

/-- A row of `server_inventory`. -/
structure InventoryRow where
  id : ℕ
  publicId : String
  osFamily : Option String
  cpuCores : Option ℤ
  blockDevices : Option (List InventoryDevice)
  netInterfaces : Option (List InventoryIface)
  deriving DecidableEq, Repr

/-- A row of `server_metrics`. -/
structure MetricsRow extends ServerMetricsRow where
  cpuRunQueue : Option ℚ
  cpuBlocked : Option ℚ
  cpuMce : Option ℤ
  memLimitBytes : Option ℤ
  memAvailableBytes : Option ℤ
  memCachedBytes : Option ℤ
  memBufferedBytes : Option ℤ
  memHardwareCorruptedBytes : Option ℤ
  memOomKill : Option ℤ
  pagingIn : Option ℤ
  pagingMajor : Option ℤ
  netTcpRetransmits : Option ℤ
  netConntrackUsage : Option ℤ
  netConntrackLimit : Option ℤ
  deriving DecidableEq, Repr

/-- A row of `server_disk_io`. -/
structure DiskIoRow where
  serverId : ℕ
  deviceId : String
  collectedAt : ℤ
  ioReadBytes : Option ℤ
  ioWriteBytes : Option ℤ
  opsRead : Option ℤ
  opsWrite : Option ℤ
  ioTimeS : Option ℚ
  opReadTimeS : Option ℚ
  opWriteTimeS : Option ℚ
  pendingOps : Option ℚ
  deriving DecidableEq, Repr

/-- A row of `server_net_io`. -/
structure NetIoRow where
  serverId : ℕ
  ifaceId : String
  collectedAt : ℤ
  rxBytes : Option ℤ
  txBytes : Option ℤ
  rxPackets : Option ℤ
  txPackets : Option ℤ
  rxErrors : Option ℤ
  txErrors : Option ℤ
  rxDropped : Option ℤ
  txDropped : Option ℤ
  deriving DecidableEq, Repr

/-- A row of `server_filesystem`. -/
structure FilesystemRow where
  serverId : ℕ
  mountpoint : String
  collectedAt : ℤ
  fstype : Option String
  usedBytes : Option ℤ
  freeBytes : Option ℤ
  deriving DecidableEq, Repr

/-- A row of `server_pressure`. -/
structure PressureRow where
  serverId : ℕ
  resource : String
  scope : String
  collectedAt : ℤ
  stallTimeS : Option ℚ
  deriving DecidableEq, Repr

/-- A row of `server_disk_error`. -/
structure DiskErrorRow where
  serverId : ℕ
  deviceId : String
  errorKind : String
  errorClass : String
  member : String
  collectedAt : ℤ
  count : Option ℤ
  deriving DecidableEq, Repr

/-! ## Natural keys -/

def MetricsRow.key (r : MetricsRow) : ℕ ×ₗ ℤ := toLex (r.serverId, r.collectedAt)

def DiskIoRow.key (r : DiskIoRow) : ℕ ×ₗ String ×ₗ ℤ :=
  toLex (r.serverId, toLex (r.deviceId, r.collectedAt))

def NetIoRow.key (r : NetIoRow) : ℕ ×ₗ String ×ₗ ℤ :=
  toLex (r.serverId, toLex (r.ifaceId, r.collectedAt))

def FilesystemRow.key (r : FilesystemRow) : ℕ ×ₗ String ×ₗ ℤ :=
  toLex (r.serverId, toLex (r.mountpoint, r.collectedAt))

def PressureRow.key (r : PressureRow) : ℕ ×ₗ String ×ₗ String ×ₗ ℤ :=
  toLex (r.serverId, toLex (r.resource, toLex (r.scope, r.collectedAt)))

def DiskErrorRow.key (r : DiskErrorRow) : ℕ ×ₗ String ×ₗ String ×ₗ String ×ₗ String ×ₗ ℤ :=
  toLex (r.serverId, toLex (r.deviceId, toLex (r.errorKind, toLex (r.errorClass,
    toLex (r.member, r.collectedAt)))))

/-! ## The tables -/

/-- The tables that the metric queries read. -/
structure MetricTables where
  serverInventory : KeyedTable InventoryRow.id
  publicIds_nodup : (serverInventory.rows.map fun r => r.publicId).Nodup
  serverMetrics : KeyedTable MetricsRow.key
  serverDiskIo : KeyedTable DiskIoRow.key
  serverNetIo : KeyedTable NetIoRow.key
  serverFilesystem : KeyedTable FilesystemRow.key
  serverPressure : KeyedTable PressureRow.key
  serverDiskError : KeyedTable DiskErrorRow.key

/-- The tables without the servers that are not known and the samples that are not kept. -/
def MetricTables.restrict (db : MetricTables) (known : ℕ → Bool) (keep : ℕ → ℤ → Bool) :
    MetricTables where
  serverInventory := db.serverInventory.restrict fun r => known r.id
  publicIds_nodup := db.publicIds_nodup.sublist (List.filter_sublist.map _)
  serverMetrics := db.serverMetrics.restrict fun r => keep r.serverId r.collectedAt
  serverDiskIo := db.serverDiskIo.restrict fun r => keep r.serverId r.collectedAt
  serverNetIo := db.serverNetIo.restrict fun r => keep r.serverId r.collectedAt
  serverFilesystem := db.serverFilesystem.restrict fun r => keep r.serverId r.collectedAt
  serverPressure := db.serverPressure.restrict fun r => keep r.serverId r.collectedAt
  serverDiskError := db.serverDiskError.restrict fun r => keep r.serverId r.collectedAt

/-- Two databases agree on the known servers and on the samples that are kept. -/
structure MetricTables.AgreeOn (known : ℕ → Bool) (keep : ℕ → ℤ → Bool) (db db' : MetricTables) :
    Prop where
  serverInventory : ∀ r, known r.id = true →
    (r ∈ db.serverInventory.rows ↔ r ∈ db'.serverInventory.rows)
  serverMetrics : ∀ r, keep r.serverId r.collectedAt = true →
    (r ∈ db.serverMetrics.rows ↔ r ∈ db'.serverMetrics.rows)
  serverDiskIo : ∀ r, keep r.serverId r.collectedAt = true →
    (r ∈ db.serverDiskIo.rows ↔ r ∈ db'.serverDiskIo.rows)
  serverNetIo : ∀ r, keep r.serverId r.collectedAt = true →
    (r ∈ db.serverNetIo.rows ↔ r ∈ db'.serverNetIo.rows)
  serverFilesystem : ∀ r, keep r.serverId r.collectedAt = true →
    (r ∈ db.serverFilesystem.rows ↔ r ∈ db'.serverFilesystem.rows)
  serverPressure : ∀ r, keep r.serverId r.collectedAt = true →
    (r ∈ db.serverPressure.rows ↔ r ∈ db'.serverPressure.rows)
  serverDiskError : ∀ r, keep r.serverId r.collectedAt = true →
    (r ∈ db.serverDiskError.rows ↔ r ∈ db'.serverDiskError.rows)

/-- What they agree on is the same part of both. -/
lemma MetricTables.AgreeOn.restrict_eq {known : ℕ → Bool} {keep : ℕ → ℤ → Bool}
    {db db' : MetricTables} (h : MetricTables.AgreeOn known keep db db') :
    db.restrict known keep = db'.restrict known keep := by
  rw [MetricTables.restrict, MetricTables.restrict, MetricTables.mk.injEq]
  exact ⟨KeyedTable.restrict_congr h.serverInventory, KeyedTable.restrict_congr h.serverMetrics,
    KeyedTable.restrict_congr h.serverDiskIo, KeyedTable.restrict_congr h.serverNetIo,
    KeyedTable.restrict_congr h.serverFilesystem, KeyedTable.restrict_congr h.serverPressure,
    KeyedTable.restrict_congr h.serverDiskError⟩

/-- No server and no sample. -/
def MetricTables.empty : MetricTables where
  serverInventory := ⟨[], List.Pairwise.nil⟩
  publicIds_nodup := List.nodup_nil
  serverMetrics := ⟨[], List.Pairwise.nil⟩
  serverDiskIo := ⟨[], List.Pairwise.nil⟩
  serverNetIo := ⟨[], List.Pairwise.nil⟩
  serverFilesystem := ⟨[], List.Pairwise.nil⟩
  serverPressure := ⟨[], List.Pairwise.nil⟩
  serverDiskError := ⟨[], List.Pairwise.nil⟩

/-- A sample in which nothing was measured. -/
def MetricsRow.blank (serverId : ℕ) (collectedAt : ℤ) : MetricsRow where
  serverId := serverId
  collectedAt := collectedAt
  cpuUserS := none
  cpuNiceS := none
  cpuSystemS := none
  cpuIdleS := none
  cpuIowaitS := none
  cpuIrqS := none
  cpuSoftirqS := none
  cpuStealS := none
  cpuRunQueue := none
  cpuBlocked := none
  cpuMce := none
  memLimitBytes := none
  memAvailableBytes := none
  memCachedBytes := none
  memBufferedBytes := none
  memHardwareCorruptedBytes := none
  memOomKill := none
  pagingIn := none
  pagingMajor := none
  netTcpRetransmits := none
  netConntrackUsage := none
  netConntrackLimit := none

end AssessmentEngine
