import AssessmentEngine.Library.Double
import AssessmentEngine.Library.FirstWriter

/-!
# The time series tables

The seven tables that a metrics message is written to, the rows that it brings, and the natural key
of each table.  A row is what the message says about one thing (a host, a device, a mount point, a
core …) with the server and the time of collection; the surrogate `id` is no part of it.
-/

namespace AssessmentEngine

open Table

/-! ## Entries -/

/-- The host-wide fields of `ServerMetricCreate`, all but `collected_at`. -/
structure ScalarMetrics where
  bootTime : Option ℤ
  agentStartedAt : Option ℤ
  cpuUserS : Option Double
  cpuNiceS : Option Double
  cpuSystemS : Option Double
  cpuIdleS : Option Double
  cpuIowaitS : Option Double
  cpuIrqS : Option Double
  cpuSoftirqS : Option Double
  cpuStealS : Option Double
  cpuLogicalCount : Option ℤ
  cpuRunQueue : Option Double
  cpuBlocked : Option Double
  cpuMce : Option ℤ
  memFreeBytes : Option ℤ
  memCachedBytes : Option ℤ
  memBufferedBytes : Option ℤ
  memAvailableBytes : Option ℤ
  memUsedBytes : Option ℤ
  memLimitBytes : Option ℤ
  memCommitUsageBytes : Option ℤ
  memCommitLimitBytes : Option ℤ
  memHardwareCorruptedBytes : Option ℤ
  memOomKill : Option ℤ
  pagingIn : Option ℤ
  pagingOut : Option ℤ
  pagingMajor : Option ℤ
  netTcpRetransmits : Option ℤ
  netConntrackUsage : Option ℤ
  netConntrackLimit : Option ℤ
  deriving DecidableEq, Repr

structure DiskIoEntry where
  deviceId : String
  deviceName : Option String
  ioReadBytes : Option ℤ
  ioWriteBytes : Option ℤ
  opsRead : Option ℤ
  opsWrite : Option ℤ
  ioTimeS : Option Double
  opReadTimeS : Option Double
  opWriteTimeS : Option Double
  pendingOps : Option Double
  deriving DecidableEq, Repr

structure NetIoEntry where
  ifaceId : String
  ifaceName : Option String
  rxBytes : Option ℤ
  txBytes : Option ℤ
  rxPackets : Option ℤ
  txPackets : Option ℤ
  rxErrors : Option ℤ
  txErrors : Option ℤ
  rxDropped : Option ℤ
  txDropped : Option ℤ
  linkSpeedBps : Option ℤ
  deriving DecidableEq, Repr

structure FilesystemEntry where
  mountpoint : String
  deviceId : Option String
  fstype : Option String
  usedBytes : Option ℤ
  freeBytes : Option ℤ
  inodesUsed : Option ℤ
  inodesFree : Option ℤ
  deriving DecidableEq, Repr

structure CpuCoreEntry where
  coreId : ℤ
  cpuUserS : Option Double
  cpuNiceS : Option Double
  cpuSystemS : Option Double
  cpuIdleS : Option Double
  cpuIowaitS : Option Double
  cpuIrqS : Option Double
  cpuSoftirqS : Option Double
  cpuStealS : Option Double
  deriving DecidableEq, Repr

structure PressureEntry where
  resource : String
  scope : String
  stallTimeS : Option Double
  ratioAvg10 : Option Double
  ratioAvg60 : Option Double
  ratioAvg300 : Option Double
  deriving DecidableEq, Repr

structure DiskErrorEntry where
  deviceId : String
  errorKind : String
  errorClass : String
  member : Option String
  count : Option ℤ
  deriving DecidableEq, Repr

structure ServerMetricCreate where
  collectedAt : ℤ
  scalars : ScalarMetrics
  diskIo : List DiskIoEntry
  netIo : List NetIoEntry
  filesystems : List FilesystemEntry
  cpuPerCore : List CpuCoreEntry
  pressure : List PressureEntry
  diskErrors : List DiskErrorEntry
  deriving DecidableEq, Repr

/-! ## Tables -/

/-- The tables, in the order in which `record_metrics` writes them. -/
inductive Series
  | serverMetrics
  | serverDiskIo
  | serverNetIo
  | serverFilesystem
  | serverCpuCore
  | serverPressure
  | serverDiskError
  deriving DecidableEq, Repr

/-- What a row of the table says besides server and time. -/
def Series.Entry : Series → Type
  | .serverMetrics => ScalarMetrics
  | .serverDiskIo => DiskIoEntry
  | .serverNetIo => NetIoEntry
  | .serverFilesystem => FilesystemEntry
  | .serverCpuCore => CpuCoreEntry
  | .serverPressure => PressureEntry
  | .serverDiskError => DiskErrorEntry

instance : ∀ k : Series, DecidableEq k.Entry
  | .serverMetrics => inferInstanceAs (DecidableEq ScalarMetrics)
  | .serverDiskIo => inferInstanceAs (DecidableEq DiskIoEntry)
  | .serverNetIo => inferInstanceAs (DecidableEq NetIoEntry)
  | .serverFilesystem => inferInstanceAs (DecidableEq FilesystemEntry)
  | .serverCpuCore => inferInstanceAs (DecidableEq CpuCoreEntry)
  | .serverPressure => inferInstanceAs (DecidableEq PressureEntry)
  | .serverDiskError => inferInstanceAs (DecidableEq DiskErrorEntry)

/-- `{"server_id": …, "collected_at": …, **vars(e)}`. -/
structure Stamped (ε : Type) where
  serverId : ℕ
  collectedAt : ℤ
  entry : ε
  deriving DecidableEq, Repr

/-- A row of the table. -/
abbrev Series.Row (k : Series) : Type := Stamped k.Entry

/-- The content of the seven tables. -/
abbrev SeriesTables : Type := ∀ k : Series, List k.Row

def SeriesTables.empty : SeriesTables := fun _ => []

/-! ## Natural keys -/

/-- A value in a key column. -/
inductive KeyCell
  | integer (n : ℤ)
  | text (s : String)
  | timestamp (t : ℤ)
  deriving DecidableEq, Repr

/-- `__tablename__`. -/
def Series.tableName : Series → String
  | .serverMetrics => "server_metrics"
  | .serverDiskIo => "server_disk_io"
  | .serverNetIo => "server_net_io"
  | .serverFilesystem => "server_filesystem"
  | .serverCpuCore => "server_cpu_core"
  | .serverPressure => "server_pressure"
  | .serverDiskError => "server_disk_error"

/-- The unique constraints that the model of a table declares, each by its columns. -/
def Series.uniqueConstraints : Series → List (List String)
  | .serverMetrics => [["server_id", "collected_at"]]
  | .serverDiskIo => [["server_id", "device_id", "collected_at"]]
  | .serverNetIo => [["server_id", "iface_id", "collected_at"]]
  | .serverFilesystem => [["server_id", "mountpoint", "collected_at"]]
  | .serverCpuCore => [["server_id", "core_id", "collected_at"]]
  | .serverPressure => [["server_id", "resource", "scope", "collected_at"]]
  | .serverDiskError =>
    [["server_id", "device_id", "error_kind", "error_class", "member", "collected_at"]]

/-- `_natural_key`: the columns of the only unique constraint. -/
def naturalKey (tableName : String) (uniques : List (List String)) :
    Except String (List String) :=
  match uniques with
  | [columns] => .ok columns
  | _ =>
    .error (tableName ++ " 의 자연키 UNIQUE 가 " ++ toString uniques.length ++
      "개 — 충돌 대상을 특정할 수 없다")

/-- `index_elements`: fixed for the host's row, from the model for the others. -/
def Series.indexElements : Series → List String
  | .serverMetrics => ["server_id", "collected_at"]
  | k => (naturalKey k.tableName k.uniqueConstraints).toOption.getD []

/-- The key columns of an entry. -/
def Series.entryCell : ∀ k : Series, k.Entry → String → Option KeyCell
  | .serverMetrics, _, _ => none
  | .serverDiskIo, (e : DiskIoEntry), "device_id" => some (.text e.deviceId)
  | .serverDiskIo, _, _ => none
  | .serverNetIo, (e : NetIoEntry), "iface_id" => some (.text e.ifaceId)
  | .serverNetIo, _, _ => none
  | .serverFilesystem, (e : FilesystemEntry), "mountpoint" => some (.text e.mountpoint)
  | .serverFilesystem, _, _ => none
  | .serverCpuCore, (e : CpuCoreEntry), "core_id" => some (.integer e.coreId)
  | .serverCpuCore, _, _ => none
  | .serverPressure, (e : PressureEntry), "resource" => some (.text e.resource)
  | .serverPressure, (e : PressureEntry), "scope" => some (.text e.scope)
  | .serverPressure, _, _ => none
  | .serverDiskError, (e : DiskErrorEntry), "device_id" => some (.text e.deviceId)
  | .serverDiskError, (e : DiskErrorEntry), "error_kind" => some (.text e.errorKind)
  | .serverDiskError, (e : DiskErrorEntry), "error_class" => some (.text e.errorClass)
  | .serverDiskError, (e : DiskErrorEntry), "member" => e.member.map .text
  | .serverDiskError, _, _ => none

/-- The value of a key column of a row. -/
def Series.cell (k : Series) (r : k.Row) (column : String) : Option KeyCell :=
  if column = "server_id" then some (.integer r.serverId)
  else if column = "collected_at" then some (.timestamp r.collectedAt)
  else k.entryCell r.entry column

/-- The natural key of a row. -/
def Series.key (k : Series) (r : k.Row) : List (Option KeyCell) :=
  k.indexElements.map (k.cell r)

/-- Every model declares one unique constraint, so no table is left without a key. -/
lemma Series.naturalKey_eq (k : Series) :
    naturalKey k.tableName k.uniqueConstraints = .ok k.indexElements := by
  cases k <;> rfl

lemma Series.indexElements_stamp (k : Series) :
    "server_id" ∈ k.indexElements ∧ "collected_at" ∈ k.indexElements := by
  cases k <;> decide

/-- Rows with one key are of one server and one time. -/
lemma Series.key_stamp {k : Series} {r r' : k.Row} (h : k.key r = k.key r') :
    r.serverId = r'.serverId ∧ r.collectedAt = r'.collectedAt := by
  have hcell : ∀ column ∈ k.indexElements, k.cell r column = k.cell r' column :=
    fun column hcolumn => List.map_inj_left.mp h column hcolumn
  obtain ⟨hserver, htime⟩ := k.indexElements_stamp
  have hserver : k.cell r "server_id" = k.cell r' "server_id" := hcell _ hserver
  have htime : k.cell r "collected_at" = k.cell r' "collected_at" := hcell _ htime
  constructor
  · have hids : (r.serverId : ℤ) = r'.serverId := by simpa [Series.cell] using hserver
    exact Int.ofNat_inj.mp hids
  · simpa [Series.cell] using htime

end AssessmentEngine
