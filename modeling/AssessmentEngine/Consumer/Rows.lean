import Mathlib.Tactic.MkIffOfInductiveProp
import AssessmentEngine.Consumer.InventoryMapper
import AssessmentEngine.Ingest.Metrics

/-!
# The rows that a message is written to

The columns of the tables with the values that the repository binds to them.  The key of the server
and the columns that the database fills in are no part of a row.
-/

namespace AssessmentEngine

open Sql

/-! ## Cells -/

def intCell (name : String) (type : SqlType) (value : Option ℤ) : Cell :=
  nullableCell name type .int value

def floatCell (name : String) (value : Option Double) : Cell :=
  nullableCell name .float .float value

def stringCell (name : String) (length : ℕ) (value : Option String) : Cell :=
  nullableCell name (.string length) .text value

def timeCell (name : String) (value : Option ℤ) : Cell :=
  nullableCell name .dateTime .time value

def flagCell (name : String) (value : Option Bool) : Cell :=
  nullableCell name .boolean .bool value

def textCell (name : String) (value : String) : Cell := nullableCell name .text .text (some value)

def textsCell (name : String) (value : Option (List String)) : Cell :=
  nullableCell name .textArray .texts value

/-- A `JSONB` column; that there is no value is written as the null of JSON. -/
def jsonCell (name : String) (value : Json) : Cell := nullableCell name .jsonb .json (some value)

/-- A `String` column that is `NOT NULL`. -/
def nameCell (name : String) (length : ℕ) (value : String) : Cell :=
  requiredCell name (.string length) (.text value)

/-- `collected_at`. -/
def collectedAtCell (t : ℤ) : Cell := requiredCell "collected_at" .dateTime (.time t)

/-- A text that a column of the length takes. -/
def FitsText (length : ℕ) (s : String) : Prop := s.length ≤ length ∧ CleanText s

section Cells

variable {name : String} {length : ℕ}

@[simp] lemma takes_string {s : String} :
    (SqlType.string length).Takes (.text s) ↔ FitsText length s := Iff.rfl

@[simp] lemma fits_nameCell {s : String} :
    (nameCell name length s).Fits ↔ FitsText length s := Iff.rfl

@[simp] lemma fits_stringCell {s : Option String} :
    (stringCell name length s).Fits ↔ ∀ a ∈ s, FitsText length a :=
  fits_nullableCell (fun _ => nofun)

@[simp] lemma fits_timeCell {t : Option ℤ} : (timeCell name t).Fits ↔ ∀ a ∈ t, HasDate a :=
  fits_nullableCell (fun _ => nofun)

@[simp] lemma fits_collectedAtCell {t : ℤ} : (collectedAtCell t).Fits ↔ HasDate t := Iff.rfl

@[simp] lemma fits_flagCell {b : Option Bool} : (flagCell name b).Fits := by
  have hfits : (flagCell name b).Fits ↔ ∀ a ∈ b, SqlType.boolean.Takes (.bool a) :=
    fits_nullableCell (fun _ => nofun)
  exact hfits.mpr fun _ _ => trivial

@[simp] lemma fits_textCell {s : String} : (textCell name s).Fits ↔ CleanText s := Iff.rfl

@[simp] lemma fits_textsCell {ss : Option (List String)} :
    (textsCell name ss).Fits ↔ ∀ a ∈ ss, ∀ s ∈ a, CleanText s :=
  fits_nullableCell (fun _ => nofun)

@[simp] lemma fits_textsCell_some {ss : List String} :
    (textsCell name (some ss)).Fits ↔ ∀ s ∈ ss, CleanText s := Iff.rfl

@[simp] lemma fits_jsonCell {v : Json} : (jsonCell name v).Fits ↔ v.Storable := Iff.rfl

lemma fits_intCell {type : SqlType} {n : Option ℤ} :
    (intCell name type n).Fits ↔ ∀ a ∈ n, type.Takes (.int a) :=
  fits_nullableCell (fun _ => nofun)

/-- A number of the wire is not negative, so only the upper end of a range counts. -/
@[simp] lemma fits_intCell_integer {n : Option ℕ} :
    (intCell name .integer (n.map fun n : ℕ => (n : ℤ))).Fits ↔ ∀ a ∈ n, a < 2 ^ 31 := by
  rw [fits_intCell]
  cases n with
  | none => exact iff_of_true nofun nofun
  | some a =>
    simp only [Option.map_some, Option.mem_def, Option.some.injEq, forall_eq', SqlType.Takes]
    omega

@[simp] lemma fits_intCell_bigInteger {n : Option ℕ} :
    (intCell name .bigInteger (n.map fun n : ℕ => (n : ℤ))).Fits ↔ ∀ a ∈ n, a < 2 ^ 63 := by
  rw [fits_intCell]
  cases n with
  | none => exact iff_of_true nofun nofun
  | some a =>
    simp only [Option.map_some, Option.mem_def, Option.some.injEq, forall_eq', SqlType.Takes]
    omega

end Cells

/-! ## Time series -/

/-- `server_metrics`. -/
def serverMetricsRow (collectedAt : ℤ) (s : ScalarMetrics) : Row :=
  [collectedAtCell collectedAt,
    floatCell "cpu_user_s" s.cpuUserS,
    floatCell "cpu_nice_s" s.cpuNiceS,
    floatCell "cpu_system_s" s.cpuSystemS,
    floatCell "cpu_idle_s" s.cpuIdleS,
    floatCell "cpu_iowait_s" s.cpuIowaitS,
    floatCell "cpu_irq_s" s.cpuIrqS,
    floatCell "cpu_softirq_s" s.cpuSoftirqS,
    floatCell "cpu_steal_s" s.cpuStealS,
    intCell "cpu_logical_count" .integer s.cpuLogicalCount,
    floatCell "cpu_run_queue" s.cpuRunQueue,
    floatCell "cpu_blocked" s.cpuBlocked,
    intCell "cpu_mce" .bigInteger s.cpuMce,
    intCell "mem_free_bytes" .bigInteger s.memFreeBytes,
    intCell "mem_cached_bytes" .bigInteger s.memCachedBytes,
    intCell "mem_buffered_bytes" .bigInteger s.memBufferedBytes,
    intCell "mem_available_bytes" .bigInteger s.memAvailableBytes,
    intCell "mem_used_bytes" .bigInteger s.memUsedBytes,
    intCell "mem_limit_bytes" .bigInteger s.memLimitBytes,
    intCell "mem_commit_usage_bytes" .bigInteger s.memCommitUsageBytes,
    intCell "mem_commit_limit_bytes" .bigInteger s.memCommitLimitBytes,
    intCell "mem_hardware_corrupted_bytes" .bigInteger s.memHardwareCorruptedBytes,
    intCell "mem_oom_kill" .bigInteger s.memOomKill,
    intCell "paging_in" .bigInteger s.pagingIn,
    intCell "paging_out" .bigInteger s.pagingOut,
    intCell "paging_major" .bigInteger s.pagingMajor,
    intCell "net_tcp_retransmits" .bigInteger s.netTcpRetransmits,
    intCell "net_conntrack_usage" .integer s.netConntrackUsage,
    intCell "net_conntrack_limit" .integer s.netConntrackLimit,
    timeCell "boot_time" s.bootTime,
    timeCell "agent_started_at" s.agentStartedAt]

/-- `server_disk_io`. -/
def diskIoRow (collectedAt : ℤ) (e : DiskIoEntry) : Row :=
  [collectedAtCell collectedAt,
    nameCell "device_id" 128 e.deviceId,
    stringCell "device_name" 128 e.deviceName,
    intCell "io_read_bytes" .bigInteger e.ioReadBytes,
    intCell "io_write_bytes" .bigInteger e.ioWriteBytes,
    intCell "ops_read" .bigInteger e.opsRead,
    intCell "ops_write" .bigInteger e.opsWrite,
    floatCell "io_time_s" e.ioTimeS,
    floatCell "op_read_time_s" e.opReadTimeS,
    floatCell "op_write_time_s" e.opWriteTimeS,
    floatCell "pending_ops" e.pendingOps]

/-- `server_net_io`. -/
def netIoRow (collectedAt : ℤ) (e : NetIoEntry) : Row :=
  [collectedAtCell collectedAt,
    nameCell "iface_id" 64 e.ifaceId,
    stringCell "iface_name" 256 e.ifaceName,
    intCell "rx_bytes" .bigInteger e.rxBytes,
    intCell "tx_bytes" .bigInteger e.txBytes,
    intCell "rx_packets" .bigInteger e.rxPackets,
    intCell "tx_packets" .bigInteger e.txPackets,
    intCell "rx_errors" .bigInteger e.rxErrors,
    intCell "tx_errors" .bigInteger e.txErrors,
    intCell "rx_dropped" .bigInteger e.rxDropped,
    intCell "tx_dropped" .bigInteger e.txDropped,
    intCell "link_speed_bps" .bigInteger e.linkSpeedBps]

/-- `server_filesystem`. -/
def filesystemRow (collectedAt : ℤ) (e : FilesystemEntry) : Row :=
  [collectedAtCell collectedAt,
    nameCell "mountpoint" 255 e.mountpoint,
    stringCell "device_id" 128 e.deviceId,
    stringCell "fstype" 32 e.fstype,
    intCell "used_bytes" .bigInteger e.usedBytes,
    intCell "free_bytes" .bigInteger e.freeBytes,
    intCell "inodes_used" .bigInteger e.inodesUsed,
    intCell "inodes_free" .bigInteger e.inodesFree]

/-- `server_cpu_core`. -/
def cpuCoreRow (collectedAt : ℤ) (e : CpuCoreEntry) : Row :=
  [collectedAtCell collectedAt,
    requiredCell "core_id" .integer (.int e.coreId),
    floatCell "cpu_user_s" e.cpuUserS,
    floatCell "cpu_nice_s" e.cpuNiceS,
    floatCell "cpu_system_s" e.cpuSystemS,
    floatCell "cpu_idle_s" e.cpuIdleS,
    floatCell "cpu_iowait_s" e.cpuIowaitS,
    floatCell "cpu_irq_s" e.cpuIrqS,
    floatCell "cpu_softirq_s" e.cpuSoftirqS,
    floatCell "cpu_steal_s" e.cpuStealS]

/-- `server_pressure`. -/
def pressureRow (collectedAt : ℤ) (e : PressureEntry) : Row :=
  [collectedAtCell collectedAt,
    nameCell "resource" 16 e.resource,
    nameCell "scope" 8 e.scope,
    floatCell "stall_time_s" e.stallTimeS,
    floatCell "ratio_avg10" e.ratioAvg10,
    floatCell "ratio_avg60" e.ratioAvg60,
    floatCell "ratio_avg300" e.ratioAvg300]

/-- `server_disk_error`; the member is normalised before it is written. -/
def diskErrorRow (collectedAt : ℤ) (e : DiskErrorEntry) : Row :=
  [collectedAtCell collectedAt,
    nameCell "device_id" 128 e.deviceId,
    nameCell "error_kind" 32 e.errorKind,
    nameCell "error_class" 64 e.errorClass,
    requiredCell "member" (.string 128) (e.normalizeMember.member.elim .null .text),
    intCell "count" .bigInteger e.count]

/-- All rows that `record_metrics` writes fit. -/
@[mk_iff]
structure ServerMetricCreate.Fits (data : ServerMetricCreate) : Prop where
  serverMetrics : (serverMetricsRow data.collectedAt data.scalars).Fits
  diskIo : ∀ e ∈ data.diskIo, (diskIoRow data.collectedAt e).Fits
  netIo : ∀ e ∈ data.netIo, (netIoRow data.collectedAt e).Fits
  filesystem : ∀ e ∈ data.filesystems, (filesystemRow data.collectedAt e).Fits
  cpuCore : ∀ e ∈ data.cpuPerCore, (cpuCoreRow data.collectedAt e).Fits
  pressure : ∀ e ∈ data.pressure, (pressureRow data.collectedAt e).Fits
  diskError : ∀ e ∈ data.diskErrors, (diskErrorRow data.collectedAt e).Fits

/-! ## Inventory -/

/-- The columns that `server_inventory` and `server_inventory_history` share. -/
def hostColumns (data : Inbound.ServerInventoryCreate) : Row :=
  [nameCell "hostname" 255 data.hostname,
    stringCell "agent_version" 32 data.agentVersion,
    stringCell "os_family" 16 (some data.osFamily),
    stringCell "os_id" 64 data.osId,
    stringCell "os_version" 64 data.osVersion,
    stringCell "os_codename" 64 data.osCodename,
    stringCell "kernel_version" 64 data.kernelVersion,
    stringCell "arch" 32 data.arch,
    intCell "bits" .integer (data.bits.map fun n : ℕ => (n : ℤ)),
    stringCell "boot_firmware" 8 data.bootFirmware,
    flagCell "secure_boot" data.secureBoot,
    stringCell "edition" 64 data.edition,
    stringCell "product_name" 128 data.productName,
    stringCell "timezone" 64 data.timezone,
    flagCell "rtc_utc" data.rtcUtc,
    intCell "cpu_cores" .integer (data.cpuCores.map fun n : ℕ => (n : ℤ)),
    stringCell "cpu_model" 255 data.cpuModel,
    intCell "mem_total_bytes" .bigInteger (data.memTotalBytes.map fun n : ℕ => (n : ℤ)),
    timeCell "boot_time" data.bootTime,
    timeCell "agent_started_at" data.agentStartedAt,
    jsonCell "block_devices" data.blockDevices,
    jsonCell "net_interfaces" data.netInterfaces,
    jsonCell "lvm_vgs" data.lvmVgs,
    jsonCell "boot" data.boot,
    jsonCell "nonblock_mounts" data.nonblockMounts,
    textsCell "ip_external" data.ipExternal,
    jsonCell "services" data.services,
    jsonCell "listen_ports" data.listenPorts]

/-- `server_inventory`, by `_inventory_row`. -/
def serverInventoryRow (data : Inbound.ServerInventoryCreate) : Row :=
  [requiredCell "agent_id" .uuid (.uuid data.agentId),
    stringCell "composite_id" 64 data.compositeId,
    stringCell "machine_id" 64 data.machineId,
    textsCell "service_categories" (some data.serviceCategories),
    timeCell "last_seen_at" (some data.collectedAt)] ++ hostColumns data

/-- `server_inventory_history`, by `_append_inventory_history`. -/
def serverInventoryHistoryRow (data : Inbound.ServerInventoryCreate) : Row :=
  collectedAtCell data.collectedAt :: hostColumns data

/-- The rows of a host fit, those of its history included. -/
@[mk_iff]
structure Inbound.ServerInventoryCreate.Fits (data : Inbound.ServerInventoryCreate) : Prop where
  inventory : (serverInventoryRow data).Fits
  history : (serverInventoryHistoryRow data).Fits

/-! ## Tasks -/

/-- What `complete_task` sets in `tasks`. -/
def taskRow (t : TaskResultUpdate) : Row :=
  [requiredCell "status" (.string 32) (.text t.status),
    timeCell "completed_at" (some t.completedAt),
    stringCell "failure_reason" 32 t.failureReason,
    intCell "exit_code" .smallInteger t.exitCode,
    intCell "signal_no" .smallInteger t.signalNo,
    intCell "duration_ms" .bigInteger (some (t.durationMs : ℤ)),
    textCell "stdout_tail" t.stdoutTail,
    textCell "stderr_tail" t.stderrTail,
    flagCell "task_policy" t.taskPolicy]

end AssessmentEngine
