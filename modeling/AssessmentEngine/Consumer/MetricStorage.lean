import AssessmentEngine.Consumer.MetricMapper
import AssessmentEngine.Consumer.Rows
import AssessmentEngine.Library.Returns

/-!
# Which metrics messages can be stored

The values of a message that its columns are read from, and what they have to be for the mapper to
return and for its rows to fit.  The wire schema checks none of this.
-/

namespace AssessmentEngine

open Sql

/-! ## Values -/

/-- A value of a point that is read for a column of the type. -/
structure Reading where
  type : SqlType
  value : Option Double

/-- The value, if there is one, is finite and, cut to an integer, in the range of the column. -/
def Reading.Fits (r : Reading) : Prop :=
  ∀ x ∈ r.value, ∃ q, x = .finite q ∧
    (r.type = .float ∨ r.type.Takes (.int (FixedPoint.truncate q)))

/-- The label of a core is the text of an integer that the column takes. -/
def FitsCore (u : Unicode) (label : String) : Prop :=
  label.length ≤ maxStrDigits ∧ ∃ n, decimalValue u label.toList = some n ∧ n < 2 ^ 31

section Cells

variable {name : String} {value : Option Double}

lemma fits_float : (⟨.float, value⟩ : Reading).Fits ↔ ∀ x ∈ value, x.isFinite = true := by
  refine forall₂_congr fun x _ => ?_
  constructor
  · rintro ⟨q, rfl, _⟩
    exact rfl
  · intro hfinite
    obtain ⟨q, hq⟩ := Double.exists_of_isFinite hfinite
    exact ⟨q, hq, Or.inl rfl⟩

@[simp] lemma fits_floatCell : (floatCell name value).Fits ↔ (⟨.float, value⟩ : Reading).Fits := by
  rw [fits_float]
  exact fits_nullableCell fun _ => nofun

@[simp] lemma returns_intCell (name : String) {type : SqlType} (htype : type ≠ .float) :
    Returns (fun n => (intCell name type n).Fits) (intOf value) ↔
      (⟨type, value⟩ : Reading).Fits := by
  simp only [fits_intCell]
  cases value with
  | none => exact iff_of_true ⟨none, rfl, nofun⟩ nofun
  | some x =>
    unfold Reading.Fits
    simp only [Option.mem_def, Option.some.injEq, forall_eq', intOf]
    cases x with
    | finite q =>
      simp only [truncateDouble, Option.map_some, Returns.some_iff, Option.some.injEq, forall_eq']
      constructor
      · exact fun h => ⟨q, rfl, Or.inr h⟩
      · rintro ⟨q', heq, hfloat | h⟩
        · exact absurd hfloat htype
        · cases heq
          exact h
    | infinite negative =>
      refine iff_of_false Returns.none_iff.mp ?_
      rintro ⟨q, heq, _⟩
      cases heq
    | nan =>
      refine iff_of_false Returns.none_iff.mp ?_
      rintro ⟨q, heq, _⟩
      cases heq

/-- An integer that is read first: under a condition on the message that has the column take it,
the rest is about the cell as it is written. -/
lemma returns_intOf_bind {β : Type} {type : SqlType} (htype : type ≠ .float)
    {f : Option ℤ → Option β} {P : β → Prop} {R : Prop}
    (hfits : R → (⟨type, value⟩ : Reading).Fits)
    (hrest : ∀ n, (∀ name, (intCell name type n).Fits ↔ (⟨type, value⟩ : Reading).Fits) →
      (Returns P (f n) ↔ R)) :
    Returns P ((intOf value).bind f) ↔ R := by
  cases hn : intOf value with
  | some n =>
    apply hrest
    intro name
    rw [← returns_intCell name htype, hn, Returns.some_iff]
  | none =>
    refine iff_of_false Returns.none_iff.mp fun hR => ?_
    have hreturns := (returns_intCell "" htype).mpr (hfits hR)
    rw [hn] at hreturns
    exact Returns.none_iff.mp hreturns

/-- A core fits exactly when its label is not too long a text of decimal digits and small enough. -/
@[simp] lemma returns_parseDigits {u : Unicode} {label : String} :
    Returns (fun n => SqlType.integer.Takes (.int n)) (parseDigits u label) ↔ FitsCore u label := by
  unfold parseDigits FitsCore
  split_ifs with hlength
  · cases hvalue : decimalValue u label.toList with
    | none =>
      refine iff_of_false Returns.none_iff.mp ?_
      rintro ⟨_, n, heq, _⟩
      cases heq
    | some n =>
      rw [Option.map_some, Returns.some_iff]
      constructor
      · rintro ⟨_, hupper⟩
        exact ⟨hlength, n, rfl, by omega⟩
      · rintro ⟨_, n', heq, hlt⟩
        cases heq
        exact ⟨by omega, by omega⟩
  · exact iff_of_false Returns.none_iff.mp fun h => hlength h.1

/-- A text that is not there is written as the empty text. -/
@[simp] lemma fitsText_getD {length : ℕ} {s : Option String} :
    FitsText length (s.getD "") ↔ ∀ a ∈ s, FitsText length a := by
  cases s with
  | none => exact iff_of_true ⟨Nat.zero_le _, by decide⟩ nofun
  | some a => simp only [Option.getD_some, Option.mem_def, Option.some.injEq, forall_eq']

/-- A sum fits exactly when its numbers sum up. -/
@[simp] lemma fits_stateSum {pts : List Datapoint} {state : String} :
    (⟨.float, stateSum pts state⟩ : Reading).Fits ↔ Double.SumsUp (stateValues pts state) := by
  rw [fits_float, stateSum]
  split_ifs with hempty
  · rw [hempty]
    exact iff_of_true nofun trivial
  · simp only [Option.mem_def, Option.some.injEq, forall_eq']
    exact Double.isFinite_sum_iff _

end Cells

/-! ## Disks -/

/-- What is read of a disk. -/
def diskReadings (disk : Option Namespace) (dev : String) : List Reading :=
  let io := pointsOf disk "disk.io"
  let ops := pointsOf disk "disk.operations"
  let opTime := pointsOf disk "disk.operation_time"
  let device := ("device", some dev)
  [⟨.bigInteger, matchValue io [device, ("direction", some "read")]⟩,
    ⟨.bigInteger, matchValue io [device, ("direction", some "write")]⟩,
    ⟨.bigInteger, matchValue ops [device, ("direction", some "read")]⟩,
    ⟨.bigInteger, matchValue ops [device, ("direction", some "write")]⟩,
    ⟨.float, matchValue (pointsOf disk "disk.io_time") [device]⟩,
    ⟨.float, matchValue opTime [device, ("direction", some "read")]⟩,
    ⟨.float, matchValue opTime [device, ("direction", some "write")]⟩,
    ⟨.float, matchValue (pointsOf disk "disk.pending_operations") [device]⟩]

def FitsDisk (disk : Option Namespace) (dev : String) : Prop :=
  FitsText 128 dev ∧ ∀ r ∈ diskReadings disk dev, r.Fits

lemma returns_diskIoEntry {t : ℤ} {disk : Option Namespace} {dev : String} :
    Returns (fun e => (diskIoRow t e).Fits) (diskIoEntry disk dev) ↔
      HasDate t ∧ FitsDisk disk dev := by
  simp [diskIoEntry, diskIoRow, FitsDisk, diskReadings]

lemma returns_buildDiskIo {t : ℤ} {disk : Option Namespace} :
    Returns (fun es => ∀ e ∈ es, (diskIoRow t e).Fits) (buildDiskIo disk) ↔
      ∀ dev ∈ diskDevices disk, HasDate t ∧ FitsDisk disk dev := by
  rw [buildDiskIo, Returns.mapM_iff]
  exact forall₂_congr fun dev _ => returns_diskIoEntry

@[simp] lemma fits_diskErrorRow {t : ℤ} {e : DiskErrorEntry} :
    (diskErrorRow t e).Fits ↔
      HasDate t ∧ FitsText 128 e.deviceId ∧ FitsText 32 e.errorKind ∧ FitsText 64 e.errorClass ∧
        (∀ s ∈ e.member, FitsText 128 s) ∧ (intCell "count" .bigInteger e.count).Fits := by
  simp [diskErrorRow, DiskErrorEntry.normalizeMember]

/-- An error of the kind. -/
def FitsDiskError (kind : String) (p : Datapoint) : Prop :=
  (∀ s ∈ p.attrKey "device", FitsText 128 s) ∧ FitsText 32 kind ∧
    (∀ s ∈ p.attrKey "class", FitsText 64 s) ∧ (∀ s ∈ p.attrKey "member", FitsText 128 s) ∧
      (⟨.bigInteger, p.value⟩ : Reading).Fits

lemma returns_diskErrorEntry {t : ℤ} {kind : String} {p : Datapoint} :
    Returns (fun e => (diskErrorRow t e).Fits) (diskErrorEntry kind p) ↔
      HasDate t ∧ FitsDiskError kind p := by
  simp [diskErrorEntry, FitsDiskError]

lemma returns_buildDiskErrors {t : ℤ} {disk : Option Namespace} :
    Returns (fun es => ∀ e ∈ es, (diskErrorRow t e).Fits) (buildDiskErrors disk) ↔
      ∀ p ∈ pointsOf disk "disk.errors", ∀ kind ∈ p.attrKey "kind",
        HasDate t ∧ FitsDiskError kind p := by
  rw [buildDiskErrors, Returns.mapM_iff]
  simp only [List.mem_filterMap, Option.map_eq_some_iff, returns_diskErrorEntry]
  constructor
  · intro h p hp kind hkind
    exact h (kind, p) ⟨p, hp, kind, hkind, rfl⟩
  · rintro h _ ⟨p, hp, kind, hkind, rfl⟩
    exact h p hp kind hkind

/-! ## Interfaces -/

/-- What is read of an interface. -/
def netReadings (net : Option Namespace) (dev : String) : List Reading :=
  let io := pointsOf net "network.io"
  let pkts := pointsOf net "network.packets"
  let errs := pointsOf net "network.errors"
  let drop := pointsOf net "network.dropped"
  let receive : Wanted := [("device", some dev), ("direction", some "receive")]
  let transmit : Wanted := [("device", some dev), ("direction", some "transmit")]
  [⟨.bigInteger, matchValue io receive⟩,
    ⟨.bigInteger, matchValue io transmit⟩,
    ⟨.bigInteger, matchValue pkts receive⟩,
    ⟨.bigInteger, matchValue pkts transmit⟩,
    ⟨.bigInteger, matchValue errs receive⟩,
    ⟨.bigInteger, matchValue errs transmit⟩,
    ⟨.bigInteger, matchValue drop receive⟩,
    ⟨.bigInteger, matchValue drop transmit⟩,
    ⟨.bigInteger, matchValue (pointsOf net "network.link.speed") [("device", some dev)]⟩]

def FitsInterface (net : Option Namespace) (dev : String) : Prop :=
  FitsText 64 dev ∧ ∀ r ∈ netReadings net dev, r.Fits

lemma returns_netIoEntry {t : ℤ} {net : Option Namespace} {dev : String} :
    Returns (fun e => (netIoRow t e).Fits) (netIoEntry net dev) ↔
      HasDate t ∧ FitsInterface net dev := by
  simp [netIoEntry, netIoRow, FitsInterface, netReadings]

lemma returns_buildNetIo {t : ℤ} {net : Option Namespace} :
    Returns (fun es => ∀ e ∈ es, (netIoRow t e).Fits) (buildNetIo net) ↔
      ∀ dev ∈ netDevices net, HasDate t ∧ FitsInterface net dev := by
  rw [buildNetIo, Returns.mapM_iff]
  exact forall₂_congr fun dev _ => returns_netIoEntry

/-! ## File systems -/

/-- What is read of a mount point. -/
def filesystemReadings (fs : Option Namespace) (mp : String) : List Reading :=
  let usage := pointsOf fs "filesystem.usage"
  let inodes := pointsOf fs "filesystem.inodes.usage"
  let used : Wanted := [("mountpoint", some mp), ("state", some "used")]
  let free : Wanted := [("mountpoint", some mp), ("state", some "free")]
  [⟨.bigInteger, matchValue usage used⟩,
    ⟨.bigInteger, matchValue usage free⟩,
    ⟨.bigInteger, matchValue inodes used⟩,
    ⟨.bigInteger, matchValue inodes free⟩]

def FitsFilesystem (fs : Option Namespace) (mp : String) : Prop :=
  let usage := pointsOf fs "filesystem.usage"
  let inodes := pointsOf fs "filesystem.inodes.usage"
  FitsText 255 mp ∧
    (∀ s ∈ attrOf [usage, inodes] "device" [("mountpoint", some mp)], FitsText 128 s) ∧
    (∀ s ∈ attrOf [usage] "type" [("mountpoint", some mp)], FitsText 32 s) ∧
    ∀ r ∈ filesystemReadings fs mp, r.Fits

lemma returns_filesystemEntry {t : ℤ} {fs : Option Namespace} {mp : String} :
    Returns (fun e => (filesystemRow t e).Fits) (filesystemEntry fs mp) ↔
      HasDate t ∧ FitsFilesystem fs mp := by
  simp [filesystemEntry, filesystemRow, FitsFilesystem, filesystemReadings]

lemma returns_buildFilesystems {t : ℤ} {fs : Option Namespace} :
    Returns (fun es => ∀ e ∈ es, (filesystemRow t e).Fits) (buildFilesystems fs) ↔
      ∀ mp ∈ mountpointsOf fs, HasDate t ∧ FitsFilesystem fs mp := by
  rw [buildFilesystems, Returns.mapM_iff]
  exact forall₂_congr fun mp _ => returns_filesystemEntry

/-! ## Cores -/

/-- The states of a processor that have a column. -/
def cpuStates : List String :=
  ["user", "nice", "system", "idle", "iowait", "irq", "softirq", "steal"]

def FitsCpuCore (u : Unicode) (cpuTime : List Datapoint) (c : String) : Prop :=
  FitsCore u c ∧ ∀ state ∈ cpuStates,
    (⟨.float, matchValue cpuTime [("cpu", some c), ("state", some state)]⟩ : Reading).Fits

lemma returns_cpuCoreEntry {t : ℤ} {u : Unicode} {cpuTime : List Datapoint} {c : String} :
    Returns (fun e => (cpuCoreRow t e).Fits) (cpuCoreEntry u cpuTime c) ↔
      HasDate t ∧ FitsCpuCore u cpuTime c := by
  simp [cpuCoreEntry, cpuCoreRow, FitsCpuCore, cpuStates]

lemma returns_buildCpuCores {t : ℤ} {u : Unicode} {cpuTime : List Datapoint} :
    Returns (fun es => ∀ e ∈ es, (cpuCoreRow t e).Fits) (buildCpuCores u cpuTime) ↔
      ∀ c ∈ coreLabels u cpuTime, HasDate t ∧ FitsCpuCore u cpuTime c := by
  rw [buildCpuCores, Returns.mapM_iff]
  exact forall₂_congr fun c _ => returns_cpuCoreEntry

/-! ## Pressure -/

/-- What is read of a resource in a scope. -/
def pressureReadings (pressure : Option Namespace) (key : String × String) : List Reading :=
  let ratio := pointsOf pressure "pressure.stall.ratio"
  let stall : Wanted := [("resource", some key.1), ("scope", some key.2)]
  [⟨.float, matchValue (pointsOf pressure "pressure.stall.time") stall⟩,
    ⟨.float, matchValue ratio (stall ++ [("window", some "10")])⟩,
    ⟨.float, matchValue ratio (stall ++ [("window", some "60")])⟩,
    ⟨.float, matchValue ratio (stall ++ [("window", some "300")])⟩]

def FitsPressure (pressure : Option Namespace) (key : String × String) : Prop :=
  FitsText 16 key.1 ∧ FitsText 8 key.2 ∧ ∀ r ∈ pressureReadings pressure key, r.Fits

lemma fits_pressureRow {t : ℤ} {pressure : Option Namespace} {key : String × String} :
    (pressureRow t (pressureEntry pressure key)).Fits ↔
      HasDate t ∧ FitsPressure pressure key := by
  simp [pressureEntry, pressureRow, FitsPressure, pressureReadings]

lemma fits_buildPressure {t : ℤ} {pressure : Option Namespace} :
    (∀ e ∈ buildPressure pressure, (pressureRow t e).Fits) ↔
      ∀ key ∈ pressureKeys pressure, HasDate t ∧ FitsPressure pressure key := by
  rw [buildPressure, List.forall_mem_map]
  exact forall₂_congr fun key _ => fits_pressureRow

/-! ## The host -/

/-- What is read of the host as a whole. -/
def scalarReadings (m : MetricsInput) : List Reading :=
  let memUsage := pointsOf m.systemMemory "memory.usage"
  let paging := pointsOf m.systemPaging "paging.operations"
  [⟨.integer, scalarValue m.systemCpu "cpu.logical.count"⟩,
    ⟨.float, scalarValue m.systemCpu "cpu.run_queue"⟩,
    ⟨.float, scalarValue m.systemCpu "cpu.blocked"⟩,
    ⟨.bigInteger, scalarValue m.systemCpu "cpu.mce"⟩,
    ⟨.bigInteger, matchValue memUsage [("state", some "free")]⟩,
    ⟨.bigInteger, matchValue memUsage [("state", some "cached")]⟩,
    ⟨.bigInteger, matchValue memUsage [("state", some "buffered")]⟩,
    ⟨.bigInteger, matchValue memUsage [("state", some "available")]⟩,
    ⟨.bigInteger, matchValue memUsage [("state", some "used")]⟩,
    ⟨.bigInteger, scalarValue m.systemMemory "memory.limit"⟩,
    ⟨.bigInteger, scalarValue m.systemMemory "memory.commit.usage"⟩,
    ⟨.bigInteger, scalarValue m.systemMemory "memory.commit.limit"⟩,
    ⟨.bigInteger, scalarValue m.systemMemory "memory.hardware_corrupted"⟩,
    ⟨.bigInteger, scalarValue m.systemMemory "memory.oom_kill"⟩,
    ⟨.bigInteger, matchValue paging [("direction", some "in"), ("type", none)]⟩,
    ⟨.bigInteger, matchValue paging [("direction", some "out"), ("type", none)]⟩,
    ⟨.bigInteger, matchValue paging [("direction", some "in"), ("type", some "major")]⟩,
    ⟨.bigInteger, scalarValue m.systemNetwork "network.tcp.retransmits"⟩,
    ⟨.integer, scalarValue m.systemNetwork "network.conntrack.usage"⟩,
    ⟨.integer, scalarValue m.systemNetwork "network.conntrack.limit"⟩]

def FitsHost (m : MetricsInput) : Prop :=
  (∀ state ∈ cpuStates,
      Double.SumsUp (stateValues (pointsOf m.systemCpu "cpu.time") state)) ∧
    (∀ r ∈ scalarReadings m, r.Fits) ∧
    (∀ t ∈ m.bootTime, HasDate t) ∧ ∀ t ∈ m.agentStartedAt, HasDate t

lemma returns_toScalarMetrics {t : ℤ} {m : MetricsInput} :
    Returns (fun s => (serverMetricsRow t s).Fits) (toScalarMetrics m) ↔
      HasDate t ∧ FitsHost m := by
  have hread : ∀ type value, (⟨type, value⟩ : Reading) ∈ scalarReadings m →
      HasDate t ∧ FitsHost m → (⟨type, value⟩ : Reading).Fits :=
    fun type value hmem h => h.2.2.1 _ hmem
  unfold toScalarMetrics
  refine returns_intOf_bind (by decide) (hread .integer _ (by simp [scalarReadings]))
    fun cpuLogicalCount hcpuLogicalCount => ?_
  refine returns_intOf_bind (by decide) (hread .bigInteger _ (by simp [scalarReadings]))
    fun cpuMce hcpuMce => ?_
  refine returns_intOf_bind (by decide) (hread .bigInteger _ (by simp [scalarReadings]))
    fun memFreeBytes hmemFreeBytes => ?_
  refine returns_intOf_bind (by decide) (hread .bigInteger _ (by simp [scalarReadings]))
    fun memCachedBytes hmemCachedBytes => ?_
  refine returns_intOf_bind (by decide) (hread .bigInteger _ (by simp [scalarReadings]))
    fun memBufferedBytes hmemBufferedBytes => ?_
  refine returns_intOf_bind (by decide) (hread .bigInteger _ (by simp [scalarReadings]))
    fun memAvailableBytes hmemAvailableBytes => ?_
  refine returns_intOf_bind (by decide) (hread .bigInteger _ (by simp [scalarReadings]))
    fun memUsedBytes hmemUsedBytes => ?_
  refine returns_intOf_bind (by decide) (hread .bigInteger _ (by simp [scalarReadings]))
    fun memLimitBytes hmemLimitBytes => ?_
  refine returns_intOf_bind (by decide) (hread .bigInteger _ (by simp [scalarReadings]))
    fun memCommitUsageBytes hmemCommitUsageBytes => ?_
  refine returns_intOf_bind (by decide) (hread .bigInteger _ (by simp [scalarReadings]))
    fun memCommitLimitBytes hmemCommitLimitBytes => ?_
  refine returns_intOf_bind (by decide) (hread .bigInteger _ (by simp [scalarReadings]))
    fun memHardwareCorruptedBytes hmemHardwareCorruptedBytes => ?_
  refine returns_intOf_bind (by decide) (hread .bigInteger _ (by simp [scalarReadings]))
    fun memOomKill hmemOomKill => ?_
  refine returns_intOf_bind (by decide) (hread .bigInteger _ (by simp [scalarReadings]))
    fun pagingIn hpagingIn => ?_
  refine returns_intOf_bind (by decide) (hread .bigInteger _ (by simp [scalarReadings]))
    fun pagingOut hpagingOut => ?_
  refine returns_intOf_bind (by decide) (hread .bigInteger _ (by simp [scalarReadings]))
    fun pagingMajor hpagingMajor => ?_
  refine returns_intOf_bind (by decide) (hread .bigInteger _ (by simp [scalarReadings]))
    fun netTcpRetransmits hnetTcpRetransmits => ?_
  refine returns_intOf_bind (by decide) (hread .integer _ (by simp [scalarReadings]))
    fun netConntrackUsage hnetConntrackUsage => ?_
  refine returns_intOf_bind (by decide) (hread .integer _ (by simp [scalarReadings]))
    fun netConntrackLimit hnetConntrackLimit => ?_
  simp [serverMetricsRow, FitsHost, cpuStates, scalarReadings, and_assoc, hcpuLogicalCount, hcpuMce,
    hmemFreeBytes, hmemCachedBytes, hmemBufferedBytes, hmemAvailableBytes, hmemUsedBytes,
    hmemLimitBytes, hmemCommitUsageBytes, hmemCommitLimitBytes, hmemHardwareCorruptedBytes,
    hmemOomKill, hpagingIn, hpagingOut, hpagingMajor, hnetTcpRetransmits, hnetConntrackUsage,
    hnetConntrackLimit]

/-! ## The message -/

/-- Everything that is read of the message fits. -/
structure MetricsInput.Storable (u : Unicode) (m : MetricsInput) : Prop where
  collectedAt : HasDate m.collectedAt
  host : FitsHost m
  disks : ∀ dev ∈ diskDevices m.systemDisk, FitsDisk m.systemDisk dev
  interfaces : ∀ dev ∈ netDevices m.systemNetwork, FitsInterface m.systemNetwork dev
  filesystems : ∀ mp ∈ mountpointsOf m.systemFilesystem, FitsFilesystem m.systemFilesystem mp
  cores : ∀ c ∈ coreLabels u (pointsOf m.systemCpu "cpu.time"),
    FitsCpuCore u (pointsOf m.systemCpu "cpu.time") c
  pressure : ∀ key ∈ pressureKeys m.systemPressure, FitsPressure m.systemPressure key
  diskErrors : ∀ p ∈ pointsOf m.systemDisk "disk.errors", ∀ kind ∈ p.attrKey "kind",
    FitsDiskError kind p

/-- The mapper returns rows that fit exactly when what it reads of the message does. -/
theorem returns_toMetricCreate_iff (u : Unicode) (m : MetricsInput) :
    Returns ServerMetricCreate.Fits (toMetricCreate u m) ↔ m.Storable u := by
  unfold toMetricCreate
  simp only [Option.bind_eq_bind, Option.pure_def, Returns.bind_iff, Returns.some_iff,
    ServerMetricCreate.fits_iff, Returns.and_left_iff, Returns.and_right_iff,
    returns_toScalarMetrics, returns_buildDiskIo, returns_buildNetIo, returns_buildFilesystems,
    returns_buildCpuCores, fits_buildPressure, returns_buildDiskErrors]
  constructor
  · rintro ⟨⟨hdate, hhost⟩, hdisks, hinterfaces, hfilesystems, hcores, hpressure, herrors⟩
    exact
      { collectedAt := hdate
        host := hhost
        disks := fun dev hdev => (hdisks dev hdev).2
        interfaces := fun dev hdev => (hinterfaces dev hdev).2
        filesystems := fun mp hmp => (hfilesystems mp hmp).2
        cores := fun c hc => (hcores c hc).2
        pressure := fun key hkey => (hpressure key hkey).2
        diskErrors := fun p hp kind hkind => (herrors p hp kind hkind).2 }
  · intro h
    have hdate : HasDate m.collectedAt := h.collectedAt
    exact ⟨⟨hdate, h.host⟩, fun dev hdev => ⟨hdate, h.disks dev hdev⟩,
      fun dev hdev => ⟨hdate, h.interfaces dev hdev⟩, fun mp hmp => ⟨hdate, h.filesystems mp hmp⟩,
      fun c hc => ⟨hdate, h.cores c hc⟩, fun key hkey => ⟨hdate, h.pressure key hkey⟩,
      fun p hp kind hkind => ⟨hdate, h.diskErrors p hp kind hkind⟩⟩

end AssessmentEngine
