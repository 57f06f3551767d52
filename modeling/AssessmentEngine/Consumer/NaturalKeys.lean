import AssessmentEngine.Consumer.MetricMapper
import AssessmentEngine.Ingest.Metrics
import AssessmentEngine.Library.Dataclass

/-!
# Natural keys within a message

The builders of `to_metric_create` make one entry for each device, interface, mount point or pair of
resource and scope, so that these entries have different keys.  The entries of cores are made one
for each label and keyed by its number, and those of disk errors one for each point; there two
entries may have one key, and the second is passed over (`naturalKeys_apart_iff`).
-/

namespace AssessmentEngine

open Table Dataclass

/-! ## Keys of rows -/

/-- What the key of a table has from the entry. -/
def Series.entryKey : ∀ k : Series, k.Entry → List (Option KeyCell)
  | .serverMetrics, _ => []
  | .serverDiskIo, (e : DiskIoEntry) => [some (.text e.deviceId)]
  | .serverNetIo, (e : NetIoEntry) => [some (.text e.ifaceId)]
  | .serverFilesystem, (e : FilesystemEntry) => [some (.text e.mountpoint)]
  | .serverCpuCore, (e : CpuCoreEntry) => [some (.integer e.coreId)]
  | .serverPressure, (e : PressureEntry) => [some (.text e.resource), some (.text e.scope)]
  | .serverDiskError, (e : DiskErrorEntry) =>
    [some (.text e.deviceId), some (.text e.errorKind), some (.text e.errorClass),
      e.member.map .text]

lemma Series.key_eq (k : Series) (serverId : ℕ) (collectedAt : ℤ) (e : k.Entry) :
    k.key ⟨serverId, collectedAt, e⟩ =
      some (.integer serverId) :: (k.entryKey e ++ [some (.timestamp collectedAt)]) := by
  cases k <;> rfl

/-- The rows of a message have different keys when its entries have. -/
lemma nodup_key_seriesRows_iff (serverId : ℕ) (create : ServerMetricCreate) (k : Series) :
    ((seriesRows serverId create k).map k.key).Nodup ↔
      ((create.entries k).map k.entryKey).Nodup := by
  have hstamp : Function.Injective fun cells : List (Option KeyCell) =>
      some (KeyCell.integer serverId) :: (cells ++ [some (.timestamp create.collectedAt)]) :=
    fun _ _ h => List.append_cancel_right (List.cons.inj h).2
  have hkeys : (seriesRows serverId create k).map k.key =
      ((create.entries k).map k.entryKey).map fun cells =>
        some (KeyCell.integer serverId) :: (cells ++ [some (.timestamp create.collectedAt)]) := by
    rw [seriesRows, List.map_map, List.map_map]
    exact List.map_congr_left fun e _ => k.key_eq serverId create.collectedAt e
  rw [hkeys, List.nodup_map_iff hstamp]

/-! ## Entries of the builders -/

lemma diskIoEntry_deviceId {disk : Option Namespace} {dev : String} {e : DiskIoEntry}
    (h : diskIoEntry disk dev = some e) : e.deviceId = dev := by
  simp only [diskIoEntry, Option.bind_eq_bind, Option.bind_eq_some_iff, Option.pure_def,
    Option.some_inj] at h
  obtain ⟨_, _, _, _, _, _, _, _, rfl⟩ := h
  rfl

lemma netIoEntry_ifaceId {net : Option Namespace} {dev : String} {e : NetIoEntry}
    (h : netIoEntry net dev = some e) : e.ifaceId = dev := by
  simp only [netIoEntry, Option.bind_eq_bind, Option.bind_eq_some_iff, Option.pure_def,
    Option.some_inj] at h
  obtain ⟨_, _, _, _, _, _, _, _, _, _, _, _, _, _, _, _, _, _, rfl⟩ := h
  rfl

lemma filesystemEntry_mountpoint {fs : Option Namespace} {mp : String} {e : FilesystemEntry}
    (h : filesystemEntry fs mp = some e) : e.mountpoint = mp := by
  simp only [filesystemEntry, Option.bind_eq_bind, Option.bind_eq_some_iff, Option.pure_def,
    Option.some_inj] at h
  obtain ⟨_, _, _, _, _, _, _, _, rfl⟩ := h
  rfl

lemma cpuCoreEntry_coreId {u : Unicode} {cpuTime : List Datapoint} {c : String} {e : CpuCoreEntry}
    (h : cpuCoreEntry u cpuTime c = some e) : some e.coreId = parseDigits u c := by
  simp only [cpuCoreEntry, Option.bind_eq_bind, Option.bind_eq_some_iff, Option.pure_def,
    Option.some_inj] at h
  obtain ⟨coreId, hparse, rfl⟩ := h
  exact hparse.symm

/-- What the key of a disk error has from its point, if the point has a kind. -/
def Datapoint.errorKey (p : Datapoint) : Option (String × String × String × String) :=
  (p.attrKey "kind").map fun kind =>
    ((p.attrKey "device").getD "", kind, (p.attrKey "class").getD "", (p.attrKey "member").getD "")

/-- The key of a disk error as it is inserted. -/
def DiskErrorEntry.storedKey (e : DiskErrorEntry) : String × String × String × String :=
  (e.deviceId, e.errorKind, e.errorClass, e.member.getD "")

lemma diskErrors_storedKey {disk : Option Namespace} {es : List DiskErrorEntry}
    (h : buildDiskErrors disk = some es) :
    es.map DiskErrorEntry.storedKey =
      (pointsOf disk "disk.errors").filterMap Datapoint.errorKey := by
  have hentry : ∀ (a : String × Datapoint) (e : DiskErrorEntry), diskErrorEntry a.1 a.2 = some e →
      e.storedKey = ((a.2.attrKey "device").getD "", a.1, (a.2.attrKey "class").getD "",
        (a.2.attrKey "member").getD "") := by
    intro a e he
    simp only [diskErrorEntry, Option.bind_eq_bind, Option.bind_eq_some_iff, Option.pure_def,
      Option.some_inj] at he
    obtain ⟨_, _, rfl⟩ := he
    rfl
  rw [map_eq_of_mapM hentry h, List.map_filterMap]
  apply List.filterMap_congr
  intro p _
  rw [Option.map_map]
  rfl

/-- What `to_metric_create` returns has been built of the message. -/
structure BuiltFrom (u : Unicode) (data : MetricsInput) (create : ServerMetricCreate) : Prop where
  scalars : toScalarMetrics data = some create.scalars
  diskIo : buildDiskIo data.systemDisk = some create.diskIo
  netIo : buildNetIo data.systemNetwork = some create.netIo
  filesystems : buildFilesystems data.systemFilesystem = some create.filesystems
  cpuPerCore : buildCpuCores u (pointsOf data.systemCpu "cpu.time") = some create.cpuPerCore
  diskErrors : buildDiskErrors data.systemDisk = some create.diskErrors
  pressure : create.pressure = buildPressure data.systemPressure
  collectedAt : create.collectedAt = data.collectedAt

lemma builtFrom_of_toMetricCreate {u : Unicode} {data : MetricsInput} {create : ServerMetricCreate}
    (h : toMetricCreate u data = some create) : BuiltFrom u data create := by
  simp only [toMetricCreate, Option.bind_eq_bind, Option.bind_eq_some_iff, Option.pure_def,
    Option.some_inj] at h
  obtain ⟨scalars, hscalars, diskIo, hdiskIo, netIo, hnetIo, filesystems, hfilesystems, cpuPerCore,
    hcores, diskErrors, herrors, rfl⟩ := h
  exact ⟨hscalars, hdiskIo, hnetIo, hfilesystems, hcores, herrors, rfl, rfl⟩

/-! ## When keys differ -/

/-- No two labels of cores stand for one number. -/
def CoresApart (u : Unicode) (cpuTime : List Datapoint) : Prop :=
  ∀ p ∈ cpuTime, ∀ q ∈ cpuTime, ∀ c ∈ p.attrKey "cpu", ∀ c' ∈ q.attrKey "cpu",
    isDigits u c = true → isDigits u c' = true → parseDigits u c = parseDigits u c' → c = c'

instance (u : Unicode) (cpuTime : List Datapoint) : Decidable (CoresApart u cpuTime) :=
  inferInstanceAs (Decidable (∀ p ∈ cpuTime, ∀ q ∈ cpuTime, ∀ c ∈ p.attrKey "cpu",
    ∀ c' ∈ q.attrKey "cpu", isDigits u c = true → isDigits u c' = true →
      parseDigits u c = parseDigits u c' → c = c'))

/-- No two points of some kind report the same error of the same device and member. -/
def ErrorsApart (errors : List Datapoint) : Prop :=
  (errors.filterMap Datapoint.errorKey).Nodup

instance (errors : List Datapoint) : Decidable (ErrorsApart errors) :=
  inferInstanceAs (Decidable (List.Nodup _))

lemma nodup_distinctKeys (ptsLists : List (List Datapoint)) (key : String) :
    (distinctKeys ptsLists key).Nodup :=
  nodup_eraseDups _

lemma mem_coreLabels {u : Unicode} {cpuTime : List Datapoint} {c : String} :
    c ∈ coreLabels u cpuTime ↔
      (∃ p ∈ cpuTime, p.attrKey "cpu" = some c) ∧ isDigits u c = true := by
  simp [coreLabels, distinctKeys, List.mem_eraseDups]

lemma nodup_coreIds_iff {u : Unicode} {cpuTime : List Datapoint} {es : List CpuCoreEntry}
    (h : buildCpuCores u cpuTime = some es) :
    (es.map CpuCoreEntry.coreId).Nodup ↔ CoresApart u cpuTime := by
  have hsome : Function.Injective (some : ℤ → Option ℤ) := Option.some_injective ℤ
  have hlabels : (coreLabels u cpuTime).Nodup := (nodup_distinctKeys _ _).filter _
  have hids :
      (es.map CpuCoreEntry.coreId).map some = (coreLabels u cpuTime).map (parseDigits u) := by
    rw [List.map_map]
    exact map_eq_of_mapM (fun _ _ hentry => cpuCoreEntry_coreId hentry) h
  rw [← List.nodup_map_iff hsome, hids, List.nodup_map_iff_inj_on hlabels]
  simp only [mem_coreLabels]
  constructor
  · intro hinj p hp q hq c hc c' hc' hdigits hdigits' hparse
    exact hinj c ⟨⟨p, hp, hc⟩, hdigits⟩ c' ⟨⟨q, hq, hc'⟩, hdigits'⟩ hparse
  · rintro hapart c ⟨⟨p, hp, hc⟩, hdigits⟩ c' ⟨⟨q, hq, hc'⟩, hdigits'⟩ hparse
    exact hapart p hp q hq c hc c' hc' hdigits hdigits' hparse

/-- Entries that are built one for each text, and keep it, have different cells. -/
lemma nodup_textCells {ε : Type} {build : String → Option ε} {field : ε → String}
    (hfield : ∀ key e, build key = some e → field e = key) {keys : List String} {es : List ε}
    (h : keys.mapM build = some es) (hkeys : keys.Nodup) :
    (es.map fun e => [some (KeyCell.text (field e))]).Nodup := by
  have hcell : Function.Injective fun s : String => [some (KeyCell.text s)] :=
    fun _ _ h => KeyCell.text.inj (Option.some.inj (List.cons.inj h).1)
  have hfields : es.map field = keys.map id := map_eq_of_mapM hfield h
  rw [List.map_id] at hfields
  have hcells := hkeys.map hcell
  rwa [← hfields, List.map_map] at hcells

section Entries

variable {u : Unicode} {data : MetricsInput} {create : ServerMetricCreate}

/-- The entries of all tables but two differ in their keys. -/
lemma BuiltFrom.nodup_entryKey (h : BuiltFrom u data create) (k : Series)
    (hcore : k ≠ .serverCpuCore) (herror : k ≠ .serverDiskError) :
    ((create.entries k).map k.entryKey).Nodup := by
  cases k with
  | serverMetrics => exact List.nodup_singleton _
  | serverDiskIo =>
    exact nodup_textCells (fun _ _ he => diskIoEntry_deviceId he) h.diskIo (nodup_distinctKeys _ _)
  | serverNetIo =>
    exact nodup_textCells (fun _ _ he => netIoEntry_ifaceId he) h.netIo (nodup_distinctKeys _ _)
  | serverFilesystem =>
    exact nodup_textCells (fun _ _ he => filesystemEntry_mountpoint he) h.filesystems
      (nodup_distinctKeys _ _)
  | serverCpuCore => exact absurd rfl hcore
  | serverPressure =>
    have hcells : Function.Injective fun key : String × String =>
        [some (KeyCell.text key.1), some (KeyCell.text key.2)] := by
      rintro ⟨r, sc⟩ ⟨r', sc'⟩ hcells
      simpa using hcells
    have hkeys : (create.entries .serverPressure).map (Series.entryKey .serverPressure) =
        (pressureKeys data.systemPressure).map fun key =>
          [some (KeyCell.text key.1), some (KeyCell.text key.2)] := by
      have hentries : create.entries .serverPressure = buildPressure data.systemPressure :=
        h.pressure
      rw [hentries, buildPressure]
      exact List.map_map
    rw [hkeys]
    exact (nodup_eraseDups _).map hcells
  | serverDiskError => exact absurd rfl herror

lemma BuiltFrom.nodup_coreKey_iff (h : BuiltFrom u data create) :
    ((create.entries .serverCpuCore).map (Series.entryKey .serverCpuCore)).Nodup ↔
      CoresApart u (pointsOf data.systemCpu "cpu.time") := by
  have hcell : Function.Injective fun n : ℤ => [some (KeyCell.integer n)] :=
    fun _ _ heq => KeyCell.integer.inj (Option.some.inj (List.cons.inj heq).1)
  have hkeys : (create.entries .serverCpuCore).map (Series.entryKey .serverCpuCore) =
      (create.cpuPerCore.map CpuCoreEntry.coreId).map fun n => [some (KeyCell.integer n)] := by
    rw [List.map_map]
    rfl
  rw [hkeys, List.nodup_map_iff hcell, nodup_coreIds_iff h.cpuPerCore]

lemma BuiltFrom.nodup_errorKey_iff (h : BuiltFrom u data create) :
    ((create.entries .serverDiskError).map (Series.entryKey .serverDiskError)).Nodup ↔
      ErrorsApart (pointsOf data.systemDisk "disk.errors") := by
  have hcells : Function.Injective fun key : String × String × String × String =>
      [some (KeyCell.text key.1), some (KeyCell.text key.2.1), some (KeyCell.text key.2.2.1),
        some (KeyCell.text key.2.2.2)] := by
    rintro ⟨device, kind, cls, member⟩ ⟨device', kind', cls', member'⟩ heq
    simpa using heq
  have hkeys : (create.entries .serverDiskError).map (Series.entryKey .serverDiskError) =
      (create.diskErrors.map DiskErrorEntry.storedKey).map fun key =>
        [some (KeyCell.text key.1), some (KeyCell.text key.2.1), some (KeyCell.text key.2.2.1),
          some (KeyCell.text key.2.2.2)] := by
    have hentry : ∀ e : DiskErrorEntry, Series.entryKey .serverDiskError e.normalizeMember =
        [some (KeyCell.text e.deviceId), some (KeyCell.text e.errorKind),
          some (KeyCell.text e.errorClass), some (KeyCell.text (e.member.getD ""))] := fun _ => rfl
    rw [List.map_map]
    refine List.map_map.trans (List.map_congr_left fun e _ => ?_)
    exact hentry e
  rw [hkeys, List.nodup_map_iff hcells, diskErrors_storedKey h.diskErrors, ErrorsApart]

end Entries

/-! ## Rows that are passed over -/

/-- The rows of a message have pairwise different keys, in each table. -/
def KeysApart (serverId : ℕ) (create : ServerMetricCreate) : Prop :=
  ∀ k : Series, ((seriesRows serverId create k).map k.key).Nodup

/-- Tables that have nothing yet of the server at the time of the message get all of its rows. -/
def NothingDropped (serverId : ℕ) (create : ServerMetricCreate) : Prop :=
  ∀ db : SeriesTables,
    (∀ k, ∀ r ∈ db k, ¬(r.serverId = serverId ∧ r.collectedAt = create.collectedAt)) →
      ∀ k, written serverId create db k = db k ++ seriesRows serverId create k

lemma mem_seriesRows {serverId : ℕ} {create : ServerMetricCreate} {k : Series} {r : k.Row}
    (h : r ∈ seriesRows serverId create k) :
    r.serverId = serverId ∧ r.collectedAt = create.collectedAt := by
  obtain ⟨e, _, rfl⟩ := List.mem_map.mp h
  exact ⟨rfl, rfl⟩

/-- A table that has nothing of the server at that time gets all rows of the message if their keys
differ. -/
lemma written_eq_append {serverId : ℕ} {create : ServerMetricCreate} {db : SeriesTables}
    {k : Series}
    (hfresh : ∀ r ∈ db k, ¬(r.serverId = serverId ∧ r.collectedAt = create.collectedAt))
    (hkeys : ((seriesRows serverId create k).map k.key).Nodup) :
    written serverId create db k = db k ++ seriesRows serverId create k := by
  refine insertAll_eq_append_iff.mpr ⟨fun r hr => ?_, hkeys⟩
  refine List.find?_eq_none.mpr fun a ha hkey => hfresh a ha ?_
  obtain ⟨hserver, htime⟩ := Series.key_stamp (of_decide_eq_true hkey)
  obtain ⟨hrow, hrowTime⟩ := mem_seriesRows hr
  exact ⟨hserver.trans hrow, htime.trans hrowTime⟩

lemma nothingDropped_iff (serverId : ℕ) (create : ServerMetricCreate) :
    NothingDropped serverId create ↔ KeysApart serverId create := by
  constructor
  · intro hadded k
    have hall := hadded SeriesTables.empty (fun _ r hr => absurd hr List.not_mem_nil) k
    exact (insertAll_eq_append_iff.mp hall).2
  · exact fun hapart db hfresh k => written_eq_append (hfresh k) (hapart k)

/-- The rows of a message do not collide with each other exactly when the labels of its cores
stand for different numbers and no disk error is reported twice. -/
theorem naturalKeys_apart_iff {u : Unicode} {data : MetricsInput} {create : ServerMetricCreate}
    (h : toMetricCreate u data = some create) (serverId : ℕ) :
    KeysApart serverId create ∧ NothingDropped serverId create ↔
      CoresApart u (pointsOf data.systemCpu "cpu.time") ∧
        ErrorsApart (pointsOf data.systemDisk "disk.errors") := by
  have hbuilt := builtFrom_of_toMetricCreate h
  rw [nothingDropped_iff, and_self, KeysApart]
  simp only [nodup_key_seriesRows_iff]
  constructor
  · exact fun hall => ⟨hbuilt.nodup_coreKey_iff.mp (hall .serverCpuCore),
      hbuilt.nodup_errorKey_iff.mp (hall .serverDiskError)⟩
  · rintro ⟨hcores, herrors⟩ k
    by_cases hcore : k = .serverCpuCore
    · subst hcore
      exact hbuilt.nodup_coreKey_iff.mpr hcores
    · by_cases herror : k = .serverDiskError
      · subst herror
        exact hbuilt.nodup_errorKey_iff.mpr herrors
      · exact hbuilt.nodup_entryKey k hcore herror

/-! ### Examples -/

def hostUuid : String := "5f0c2a34-0000-4000-8000-0000000000a1"

lemma uuidText_hostUuid : hostUuid.length = 36 ∧ ∀ c ∈ hostUuid.toList, c ∈ uuidChars := by
  have hall : hostUuid.toList.all (fun c => decide (c ∈ uuidChars)) = true := by decide +kernel
  exact ⟨by decide +kernel, fun c hc => of_decide_eq_true (List.all_eq_true.mp hall c hc)⟩

/-- A message of a host with these points of CPU time and of disk errors. -/
def hostMetrics (cpuTime errors : List Datapoint) : MetricsInput where
  agentId := ⟨hostUuid, uuidText_hostUuid⟩
  compositeId := none
  machineId := none
  agentVersion := none
  collectedAt := 1750000000000000
  bootTime := none
  agentStartedAt := none
  osFamily := .linux
  systemCpu := some [("cpu.time", ⟨cpuTime⟩)]
  systemMemory := none
  systemDisk := some [("disk.errors", ⟨errors⟩)]
  systemNetwork := none
  systemPaging := none
  systemFilesystem := none
  systemPressure := none

/-- Seconds of user time of a core. -/
def userPoint (label : String) (seconds : ℚ) : Datapoint where
  attr := [("cpu", .str label), ("state", .str "user")]
  value := some (.finite seconds)

/-- Errors of the disk `sda` that the kernel log shows. -/
def kernelErrors (count : ℚ) : Datapoint where
  attr := [("device", .str "sda"), ("kind", .str "kernel_log")]
  value := some (.finite count)

theorem naturalKeys_apart_twoCores :
    ∃ create, toMetricCreate asciiText
        (hostMetrics [userPoint "0" 5, userPoint "1" 7] [kernelErrors 3]) = some create ∧
      KeysApart 1 create ∧ NothingDropped 1 create := by
  have hcreate : ∃ create, toMetricCreate asciiText
      (hostMetrics [userPoint "0" 5, userPoint "1" 7] [kernelErrors 3]) = some create :=
    Option.isSome_iff_exists.mp (by decide +kernel)
  obtain ⟨create, h⟩ := hcreate
  refine ⟨create, h, (naturalKeys_apart_iff h 1).mpr ⟨?_, ?_⟩⟩
  · decide +kernel
  · decide +kernel

/-- The message collides with itself in the table and leaves a single row there. -/
def CollidesIn (k : Series) (data : MetricsInput) : Prop :=
  ∃ create, toMetricCreate asciiText data = some create ∧ ¬KeysApart 1 create ∧
    (written 1 create SeriesTables.empty k).length = 1

lemma collidesIn_of_any {k : Series} {data : MetricsInput}
    (h : ((toMetricCreate asciiText data).any fun create =>
      decide (¬((seriesRows 1 create k).map k.key).Nodup ∧
        (written 1 create SeriesTables.empty k).length = 1)) = true) : CollidesIn k data := by
  obtain ⟨create, hcreate, hdecide⟩ := (Option.any_eq_true _ _).mp h
  obtain ⟨hkeys, hlength⟩ := of_decide_eq_true hdecide
  exact ⟨create, hcreate, fun hall => hkeys (hall k), hlength⟩

/-- Of two cores labelled `0` and `00` one is stored, and of two points for one disk error one. -/
theorem repeatedKeys_collide :
    CollidesIn .serverCpuCore (hostMetrics [userPoint "0" 5, userPoint "00" 7] []) ∧
      CollidesIn .serverDiskError (hostMetrics [] [kernelErrors 3, kernelErrors 4]) :=
  ⟨collidesIn_of_any (by decide +kernel), collidesIn_of_any (by decide +kernel)⟩

end AssessmentEngine
