import AssessmentEngine.Queries.MountRunway
import Mathlib.Data.List.Sort

/-!
# Disks about to run full

The engineer's report lists the servers whose driving mount runs full within a month: the
name of the mount, the days that are left and a used share.  Name and days are those of the
driving mount, the mount with the shortest runway.  The share is the greatest of the server
in the window, which any of its mounts may have reached; the share of the driving mount is
queried as well, but the report does not read it.

A line describes one mount exactly when the driving mount is also the fullest of its server.
-/

namespace AssessmentEngine

/-- A server with its mounts, which are grouped by their mount points. -/
structure MeasuredServer where
  row : ReportRowRaw
  mounts : List MountFigures
  distinctMounts : (mounts.map (·.mountpoint)).Nodup

/-- The servers of a report; no two of them share a public id. -/
structure MeasuredEstate where
  servers : List MeasuredServer
  distinctIds : (servers.map (·.row.publicId)).Nodup

/-- The part of a report row that the list of full disks reads. -/
structure ReportCapacityRow where
  publicId : String
  hostname : String
  worstMountUsedPct : Option ℚ
  diskCapacityDrivingMount : Option String
  diskCapacityRunwayDays : Option ℤ
  deriving DecidableEq

/-- The report row of a server. -/
def toReportCapacityRow (server : MeasuredServer) : ReportCapacityRow :=
  let raw := foldDisks server.row server.mounts
  { publicId := raw.publicId
    hostname := raw.hostname
    worstMountUsedPct := raw.worstMountUsedPct
    diskCapacityDrivingMount := (drivingMount server.mounts).map (·.mountpoint)
    diskCapacityRunwayDays := raw.diskCapacityRunwayDays.map FixedPoint.truncate }

/-- A line of the list. -/
structure CapacityImminentItem where
  publicId : String
  hostname : String
  worstMount : String
  daysUntilFull : ℤ
  usedPct : Option ℚ
  deriving DecidableEq

/-- The line of a row, if its driving mount has a name and runs full within 30 days. -/
def capacityImminentItem (r : ReportCapacityRow) : Option CapacityImminentItem :=
  match r.diskCapacityRunwayDays, r.diskCapacityDrivingMount with
  | some days, some mount =>
    if rsDiskRunwayDays ≤ days ∨ mount = "" then none
    else
      some
        { publicId := r.publicId, hostname := r.hostname, worstMount := mount,
          daysUntilFull := days, usedPct := r.worstMountUsedPct }
  | _, _ => none

/-- The order of the lines: the fewest days first, then by host name. -/
def imminentBefore (a b : CapacityImminentItem) : Prop :=
  a.daysUntilFull < b.daysUntilFull ∨ a.daysUntilFull = b.daysUntilFull ∧ a.hostname ≤ b.hostname

instance : DecidableRel imminentBefore := fun a b => by
  unfold imminentBefore
  infer_instance

/-- The list of the servers whose disks are about to run full. -/
def extractCapacityImminent (rows : List ReportCapacityRow) : List CapacityImminentItem :=
  (rows.filterMap capacityImminentItem).insertionSort imminentBefore

def MeasuredEstate.capacityImminent (estate : MeasuredEstate) : List CapacityImminentItem :=
  extractCapacityImminent (estate.servers.map toReportCapacityRow)

/-- A line gives the name, the runway and the greatest used share in the window of one mount,
and no mount has a shorter runway. -/
def CapacityImminentItem.DescribesOneOf (item : CapacityImminentItem) (ms : List MountFigures) :
    Prop :=
  ∃ m ∈ ms, m.mountpoint = item.worstMount ∧ m.span.byteRunwayDays = some (item.daysUntilFull : ℚ) ∧
    m.usedPctMax = item.usedPct ∧
    ∀ m' ∈ ms, ∀ runway ∈ m'.span.byteRunwayDays, (item.daysUntilFull : ℚ) ≤ runway

/-- No mount was ever fuller in the window than `d`. -/
def FullestOf (d : MountFigures) (ms : List MountFigures) : Prop :=
  ∀ m ∈ ms, ∀ used ∈ m.usedPctMax, ∃ most ∈ d.usedPctMax, used ≤ most

/-- If the driving mount has a name and runs full within 30 days, it is the fullest one. -/
def MeasuredServer.FullestRunsOut (server : MeasuredServer) : Prop :=
  ∀ d, drivingMount server.mounts = some d → d.mountpoint ≠ "" →
    ∀ runway ∈ d.span.byteRunwayDays, runway < rsDiskRunwayDays → FullestOf d server.mounts

/-! ### The lines -/

/-- A runway is a whole number of days. -/
lemma byteRunwayDays_int {s : MountSpan} {runway : ℚ} (hrunway : s.byteRunwayDays = some runway) :
    runway = (FixedPoint.truncate runway : ℚ) := by
  unfold MountSpan.byteRunwayDays runwayDays at hrunway
  split at hrunway
  · split_ifs at hrunway
    rw [← Option.some.inj hrunway, FixedPoint.truncate_intCast]
  · simp at hrunway

lemma mem_extractCapacityImminent_iff {rows : List ReportCapacityRow}
    {item : CapacityImminentItem} :
    item ∈ extractCapacityImminent rows ↔ ∃ r ∈ rows, capacityImminentItem r = some item := by
  rw [extractCapacityImminent, List.mem_insertionSort, List.mem_filterMap]

/-- The line of a server is about its driving mount and has the greatest share of all mounts. -/
lemma capacityImminentItem_eq_some_iff {server : MeasuredServer} {item : CapacityImminentItem} :
    capacityImminentItem (toReportCapacityRow server) = some item ↔
      ∃ d runway, drivingMount server.mounts = some d ∧ d.mountpoint ≠ "" ∧
        d.span.byteRunwayDays = some runway ∧ runway < rsDiskRunwayDays ∧
        item =
          { publicId := server.row.publicId
            hostname := server.row.hostname
            worstMount := d.mountpoint
            daysUntilFull := FixedPoint.truncate runway
            usedPct := Nullable.maxSome (server.mounts.map (·.usedPctMax)) } := by
  have hdays : (toReportCapacityRow server).diskCapacityRunwayDays =
      (Nullable.minSome (server.mounts.map (·.span.byteRunwayDays))).map FixedPoint.truncate := rfl
  have hmount : (toReportCapacityRow server).diskCapacityDrivingMount =
      (drivingMount server.mounts).map (·.mountpoint) := rfl
  have hused : (toReportCapacityRow server).worstMountUsedPct =
      Nullable.maxSome (server.mounts.map (·.usedPctMax)) := rfl
  have hid : (toReportCapacityRow server).publicId = server.row.publicId := rfl
  have hhost : (toReportCapacityRow server).hostname = server.row.hostname := rfl
  unfold capacityImminentItem
  rw [hdays, hmount, hused, hid, hhost]
  cases hmin : Nullable.minSome (server.mounts.map (·.span.byteRunwayDays)) with
  | none =>
    simp only [Option.map_none, reduceCtorEq, false_iff]
    rintro ⟨d, runway, hd, -, hrunway, -⟩
    have hdnone : d.span.byteRunwayDays = none := Nullable.minSome_eq_none_iff.mp hmin _
      (List.mem_map.mpr ⟨d, (mem_of_drivingMount hd).1, rfl⟩)
    rw [hdnone] at hrunway
    exact absurd hrunway (by simp)
  | some runway =>
    cases hd : drivingMount server.mounts with
    | none => simp
    | some d =>
      have hdrunway := drivingMount_runway hd hmin
      have hint := byteRunwayDays_int hdrunway
      simp only [Option.map_some]
      constructor
      · intro hitem
        split_ifs at hitem with hskip
        rw [not_or, not_le, ← hint] at hskip
        exact ⟨d, runway, rfl, hskip.2, hdrunway, hskip.1, (Option.some.inj hitem).symm⟩
      · rintro ⟨d', runway', hd', hname, hrunway', hshort, rfl⟩
        obtain rfl := Option.some.inj hd'
        obtain rfl : runway = runway' := Option.some.inj (hdrunway.symm.trans hrunway')
        rw [if_neg]
        rw [not_or, not_le, ← hint]
        exact ⟨hshort, hname⟩

/-- The greatest share of all mounts is that of `d` exactly when no mount was fuller. -/
lemma maxSome_eq_iff_fullestOf {d : MountFigures} {ms : List MountFigures} (hd : d ∈ ms) :
    Nullable.maxSome (ms.map (·.usedPctMax)) = d.usedPctMax ↔ FullestOf d ms := by
  constructor
  · intro hmax m hm used hused
    have hmem : some used ∈ ms.map (·.usedPctMax) := List.mem_map.mpr ⟨m, hm, hused⟩
    cases hmost : d.usedPctMax with
    | none =>
      rw [hmost] at hmax
      have hsome : (Nullable.maxSome (ms.map (·.usedPctMax))).isSome :=
        Nullable.maxSome_isSome_iff.mpr ⟨used, hmem⟩
      rw [hmax] at hsome
      exact absurd hsome (by simp)
    | some most =>
      rw [hmost] at hmax
      exact ⟨most, rfl, (Nullable.maxSome_eq_some_iff.mp hmax).2 used hmem⟩
  · intro hfullest
    cases hmost : d.usedPctMax with
    | none =>
      rw [← Option.not_isSome_iff_eq_none, Nullable.maxSome_isSome_iff]
      rintro ⟨used, hused⟩
      obtain ⟨m, hm, hmused⟩ := List.mem_map.mp hused
      obtain ⟨most, hmem, -⟩ := hfullest m hm used hmused
      rw [hmost] at hmem
      exact absurd hmem (by simp)
    | some most =>
      rw [Nullable.maxSome_eq_some_iff]
      refine ⟨List.mem_map.mpr ⟨d, hd, hmost⟩, fun used hused => ?_⟩
      obtain ⟨m, hm, hmused⟩ := List.mem_map.mp hused
      obtain ⟨most', hmem, hle⟩ := hfullest m hm used hmused
      rw [hmost] at hmem
      rwa [Option.some.inj hmem]

/-- Two mounts of a server with the same name are the same. -/
lemma MeasuredServer.mount_ext (server : MeasuredServer) {m m' : MountFigures}
    (hm : m ∈ server.mounts) (hm' : m' ∈ server.mounts) (hname : m.mountpoint = m'.mountpoint) :
    m = m' :=
  List.inj_on_of_nodup_map server.distinctMounts hm hm' hname

/-- The line of a server describes one of its mounts when the driving mount is the fullest. -/
lemma describesOneOf_iff {server : MeasuredServer} {item : CapacityImminentItem}
    {d : MountFigures} {runway : ℚ} (hd : drivingMount server.mounts = some d)
    (hrunway : d.span.byteRunwayDays = some runway) (hmount : item.worstMount = d.mountpoint)
    (hdays : item.daysUntilFull = FixedPoint.truncate runway)
    (hused : item.usedPct = Nullable.maxSome (server.mounts.map (·.usedPctMax))) :
    item.DescribesOneOf server.mounts ↔ FullestOf d server.mounts := by
  have hmem : d ∈ server.mounts := (mem_of_drivingMount hd).1
  have hint := byteRunwayDays_int hrunway
  rw [← maxSome_eq_iff_fullestOf hmem, ← hused]
  constructor
  · rintro ⟨m, hm, hname, -, hshare, -⟩
    rw [server.mount_ext hmem hm (hmount.symm.trans hname.symm), hshare]
  · intro hshare
    refine ⟨d, hmem, hmount.symm, ?_, hshare.symm, ?_⟩
    · rw [hdays, ← hint, hrunway]
    · intro m' hm' runway' hrunway'
      rw [hdays, ← hint]
      cases hmin : Nullable.minSome (server.mounts.map (·.span.byteRunwayDays)) with
      | none =>
        have hnone := Nullable.minSome_eq_none_iff.mp hmin _ (List.mem_map.mpr ⟨m', hm', rfl⟩)
        rw [Option.mem_def.mp hrunway'] at hnone
        exact absurd hnone (by simp)
      | some shortest =>
        have hattained := drivingMount_runway hd hmin
        rw [Option.some.inj (hrunway.symm.trans hattained)]
        exact (Nullable.minSome_eq_some_iff.mp hmin).2 _ (List.mem_map.mpr ⟨m', hm', hrunway'⟩)

/-- Every line describes one mount of its server, the one with the shortest runway, exactly when
the mounts that run full are the fullest of their servers. -/
theorem capacityImminent_describes_iff (estate : MeasuredEstate) :
    (∀ item ∈ estate.capacityImminent, ∀ server ∈ estate.servers,
        server.row.publicId = item.publicId → item.DescribesOneOf server.mounts) ↔
      ∀ server ∈ estate.servers, server.FullestRunsOut := by
  constructor
  · intro hlines server hserver d hd hname runway hrunway hshort
    obtain ⟨item, hitem⟩ : ∃ item, capacityImminentItem (toReportCapacityRow server) = some item :=
      ⟨_, capacityImminentItem_eq_some_iff.mpr ⟨d, runway, hd, hname, hrunway, hshort, rfl⟩⟩
    have hmem : item ∈ estate.capacityImminent :=
      mem_extractCapacityImminent_iff.mpr ⟨_, List.mem_map_of_mem hserver, hitem⟩
    obtain ⟨d', runway', hd', -, hrunway', -, rfl⟩ := capacityImminentItem_eq_some_iff.mp hitem
    obtain rfl := Option.some.inj (hd.symm.trans hd')
    have hdescribes := hlines _ hmem server hserver rfl
    exact (describesOneOf_iff hd hrunway' rfl rfl rfl).mp hdescribes
  · intro hfullest item hitem server hserver hid
    obtain ⟨row, hrow, hline⟩ := mem_extractCapacityImminent_iff.mp hitem
    obtain ⟨origin, horigin, rfl⟩ := List.mem_map.mp hrow
    obtain ⟨d, runway, hd, hname, hrunway, hshort, rfl⟩ := capacityImminentItem_eq_some_iff.mp hline
    obtain rfl : server = origin := List.inj_on_of_nodup_map estate.distinctIds hserver horigin hid
    rw [describesOneOf_iff hd hrunway rfl rfl rfl]
    exact hfullest server hserver d hd hname runway hrunway hshort

/-- A server whose data mount runs full in ten days at 50 %, next to a full but still log mount. -/
def growingServer : MeasuredServer where
  row :=
    { publicId := "00000000-0000-0000-0000-000000000001", hostname := "db-1",
      osFamily := some "linux", cpuP95Pct := none, cpuPeakPct := none, memP95Pct := none }
  mounts :=
    [{ mountpoint := "/data",
       span := { avFirst := some 20, avLast := some 10, totalBytes := some 20, inFirst := none,
                 inLast := none, spanDays := 10 },
       usedPctMax := some 50, inodePctMax := none },
     { mountpoint := "/logs",
       span := { avFirst := some 5, avLast := some 5, totalBytes := some 100, inFirst := none,
                 inLast := none, spanDays := 10 },
       usedPctMax := some 95, inodePctMax := none }]
  distinctMounts := by decide

/-- The line of the growing server. -/
def growingLine : CapacityImminentItem where
  publicId := "00000000-0000-0000-0000-000000000001"
  hostname := "db-1"
  worstMount := "/data"
  daysUntilFull := 10
  usedPct := some 95

/-- The line of the growing server gives 95 % for a mount that is and was used to 50 %. -/
theorem growingLine_describes_no_mount :
    extractCapacityImminent [toReportCapacityRow growingServer] = [growingLine] ∧
      (∀ m ∈ growingServer.mounts, m.mountpoint = growingLine.worstMount →
        m.usedPctMax = some 50 ∧ m.span.usedPct = some 50) ∧
      ¬growingLine.DescribesOneOf growingServer.mounts := by
  have hline : extractCapacityImminent [toReportCapacityRow growingServer] = [growingLine] := by
    decide +kernel
  have hshares : ∀ m ∈ growingServer.mounts, m.mountpoint = growingLine.worstMount →
      m.usedPctMax = some 50 ∧ m.span.usedPct = some 50 := by
    decide +kernel
  refine ⟨hline, hshares, ?_⟩
  rintro ⟨m, hm, hname, -, hused, -⟩
  have hhalf := (hshares m hm hname).1
  rw [hused] at hhalf
  have hcontra : (95 : ℚ) = 50 := Option.some.inj hhalf
  norm_num at hcontra

end AssessmentEngine
