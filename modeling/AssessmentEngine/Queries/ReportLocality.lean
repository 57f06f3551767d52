import AssessmentEngine.Queries.ReportFigures

/-!
# One report for many servers

The report query answers for all servers at once.  Its answer for each of them is the one that would
come of a query for it alone, over tables that hold nothing about the others; and each known server
has its answer, also without a single sample (`report_rows_local`).
-/

namespace AssessmentEngine

open Nullable RowGroups

/-- The tables with nothing but what is about a server. -/
def ReportTables.about (db : ReportTables) (sid : ℕ) : ReportTables where
  serverInventory := db.serverInventory.restrict fun s => s.id = sid
  serverMetrics := db.serverMetrics.restrict fun r => r.serverId = sid
  serverDiskIo := db.serverDiskIo.restrict fun r => r.serverId = sid
  serverNetIo := db.serverNetIo.restrict fun r => r.serverId = sid
  serverFilesystem := db.serverFilesystem.restrict fun r => r.serverId = sid
  serverCpuCore := db.serverCpuCore.restrict fun r => r.serverId = sid

/-- The same window for one server. -/
def ReportWindow.alone (w : ReportWindow) (sid : ℕ) : ReportWindow := { w with serverIds := [sid] }

section Parts

variable (db : ReportTables) {w : ReportWindow} {sid : ℕ}

lemma covers_alone (hsid : sid ∈ w.serverIds) (bucket : ℤ) :
    (w.alone sid).Covers sid bucket ↔ w.Covers sid bucket := by
  simp [ReportWindow.Covers, ReportWindow.alone, hsid]

lemma bkt_about (hsid : sid ∈ w.serverIds) :
    rowsWith BktRow.serverId sid ((db.about sid).bkt (w.alone sid)) =
      rowsWith BktRow.serverId sid (db.bkt w) := by
  unfold ReportTables.bkt serverMetrics5m
  refine rowsWith_select_groupBy (f := metricsBucket) Prod.fst ?_ ?_ _
  · exact fun _ _ => rfl
  · rintro b (rfl : b.serverId = sid)
    rw [decide_eq_decide, covers_alone hsid]

/-- A disk or an interface is physical by the inventory of its own server. -/
lemma physDisk_about (deviceId : String) :
    (db.about sid).physDisk sid deviceId = db.physDisk sid deviceId :=
  listsDevice_filter fun _ hsi => decide_eq_true hsi

lemma physIface_about (ifaceId : String) :
    (db.about sid).physIface sid ifaceId = db.physIface sid ifaceId :=
  listsDevice_filter fun _ hsi => decide_eq_true hsi

lemma diskDev_about (hsid : sid ∈ w.serverIds) :
    rowsWith DiskDevRow.serverId sid ((db.about sid).diskDev (w.alone sid)) =
      rowsWith DiskDevRow.serverId sid (db.diskDev w) := by
  unfold ReportTables.diskDev serverDiskIo5m
  refine rowsWith_select_groupBy (f := diskIoBucket) Prod.fst ?_ ?_ _
  · exact fun _ _ => rfl
  · rintro b (rfl : b.serverId = sid)
    rw [decide_eq_decide, covers_alone hsid, physDisk_about]

lemma netRows_about (hsid : sid ∈ w.serverIds) :
    rowsWith ServerNetIo5m.serverId sid ((db.about sid).netRows (w.alone sid)) =
      rowsWith ServerNetIo5m.serverId sid (db.netRows w) := by
  rw [← List.map_id ((db.about sid).netRows (w.alone sid)), ← List.map_id (db.netRows w)]
  unfold ReportTables.netRows serverNetIo5m
  refine rowsWith_select_groupBy (f := netIoBucket) Prod.fst ?_ ?_ _
  · exact fun _ _ => rfl
  · rintro b (rfl : b.serverId = sid)
    rw [decide_eq_decide, covers_alone hsid, physIface_about]

lemma coreRows_about (hsid : sid ∈ w.serverIds) :
    rowsWith ServerCpuCore5m.serverId sid ((db.about sid).coreRows (w.alone sid)) =
      rowsWith ServerCpuCore5m.serverId sid (db.coreRows w) := by
  rw [← List.map_id ((db.about sid).coreRows (w.alone sid)), ← List.map_id (db.coreRows w)]
  unfold ReportTables.coreRows serverCpuCore5m
  refine rowsWith_select_groupBy (f := cpuCoreBucket) Prod.fst ?_ ?_ _
  · exact fun _ _ => rfl
  · rintro b (rfl : b.serverId = sid)
    rw [decide_eq_decide, covers_alone hsid]

lemma mountFigures_about (hsid : sid ∈ w.serverIds) :
    (db.about sid).mountFigures (w.alone sid) sid = db.mountFigures w sid := by
  have hown : rowsWith ServerFilesystem5m.serverId sid
      ((serverFilesystem5m (db.about sid).serverFilesystem.rows).filter fun b =>
        b.bucket ≤ w.stop ∧ b.dataVolume = true) =
      rowsWith ServerFilesystem5m.serverId sid
        ((serverFilesystem5m db.serverFilesystem.rows).filter fun b =>
          b.bucket ≤ w.stop ∧ b.dataVolume = true) := by
    rw [← List.map_id (List.filter _ (serverFilesystem5m db.serverFilesystem.rows)),
      ← List.map_id (List.filter _ (serverFilesystem5m (db.about sid).serverFilesystem.rows))]
    refine rowsWith_select_groupBy (f := filesystemBucket) Prod.fst ?_ ?_ _
    · exact fun _ _ => rfl
    · exact fun _ _ => rfl
  have hhistory : ∀ (ids : List ℕ) (rows : List ServerFilesystem5m), sid ∈ ids →
      (rows.filter fun b =>
        b.serverId = sid ∧ sid ∈ ids ∧ b.bucket ≤ w.stop ∧ b.dataVolume = true) =
      rowsWith ServerFilesystem5m.serverId sid
        (rows.filter fun b => b.bucket ≤ w.stop ∧ b.dataVolume = true) := by
    intro ids rows hids
    rw [rowsWith, List.filter_filter]
    refine List.filter_congr fun b _ => ?_
    simp [hids]
  have halone : sid ∈ (w.alone sid).serverIds := List.mem_singleton.mpr rfl
  unfold ReportTables.mountFigures
  rw [hhistory _ _ hsid, ← hown, ← hhistory _ _ halone]
  rfl

/-! ## The row of a server -/

lemma cpuStats_about (hsid : sid ∈ w.serverIds) :
    ((db.about sid).cpuStats (w.alone sid)).find? (fun c => decide (c.serverId = sid)) =
      (db.cpuStats w).find? fun c => decide (c.serverId = sid) :=
  find?_groupBy_congr (fun _ _ => rfl) (bkt_about db hsid)

lemma memStats_about (hsid : sid ∈ w.serverIds) :
    ((db.about sid).memStats (w.alone sid)).find? (fun m => decide (m.serverId = sid)) =
      (db.memStats w).find? fun m => decide (m.serverId = sid) := by
  refine find?_groupBy_congr (fun _ _ => rfl) ?_
  rw [rowsWith, rowsWith, List.filter_comm, List.filter_comm (l := db.bkt w)]
  exact congrArg _ (bkt_about db hsid)

lemma rsStats_about (hsid : sid ∈ w.serverIds) :
    ((db.about sid).rsStats (w.alone sid)).find? (fun r => decide (r.serverId = sid)) =
      (db.rsStats w).find? fun r => decide (r.serverId = sid) :=
  find?_groupBy_congr (fun _ _ => rfl) (bkt_about db hsid)

lemma reportRow_about {s : ReportServer} (hs : s.id ∈ w.serverIds) :
    (db.about s.id).reportRow (w.alone s.id) s = db.reportRow w s := by
  unfold ReportTables.reportRow
  rw [cpuStats_about db hs, memStats_about db hs, rsStats_about db hs, mountFigures_about db hs,
    diskDev_about db hs, netRows_about db hs, coreRows_about db hs]
  rfl

/-- Every known server that is asked for has one row, and nothing else has one; the row of a server
is the answer of the same query about it alone. -/
theorem report_rows_local (db : ReportTables) (w : ReportWindow) :
    ((db.reportAggregate w).map fun r => r.serverId).Perm
        ((db.serverInventory.rows.map ReportServer.id).filter fun sid => sid ∈ w.serverIds) ∧
      ∀ r ∈ db.reportAggregate w,
        (db.about r.serverId).reportAggregate (w.alone r.serverId) = [r] := by
  constructor
  · unfold ReportTables.reportAggregate
    rw [List.map_map, List.filter_map]
    exact (List.perm_insertionSort _ _).map ReportServer.id
  · intro r hr
    obtain ⟨s, hs, rfl⟩ := List.mem_map.mp hr
    obtain ⟨hs, hids⟩ := List.mem_filter.mp ((List.mem_insertionSort _).mp hs)
    have hkeys := db.serverInventory.nodup_keys
    have hone : (db.about s.id).serverInventory.rows = [s] :=
      (Table.filter_eq_singleton_iff hkeys).mpr (Table.findId_of_mem hkeys hs)
    have hasked : ([s].filter fun s' => s'.id ∈ (w.alone s.id).serverIds) = [s] :=
      List.filter_cons_of_pos (decide_eq_true (List.mem_singleton.mpr rfl))
    change (db.about s.id).reportAggregate (w.alone s.id) = _
    unfold ReportTables.reportAggregate
    rw [hone, hasked, List.insertionSort_cons, List.insertionSort_nil, List.orderedInsert_nil,
      List.map_singleton, reportRow_about db (of_decide_eq_true hids)]

end Parts

end AssessmentEngine
