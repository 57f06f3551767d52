import AssessmentEngine.Queries.EnvironmentSelection
import AssessmentEngine.Queries.ReportBaselines
import AssessmentEngine.Queries.ReportLocality

/-!
# The rows of many child reports

A report on several servers comes with a report on each of them.
`build_child_prefetched_reports` asks the database once for all the servers and hands each child its
part; the single report asks for one server.  Both make the same report of every server
(`child_prefetch_agrees`).
-/

namespace AssessmentEngine

open RowGroups

/-! ## The functions -/

/-- The tables of a database, as the queries of a report read them. -/
structure ReportFleet where
  fleet : FleetTables
  report : ReportTables
  history : InventoryLog
  sameServers :
    report.serverInventory.rows.map ReportServer.id = fleet.serverInventory.rows.map InventoryRow.id

/-- The window of a report, with `DIAGNOSTIC_RANGE_DAYS`. -/
def TimeRange.window (timeRange : TimeRange) (serverIds : List ℕ) (anchorAt : ℤ) :
    ReportWindow where
  serverIds := serverIds
  periodDays := timeRange.width / 86400000000
  start := anchorAt - timeRange.width
  stop := anchorAt
  length := by
    rw [div_mul_cancel₀ _ (by norm_num)]
    push_cast
    ring

inductive ReportView
  | customer
  | engineer
  deriving DecidableEq, Repr

/-- `_ChildPrefetch`. -/
structure ChildPrefetch where
  raw : BaselinedRow
  detail : InventoryRow
  memRaw : MemoryBreakdownRaw
  cpuRaw : CpuBreakdownRaw

/-- What a single report is made of: the rest is read from the database for the server of it. -/
structure SingleReportInputs where
  serverId : ℕ
  details : List InventoryRow
  rawsWindow : List BaselinedRow
  /-- Read for the engineer only. -/
  breakdown : Option (MemoryBreakdownRaw × CpuBreakdownRaw)

/-- `MemoryBreakdownRaw(None, None, None, None)`. -/
def MemoryBreakdownRaw.unmeasured : MemoryBreakdownRaw := ⟨none, none, none, none⟩

/-- `CpuBreakdownRaw(None, None, None)`. -/
def CpuBreakdownRaw.unmeasured : CpuBreakdownRaw := ⟨none, none, none⟩

/-- `report_memory_breakdown`. -/
def ReportTables.reportMemoryBreakdown (db : ReportTables) (w : ReportWindow) (sid : ℕ) :
    MemoryBreakdownRaw :=
  ((db.reportMemoryBreakdownBatch (w.alone sid)).find? fun m => m.1 = sid).elim .unmeasured Prod.snd

/-- `report_cpu_breakdown`. -/
def ReportTables.reportCpuBreakdown (db : ReportTables) (w : ReportWindow) (sid : ℕ) :
    CpuBreakdownRaw :=
  ((db.reportCpuBreakdownBatch (w.alone sid)).find? fun c => c.1 = sid).elim .unmeasured Prod.snd

namespace ReportFleet

variable (db : ReportFleet) (reader : UuidReader) (view : ReportView) (timeRange : TimeRange)
  (anchorAt : ℤ)

/-- `get_single_server_report`, up to where the report is put together; it raises on a public id
that is no UUID. -/
def getSingleServerReport (pid : String) (prefetch : Option ChildPrefetch) :
    Option (Option SingleReportInputs) :=
  (db.fleet.resolveServerIds reader [pid]).map fun sidMap => do
    let serverId ← sidMap.lookup pid
    let w := timeRange.window [serverId] anchorAt
    match prefetch with
    | some prefetch =>
      return {
        serverId := serverId
        details := [prefetch.detail]
        rawsWindow := [prefetch.raw]
        breakdown := if view = .engineer then some (prefetch.memRaw, prefetch.cpuRaw) else none }
    | none =>
      let detail ← (db.fleet.getServers [serverId]).head?
      return {
        serverId := serverId
        details := [detail]
        rawsWindow := db.report.assembleReportRaws db.history w
        breakdown :=
          if view = .engineer then
            some (db.report.reportMemoryBreakdown w serverId,
              db.report.reportCpuBreakdown w serverId)
          else none }

/-- The rows of a child, from what was asked for all. -/
def childPrefetch (sids : List ℕ) (sid : ℕ) : Option ChildPrefetch := do
  let w := timeRange.window sids anchorAt
  let memById := if view = .engineer then db.report.reportMemoryBreakdownBatch w else []
  let cpuById := if view = .engineer then db.report.reportCpuBreakdownBatch w else []
  let raw ← (db.report.assembleReportRaws db.history w).find? fun r => r.serverId = sid
  let detail ← Table.findId InventoryRow.id sid (db.fleet.getServers sids)
  return {
    raw := raw
    detail := detail
    memRaw := (memById.find? fun m => m.1 = sid).elim .unmeasured Prod.snd
    cpuRaw := (cpuById.find? fun c => c.1 = sid).elim .unmeasured Prod.snd }

/-- `build_child_prefetched_reports`. -/
def buildChildPrefetchedReports (publicIds : List String) (sidMap : List (String × ℕ)) :
    Option (List (String × Option SingleReportInputs)) :=
  let sids := publicIds.filterMap fun pid => sidMap.lookup pid
  if sids = [] then some (publicIds.map fun pid => (pid, none))
  else
    publicIds.mapM fun pid =>
      match (sidMap.lookup pid).bind (db.childPrefetch view timeRange anchorAt sids) with
      | none => some (pid, none)
      | some prefetch =>
        (db.getSingleServerReport reader view timeRange anchorAt pid (some prefetch)).map
          fun report => (pid, report)

end ReportFleet

/-! ## The part of a server -/

section Part

variable (db : ReportTables) {w : ReportWindow} {sid : ℕ}

/-- Of the rows that a window selects, those of a server are the ones that the window of it alone
selects. -/
lemma rowsWith_covers {ρ : Type} {server : ρ → ℕ} (bucket : ρ → ℤ) (p : ρ → Bool)
    (hsid : sid ∈ w.serverIds) (rows : List ρ) :
    rowsWith server sid (rows.filter fun r => w.Covers (server r) (bucket r) ∧ p r = true) =
      rowsWith server sid
        (rows.filter fun r => (w.alone sid).Covers (server r) (bucket r) ∧ p r = true) := by
  rw [rowsWith, rowsWith, List.filter_filter, List.filter_filter]
  refine List.filter_congr fun r _ => ?_
  by_cases hr : server r = sid
  · simp only [hr, covers_alone hsid]
  · simp [hr]

lemma metricsRows_alone (hsid : sid ∈ w.serverIds) :
    rowsWith ServerMetrics5m.serverId sid (db.metricsRows w) =
      rowsWith ServerMetrics5m.serverId sid (db.metricsRows (w.alone sid)) := by
  simpa [ReportTables.metricsRows] using
    rowsWith_covers ServerMetrics5m.bucket (fun _ => true) hsid
      (serverMetrics5m db.serverMetrics.rows)

lemma diskRows_alone (hsid : sid ∈ w.serverIds) :
    rowsWith ServerDiskIo5m.serverId sid (db.diskRows w) =
      rowsWith ServerDiskIo5m.serverId sid (db.diskRows (w.alone sid)) :=
  rowsWith_covers ServerDiskIo5m.bucket
    (fun b : ServerDiskIo5m => db.physDisk b.serverId b.deviceId) hsid _

lemma netRows_alone (hsid : sid ∈ w.serverIds) :
    rowsWith ServerNetIo5m.serverId sid (db.netRows w) =
      rowsWith ServerNetIo5m.serverId sid (db.netRows (w.alone sid)) :=
  rowsWith_covers ServerNetIo5m.bucket
    (fun b : ServerNetIo5m => db.physIface b.serverId b.ifaceId) hsid _

/-- The groups of the selected rows by server and bucket, of one server. -/
lemma rowsWith_perBucket {ρ σ : Type} {server : ρ → ℕ} (out : ρ → σ) (server' : σ → ℕ)
    {bucket : σ → ℤ} {f : ℕ × ℤ → List σ → σ} {p : σ → Bool}
    (hout : ∀ r, server' (out r) = server r) (hf : ∀ k rs, server' (f k rs) = k.1)
    {rows rows' : List ρ} (h : rowsWith server sid rows = rowsWith server sid rows') :
    rowsWith server' sid
        (groupBy (fun r => (server' r, bucket r)) f ((rows.map out).filter p)) =
      rowsWith server' sid
        (groupBy (fun r => (server' r, bucket r)) f ((rows'.map out).filter p)) := by
  have hpart : ∀ rows : List ρ, rowsWith server' sid ((rows.map out).filter p) =
      ((rowsWith server sid rows).map out).filter p := by
    intro rows
    rw [rowsWith, List.filter_comm, List.filter_map, rowsWith]
    simp only [Function.comp_def, hout]
  have hgroups : ∀ rows : List ρ, rowsWith server' sid
      (groupBy (fun r => (server' r, bucket r)) f ((rows.map out).filter p)) =
        groupBy (fun r => (server' r, bucket r)) f
          (((rowsWith server sid rows).map out).filter p) := by
    intro rows
    rw [rowsWith_groupBy hf, ← hpart]
  rw [hgroups, hgroups, h]

lemma reportDiskIoBaseline_alone (hsid : sid ∈ w.serverIds) :
    ((db.reportDiskIoBaseline w).find? fun disk => decide (disk.serverId = sid)) =
      (db.reportDiskIoBaseline (w.alone sid)).find? fun disk => decide (disk.serverId = sid) := by
  refine find?_groupBy_congr (fun _ _ => rfl) ?_
  unfold ReportTables.perDiskBucket
  exact rowsWith_perBucket ServerDiskIo5m.perDev PerDevRow.serverId (fun _ => rfl)
    (fun _ _ => rfl) (diskRows_alone db hsid)

lemma reportNetIoBaseline_alone (hsid : sid ∈ w.serverIds) :
    ((db.reportNetIoBaseline w).find? fun net => decide (net.serverId = sid)) =
      (db.reportNetIoBaseline (w.alone sid)).find? fun net => decide (net.serverId = sid) := by
  refine find?_groupBy_congr (fun _ _ => rfl) ?_
  unfold ReportTables.perBucket
  exact rowsWith_perBucket ServerNetIo5m.perIf PerIfRow.serverId (fun _ => rfl)
    (fun _ _ => rfl) (netRows_alone db hsid)

/-- A breakdown of a server is found in the batch as in the query for it alone. -/
lemma breakdown_alone {β : Type} (f : List ServerMetrics5m → β) (hsid : sid ∈ w.serverIds) :
    ((groupBy ServerMetrics5m.serverId (fun sid rows => (sid, f rows))
        (db.metricsRows w)).find? fun m => decide (m.1 = sid)) =
      (groupBy ServerMetrics5m.serverId (fun sid rows => (sid, f rows))
        (db.metricsRows (w.alone sid))).find? fun m => decide (m.1 = sid) :=
  find?_groupBy_congr (fun _ _ => rfl) (metricsRows_alone db hsid)

/-- A row is the one of the query about its server alone. -/
lemma reportRow_alone {s : ReportServer} (hs : s.id ∈ w.serverIds) :
    db.reportRow w s = db.reportRow (w.alone s.id) s :=
  (reportRow_about db hs).symm.trans
    (reportRow_about db (w := w.alone s.id) (List.mem_singleton.mpr rfl))

/-- The servers of a report, in its order. -/
def ReportTables.asked (db : ReportTables) (w : ReportWindow) : List ReportServer :=
  (db.serverInventory.rows.filter fun s => s.id ∈ w.serverIds).insertionSort fun a b =>
    a.hostname ≤ b.hostname

/-- The row of a server in a report. -/
def ReportTables.baselinedRow (db : ReportTables) (history : InventoryLog) (w : ReportWindow)
    (s : ReportServer) : BaselinedRow :=
  withReportBaselines (db.reportRow w s)
    (countOf (reportUptimeStats history w.serverIds (w.stop - w.start) w.stop) s.id)
    (countOf (reportAgentRestartStats history w.serverIds (w.stop - w.start) w.stop) s.id)
    ((db.reportDiskIoBaseline w).find? fun disk => disk.serverId = s.id)
    ((db.reportNetIoBaseline w).find? fun net => net.serverId = s.id)

lemma assembleReportRaws_eq (history : InventoryLog) (w : ReportWindow) :
    db.assembleReportRaws history w = (db.asked w).map (db.baselinedRow history w) :=
  List.map_map

lemma mem_asked {s : ReportServer} :
    s ∈ db.asked w ↔ s ∈ db.serverInventory.rows ∧ s.id ∈ w.serverIds := by
  rw [ReportTables.asked, List.mem_insertionSort, List.mem_filter, decide_eq_true_eq]

lemma nodup_keys_asked (w : ReportWindow) : ((db.asked w).map ReportServer.id).Nodup := by
  refine ((List.perm_insertionSort _ _).map ReportServer.id).nodup_iff.mpr ?_
  exact db.serverInventory.nodup_keys.sublist (List.filter_sublist.map _)

/-- A row is the same in the report on its server alone. -/
lemma baselinedRow_alone (history : InventoryLog) {s : ReportServer} (hs : s.id ∈ w.serverIds) :
    db.baselinedRow history w s = db.baselinedRow history (w.alone s.id) s := by
  have hone : s.id ∈ (w.alone s.id).serverIds := List.mem_singleton.mpr rfl
  have hcount : ∀ column, countOf (restartStats column (inPeriod (w.stop - w.start) w.stop)
      history w.serverIds) s.id = countOf (restartStats column
        (inPeriod (w.stop - w.start) w.stop) history (w.alone s.id).serverIds) s.id :=
    fun column => (countOf_restartStats hs).trans (countOf_restartStats hone).symm
  unfold ReportTables.baselinedRow reportUptimeStats reportAgentRestartStats
  rw [reportRow_alone db hs, hcount, hcount, reportDiskIoBaseline_alone db hs,
    reportNetIoBaseline_alone db hs]
  rfl

end Part

/-! ## The parts agree -/

section Agree

variable (db : ReportFleet) {reader : UuidReader} {timeRange : TimeRange} {anchorAt : ℤ}
  {sids : List ℕ} {sid : ℕ}

/-- A server that is asked for has one row in the report on all, and this is the report on it
alone. -/
lemma assembleReportRaws_alone {w : ReportWindow} {s : ReportServer}
    (hs : s ∈ db.report.serverInventory.rows) (hids : s.id ∈ w.serverIds) :
    ∃ raw,
      ((db.report.assembleReportRaws db.history w).find? fun r => decide (r.serverId = s.id)) =
        some raw ∧
      db.report.assembleReportRaws db.history (w.alone s.id) = [raw] := by
  have hfound : ∀ v : ReportWindow, s.id ∈ v.serverIds →
      Table.findId ReportServer.id s.id (db.report.asked v) = some s := fun v hv =>
    Table.findId_of_mem (nodup_keys_asked db.report v) ((mem_asked db.report).mpr ⟨hs, hv⟩)
  have halone : db.report.asked (w.alone s.id) = [s] := by
    have hall : ((db.report.asked (w.alone s.id)).filter fun a => decide (a.id = s.id)) =
        db.report.asked (w.alone s.id) := by
      refine List.filter_eq_self.mpr fun a ha => decide_eq_true ?_
      exact List.mem_singleton.mp ((mem_asked db.report).mp ha).2
    rw [← hall, Table.filter_eq_singleton_iff (nodup_keys_asked db.report _)]
    exact hfound _ (List.mem_singleton.mpr rfl)
  refine ⟨db.report.baselinedRow db.history w s, ?_, ?_⟩
  · have hrow : Table.findId (fun r : BaselinedRow => r.serverId) s.id
        ((db.report.asked w).map (db.report.baselinedRow db.history w)) =
          (Table.findId ReportServer.id s.id (db.report.asked w)).map
            (db.report.baselinedRow db.history w) := Table.findId_map (fun _ => rfl) _ _
    rw [hfound w hids] at hrow
    rw [assembleReportRaws_eq]
    exact hrow
  · rw [assembleReportRaws_eq, halone, List.map_singleton, ← baselinedRow_alone db.report _ hids]

/-- Among the details of several servers, that of a known server is the one it is given when it is
asked for alone. -/
lemma getServers_alone (hsid : sid ∈ sids) :
    Table.findId InventoryRow.id sid (db.fleet.getServers sids) =
      (db.fleet.getServers [sid]).head? := by
  have hkeys : (db.fleet.serverInventory.rows.map InventoryRow.id).Nodup :=
    db.fleet.serverInventory.nodup_keys
  have hsame : Table.findId InventoryRow.id sid (db.fleet.getServers sids) =
      Table.findId InventoryRow.id sid db.fleet.serverInventory.rows := by
    rw [Table.findId, FleetTables.getServers, List.find?_filter, Table.findId]
    congr 1
    funext r
    by_cases hr : r.id = sid <;> simp [hr, hsid]
  rw [hsame]
  have halone : db.fleet.getServers [sid] =
      db.fleet.serverInventory.rows.filter fun r => decide (r.id = sid) := by
    simp [FleetTables.getServers]
  rw [halone, Table.findId, List.head?_filter]

/-- A public id of the list names the same server in the map of all as in the map of it alone. -/
lemma lookup_sidMap {pids : List String} {sidMap : List (String × ℕ)}
    (hsidMap : db.fleet.resolveServerIds reader pids = some sidMap) {pid : String}
    (hpid : pid ∈ pids) :
    ∃ own, db.fleet.resolveServerIds reader [pid] = some own ∧
      own.lookup pid = sidMap.lookup pid := by
  have hread : ¬∃ t ∈ pids, reader.read t = none := by
    intro hunread
    rw [resolveServerIds_of_unread hunread] at hsidMap
    cases hsidMap
  have hown : ¬∃ t ∈ [pid], reader.read t = none := by
    rintro ⟨t, ht, hnone⟩
    exact hread ⟨t, List.mem_singleton.mp ht ▸ hpid, hnone⟩
  rw [resolveServerIds_of_read hread, Option.some_inj] at hsidMap
  subst hsidMap
  refine ⟨_, resolveServerIds_of_read hown, ?_⟩
  -- both maps have the public id when it is a canonical one
  have hiff : pid ∈ reader.uuids [pid] ↔ pid ∈ reader.uuids pids := by
    rw [← UuidReader.mem_canonical_iff hpid,
      ← UuidReader.mem_canonical_iff (List.mem_singleton.mpr rfl), UuidReader.mem_canonical,
      UuidReader.mem_canonical, List.mem_singleton]
    simp [hpid]
  refine Option.ext fun sid => ?_
  rw [SetDefault.lookup_eq_some_iff_mem (nodup_keys_sidMap _),
    SetDefault.lookup_eq_some_iff_mem (nodup_keys_sidMap _), mem_sidMap, mem_sidMap]
  refine exists_congr fun si => and_congr_right fun _ => and_congr_left fun hentry => ?_
  rw [(Prod.mk.inj hentry).1, hiff]

/-- A known server has a row in the tables of the report query too. -/
lemma exists_reportServer {detail : InventoryRow}
    (h : (db.fleet.getServers [sid]).head? = some detail) :
    ∃ s ∈ db.report.serverInventory.rows, s.id = sid := by
  obtain ⟨hmem, hid⟩ := List.mem_filter.mp (List.mem_of_mem_head? h)
  have hsid : sid ∈ db.fleet.serverInventory.rows.map InventoryRow.id :=
    List.mem_map.mpr ⟨detail, hmem, List.mem_singleton.mp (of_decide_eq_true hid)⟩
  rw [← db.sameServers] at hsid
  exact List.mem_map.mp hsid

/-- The breakdowns of a server are the ones that the report on it alone reads. -/
lemma breakdown_prefetched (db : ReportTables) {w : ReportWindow} (hsid : sid ∈ w.serverIds) :
    ((db.reportMemoryBreakdownBatch w).find? fun m => decide (m.1 = sid)).elim .unmeasured
        Prod.snd = db.reportMemoryBreakdown (w.alone sid) sid ∧
      ((db.reportCpuBreakdownBatch w).find? fun c => decide (c.1 = sid)).elim .unmeasured
        Prod.snd = db.reportCpuBreakdown (w.alone sid) sid := by
  constructor
  · rw [ReportTables.reportMemoryBreakdownBatch, breakdown_alone db _ hsid]
    rfl
  · rw [ReportTables.reportCpuBreakdownBatch, breakdown_alone db _ hsid]
    rfl

variable (view : ReportView)

/-- A child that is handed its part makes the report that it would make by itself. -/
lemma singleServerReport_prefetched {pid : String} {own : List (String × ℕ)}
    (hown : db.fleet.resolveServerIds reader [pid] = some own) (hlookup : own.lookup pid = some sid)
    (hsid : sid ∈ sids) :
    (match db.childPrefetch view timeRange anchorAt sids sid with
        | none => some (pid, none)
        | some prefetch =>
          (db.getSingleServerReport reader view timeRange anchorAt pid (some prefetch)).map
            fun report => (pid, report)) =
      (db.getSingleServerReport reader view timeRange anchorAt pid none).map
        fun report => (pid, report) := by
  cases hdetail : (db.fleet.getServers [sid]).head? with
  | none =>
    have hchild : db.childPrefetch view timeRange anchorAt sids sid = none := by
      simp [ReportFleet.childPrefetch, getServers_alone db hsid, hdetail]
    simp [hchild, ReportFleet.getSingleServerReport, hown, hlookup, hdetail]
  | some detail =>
    obtain ⟨s, hs, rfl⟩ := exists_reportServer db hdetail
    have hids : s.id ∈ (timeRange.window sids anchorAt).serverIds := hsid
    obtain ⟨raw, hraw, halone⟩ := assembleReportRaws_alone db hs hids
    obtain ⟨hmem, hcpu⟩ := breakdown_prefetched db.report hids
    have hwindow : (timeRange.window sids anchorAt).alone s.id =
      timeRange.window [s.id] anchorAt := rfl
    rw [hwindow] at halone hmem hcpu
    cases view with
    | customer =>
      simp [ReportFleet.childPrefetch, ReportFleet.getSingleServerReport, hown, hlookup, hraw,
        getServers_alone db hsid, hdetail, halone]
    | engineer =>
      simp [ReportFleet.childPrefetch, ReportFleet.getSingleServerReport, hown, hlookup, hraw,
        getServers_alone db hsid, hdetail, halone, hmem, hcpu]

/-- The child reports of a report on several servers are the single reports of these servers,
whichever of them are known, at the same time and for the same reader. -/
theorem child_prefetch_agrees (db : ReportFleet) (reader : UuidReader) (view : ReportView)
    (timeRange : TimeRange) (anchorAt : ℤ) (pids : List String) (sidMap : List (String × ℕ))
    (hsidMap : db.fleet.resolveServerIds reader pids = some sidMap) :
    db.buildChildPrefetchedReports reader view timeRange anchorAt pids sidMap =
      pids.mapM fun pid =>
        (db.getSingleServerReport reader view timeRange anchorAt pid none).map
          fun report => (pid, report) := by
  -- an unknown public id is passed over by both
  have hunknown : ∀ pid ∈ pids, sidMap.lookup pid = none →
      (db.getSingleServerReport reader view timeRange anchorAt pid none).map
        (fun report => (pid, report)) = some (pid, none) := by
    intro pid hpid hnone
    obtain ⟨own, hown, hlookup⟩ := lookup_sidMap db hsidMap hpid
    rw [hnone] at hlookup
    simp [ReportFleet.getSingleServerReport, hown, hlookup]
  unfold ReportFleet.buildChildPrefetchedReports
  dsimp only
  split_ifs with hsids
  · have hall : ∀ pid ∈ pids, sidMap.lookup pid = none := by
      intro pid hpid
      by_contra hsome
      obtain ⟨sid, hsid⟩ := Option.ne_none_iff_exists'.mp hsome
      have hmem : sid ∈ pids.filterMap fun pid => sidMap.lookup pid :=
        List.mem_filterMap.mpr ⟨pid, hpid, hsid⟩
      rw [hsids] at hmem
      cases hmem
    have hpure : (pids.mapM fun pid =>
        (pure (pid, none) : Option (String × Option SingleReportInputs))) =
          pure (pids.map fun pid => (pid, none)) := List.mapM_pure
    rw [Returns.mapM_congr fun pid hpid => hunknown pid hpid (hall pid hpid)]
    exact hpure.symm
  · refine Returns.mapM_congr fun pid hpid => ?_
    cases hlookup : sidMap.lookup pid with
    | none =>
      rw [hunknown pid hpid hlookup]
      rfl
    | some sid =>
      obtain ⟨own, hown, hsame⟩ := lookup_sidMap db hsidMap hpid
      have hsid : sid ∈ pids.filterMap fun pid => sidMap.lookup pid :=
        List.mem_filterMap.mpr ⟨pid, hpid, hlookup⟩
      exact singleServerReport_prefetched db view hown (hsame.trans hlookup) hsid

end Agree

/-- Two samples of the first server and one of the second. -/
def pairSamples : KeyedTable MetricsRow.key where
  rows := [workSample 0 10 10 60, workSample 60000000 40 40 20,
    { workSample 60000000 10 90 80 with serverId := 2 }]
  sorted := by decide

def bareReportServer (id : ℕ) (publicId : String) : ReportServer where
  id := id
  publicId := publicId
  hostname := publicId
  osFamily := none
  cpuCores := none
  memTotalBytes := none
  blockDevices := none
  netInterfaces := none

/-- The fleet of the two servers. -/
def pairReportFleet : ReportFleet where
  fleet :=
    { serverInventory :=
        { rows := [⟨1, uuidA, none, none, none, none⟩, ⟨2, uuidB, none, none, none, none⟩]
          sorted := by decide }
      publicIds_nodup := by decide
      serverMetrics := pairSamples
      serverDiskIo := .empty _
      serverNetIo := .empty _
      serverFilesystem := .empty _
      serverPressure := .empty _
      serverDiskError := .empty _
      serverCpuCore := .empty _
      columns := FleetTables.empty.columns }
  report :=
    { serverInventory :=
        { rows := [bareReportServer 1 uuidA, bareReportServer 2 uuidB]
          sorted := by decide }
      serverMetrics := pairSamples
      serverDiskIo := .empty _
      serverNetIo := .empty _
      serverFilesystem := .empty _
      serverCpuCore := .empty _ }
  history := ⟨[], List.Pairwise.nil⟩
  sameServers := rfl

/-- Both servers, an unknown one, and the first of them once more. -/
def repeatedPids : List String := [uuidB, uuidA, "00000000-0000-4000-8000-00000000000c", uuidB]

theorem child_prefetch_agrees_pairReportFleet :
    pairReportFleet.buildChildPrefetchedReports canonicalReader .engineer .d14 60000000 repeatedPids
        [(uuidA, 1), (uuidB, 2)] =
      repeatedPids.mapM fun pid =>
        (pairReportFleet.getSingleServerReport canonicalReader .engineer .d14 60000000 pid none).map
          fun report => (pid, report) :=
  child_prefetch_agrees pairReportFleet canonicalReader .engineer .d14 60000000 repeatedPids
    [(uuidA, 1), (uuidB, 2)] (by decide)

end AssessmentEngine
