import AssessmentEngine.Queries.RecentTasks

/-!
# The samples of a server, page by page

`metric_snapshots` from the endpoint to the query.  A server has no two samples at one time, so no
page can end between two of them; but a call sees no further than thirty days before its cursor, or
before the call when it has none.  So the pages show all samples exactly when the newest is no older
than that and none lies more than thirty days before the next, but for those of the first page
(`snapshotPages_showAll_iff`).
-/

namespace AssessmentEngine

open CursorPages Newest

/-! ## The endpoint -/

/-- `_METRIC_SNAPSHOTS_WINDOW`. -/
def metricSnapshotsWindow : ℤ := 30 * 86400000000

/-- The fields of a `MetricSeries` that `to_metric_series_item` reads. -/
structure MetricSeriesRow where
  collectedAt : ℤ
  value : Option ℚ
  dimension : Option String
  deriving DecidableEq, Repr

/-- `MetricSeriesItem`. -/
structure MetricSeriesItem where
  collectedAt : ℤ
  value : Option ℚ
  dimension : Option String
  deriving DecidableEq, Repr

/-- `to_metric_series_item`. -/
def toMetricSeriesItem (dto : MetricSeriesRow) : MetricSeriesItem :=
  ⟨dto.collectedAt, dto.value, dto.dimension⟩

/-- `SqlMetricQueryRepository.metric_snapshots`. -/
def MetricTables.metricSnapshots (db : MetricTables) (now : ℤ) (serverId : ℕ) (cursor : Option ℤ)
    (limit : ℕ) : List MetricSeriesRow :=
  let upper := cursor.getD now
  let lower := upper - metricSnapshotsWindow
  (newest (fun r : MetricsRow => r.collectedAt) limit (db.serverMetrics.rows.filter fun r =>
    r.serverId = serverId ∧ lower ≤ r.collectedAt ∧ ∀ c ∈ cursor, r.collectedAt < c)).map
      fun r => ⟨r.collectedAt, none, none⟩

/-- The endpoint `get_metric_snapshots`. -/
def MetricTables.getMetricSnapshots (db : MetricTables) (now : ℤ) (internalId : ℕ)
    (cursor : Option ℤ) (limit : ℕ) : List MetricSeriesItem :=
  (db.metricSnapshots now internalId cursor limit).map toMetricSeriesItem

/-- The pages of the endpoint, called at the times of a clock with the `collected_at` of the last
item, until one is empty; no more calls are made than there are samples, and one. -/
def MetricTables.snapshotPages (db : MetricTables) (clock : ℕ → ℤ) (internalId limit : ℕ) :
    Option (List (List MetricSeriesItem)) :=
  walk MetricSeriesItem.collectedAt
    (fun k cursor => db.getMetricSnapshots (clock k) internalId cursor limit)
    (db.serverMetrics.rows.length + 1) 0 none

/-! ## What the pages show -/

def MetricsRow.time (r : MetricsRow) : ℤ := r.collectedAt

/-- The samples of a server. -/
def MetricTables.samplesOf (db : MetricTables) (sid : ℕ) : List MetricsRow :=
  db.serverMetrics.rows.filter fun r => r.serverId = sid

/-- The samples of a server, newest first. -/
def MetricTables.history (db : MetricTables) (sid : ℕ) : List MetricsRow :=
  newestFirst MetricsRow.time (db.samplesOf sid)

/-- Thirty days before. -/
def snapshotFloor (t : ℤ) : ℤ := t - metricSnapshotsWindow

lemma snapshotFloor_le {s t : ℤ} (hst : s ≤ t) : snapshotFloor s ≤ snapshotFloor t :=
  Int.sub_le_sub_right hst _

section History

variable (db : MetricTables) (sid : ℕ)

/-- The samples of a server differ in their times. -/
lemma nodup_times : ((db.samplesOf sid).map MetricsRow.time).Nodup := by
  have hnodup : (db.samplesOf sid).Nodup := db.serverMetrics.nodup.filter _
  refine hnodup.map_on fun a ha b hb heq => ?_
  obtain ⟨ha, haid⟩ := List.mem_filter.mp ha
  obtain ⟨hb, hbid⟩ := List.mem_filter.mp hb
  refine KeyedTable.eq_of_key_eq ha hb ?_
  rw [MetricsRow.key, MetricsRow.key, of_decide_eq_true haid, of_decide_eq_true hbid]
  exact congrArg (fun t => toLex (sid, t)) heq

lemma history_perm : (db.history sid).Perm (db.samplesOf sid) :=
  newestFirst_perm MetricsRow.time _

lemma history_sorted : (db.history sid).Pairwise fun a b => b.time < a.time := by
  have hle : (db.history sid).Pairwise fun a b => b.time ≤ a.time :=
    newestFirst_sorted MetricsRow.time _
  have hne : (db.history sid).Pairwise fun a b => a.time ≠ b.time :=
    List.pairwise_map.mp (((history_perm db sid).map _).nodup_iff.mpr (nodup_times db sid))
  exact hle.imp₂ (fun _ _ h hne => lt_of_le_of_ne h (Ne.symm hne)) hne

/-- An answer of the query is a page of the history. -/
lemma metricSnapshots_eq_page (now : ℤ) (cursor : Option ℤ) (limit : ℕ) :
    db.metricSnapshots now sid cursor limit =
      (page (windowed (snapshotFloor now) snapshotFloor) MetricsRow.time limit (db.history sid)
        cursor).map fun r => ⟨r.time, none, none⟩ := by
  have hfilter : (db.serverMetrics.rows.filter fun r => r.serverId = sid ∧
      cursor.getD now - metricSnapshotsWindow ≤ r.collectedAt ∧ ∀ c ∈ cursor, r.collectedAt < c) =
        (db.samplesOf sid).filter fun r =>
          windowed (snapshotFloor now) snapshotFloor cursor r.time := by
    rw [MetricTables.samplesOf, List.filter_filter]
    apply List.filter_congr
    intro r _
    rw [Bool.decide_and, Bool.and_comm]
    cases cursor with
    | none => simp [windowed, snapshotFloor, MetricsRow.time]
    | some c => simp [windowed, snapshotFloor, MetricsRow.time]
  rw [MetricTables.metricSnapshots]
  simp only [hfilter]
  have hsort := newestFirst_filter (nodup_times db sid)
    (windowed (snapshotFloor now) snapshotFloor cursor ·.time)
  rw [page, MetricTables.history, ← hsort]
  rfl

end History

variable {db : MetricTables} {limit : ℕ}

/-- The calls never run out; the pages show samples of the server, newest first and none twice, and
they show all of them exactly when all are in reach. -/
theorem snapshotPages_showAll_iff (hlimit : 0 < limit) (clock : ℕ → ℤ) (sid : ℕ) :
    ∃ pages, db.snapshotPages clock sid limit = some pages ∧
      (pages.flatten.map MetricSeriesItem.collectedAt).Sublist
        ((db.history sid).map MetricsRow.time) ∧
      (ShowAll MetricSeriesItem.collectedAt MetricSeriesItem.collectedAt
        ((db.samplesOf sid).map MetricsRow.time) pages ↔
          InReach (snapshotFloor (clock 0)) snapshotFloor MetricsRow.time limit
            (db.history sid)) := by
  -- the instant of a call matters to the first only, which has no cursor
  have hanswer : ∀ k cursor, ((db.getMetricSnapshots (clock k) sid cursor limit).map
      fun item => (item.collectedAt, item.collectedAt)) =
        (page (windowed (snapshotFloor (clock k)) snapshotFloor) MetricsRow.time limit
          (db.history sid) cursor).map fun r => (r.time, r.time) := by
    intro k cursor
    rw [MetricTables.getMetricSnapshots, metricSnapshots_eq_page, List.map_map, List.map_map]
    rfl
  have hlater : ∀ k c, ((db.getMetricSnapshots (clock k) sid (some c) limit).map
      fun item => (item.collectedAt, item.collectedAt)) =
        (page (windowed (snapshotFloor (clock 0)) snapshotFloor) MetricsRow.time limit
          (db.history sid) (some c)).map fun r => (r.time, r.time) :=
    fun k c => hanswer k (some c)
  have hcalls : (db.history sid).length < db.serverMetrics.rows.length + 1 := by
    have hle := List.length_filter_le (fun r => decide (r.serverId = sid)) db.serverMetrics.rows
    rw [(history_perm db sid).length_eq]
    exact Nat.lt_succ_of_le hle
  have hsorted := history_sorted db sid
  have henough : (walk MetricsRow.time
      (fun _ => page (windowed (snapshotFloor (clock 0)) snapshotFloor) MetricsRow.time limit
        (db.history sid)) (db.serverMetrics.rows.length + 1) 0 none).isSome = true :=
    walk_page_isSome (fun _ _ => lt_of_windowed) hcalls none
  obtain ⟨rowPages, hwalk⟩ := Option.isSome_iff_exists.mp henough
  obtain ⟨pages, hpages, hmap⟩ := exists_pages_of_walk
    (fun item : MetricSeriesItem => (item.collectedAt, item.collectedAt))
    (fun r : MetricsRow => (r.time, r.time)) Prod.snd
    (fun k cursor => db.getMetricSnapshots (clock k) sid cursor limit)
    hlater (hanswer 0 none) hwalk
  have hsub : rowPages.flatten.Sublist (db.history sid) :=
    sublist_of_walk (fun _ _ => lt_of_windowed) (hsorted.imp le_of_lt) hwalk
  refine ⟨pages, hpages, ?_, ?_⟩
  · have htimes := congrArg (List.map Prod.fst) hmap
    rw [List.map_map, List.map_map] at htimes
    exact htimes ▸ hsub.map _
  · rw [showAll_iff ((history_perm db sid).symm.map _) (hsorted.imp le_of_lt) hsub hmap]
    exact flatten_windowPages_iff hlimit (fun _ _ => snapshotFloor_le) hsorted
      (fun _ h => absurd h (Option.not_mem_none _)) hwalk

/-! ## Both lists -/

/-- For every page size the pages of a server's tasks and of its samples are newest first, each row
at most once; they show every task when no page ends between tasks of one time, and every sample
exactly when all samples are in reach. -/
theorem cursorPages_showAll {db : TaskTables} {si : InventoryRow}
    (hsi : si ∈ db.serverInventory.rows) {limit : ℕ} (hlimit : 1 ≤ limit ∧ limit ≤ 100)
    (clock : ℕ → ℤ) :
    (∃ pages, db.taskPages clock si.publicId limit = some pages ∧
      (pages.flatten.map TaskSummaryItem.taskId).Sublist
        ((db.timeline si.id).map fun r => r.publicId) ∧
      (BordersApart TaskRecord.time limit (db.timeline si.id) →
        ShowAll TaskSummaryItem.createdAt TaskSummaryItem.taskId
          ((db.tasksOf si.id).map fun r => r.publicId) pages)) ∧
    ∃ pages, db.snapshotPages clock si.id limit = some pages ∧
      (pages.flatten.map MetricSeriesItem.collectedAt).Sublist
        ((db.history si.id).map MetricsRow.time) ∧
      (ShowAll MetricSeriesItem.collectedAt MetricSeriesItem.collectedAt
        ((db.samplesOf si.id).map MetricsRow.time) pages ↔
          InReach (snapshotFloor (clock 0)) snapshotFloor MetricsRow.time limit
            (db.history si.id)) := by
  obtain ⟨pages, hpages, hsub, hiff⟩ := taskPages_showAll_iff hsi hlimit.1 clock
  exact ⟨⟨pages, hpages, hsub, hiff.mpr⟩, snapshotPages_showAll_iff hlimit.1 clock si.id⟩

/-- A task that was answered, of a server with the internal id 1. -/
def answeredTask (id : ℕ) (publicId : String) (createdAt : ℤ) : TaskRecord where
  id := id
  publicId := publicId
  targetServerId := 1
  targetAgentId := "agent"
  taskType := "zconverter_install"
  params := none
  status := "success"
  createdAt := createdAt
  deadlineAt := none
  completedAt := some createdAt
  failureReason := none
  exitCode := some 0
  signalNo := none
  durationMs := some 1
  stdoutTail := none
  stderrTail := none
  taskPolicy := some true

def scrolledServer : InventoryRow := ⟨1, "a", none, none, none, none⟩

/-- A server with two tasks and two samples, the first of each at instant zero. -/
def scrolledTables (taskAt : ℕ) (sampleAt : ℤ) (hsample : 0 < sampleAt) : TaskTables where
  toMetricTables := { MetricTables.empty with
    serverInventory := ⟨[scrolledServer], List.pairwise_singleton _ _⟩
    publicIds_nodup := List.nodup_singleton _
    serverMetrics := ⟨[MetricsRow.blank 1 0, MetricsRow.blank 1 sampleAt],
      List.pairwise_pair.mpr (Prod.Lex.toLex_lt_toLex.mpr (Or.inr ⟨rfl, hsample⟩))⟩ }
  tasks := ⟨[answeredTask 1 "x" 0, answeredTask 2 "y" taskAt],
    List.pairwise_pair.mpr Nat.one_lt_two⟩
  taskIds_nodup := by simp [answeredTask]

section Scrolled

variable (taskAt : ℕ) {sampleAt : ℤ} (hsample : 0 < sampleAt)

lemma scrolledServer_mem :
    scrolledServer ∈ (scrolledTables taskAt sampleAt hsample).serverInventory.rows :=
  List.mem_singleton_self _

lemma timeline_scrolledTables :
    (scrolledTables taskAt sampleAt hsample).timeline scrolledServer.id =
      [answeredTask 2 "y" taskAt, answeredTask 1 "x" 0] := by
  refine newestFirst_eq (List.Perm.swap _ _ _) (List.pairwise_pair.mpr ?_)
  rw [TaskRecord.recency, TaskRecord.recency, Prod.Lex.toLex_lt_toLex, answeredTask, answeredTask]
  rcases taskAt.eq_zero_or_pos with rfl | hpos
  · exact Or.inr ⟨rfl, Nat.one_lt_two⟩
  · exact Or.inl (Int.natCast_pos.mpr hpos : (0 : ℤ) < taskAt)

lemma history_scrolledTables : (scrolledTables taskAt sampleAt hsample).history scrolledServer.id =
    [MetricsRow.blank 1 sampleAt, MetricsRow.blank 1 0] :=
  newestFirst_eq (List.Perm.swap _ _ _) (List.pairwise_pair.mpr hsample)

end Scrolled

/-- Tasks of different times and samples of two days. -/
theorem scrolledTables_showAll :
    (∃ pages, (scrolledTables 5 86400000000 (by decide)).taskPages (fun _ => 86400000000) "a" 1 =
      some pages ∧ ShowAll TaskSummaryItem.createdAt TaskSummaryItem.taskId ["x", "y"] pages) ∧
    ∃ pages, (scrolledTables 5 86400000000 (by decide)).snapshotPages (fun _ => 86400000000) 1 1 =
      some pages ∧ ShowAll MetricSeriesItem.collectedAt MetricSeriesItem.collectedAt
        [0, 86400000000] pages := by
  have hsample : (0 : ℤ) < 86400000000 := by decide
  have hlimit : 1 ≤ 1 ∧ 1 ≤ 100 := by decide
  obtain ⟨⟨pages, hpages, -, hall⟩, pages', hpages', -, hiff⟩ :=
    cursorPages_showAll (scrolledServer_mem 5 hsample) hlimit fun _ => 86400000000
  refine ⟨⟨pages, hpages, hall ?_⟩, pages', hpages', hiff.mpr ?_⟩
  · rw [timeline_scrolledTables]
    exact bordersApart_of_sorted (List.pairwise_pair.mpr (by decide)) 1
  · rw [history_scrolledTables 5 hsample]
    refine ⟨?_, ?_⟩
    · rintro a ⟨⟩
      decide
    · rintro (_ | i) a ha b hb
      · cases ha
        cases hb
        exact Or.inl (by decide)
      · cases hb

/-- The server has two tasks of one time, and a sample 31 days after the other: with one row on a
page, neither list is shown to its end. -/
theorem scrolledTables_not_showAll :
    (¬ ∃ pages, (scrolledTables 0 2678400000000 (by decide)).taskPages (fun _ => 2678400000000) "a"
      1 = some pages ∧
        ShowAll TaskSummaryItem.createdAt TaskSummaryItem.taskId ["x", "y"] pages) ∧
    ¬ ∃ pages, (scrolledTables 0 2678400000000 (by decide)).snapshotPages (fun _ => 2678400000000) 1
      1 = some pages ∧ ShowAll MetricSeriesItem.collectedAt MetricSeriesItem.collectedAt
        [0, 2678400000000] pages := by
  have hsample : (0 : ℤ) < 2678400000000 := by decide
  constructor
  · rintro ⟨pages, hpages, hall⟩
    obtain ⟨pages', hpages', -, hiff⟩ :=
      taskPages_showAll_iff (scrolledServer_mem 0 hsample) Nat.one_pos fun _ => 2678400000000
    rw [Option.some_inj.mp (hpages.symm.trans hpages')] at hall
    have hborders := hiff.mp hall
    rw [timeline_scrolledTables] at hborders
    exact absurd (hborders 0 (Nat.one_dvd _) _ rfl _ rfl) (lt_irrefl _)
  · rintro ⟨pages, hpages, hall⟩
    obtain ⟨pages', hpages', -, hiff⟩ :=
      @snapshotPages_showAll_iff (scrolledTables 0 2678400000000 hsample).toMetricTables 1
        Nat.one_pos (fun _ => 2678400000000) 1
    rw [Option.some_inj.mp (hpages.symm.trans hpages')] at hall
    have hreach := hiff.mp hall
    have hhistory : (scrolledTables 0 2678400000000 hsample).history 1 =
      [MetricsRow.blank 1 2678400000000, MetricsRow.blank 1 0] := history_scrolledTables 0 hsample
    rw [hhistory] at hreach
    rcases hreach.next 0 _ rfl _ rfl with hwindow | ⟨hroom, -⟩
    · exact absurd hwindow (by decide)
    · exact absurd hroom (lt_irrefl 1)

end AssessmentEngine
