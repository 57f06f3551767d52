import Mathlib.Data.Fintype.EquivFin
import AssessmentEngine.Library.Returns
import AssessmentEngine.Mappers.EnvironmentRealtime
import AssessmentEngine.Queries.LatestDashboard
import AssessmentEngine.Queries.MetricSnapshots
import AssessmentEngine.Services.ServerFilters

/-!
# The servers of an environment chart

The endpoints of the environment that take public ids: the charts of `/environment/metrics-chart`
and the figures of `/environment/realtime`.  What they show of chosen servers depends on these
alone; but a choice of which nothing is left is handed on as no choice, and shows the whole
environment (`selectionHolds_iff`).
-/

namespace AssessmentEngine

/-! ## Public ids -/

/-- How the driver of the database reads a text as a UUID, given by its canonical text; the query
fails on a text that is none. -/
structure UuidReader where
  read : String → Option String
  read_canonical : ∀ {t u : String}, read t = some u → read u = some u

/-- `resolve_server_ids`. -/
def MetricTables.resolveServerIds (db : MetricTables) (reader : UuidReader)
    (publicIds : List String) : Option (List (String × ℕ)) :=
  if ∃ t ∈ publicIds, reader.read t = none then none
  else
    some ((db.serverInventory.rows.filter fun r =>
      r.publicId ∈ publicIds.filterMap reader.read).map fun r => (r.publicId, r.id))

/-! ## The charts -/

inductive EnvironmentMetricType
  | cpuUsagePercent
  | cpuSaturationHosts
  | memUsagePercent
  | memPagingPressureHosts
  | fsUsagePercent
  | diskSaturationHosts
  | netRxBytesPerSec
  | netTxBytesPerSec
  | netCongestedHosts
  deriving DecidableEq, Repr

/-- The builder in `_TREND_BUILDERS`. -/
def EnvironmentMetricType.trend : EnvironmentMetricType → TrendMetric
  | .cpuUsagePercent => .cpuPercent .usagePercent
  | .cpuSaturationHosts => .cpuSaturationHosts
  | .memUsagePercent => .memPercent .usagePercent
  | .memPagingPressureHosts => .memPagingPressureHosts
  | .fsUsagePercent => .fsUsagePercent
  | .diskSaturationHosts => .diskSaturationHosts
  | .netRxBytesPerSec => .rate .rxBytesPerSec
  | .netTxBytesPerSec => .rate .txBytesPerSec
  | .netCongestedHosts => .netCongestedHosts

inductive TimeRange
  | m15
  | h1
  | h6
  | h24
  | d7
  | d14
  | d30
  deriving DecidableEq, Repr

/-- `TIME_RANGE_TD`, in microseconds. -/
def TimeRange.width (range : TimeRange) : ℤ :=
  60 * 1000000 *
    match range with
    | .m15 => 15
    | .h1 => 60
    | .h6 => 6 * 60
    | .h24 => 24 * 60
    | .d7 => 7 * 24 * 60
    | .d14 => 14 * 24 * 60
    | .d30 => 30 * 24 * 60

/-- `get_environment_metric_chart`, up to now. -/
def MetricTables.getEnvironmentMetricChart (db : MetricTables) (now : ℤ)
    (metricType : EnvironmentMetricType) (timeRange : TimeRange) (bucket : BucketSize)
    (serverIds : Option (List ℕ)) : List MetricSeriesItem :=
  (metricTrend metricType.trend db
    { bucket := bucket, agg := .avg, start := now - timeRange.width, stop := now,
      serverIds := serverIds, dimension := none, collapse := true }).map
    fun p => toMetricSeriesItem ⟨p.collectedAt, p.value, p.dimension⟩

/-- `server_ids` of `get_environment_metrics_chart`. -/
def MetricTables.chartServerIds (db : MetricTables) (reader : UuidReader) (ids : Option String) :
    Option (Option (List ℕ)) :=
  match truthyText ids with
  | none => some none
  | some ids =>
    (db.resolveServerIds reader (stripped (csvPieces (some ids)))).map fun sidMap =>
      some (sidMap.map Prod.snd)

/-- The endpoint `get_environment_metrics_chart`. -/
def MetricTables.environmentMetricsChart (db : MetricTables) (reader : UuidReader) (now : ℤ)
    (metricType : EnvironmentMetricType) (timeRange : TimeRange) (bucket : BucketSize)
    (ids : Option String) : Option (List MetricSeriesItem) :=
  (db.chartServerIds reader ids).map
    (db.getEnvironmentMetricChart now metricType timeRange bucket)

/-! ## The page of the servers now -/

/-- `SaturationRaw()`. -/
def SaturationRaw.unmeasured : SaturationRaw where
  runQueue := none
  awaitMs := none
  diskIoUtilPct := none
  pendingOps := none
  pagingMajorRate := none
  retransPct := none
  dropPct := none
  conntrackRatio := none
  psiCpu := none
  psiMem := none
  psiIo := none

/-- What `_assemble_realtime` puts down of a server with a fresh dashboard. -/
def realtimeSnapshot (d : InventoryRow) (hostname : String) (sat : SaturationRaw)
    (m : MetricDashboard) : RealtimeSnapshot :=
  let netRate :=
    if m.netIo = [] then none
    else some (m.netIo.map fun n => n.rxKbps.getD 0 + n.txKbps.getD 0).sum
  { hostname := hostname
    publicId := d.publicId
    osFamily := d.osFamily
    cpuPct := m.cpu.bind CpuSnapshot.usagePct
    memPct := m.memory.bind MemSnapshot.usagePct
    cpuSatIndex := cpuSaturationIndex sat.runQueue d.cpuCores d.osFamily
    diskSatIndex := diskIoSaturationIndex sat.awaitMs sat.pendingOps d.osFamily
    diskUtilPct := sat.diskIoUtilPct
    pagingRate := sat.pagingMajorRate
    netKbps := netRate
    memPressure := memPressureActive sat.pagingMajorRate d.osFamily
    netCongested := netSignalActive sat.retransPct sat.dropPct sat.conntrackRatio netRate
    cpuCores := d.cpuCores
    memUsedBytes := m.memory.bind MemSnapshot.usedBytes
    memTotalBytes := m.memory.bind MemSnapshot.totalBytes }

/-- What the loop of `_assemble_realtime` carries. -/
structure RealtimeTally where
  online : ℕ
  snapshots : List RealtimeSnapshot
  lastCollected : Option ℤ
  deriving DecidableEq, Repr

/-- `fresh_threshold`, with `redis_ttl_online`. -/
def freshThreshold (now : ℤ) : ℤ := now - 300 * 1000000

namespace FleetTables

/-- A round of the loop of `_assemble_realtime`. -/
def realtimeRound (fleet : FleetTables) (now : ℤ) (details : List InventoryRow)
    (satMap : List (ℕ × SaturationRaw)) (t : RealtimeTally) (sid : ℕ) : RealtimeTally :=
  match Table.findId InventoryRow.id sid details with
  | none => t
  | some d =>
    let sat := (satMap.lookup sid).getD .unmeasured
    match fleet.latestMetric now sid with
    | none => t
    | some m =>
      match m.collectedAt with
      | none => t
      | some collectedAt =>
        if collectedAt < freshThreshold now then t
        else
          { online := t.online + 1
            snapshots := t.snapshots ++ [realtimeSnapshot d (fleet.columns sid).hostname sat m]
            lastCollected := some (t.lastCollected.elim collectedAt fun last =>
              if last < collectedAt then collectedAt else last) }

/-- `_assemble_realtime`. -/
def assembleRealtime (fleet : FleetTables) (serverIds : List ℕ) (details : List InventoryRow)
    (now : ℤ) : EnvironmentRealtime :=
  let satMap := fleet.latestSaturation serverIds (freshThreshold now) now
  let t := serverIds.foldl (fleet.realtimeRound now details satMap) ⟨0, [], none⟩
  buildEnvironmentRealtime serverIds.length t.online t.snapshots t.lastCollected

/-- `list_server_ids`. -/
def listServerIds (fleet : FleetTables) : List ℕ :=
  (fleet.serverInventory.rows.map InventoryRow.id).take 1000

/-- `get_servers`. -/
def getServers (fleet : FleetTables) (serverIds : List ℕ) : List InventoryRow :=
  fleet.serverInventory.rows.filter fun r => r.id ∈ serverIds

/-- `get_environment_realtime`. -/
def getEnvironmentRealtime (fleet : FleetTables) (now : ℤ) (serverIds : Option (List ℕ)) :
    EnvironmentRealtime :=
  let serverIds := serverIds.getD fleet.listServerIds
  if serverIds = [] then buildEnvironmentRealtime 0 0 [] none
  else fleet.assembleRealtime serverIds (fleet.getServers serverIds) now

/-- `_resolve_selection_pids`. -/
def resolveSelectionPids (fleet : FleetTables) (reader : UuidReader) (ids : Option String) :
    Option (List String) :=
  let publicIds := stripped (csvPieces ids)
  if publicIds = [] then some []
  else (fleet.resolveServerIds reader publicIds).map fun sidMap =>
    publicIds.filter fun pid => (sidMap.lookup pid).isSome

/-- `server_ids` of `environment_realtime`; a public id that is not in the map raises. -/
def realtimeServerIds (fleet : FleetTables) (reader : UuidReader) (validPids : List String) :
    Option (Option (List ℕ)) :=
  if validPids = [] then some none
  else
    (fleet.resolveServerIds reader validPids).bind fun sidMap =>
      (validPids.mapM fun p => sidMap.lookup p).map some

/-- The figures of the endpoint `environment_realtime`. -/
def environmentRealtime (fleet : FleetTables) (reader : UuidReader) (now : ℤ)
    (ids : Option String) : Option EnvironmentRealtime :=
  (fleet.resolveSelectionPids reader ids).bind fun validPids =>
    (fleet.realtimeServerIds reader validPids).map (fleet.getEnvironmentRealtime now)

end FleetTables

/-! ## What a choice shows -/

/-- The tokens of the parameter. -/
def idTokens (ids : String) : List String := stripped (csvPieces (some ids))

namespace UuidReader

/-- The UUIDs that tokens are read as. -/
def uuids (reader : UuidReader) (tokens : List String) : List String :=
  tokens.filterMap reader.read

/-- The tokens that are the canonical texts of UUIDs, as public ids are. -/
def canonical (reader : UuidReader) (tokens : List String) : List String :=
  tokens.filter fun t => reader.read t = some t

variable {reader : UuidReader} {tokens : List String} {t : String}

lemma mem_uuids : t ∈ reader.uuids tokens ↔ ∃ token ∈ tokens, reader.read token = some t :=
  List.mem_filterMap

lemma mem_canonical : t ∈ reader.canonical tokens ↔ t ∈ tokens ∧ reader.read t = some t := by
  simp [canonical]

/-- A token that is a UUID of the list is canonical. -/
lemma mem_canonical_iff (ht : t ∈ tokens) :
    t ∈ reader.canonical tokens ↔ t ∈ reader.uuids tokens := by
  rw [mem_canonical, mem_uuids]
  constructor
  · exact fun h => ⟨t, ht, h.2⟩
  · rintro ⟨token, -, hread⟩
    exact ⟨ht, reader.read_canonical hread⟩

end UuidReader

namespace FleetTables

/-- The server has one of the public ids. -/
def named (fleet : FleetTables) (publicIds : List String) (sid : ℕ) : Bool :=
  decide (∃ si ∈ fleet.serverInventory.rows, si.id = sid ∧ si.publicId ∈ publicIds)

/-- Two fleets have the same servers under the public ids, with the same stored for them. -/
structure SameNamed (publicIds : List String) (fleet fleet' : FleetTables) : Prop where
  inventory : ∀ si : InventoryRow, si.publicId ∈ publicIds →
    (si ∈ fleet.serverInventory.rows ↔ si ∈ fleet'.serverInventory.rows)
  stored : AgreeOn (fleet.named publicIds) fleet fleet'

/-- The charts do not change with servers that have none of the tokens, as UUIDs. -/
def ChartHolds (fleet : FleetTables) (reader : UuidReader) (ids : String) : Prop :=
  ∀ fleet', SameNamed (reader.uuids (idTokens ids)) fleet fleet' →
    ∀ now metricType timeRange bucket,
      fleet.environmentMetricsChart reader now metricType timeRange bucket (some ids) =
        fleet'.environmentMetricsChart reader now metricType timeRange bucket (some ids)

/-- The figures of the page do not change with servers that have none of the tokens, as texts. -/
def PageHolds (fleet : FleetTables) (reader : UuidReader) (ids : String) : Prop :=
  ∀ fleet', SameNamed (reader.canonical (idTokens ids)) fleet fleet' →
    ∀ now, fleet.environmentRealtime reader now (some ids) =
      fleet'.environmentRealtime reader now (some ids)

/-- A choice of servers never shows others. -/
structure SelectionHolds (fleet : FleetTables) (reader : UuidReader) (ids : String) : Prop where
  chart : fleet.ChartHolds reader ids
  page : fleet.PageHolds reader ids

end FleetTables

/-! ### Reading the public ids -/

/-- The public ids that servers have, with the servers. -/
def MetricTables.sidMap (db : MetricTables) (publicIds : List String) : List (String × ℕ) :=
  (db.serverInventory.rows.filter fun r => r.publicId ∈ publicIds).map fun r => (r.publicId, r.id)

section Resolve

variable {reader : UuidReader} {tokens : List String} {db : MetricTables}

lemma resolveServerIds_of_unread (h : ∃ t ∈ tokens, reader.read t = none) :
    db.resolveServerIds reader tokens = none := if_pos h

lemma resolveServerIds_of_read (h : ¬∃ t ∈ tokens, reader.read t = none) :
    db.resolveServerIds reader tokens = some (db.sidMap (reader.uuids tokens)) := if_neg h

lemma mem_sidMap {publicIds : List String} {entry : String × ℕ} :
    entry ∈ db.sidMap publicIds ↔
      ∃ si ∈ db.serverInventory.rows, si.publicId ∈ publicIds ∧ (si.publicId, si.id) = entry := by
  simp [MetricTables.sidMap, and_assoc]

lemma nodup_keys_sidMap (publicIds : List String) :
    ((db.sidMap publicIds).map Prod.fst).Nodup := by
  rw [MetricTables.sidMap, List.map_map]
  exact db.publicIds_nodup.sublist (List.filter_sublist.map _)

/-- A public id is in the map when it is in the list and a server has it. -/
lemma isSome_lookup_sidMap {publicIds : List String} {pid : String} :
    ((db.sidMap publicIds).lookup pid).isSome = true ↔
      pid ∈ publicIds ∧ ∃ si ∈ db.serverInventory.rows, si.publicId = pid := by
  rw [SetDefault.isSome_lookup_iff, List.mem_map]
  constructor
  · rintro ⟨entry, hentry, rfl⟩
    obtain ⟨si, hsi, hpid, rfl⟩ := mem_sidMap.mp hentry
    exact ⟨hpid, si, hsi, rfl⟩
  · rintro ⟨hpid, si, hsi, rfl⟩
    exact ⟨_, mem_sidMap.mpr ⟨si, hsi, hpid, rfl⟩, rfl⟩

/-- The servers of the map are those that have the public ids. -/
lemma mem_sidMap_snd {fleet : FleetTables} {publicIds : List String} {sid : ℕ} :
    sid ∈ (fleet.sidMap publicIds).map Prod.snd ↔ fleet.named publicIds sid = true := by
  rw [FleetTables.named, decide_eq_true_eq, List.mem_map]
  constructor
  · rintro ⟨entry, hentry, rfl⟩
    obtain ⟨si, hsi, hpid, rfl⟩ := mem_sidMap.mp hentry
    exact ⟨si, hsi, rfl, hpid⟩
  · rintro ⟨si, hsi, rfl, hpid⟩
    exact ⟨_, mem_sidMap.mpr ⟨si, hsi, hpid, rfl⟩, rfl⟩

/-- Fleets with the same servers under some public ids have the same map of them. -/
lemma FleetTables.SameNamed.sidMap_eq {publicIds chosen : List String}
    {fleet fleet' : FleetTables} (h : FleetTables.SameNamed publicIds fleet fleet')
    (hchosen : chosen ⊆ publicIds) : fleet.sidMap chosen = fleet'.sidMap chosen :=
  congrArg _ (KeyedTable.filter_congr fun r hr =>
    h.inventory r (hchosen (of_decide_eq_true hr)))

end Resolve

/-! ### The charts -/

/-- A chart of selected servers depends on what is stored for them. -/
lemma metricTrend_congr {known : ℕ → Bool} {db db' : MetricTables}
    (h : MetricTables.AgreeOn known (fun sid _ => known sid) db db') {ctx : MetricTrendCtx}
    (hselects : ∀ sid, ctx.Selects sid → known sid = true) (metric : TrendMetric) :
    metricTrend metric db ctx = metricTrend metric db' ctx := by
  have hcovered : ctx.Covered known fun sid _ => known sid :=
    ⟨hselects, fun sid _ hsid _ _ => hselects sid hsid⟩
  have hrestrict : ∀ db : MetricTables,
      metricTrend metric (db.restrict known fun sid _ => known sid) ctx =
        metricTrend metric db ctx := by
    intro db
    by_cases hfs : metric = .fsUsagePercent ∧ ctx.collapse = true
    · obtain ⟨rfl, hcollapse⟩ := hfs
      simp only [metricTrend, trendFsUsagePercent, if_pos hcollapse]
      exact trendFsUsageCollapsed_restrict db hcovered fun _ _ sid _ hsid _ _ => hselects sid hsid
    · exact metricTrend_restrict db hcovered hfs
  rw [← hrestrict db, h.restrict_eq, hrestrict db']

/-! ### The figures of the page -/

section Realtime

variable {known : ℕ → Bool} {fleet fleet' : FleetTables}
  (h : FleetTables.AgreeOn known fleet fleet')

include h

lemma realtimeRound_congr {sid : ℕ} (hsid : known sid = true) (now : ℤ)
    (details : List InventoryRow) (satMap : List (ℕ × SaturationRaw)) (t : RealtimeTally) :
    fleet.realtimeRound now details satMap t sid =
      fleet'.realtimeRound now details satMap t sid := by
  unfold FleetTables.realtimeRound
  rw [latestMetric_congr h hsid, h.columns sid hsid]

/-- The figures of given servers depend on what is stored for them. -/
lemma getEnvironmentRealtime_congr {sids : List ℕ} (hsids : ∀ sid ∈ sids, known sid = true)
    (now : ℤ) :
    fleet.getEnvironmentRealtime now (some sids) =
      fleet'.getEnvironmentRealtime now (some sids) := by
  have hdetails : fleet.getServers sids = fleet'.getServers sids :=
    KeyedTable.filter_congr fun r hr =>
      h.tables.serverInventory r (hsids _ (of_decide_eq_true hr))
  have htally : ∀ details satMap,
      sids.foldl (fleet.realtimeRound now details satMap) ⟨0, [], none⟩ =
        sids.foldl (fleet'.realtimeRound now details satMap) ⟨0, [], none⟩ :=
    fun details satMap => List.foldl_ext _ _ _ fun t sid hsid =>
      realtimeRound_congr h (hsids sid hsid) now details satMap t
  unfold FleetTables.getEnvironmentRealtime FleetTables.assembleRealtime
  simp only [Option.getD_some, hdetails, latestSaturation_congr h.tables hsids, htally]

end Realtime

/-! ### The two endpoints -/

section Endpoints

variable {reader : UuidReader} {ids : String} {fleet fleet' : FleetTables}

/-- The tokens that are public ids of servers. -/
def FleetTables.validPids (fleet : FleetTables) (reader : UuidReader) (tokens : List String) :
    List String :=
  (reader.canonical tokens).filter fun pid =>
    ∃ si ∈ fleet.serverInventory.rows, si.publicId = pid

lemma chartServerIds_eq (hids : idTokens ids ≠ []) (db : MetricTables) :
    db.chartServerIds reader (some ids) =
      (db.resolveServerIds reader (idTokens ids)).map fun sidMap => some (sidMap.map Prod.snd) := by
  have hne : ids ≠ "" := by
    rintro rfl
    exact hids (by decide)
  have htruthy : truthyText (some ids) = some ids := by simp [truthyText, hne]
  unfold MetricTables.chartServerIds
  rw [htruthy]
  rfl

lemma resolveSelectionPids_eq (hids : idTokens ids ≠ []) (fleet : FleetTables) :
    fleet.resolveSelectionPids reader (some ids) =
      (fleet.resolveServerIds reader (idTokens ids)).map fun sidMap =>
        (idTokens ids).filter fun pid => (sidMap.lookup pid).isSome :=
  if_neg hids

/-- A query on a text that is no UUID fails, whatever the servers are. -/
lemma chartHolds_of_unread (hids : idTokens ids ≠ [])
    (hunread : ∃ t ∈ idTokens ids, reader.read t = none) : fleet.ChartHolds reader ids := by
  have hchart : ∀ db : MetricTables, db.chartServerIds reader (some ids) = none := fun db => by
    rw [chartServerIds_eq hids, resolveServerIds_of_unread hunread, Option.map_none]
  intro fleet' _ now metricType timeRange bucket
  rw [MetricTables.environmentMetricsChart, MetricTables.environmentMetricsChart, hchart, hchart,
    Option.map_none, Option.map_none]

lemma pageHolds_of_unread (hids : idTokens ids ≠ [])
    (hunread : ∃ t ∈ idTokens ids, reader.read t = none) : fleet.PageHolds reader ids := by
  have hpage : ∀ fleet : FleetTables, fleet.resolveSelectionPids reader (some ids) = none :=
    fun fleet => by
      rw [resolveSelectionPids_eq hids, resolveServerIds_of_unread hunread, Option.map_none]
  intro fleet' _ now
  unfold FleetTables.environmentRealtime
  rw [hpage, hpage, Option.bind_none, Option.bind_none]

variable (hread : ¬∃ t ∈ idTokens ids, reader.read t = none)

include hread

/-- The charts are of the servers that tokens are read as. -/
lemma environmentMetricsChart_of_read (hids : idTokens ids ≠ []) (db : MetricTables) (now : ℤ)
    (metricType : EnvironmentMetricType) (timeRange : TimeRange) (bucket : BucketSize) :
    db.environmentMetricsChart reader now metricType timeRange bucket (some ids) =
      some (db.getEnvironmentMetricChart now metricType timeRange bucket
        (some ((db.sidMap (reader.uuids (idTokens ids))).map Prod.snd))) := by
  rw [MetricTables.environmentMetricsChart, chartServerIds_eq hids, resolveServerIds_of_read hread,
    Option.map_some, Option.map_some]

/-- The charts of a choice of which a server is left are of the servers of the tokens. -/
lemma chartHolds_of_named (hids : idTokens ids ≠ []) {si : InventoryRow}
    (hsi : si ∈ fleet.serverInventory.rows) (hnamed : si.publicId ∈ reader.uuids (idTokens ids)) :
    fleet.ChartHolds reader ids := by
  intro fleet' h now metricType timeRange bucket
  rw [environmentMetricsChart_of_read hread hids, environmentMetricsChart_of_read hread hids,
    ← h.sidMap_eq (List.Subset.refl _), Option.some_inj]
  unfold MetricTables.getEnvironmentMetricChart
  rw [metricTrend_congr h.stored.tables]
  -- a list of servers that is not empty selects its own only
  rintro sid (hnil | hsid)
  · have hfirst : fleet.named (reader.uuids (idTokens ids)) si.id = true :=
      decide_eq_true ⟨si, hsi, rfl, hnamed⟩
    exact absurd hnil (List.ne_nil_of_mem (mem_sidMap_snd.mpr hfirst))
  · exact mem_sidMap_snd.mp hsid

/-- The page keeps the tokens that are public ids. -/
lemma resolveSelectionPids_of_read (hids : idTokens ids ≠ []) :
    fleet.resolveSelectionPids reader (some ids) =
      some (fleet.validPids reader (idTokens ids)) := by
  rw [resolveSelectionPids_eq hids, resolveServerIds_of_read hread, Option.map_some,
    Option.some_inj, FleetTables.validPids, UuidReader.canonical, List.filter_filter]
  apply List.filter_congr
  intro pid hpid
  rw [← Bool.decide_and, Bool.eq_iff_iff, isSome_lookup_sidMap, decide_eq_true_eq,
    ← UuidReader.mem_canonical_iff hpid, UuidReader.mem_canonical, and_comm]
  exact and_congr_right fun _ => and_iff_right hpid

end Endpoints

section Page

variable {reader : UuidReader} {tokens : List String} {fleet fleet' : FleetTables}

lemma mem_validPids {pid : String} :
    pid ∈ fleet.validPids reader tokens ↔
      pid ∈ reader.canonical tokens ∧ ∃ si ∈ fleet.serverInventory.rows, si.publicId = pid := by
  simp [FleetTables.validPids]

lemma uuids_validPids :
    reader.uuids (fleet.validPids reader tokens) = fleet.validPids reader tokens := by
  have hsome : ∀ pid ∈ fleet.validPids reader tokens, reader.read pid = some pid :=
    fun pid hpid => (UuidReader.mem_canonical.mp (mem_validPids.mp hpid).1).2
  rw [UuidReader.uuids, List.filterMap_congr hsome, List.filterMap_some]

lemma resolveServerIds_validPids (db : MetricTables) :
    db.resolveServerIds reader (fleet.validPids reader tokens) =
      some (db.sidMap (fleet.validPids reader tokens)) := by
  rw [resolveServerIds_of_read, uuids_validPids]
  rintro ⟨pid, hpid, hnone⟩
  rw [(UuidReader.mem_canonical.mp (mem_validPids.mp hpid).1).2] at hnone
  exact Option.some_ne_none pid hnone

/-- The page hands on the servers that tokens name. -/
lemma exists_realtimeServerIds (hvalid : fleet.validPids reader tokens ≠ []) :
    ∃ sids, fleet.realtimeServerIds reader (fleet.validPids reader tokens) = some (some sids) ∧
      ∀ sid ∈ sids, fleet.named (reader.canonical tokens) sid = true := by
  have hfound : Returns (fun sids => ∀ sid ∈ sids, fleet.named (reader.canonical tokens) sid = true)
      ((fleet.validPids reader tokens).mapM fun p =>
        (fleet.sidMap (fleet.validPids reader tokens)).lookup p) := by
    rw [Returns.mapM_iff]
    intro pid hpid
    obtain ⟨hcanonical, si, hsi, rfl⟩ := mem_validPids.mp hpid
    have hmem := mem_sidMap.mpr ⟨si, hsi, hpid, rfl⟩
    exact ⟨si.id, (SetDefault.lookup_eq_some_iff_mem (nodup_keys_sidMap _)).mpr hmem,
      decide_eq_true ⟨si, hsi, rfl, hcanonical⟩⟩
  obtain ⟨sids, hsids, hnamed⟩ := hfound
  refine ⟨sids, ?_, hnamed⟩
  rw [FleetTables.realtimeServerIds, if_neg hvalid, resolveServerIds_validPids, Option.bind_some,
    hsids, Option.map_some]

variable (h : FleetTables.SameNamed (reader.canonical tokens) fleet fleet')

include h

lemma validPids_congr : fleet.validPids reader tokens = fleet'.validPids reader tokens := by
  apply List.filter_congr
  intro pid hpid
  rw [decide_eq_decide]
  apply exists_congr
  intro si
  constructor
  · rintro ⟨hsi, rfl⟩
    exact ⟨(h.inventory si hpid).mp hsi, rfl⟩
  · rintro ⟨hsi, rfl⟩
    exact ⟨(h.inventory si hpid).mpr hsi, rfl⟩

lemma realtimeServerIds_congr :
    fleet.realtimeServerIds reader (fleet.validPids reader tokens) =
      fleet'.realtimeServerIds reader (fleet.validPids reader tokens) := by
  have hmap : fleet.sidMap (fleet.validPids reader tokens) =
      fleet'.sidMap (fleet.validPids reader tokens) :=
    h.sidMap_eq fun _ hpid => (mem_validPids.mp hpid).1
  rw [FleetTables.realtimeServerIds, FleetTables.realtimeServerIds, resolveServerIds_validPids,
    resolveServerIds_validPids, hmap]

end Page

section Choice

variable {reader : UuidReader} {ids : String} {fleet : FleetTables} (hids : idTokens ids ≠ [])
  (hread : ¬∃ t ∈ idTokens ids, reader.read t = none)

include hids hread

/-- The figures of a choice of which a server is left are of the servers of the tokens. -/
lemma pageHolds_of_named {si : InventoryRow} (hsi : si ∈ fleet.serverInventory.rows)
    (hnamed : si.publicId ∈ reader.canonical (idTokens ids)) : fleet.PageHolds reader ids := by
  have hvalid : fleet.validPids reader (idTokens ids) ≠ [] :=
    List.ne_nil_of_mem (mem_validPids.mpr ⟨hnamed, si, hsi, rfl⟩)
  intro fleet' h now
  obtain ⟨sids, hsids, hall⟩ := exists_realtimeServerIds hvalid
  unfold FleetTables.environmentRealtime
  rw [resolveSelectionPids_of_read hread hids, resolveSelectionPids_of_read hread hids,
    ← validPids_congr h, Option.bind_some, Option.bind_some, ← realtimeServerIds_congr h, hsids,
    Option.map_some, Option.map_some, getEnvironmentRealtime_congr h.stored hall]

/-- The charts of a choice of which nothing is left are those of no choice. -/
lemma environmentMetricsChart_of_none
    (hnone : ∀ si ∈ fleet.serverInventory.rows, si.publicId ∉ reader.uuids (idTokens ids))
    (now : ℤ) (metricType : EnvironmentMetricType) (timeRange : TimeRange) (bucket : BucketSize) :
    fleet.environmentMetricsChart reader now metricType timeRange bucket (some ids) =
      fleet.environmentMetricsChart reader now metricType timeRange bucket none := by
  have hnil : (fleet.sidMap (reader.uuids (idTokens ids))).map Prod.snd = [] := by
    apply List.eq_nil_iff_forall_not_mem.mpr
    intro sid hsid
    obtain ⟨si, hsi, -, hpid⟩ := of_decide_eq_true (mem_sidMap_snd.mp hsid)
    exact hnone si hsi hpid
  rw [environmentMetricsChart_of_read hread hids, hnil]
  cases metricType <;> rfl

/-- So are the figures of the page. -/
lemma environmentRealtime_of_none
    (hnone : ∀ si ∈ fleet.serverInventory.rows, si.publicId ∉ reader.canonical (idTokens ids))
    (now : ℤ) :
    fleet.environmentRealtime reader now (some ids) =
      fleet.environmentRealtime reader now none := by
  have hvalid : fleet.validPids reader (idTokens ids) = [] := by
    apply List.filter_eq_nil_iff.mpr
    intro pid hpid
    rw [decide_eq_true_eq]
    rintro ⟨si, hsi, rfl⟩
    exact hnone si hsi hpid
  rw [FleetTables.environmentRealtime, resolveSelectionPids_of_read hread hids, Option.bind_some,
    hvalid]
  rfl

end Choice

/-! ### Fleets to compare with -/

/-- Fleets of which no server has one of the public ids have the same of these servers. -/
lemma sameNamed_of_none {publicIds : List String} {fleet fleet' : FleetTables}
    (h : ∀ si ∈ fleet.serverInventory.rows, si.publicId ∉ publicIds)
    (h' : ∀ si ∈ fleet'.serverInventory.rows, si.publicId ∉ publicIds) :
    FleetTables.SameNamed publicIds fleet fleet' := by
  have hnobody : ∀ sid, fleet.named publicIds sid ≠ true := by
    intro sid hsid
    obtain ⟨si, hsi, -, hpid⟩ := of_decide_eq_true hsid
    exact h si hsi hpid
  refine ⟨fun si hpid => iff_of_false (fun hsi => h si hsi hpid) fun hsi => h' si hsi hpid, ?_⟩
  refine ⟨?_, fun r hr => absurd hr (hnobody _), fun sid hsid => absurd hsid (hnobody _)⟩
  constructor <;> exact fun r hr => absurd hr (hnobody _)

/-- No server. -/
def FleetTables.empty : FleetTables where
  toMetricTables := .empty
  serverCpuCore := ⟨[], List.Pairwise.nil⟩
  columns := fun _ => ⟨"", fun _ => none, fun _ _ => none, fun _ _ => none, none⟩

/-- One server, half of whose memory is used at instant zero. -/
def FleetTables.lone (publicId : String) : FleetTables where
  toMetricTables := { MetricTables.empty with
    serverInventory := ⟨[⟨1, publicId, none, none, none, none⟩], List.pairwise_singleton _ _⟩
    publicIds_nodup := List.nodup_singleton _
    serverMetrics := ⟨[{ MetricsRow.blank 1 0 with
      memLimitBytes := some 2, memAvailableBytes := some 1 }], List.pairwise_singleton _ _⟩ }
  serverCpuCore := ⟨[], List.Pairwise.nil⟩
  columns := FleetTables.empty.columns

lemma publicIds_empty {publicIds : List String} :
    ∀ si ∈ FleetTables.empty.serverInventory.rows, si.publicId ∉ publicIds :=
  fun _ hsi => absurd hsi List.not_mem_nil

lemma publicIds_lone {publicIds : List String} {publicId : String} (h : publicId ∉ publicIds) :
    ∀ si ∈ (FleetTables.lone publicId).serverInventory.rows, si.publicId ∉ publicIds := by
  intro si hsi
  rw [List.mem_singleton.mp hsi]
  exact h

/-- What does not change with servers that have none of the public ids does not tell these fleets
apart, where a fleet has none of the public ids. -/
lemma empty_eq_lone {β : Type*} {f : FleetTables → β} {publicIds : List String}
    {fleet : FleetTables}
    (hnone : ∀ si ∈ fleet.serverInventory.rows, si.publicId ∉ publicIds)
    (hf : ∀ fleet', FleetTables.SameNamed publicIds fleet fleet' → f fleet = f fleet')
    {publicId : String} (h : publicId ∉ publicIds) :
    f FleetTables.empty = f (FleetTables.lone publicId) := by
  have hempty := hf _ (sameNamed_of_none hnone publicIds_empty)
  have hlone := hf _ (sameNamed_of_none hnone (publicIds_lone h))
  exact hempty.symm.trans hlone

/-- The chart of the memory tells them apart. -/
lemma chart_empty_ne_lone (reader : UuidReader) (publicId : String) :
    FleetTables.empty.environmentMetricsChart reader 0 .memUsagePercent .m15 .m1 none ≠
      (FleetTables.lone publicId).environmentMetricsChart reader 0 .memUsagePercent .m15 .m1
        none := by
  have hchart :
      (FleetTables.lone "").getEnvironmentMetricChart 0 .memUsagePercent .m15 .m1 none ≠ [] := by
    decide
  exact fun heq => hchart (Option.some_inj.mp heq).symm

/-- The page counts the servers. -/
lemma page_empty_ne_lone (reader : UuidReader) (publicId : String) :
    FleetTables.empty.environmentRealtime reader 0 none ≠
      (FleetTables.lone publicId).environmentRealtime reader 0 none := by
  intro heq
  have htotal := congrArg (Option.map EnvironmentRealtime.total) heq
  exact absurd (Option.some_inj.mp htotal) Nat.zero_ne_one

/-! ### When a choice holds -/

section Holds

variable {reader : UuidReader} {ids : String} {fleet : FleetTables} (hids : idTokens ids ≠ [])

include hids

lemma not_chartHolds (hread : ¬∃ t ∈ idTokens ids, reader.read t = none)
    (hnone : ∀ si ∈ fleet.serverInventory.rows, si.publicId ∉ reader.uuids (idTokens ids)) :
    ¬fleet.ChartHolds reader ids := by
  intro hholds
  obtain ⟨fresh, hfresh⟩ := Infinite.exists_notMem_finset (reader.uuids (idTokens ids)).toFinset
  rw [List.mem_toFinset] at hfresh
  have hsame := empty_eq_lone
    (f := fun fleet =>
      fleet.environmentMetricsChart reader 0 .memUsagePercent .m15 .m1 (some ids))
    hnone (fun fleet' h => hholds fleet' h 0 .memUsagePercent .m15 .m1) hfresh
  rw [environmentMetricsChart_of_none hids hread publicIds_empty,
    environmentMetricsChart_of_none hids hread (publicIds_lone hfresh)] at hsame
  exact chart_empty_ne_lone reader fresh hsame

lemma not_pageHolds (hread : ¬∃ t ∈ idTokens ids, reader.read t = none)
    (hnone : ∀ si ∈ fleet.serverInventory.rows, si.publicId ∉ reader.canonical (idTokens ids)) :
    ¬fleet.PageHolds reader ids := by
  intro hholds
  obtain ⟨fresh, hfresh⟩ := Infinite.exists_notMem_finset
    (reader.canonical (idTokens ids)).toFinset
  rw [List.mem_toFinset] at hfresh
  have hsame := empty_eq_lone (f := fun fleet => fleet.environmentRealtime reader 0 (some ids))
    hnone (fun fleet' h => hholds fleet' h 0) hfresh
  rw [environmentRealtime_of_none hids hread publicIds_empty,
    environmentRealtime_of_none hids hread (publicIds_lone hfresh)] at hsame
  exact page_empty_ne_lone reader fresh hsame

/-- The charts hold when a token is no UUID or is that of a server. -/
lemma chartHolds_iff : fleet.ChartHolds reader ids ↔
    (∃ t ∈ idTokens ids, reader.read t = none) ∨
      ∃ si ∈ fleet.serverInventory.rows, si.publicId ∈ reader.uuids (idTokens ids) := by
  by_cases hread : ∃ t ∈ idTokens ids, reader.read t = none
  · exact iff_of_true (chartHolds_of_unread hids hread) (Or.inl hread)
  · rw [or_iff_right hread]
    constructor
    · intro hholds
      by_contra hnot
      exact not_chartHolds hids hread (fun si hsi hmem => hnot ⟨si, hsi, hmem⟩) hholds
    · rintro ⟨si, hsi, hnamed⟩
      exact chartHolds_of_named hread hids hsi hnamed

/-- The page holds when a token is no UUID or is the text of the public id of a server. -/
lemma pageHolds_iff : fleet.PageHolds reader ids ↔
    (∃ t ∈ idTokens ids, reader.read t = none) ∨
      ∃ si ∈ fleet.serverInventory.rows, si.publicId ∈ reader.canonical (idTokens ids) := by
  by_cases hread : ∃ t ∈ idTokens ids, reader.read t = none
  · exact iff_of_true (pageHolds_of_unread hids hread) (Or.inl hread)
  · rw [or_iff_right hread]
    constructor
    · intro hholds
      by_contra hnot
      exact not_pageHolds hids hread (fun si hsi hmem => hnot ⟨si, hsi, hmem⟩) hholds
    · rintro ⟨si, hsi, hnamed⟩
      exact pageHolds_of_named hids hread hsi hnamed

end Holds

/-- A choice with tokens never shows other servers exactly when a token is no UUID, on which the
query fails, or is the public id of a server.  When nothing is left of the choice, the whole
environment is shown. -/
theorem selectionHolds_iff (reader : UuidReader) {ids : String} (hids : idTokens ids ≠ [])
    (fleet : FleetTables) :
    fleet.SelectionHolds reader ids ↔
      (∃ t ∈ idTokens ids, reader.read t = none) ∨
        ∃ si ∈ fleet.serverInventory.rows, si.publicId ∈ reader.canonical (idTokens ids) := by
  constructor
  · exact fun h => (pageHolds_iff hids).mp h.page
  · intro h
    refine ⟨(chartHolds_iff hids).mpr (h.imp_right ?_), (pageHolds_iff hids).mpr h⟩
    rintro ⟨si, hsi, hnamed⟩
    exact ⟨si, hsi,
      (UuidReader.mem_canonical_iff (UuidReader.mem_canonical.mp hnamed).1).mp hnamed⟩

/-- Whether a text is the canonical text of a UUID. -/
def isCanonicalUuid (t : String) : Bool :=
  let parts := t.toList.splitOn '-'
  decide (parts.map List.length = [8, 4, 4, 4, 12]) &&
    parts.all fun part => part.all fun c => c.isDigit || ('a' ≤ c && c ≤ 'f')

/-- The driver, for which a UUID has no other text here. -/
def canonicalReader : UuidReader where
  read t := if isCanonicalUuid t then some t else none
  read_canonical := by
    intro t u h
    split_ifs at h with hcanonical
    cases h
    exact if_pos hcanonical

def uuidA : String := "00000000-0000-4000-8000-00000000000a"

def uuidB : String := "00000000-0000-4000-8000-00000000000b"

/-- The server that is chosen is there. -/
theorem lone_selectionHolds : (FleetTables.lone uuidA).SelectionHolds canonicalReader uuidA := by
  have htokens : idTokens uuidA = [uuidA] := by decide
  have hids : idTokens uuidA ≠ [] := htokens ▸ List.cons_ne_nil _ _
  refine (selectionHolds_iff canonicalReader hids (FleetTables.lone uuidA)).mpr (Or.inr ?_)
  refine ⟨_, List.mem_singleton_self _, ?_⟩
  rw [UuidReader.mem_canonical, htokens]
  exact ⟨List.mem_singleton_self _, by decide⟩

/-- The server that is chosen is gone: the charts and the page show the one that is left. -/
theorem lone_not_selectionHolds :
    idTokens uuidB ≠ [] ∧ ¬(FleetTables.lone uuidA).ChartHolds canonicalReader uuidB ∧
      ¬(FleetTables.lone uuidA).PageHolds canonicalReader uuidB := by
  have htokens : idTokens uuidB = [uuidB] := by decide
  have hids : idTokens uuidB ≠ [] := htokens ▸ List.cons_ne_nil _ _
  have hread : ¬∃ t ∈ idTokens uuidB, canonicalReader.read t = none := by
    rw [htokens]
    decide
  refine ⟨hids, not_chartHolds hids hread (publicIds_lone ?_),
    not_pageHolds hids hread (publicIds_lone ?_)⟩
  · rw [htokens]
    decide
  · rw [htokens]
    decide

end AssessmentEngine
