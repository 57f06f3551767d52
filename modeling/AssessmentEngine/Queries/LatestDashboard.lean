import AssessmentEngine.Library.Newest
import AssessmentEngine.Mappers.Dashboard
import AssessmentEngine.Queries.LatestSaturation
import AssessmentEngine.Queries.MetricTrend

/-!
# The latest snapshot of a server

`latest_metric`: the dashboard of the newest samples of a server, unless one is in the cache.  It
depends on what is stored for this server alone (`latestMetric_congr`), and so does its row of
`latest_saturation` (`latestSaturation_congr`).
-/

namespace AssessmentEngine

open Newest RowRanks

/-! ## The tables of the pages of the environment -/

/-- A row of `server_cpu_core`. -/
structure CpuCoreRow extends CpuCoreRaw where
  serverId : ℕ
  deriving DecidableEq, Repr

def CpuCoreRow.key (r : CpuCoreRow) : ℕ ×ₗ ℤ ×ₗ ℤ :=
  toLex (r.serverId, toLex (r.coreId, r.collectedAt))

/-- What else is stored for a server: columns of its rows, by the keys of the rows, and the
dashboard in the cache. -/
structure ServerColumns where
  hostname : String
  bootTime : ℤ → Option ℤ
  diskName : String → ℤ → Option String
  ifaceName : String → ℤ → Option String
  cachedMetric : Option MetricDashboard

/-- The tables that the pages of the environment read. -/
structure FleetTables extends MetricTables where
  serverCpuCore : KeyedTable CpuCoreRow.key
  columns : ℕ → ServerColumns

/-! ## The newest samples -/

/-- `_latest_per_dimension` on the rows of its window, which differ in dimension and time. -/
def latestPerDimension {ρ κ : Type*} [LinearOrder κ] (dim : ρ → κ) (time : ρ → ℤ) (n : ℕ)
    (window : List ρ) : List ρ :=
  (window.filter fun r => rowNumber dim time window r ≤ n).mergeSort fun a b =>
    decide (dim a < dim b ∨ dim a = dim b ∧ time b ≤ time a)

/-- The window of `_latest_per_dimension`. -/
def LatestWindow (now : ℤ) (sid serverId : ℕ) (t : ℤ) : Prop :=
  serverId = sid ∧ now - 30 * 24 * 60 * 60 * 1000000 ≤ t ∧ t ≤ skewEnd now

instance (now : ℤ) (sid serverId : ℕ) (t : ℤ) : Decidable (LatestWindow now sid serverId t) :=
  inferInstanceAs (Decidable (_ ∧ _ ∧ _))

namespace ServerColumns

def metricPair (columns : ServerColumns) (r : MetricsRow) : MetricPairAt where
  toCpuSeconds := r.toCpuSeconds
  memLimitBytes := r.memLimitBytes
  memAvailableBytes := r.memAvailableBytes
  memBufferedBytes := r.memBufferedBytes
  memCachedBytes := r.memCachedBytes
  bootTime := columns.bootTime r.collectedAt
  collectedAt := r.collectedAt

/-- The boot time is not selected. -/
def diskIo (columns : ServerColumns) (r : DiskIoRow) : DiskIoRaw where
  deviceId := r.deviceId
  collectedAt := r.collectedAt
  ioReadBytes := r.ioReadBytes
  ioWriteBytes := r.ioWriteBytes
  opsRead := r.opsRead
  opsWrite := r.opsWrite
  deviceName := columns.diskName r.deviceId r.collectedAt
  bootTime := none

/-- The boot time is not selected. -/
def netIo (columns : ServerColumns) (r : NetIoRow) : NetIoRaw where
  ifaceId := r.ifaceId
  collectedAt := r.collectedAt
  rxBytes := r.rxBytes
  txBytes := r.txBytes
  rxPackets := r.rxPackets
  txPackets := r.txPackets
  ifaceName := columns.ifaceName r.ifaceId r.collectedAt
  bootTime := none

end ServerColumns

namespace FleetTables

/-- `latest_dashboard`. -/
def latestDashboard (fleet : FleetTables) (now : ℤ) (sid : ℕ) : Option DashboardRaw :=
  (fleet.server sid).map fun si =>
    let columns := fleet.columns sid
    let metrics := fleet.serverMetrics.rows.filter fun r =>
      r.serverId = sid ∧ r.collectedAt ≤ skewEnd now
    let disks := fleet.serverDiskIo.rows.filter fun r =>
      LatestWindow now sid r.serverId r.collectedAt
    let cores := fleet.serverCpuCore.rows.filter fun r =>
      LatestWindow now sid r.serverId r.collectedAt
    let nets := fleet.serverNetIo.rows.filter fun r =>
      LatestWindow now sid r.serverId r.collectedAt
    let mounts := fleet.serverFilesystem.rows.filter fun r =>
      LatestWindow now sid r.serverId r.collectedAt
    { metrics := (newest (fun r : MetricsRow => r.collectedAt) 2 metrics).map columns.metricPair
      diskIo := (latestPerDimension DiskIoRow.deviceId DiskIoRow.collectedAt 2 disks).map
        columns.diskIo
      netIo := (latestPerDimension NetIoRow.ifaceId NetIoRow.collectedAt 2 nets).map columns.netIo
      filesystems :=
        (latestPerDimension FilesystemRow.mountpoint FilesystemRow.collectedAt 1 mounts).map
          fun r => ⟨r.mountpoint, r.usedBytes, r.freeBytes, r.fstype⟩
      blockDevices := si.blockDevices
      netInterfaces := si.netInterfaces
      cpuCores := (latestPerDimension (fun r : CpuCoreRow => r.coreId)
        (fun r => r.collectedAt) 2 cores).map CpuCoreRow.toCpuCoreRaw }

/-- `latest_metric`.  A dashboard that was not in the cache is put there, so that a second call
shows the same. -/
def latestMetric (fleet : FleetTables) (now : ℤ) (sid : ℕ) : Option MetricDashboard :=
  (fleet.columns sid).cachedMetric.or
    (((fleet.latestDashboard now sid).filter fun raw => decide (raw.metrics ≠ [])).map
      buildDashboard)

/-! ## What a snapshot depends on -/

/-- Two fleets have the same known servers, with the same stored for them. -/
structure AgreeOn (known : ℕ → Bool) (fleet fleet' : FleetTables) : Prop where
  tables : MetricTables.AgreeOn known (fun sid _ => known sid) fleet.toMetricTables
    fleet'.toMetricTables
  serverCpuCore : ∀ r, known r.serverId = true →
    (r ∈ fleet.serverCpuCore.rows ↔ r ∈ fleet'.serverCpuCore.rows)
  columns : ∀ sid, known sid = true → fleet.columns sid = fleet'.columns sid

end FleetTables

section Agree

variable {known : ℕ → Bool}

section Tables

variable {db db' : MetricTables} (h : MetricTables.AgreeOn known (fun sid _ => known sid) db db')

include h

lemma MetricTables.AgreeOn.server_eq {sid : ℕ} (hsid : known sid = true) :
    db.server sid = db'.server sid := by
  rw [← server_restrict db hsid, h.restrict_eq, server_restrict db' hsid]

lemma MetricTables.AgreeOn.physDisk_eq {sid : ℕ} (hsid : known sid = true) (deviceId : String) :
    db.physDisk sid deviceId = db'.physDisk sid deviceId := by
  rw [← physDisk_restrict db hsid, h.restrict_eq, physDisk_restrict db' hsid]

variable {sids : List ℕ} (hsids : ∀ sid ∈ sids, known sid = true) (since now : ℤ)

include hsids

lemma hostRows_congr : db.hostRows sids since now = db'.hostRows sids since now := by
  have hrows : db.metricsIn sids since now = db'.metricsIn sids since now :=
    KeyedTable.filter_congr fun r hr => h.serverMetrics r (hsids _ (of_decide_eq_true hr).1)
  unfold MetricTables.hostRows
  rw [hrows]
  apply List.filterMap_congr
  intro r hr
  have hsid : r.serverId ∈ sids := (of_decide_eq_true (List.mem_filter.mp hr).2).1
  rw [h.server_eq (hsids _ hsid)]

lemma diskRows_congr : db.diskRows sids since now = db'.diskRows sids since now := by
  have hphys : ∀ rows : List DiskIoRow,
      (rows.filter fun r => r.serverId ∈ sids ∧ since ≤ r.collectedAt ∧
        r.collectedAt ≤ skewEnd now ∧ db.physDisk r.serverId r.deviceId = true) =
      rows.filter fun r => r.serverId ∈ sids ∧ since ≤ r.collectedAt ∧
        r.collectedAt ≤ skewEnd now ∧ db'.physDisk r.serverId r.deviceId = true := by
    intro rows
    apply List.filter_congr
    intro r _
    rw [decide_eq_decide]
    apply and_congr_right
    intro hsid
    rw [h.physDisk_eq (hsids _ hsid)]
  rw [MetricTables.diskRows, hphys]
  exact KeyedTable.filter_congr fun r hr => h.serverDiskIo r (hsids _ (of_decide_eq_true hr).1)

/-- The rows of the servers are theirs alone. -/
lemma latestSaturation_congr :
    db.latestSaturation sids since now = db'.latestSaturation sids since now := by
  have hnets : db.netIoIn sids since now = db'.netIoIn sids since now :=
    KeyedTable.filter_congr fun r hr => h.serverNetIo r (hsids _ (of_decide_eq_true hr).1)
  have hpressure : db.pressureRows sids since now = db'.pressureRows sids since now :=
    KeyedTable.filter_congr fun r hr => h.serverPressure r (hsids _ (of_decide_eq_true hr).1)
  unfold MetricTables.latestSaturation MetricTables.hostsNow MetricTables.disksNow
    MetricTables.netsNow MetricTables.psiNow
  rw [hostRows_congr h hsids, diskRows_congr h hsids, hnets, hpressure]

end Tables

variable {fleet fleet' : FleetTables}

lemma latestDashboard_congr (h : FleetTables.AgreeOn known fleet fleet') {sid : ℕ}
    (hsid : known sid = true) (now : ℤ) :
    fleet.latestDashboard now sid = fleet'.latestDashboard now sid := by
  have hwindow : ∀ serverId t, LatestWindow now sid serverId t → known serverId = true :=
    fun serverId t hlatest => hlatest.1 ▸ hsid
  have hmetrics : (fleet.serverMetrics.rows.filter fun r =>
      r.serverId = sid ∧ r.collectedAt ≤ skewEnd now) =
        fleet'.serverMetrics.rows.filter fun r =>
          r.serverId = sid ∧ r.collectedAt ≤ skewEnd now :=
    KeyedTable.filter_congr fun r hr =>
      h.tables.serverMetrics r ((of_decide_eq_true hr).1 ▸ hsid)
  have hdisks := KeyedTable.filter_congr fun r hr =>
    h.tables.serverDiskIo r (hwindow r.serverId r.collectedAt (of_decide_eq_true hr))
  have hnets := KeyedTable.filter_congr fun r hr =>
    h.tables.serverNetIo r (hwindow r.serverId r.collectedAt (of_decide_eq_true hr))
  have hmounts := KeyedTable.filter_congr fun r hr =>
    h.tables.serverFilesystem r (hwindow r.serverId r.collectedAt (of_decide_eq_true hr))
  have hcores := KeyedTable.filter_congr fun r hr =>
    h.serverCpuCore r (hwindow r.serverId r.collectedAt (of_decide_eq_true hr))
  unfold FleetTables.latestDashboard
  rw [h.tables.server_eq hsid, h.columns sid hsid]
  simp only [hmetrics, hdisks, hnets, hmounts, hcores]

/-- The snapshot of a server depends on this server alone. -/
lemma latestMetric_congr (h : FleetTables.AgreeOn known fleet fleet') {sid : ℕ}
    (hsid : known sid = true) (now : ℤ) :
    fleet.latestMetric now sid = fleet'.latestMetric now sid := by
  unfold FleetTables.latestMetric
  rw [latestDashboard_congr h hsid, h.columns sid hsid]

end Agree

end AssessmentEngine
