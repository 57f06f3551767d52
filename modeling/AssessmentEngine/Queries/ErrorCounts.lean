import AssessmentEngine.Library.CounterSpread
import AssessmentEngine.Library.RowGroups
import AssessmentEngine.Queries.MetricTables

/-!
# Error counts

`latest_errors` and the signals that `build_error_signals` makes of it, with `fleet_error_summary`
and `fleet_error_hosts`.  The counters are cumulative, and each query takes what a counter counted
to be the difference between its greatest and its least value in the window
(`count_latestErrors`).
-/

namespace AssessmentEngine

open CounterSpread Nullable RowGroups

/-! ## The samples of a window -/

/-- `now() + interval '2 minutes'`. -/
def skewEnd (now : ℤ) : ℤ := now + 2 * 60 * 1000000

/-- `server_id = ANY(:sids) AND collected_at >= :since AND collected_at <= now() + …`. -/
def MetricTables.metricsIn (db : MetricTables) (sids : List ℕ) (since now : ℤ) :
    List MetricsRow :=
  db.serverMetrics.rows.filter fun r =>
    r.serverId ∈ sids ∧ since ≤ r.collectedAt ∧ r.collectedAt ≤ skewEnd now

def MetricTables.netIoIn (db : MetricTables) (sids : List ℕ) (since now : ℤ) : List NetIoRow :=
  db.serverNetIo.rows.filter fun r =>
    r.serverId ∈ sids ∧ since ≤ r.collectedAt ∧ r.collectedAt ≤ skewEnd now

def MetricTables.diskErrorsIn (db : MetricTables) (sids : List ℕ) (since now : ℤ) :
    List DiskErrorRow :=
  db.serverDiskError.rows.filter fun r =>
    r.serverId ∈ sids ∧ since ≤ r.collectedAt ∧ r.collectedAt ≤ skewEnd now

/-- `COALESCE(rx_errors,0)+COALESCE(tx_errors,0)`. -/
def NetIoRow.errors (r : NetIoRow) : ℤ := r.rxErrors.getD 0 + r.txErrors.getD 0

/-- `device_id, error_kind, error_class, member`. -/
def DiskErrorRow.counter (r : DiskErrorRow) : String × String × String × String :=
  (r.deviceId, r.errorKind, r.errorClass, r.member)

/-! ## One server -/

/-- `ErrorFleetRaw`. -/
structure ErrorFleetRaw where
  measured : Bool := false
  netMeasured : Bool := false
  diskErrMeasured : Bool := false
  mceCount : ℤ := 0
  oomCount : ℤ := 0
  corruptedBytes : Option ℤ := none
  netErrorCount : ℤ := 0
  diskErrorCount : ℤ := 0
  diskErrorKinds : List String := []
  lastErrorAt : Option ℤ := none
  deriving DecidableEq, Repr

/-- The newest value of the gauge; this subquery has no upper bound. -/
def MetricTables.corrupted (db : MetricTables) (sid : ℕ) (since : ℤ) : Option ℤ :=
  (Table.latest (fun r : MetricsRow => r.collectedAt)
    (db.serverMetrics.rows.filter fun r => r.serverId = sid ∧ since ≤ r.collectedAt)).bind
      fun r => r.memHardwareCorruptedBytes

/-- A counter of `server_disk_error` with what it counted. -/
structure DiskErrorGroup where
  kc : String
  d : Option ℤ
  lastAt : Option ℤ
  deriving DecidableEq, Repr

/-- `error_kind || CASE WHEN error_class = '' THEN '' ELSE '/' || error_class END`. -/
def diskErrorKc (errorKind errorClass : String) : String :=
  errorKind ++ if errorClass = "" then "" else "/" ++ errorClass

def diskErrorGroups (rows : List DiskErrorRow) : List DiskErrorGroup :=
  groupBy DiskErrorRow.counter
    (fun k group => ⟨diskErrorKc k.2.1 k.2.2.1, spread (group.map fun r => r.count),
      maxSome (group.map fun r => some r.collectedAt)⟩) rows

/-- `WHERE d > 0`. -/
def positive (d : Option ℤ) : Bool := d.any fun v => 0 < v

/-- `latest_errors`. -/
def MetricTables.latestErrors (db : MetricTables) (sid : ℕ) (since now : ℤ) : ErrorFleetRaw :=
  let m := db.metricsIn [sid] since now
  let net := groupBy NetIoRow.ifaceId
    (fun _ group => spread (group.map fun r => some r.errors)) (db.netIoIn [sid] since now)
  let de := diskErrorGroups (db.diskErrorsIn [sid] since now)
  { measured := 0 < m.length
    netMeasured := 0 < net.length
    diskErrMeasured := true
    mceCount := (spread (m.map fun r => r.cpuMce)).getD 0
    oomCount := (spread (m.map fun r => r.memOomKill)).getD 0
    corruptedBytes := db.corrupted sid since
    netErrorCount := (sumSome net).getD 0
    diskErrorCount := (sumSome (de.map fun g => g.d)).getD 0
    diskErrorKinds :=
      ((de.filter fun g => positive g.d).map fun g => g.kc).dedup.insertionSort (· ≤ ·)
    lastErrorAt := maxSome ((de.filter fun g => positive g.d).map fun g => g.lastAt) }

/-! ## Signals -/

inductive ErrorState
  | clean
  | occurred
  | noData
  | notApplicable
  deriving DecidableEq, Repr

/-- `ErrorSignal`. -/
structure ErrorSignal where
  key : String
  label : String
  state : ErrorState
  count : Option ℤ := none
  context : Option String := none
  lastAt : Option ℤ := none
  windowLabel : Option String := none
  detail : Option String := none
  deriving DecidableEq, Repr

/-- `_error_counter`. -/
def errorCounter (key label : String) (count : ℤ) (measured : Bool) (detail : String)
    (lastAt : Option ℤ) (context : Option String) (windowLabel : String) : ErrorSignal :=
  if !measured then
    { key, label, state := .noData, windowLabel, detail }
  else if 0 < count then
    { key, label, state := .occurred, count, context, lastAt, windowLabel, detail }
  else
    { key, label, state := .clean, count := some 0, windowLabel, detail }

def edacDetail : String := "ECC 정정된 하드웨어 메모리 손상 바이트"

/-- The signal of the gauge. -/
def corruptedSignal (err : ErrorFleetRaw) (windowLabel : String) (osFamily : Option String) :
    ErrorSignal :=
  let signal : ErrorSignal :=
    { key := "mem_corrupted", label := "메모리 손상(EDAC)", state := .noData, windowLabel,
      detail := edacDetail }
  if osFamily = some "windows" then
    { signal with state := .notApplicable, detail := some "Windows 미지원(WHEA 소스 부재)" }
  else
    match err.corruptedBytes with
    | none => signal
    | some bytes =>
      if 0 < bytes then
        { signal with state := .occurred, context := some (toString bytes ++ " bytes 손상") }
      else { signal with state := .clean, count := some 0 }

/-- `build_error_signals`. -/
def buildErrorSignals (err : ErrorFleetRaw) (windowLabel : String) (osFamily : Option String) :
    List ErrorSignal :=
  [errorCounter "cpu_mce" "머신체크(MCE)" err.mceCount err.measured
      "CPU/메모리 하드웨어 정정불가 오류(machine check exception)" none none windowLabel,
    errorCounter "mem_oom" "OOM Kill" err.oomCount err.measured
      "메모리 부족으로 커널이 프로세스 강제 종료" none none windowLabel,
    errorCounter "net_errors" "NIC 에러" err.netErrorCount err.netMeasured
      "네트워크 인터페이스 rx/tx 오류 프레임" none none windowLabel,
    errorCounter "disk_errors" "디스크 에러" err.diskErrorCount err.diskErrMeasured
      "RAID degraded·파일시스템 손상·IO 오류" err.lastErrorAt
      (if err.diskErrorKinds = [] then none
        else some (String.intercalate ", " err.diskErrorKinds)) windowLabel,
    corruptedSignal err windowLabel osFamily]

/-! ## A fleet -/

/-- A server in the subquery over `server_metrics`. -/
structure HostErrors where
  serverId : ℕ
  mceD : ℤ
  oomD : ℤ
  corrupted : ℤ
  deriving DecidableEq, Repr

/-- The subquery over `server_metrics`. -/
def hostErrors (rows : List MetricsRow) : List HostErrors :=
  groupBy (fun r : MetricsRow => r.serverId)
    (fun sid group => ⟨sid, (spread (group.map fun r => r.cpuMce)).getD 0,
      (spread (group.map fun r => r.memOomKill)).getD 0,
      (maxSome (group.map fun r => r.memHardwareCorruptedBytes)).getD 0⟩) rows

/-- The subquery over `server_net_io`: for each server the sum over its interfaces. -/
def hostNetErrors (rows : List NetIoRow) : List (ℕ × Option ℤ) :=
  groupBy Prod.fst (fun sid ds => (sid, sumSome (ds.map Prod.snd)))
    (groupBy (fun r : NetIoRow => (r.serverId, r.ifaceId))
      (fun k group => (k.1, spread (group.map fun r => some r.errors))) rows)

/-- The subquery over `server_disk_error`: the counters of the servers. -/
def hostDiskErrors (rows : List DiskErrorRow) : List (ℕ × Option ℤ) :=
  groupBy (fun r : DiskErrorRow => (r.serverId, r.counter))
    (fun k group => (k.1, spread (group.map fun r => r.count))) rows

/-- `FleetErrorRaw`. -/
structure FleetErrorRaw where
  total : ℕ := 0
  mceHosts : ℕ := 0
  oomHosts : ℕ := 0
  corruptedHosts : ℕ := 0
  netErrorHosts : ℕ := 0
  diskErrorHosts : ℕ := 0
  deriving DecidableEq, Repr

/-- `fleet_error_summary`. -/
def MetricTables.fleetErrorSummary (db : MetricTables) (serverIds : List ℕ) (since now : ℤ) :
    FleetErrorRaw :=
  if serverIds = [] then {}
  else
    let m := hostErrors (db.metricsIn serverIds since now)
    { total := m.length
      mceHosts := m.countP fun x => 0 < x.mceD
      oomHosts := m.countP fun x => 0 < x.oomD
      corruptedHosts := m.countP fun x => 0 < x.corrupted
      netErrorHosts :=
        (hostNetErrors (db.netIoIn serverIds since now)).countP fun x => positive x.2
      diskErrorHosts :=
        (((hostDiskErrors (db.diskErrorsIn serverIds since now)).filter fun x =>
          positive x.2).map Prod.fst).dedup.length }

/-- `fleet_error_hosts`. -/
def MetricTables.fleetErrorHosts (db : MetricTables) (serverIds : List ℕ) (since now : ℤ) :
    Finset ℕ :=
  if serverIds = [] then ∅
  else
    (((hostErrors (db.metricsIn serverIds since now)).filter fun x =>
        0 < x.mceD ∨ 0 < x.oomD ∨ 0 < x.corrupted).map fun x => x.serverId).toFinset ∪
      ((((hostNetErrors (db.netIoIn serverIds since now)).filter fun x =>
        positive x.2).map Prod.fst).toFinset ∪
      (((hostDiskErrors (db.diskErrorsIn serverIds since now)).filter fun x =>
        positive x.2).map Prod.fst).toFinset)

/-! ## The counters -/

/-- The axes that count. -/
inductive ErrorAxis
  | mce
  | oom
  | net
  | disk
  deriving DecidableEq, Repr

def ErrorFleetRaw.count (err : ErrorFleetRaw) : ErrorAxis → ℤ
  | .mce => err.mceCount
  | .oom => err.oomCount
  | .net => err.netErrorCount
  | .disk => err.diskErrorCount

/-- A column is measured where it is not null. -/
def columnReadings (vs : List (Option ℤ)) : Readings ℤ := ⟨vs, vs.reduceOption⟩

/-- Received and sent errors together are measured where both are. -/
def NetIoRow.errorsMeasured (r : NetIoRow) : Option ℤ := do
  let rx ← r.rxErrors
  let tx ← r.txErrors
  return rx + tx

def ifaceReadings (rows : List NetIoRow) : Readings ℤ :=
  ⟨rows.map fun r => some r.errors, (rows.map NetIoRow.errorsMeasured).reduceOption⟩

def diskErrorReadings (rows : List DiskErrorRow) : Readings ℤ :=
  columnReadings (rows.map fun r => r.count)

/-- The counters of an axis. -/
def MetricTables.counters (db : MetricTables) (sid : ℕ) (since now : ℤ) :
    ErrorAxis → List (Readings ℤ)
  | .mce => [columnReadings ((db.metricsIn [sid] since now).map fun r => r.cpuMce)]
  | .oom => [columnReadings ((db.metricsIn [sid] since now).map fun r => r.memOomKill)]
  | .net => groupBy NetIoRow.ifaceId (fun _ group => ifaceReadings group)
      (db.netIoIn [sid] since now)
  | .disk => groupBy DiskErrorRow.counter (fun _ group => diskErrorReadings group)
      (db.diskErrorsIn [sid] since now)

section Order

variable {db : MetricTables} {sid : ℕ} {since now : ℤ}

lemma mem_metricsIn {sids : List ℕ} {r : MetricsRow} : r ∈ db.metricsIn sids since now ↔
    r ∈ db.serverMetrics.rows ∧ r.serverId ∈ sids ∧ since ≤ r.collectedAt ∧
      r.collectedAt ≤ skewEnd now := by
  simp [MetricTables.metricsIn]

lemma mem_netIoIn {sids : List ℕ} {r : NetIoRow} : r ∈ db.netIoIn sids since now ↔
    r ∈ db.serverNetIo.rows ∧ r.serverId ∈ sids ∧ since ≤ r.collectedAt ∧
      r.collectedAt ≤ skewEnd now := by
  simp [MetricTables.netIoIn]

lemma mem_diskErrorsIn {sids : List ℕ} {r : DiskErrorRow} : r ∈ db.diskErrorsIn sids since now ↔
    r ∈ db.serverDiskError.rows ∧ r.serverId ∈ sids ∧ since ≤ r.collectedAt ∧
      r.collectedAt ≤ skewEnd now := by
  simp [MetricTables.diskErrorsIn]

/-- The samples of a server lie in the order of their times. -/
lemma metricsIn_pairwise :
    (db.metricsIn [sid] since now).Pairwise fun a b => a.collectedAt < b.collectedAt := by
  refine List.Pairwise.imp_of_mem ?_ (db.serverMetrics.sorted.filter _)
  intro a b ha hb hkey
  obtain ⟨-, ha, -⟩ := mem_metricsIn.mp ha
  obtain ⟨-, hb, -⟩ := mem_metricsIn.mp hb
  rw [List.mem_singleton] at ha hb
  simpa [MetricsRow.key, Prod.Lex.toLex_lt_toLex, ha, hb] using hkey

/-- So do those of an interface. -/
lemma netIoIn_pairwise (iface : String) :
    (rowsWith NetIoRow.ifaceId iface (db.netIoIn [sid] since now)).Pairwise
      fun a b => a.collectedAt < b.collectedAt := by
  refine List.Pairwise.imp_of_mem ?_ ((db.serverNetIo.sorted.filter _).filter _)
  intro a b ha hb hkey
  obtain ⟨ha, hai⟩ := mem_rowsWith.mp ha
  obtain ⟨hb, hbi⟩ := mem_rowsWith.mp hb
  obtain ⟨-, ha, -⟩ := mem_netIoIn.mp ha
  obtain ⟨-, hb, -⟩ := mem_netIoIn.mp hb
  rw [List.mem_singleton] at ha hb
  simpa [NetIoRow.key, Prod.Lex.toLex_lt_toLex, ha, hb, hai, hbi] using hkey

/-- And those of a counter of disk errors. -/
lemma diskErrorsIn_pairwise (counter : String × String × String × String) :
    (rowsWith DiskErrorRow.counter counter (db.diskErrorsIn [sid] since now)).Pairwise
      fun a b => a.collectedAt < b.collectedAt := by
  refine List.Pairwise.imp_of_mem ?_ ((db.serverDiskError.sorted.filter _).filter _)
  intro a b ha hb hkey
  obtain ⟨ha, hac⟩ := mem_rowsWith.mp ha
  obtain ⟨hb, hbc⟩ := mem_rowsWith.mp hb
  obtain ⟨-, ha, -⟩ := mem_diskErrorsIn.mp ha
  obtain ⟨-, hb, -⟩ := mem_diskErrorsIn.mp hb
  rw [List.mem_singleton] at ha hb
  rw [← hbc, DiskErrorRow.counter, DiskErrorRow.counter, Prod.mk.injEq, Prod.mk.injEq,
    Prod.mk.injEq] at hac
  obtain ⟨hdevice, hkind, hclass, hmember⟩ := hac
  simpa [DiskErrorRow.key, Prod.Lex.toLex_lt_toLex, ha, hb, hdevice, hkind, hclass, hmember]
    using hkey

end Order

/-! ## Counts are spreads -/

section Counts

variable (db : MetricTables) (sid : ℕ) (since now : ℤ)

lemma map_spread_groupBy {ρ κ : Type} [DecidableEq κ] (key : ρ → κ) (f : List ρ → Readings ℤ)
    (rows : List ρ) :
    (groupBy key (fun _ group => f group) rows).map Readings.spread =
      groupBy key (fun _ group => (f group).spread) rows := by
  rw [groupBy, groupBy, List.map_map]
  rfl

/-- The count on an axis is the sum of the spreads of its counters. -/
lemma count_latestErrors (axis : ErrorAxis) : (db.latestErrors sid since now).count axis =
    ((db.counters sid since now axis).map Readings.spread).sum := by
  cases axis with
  | mce => simp [ErrorFleetRaw.count, MetricTables.latestErrors, MetricTables.counters,
      columnReadings, Readings.spread]
  | oom => simp [ErrorFleetRaw.count, MetricTables.latestErrors, MetricTables.counters,
      columnReadings, Readings.spread]
  | net =>
    simp only [ErrorFleetRaw.count, MetricTables.latestErrors, MetricTables.counters]
    rw [sumSome_getD, map_spread_groupBy, groupBy, groupBy, List.map_map]
    rfl
  | disk =>
    simp only [ErrorFleetRaw.count, MetricTables.latestErrors, MetricTables.counters]
    rw [sumSome_getD, map_spread_groupBy, diskErrorGroups, groupBy, groupBy, List.map_map,
      List.map_map]
    rfl

variable {db sid since now}

/-- It is positive when one of the counters has a spread. -/
lemma count_pos_iff {axis : ErrorAxis} : 0 < (db.latestErrors sid since now).count axis ↔
    ∃ c ∈ db.counters sid since now axis, 0 < c.spread := by
  rw [count_latestErrors, sum_spread_pos_iff]

end Counts

end AssessmentEngine
