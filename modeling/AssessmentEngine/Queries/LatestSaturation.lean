import AssessmentEngine.Library.RowRanks
import AssessmentEngine.Queries.ErrorCounts
import AssessmentEngine.Queries.HostTrends

/-!
# The saturation of a server now

`latest_saturation`: the differences of the two newest samples of each device, as the pages that
refresh themselves show them.
-/

namespace AssessmentEngine

open RowGroups RowRanks

/-- `SaturationRaw`. -/
structure SaturationRaw where
  runQueue : Option ℚ
  awaitMs : Option ℚ
  diskIoUtilPct : Option ℚ
  pendingOps : Option ℚ
  pagingMajorRate : Option ℚ
  retransPct : Option ℚ
  dropPct : Option ℚ
  conntrackRatio : Option ℚ
  psiCpu : Option ℚ
  psiMem : Option ℚ
  psiIo : Option ℚ
  deriving DecidableEq, Repr

/-- `a - b`, null when one of them is. -/
def minus {α : Type} [Sub α] (a b : Option α) : Option α :=
  a.bind fun a => b.map fun b => a - b

/-! ## The host -/

/-- A row of `m`. -/
structure HostNow where
  serverId : ℕ
  runQueue : Option ℚ
  retransDelta : Option ℤ
  conntrackRatio : Option ℚ
  pagingMajorRate : Option ℚ
  deriving DecidableEq, Repr

/-- The rows of `m2`. -/
def MetricTables.hostRows (db : MetricTables) (sids : List ℕ) (since now : ℤ) :
    List (MetricsRow × InventoryRow) :=
  (db.metricsIn sids since now).filterMap fun r => (db.server r.serverId).map fun si => (r, si)

/-- `rn` of `m2`. -/
def hostRn (m2 : List (MetricsRow × InventoryRow)) (p : MetricsRow × InventoryRow) : ℕ :=
  rowNumber (fun p : MetricsRow × InventoryRow => p.1.serverId) (fun p => p.1.collectedAt) m2 p

/-- `paging_major_rate` of `m`. -/
def pagingMajorRate (rn : MetricsRow × InventoryRow → ℕ)
    (group : List (MetricsRow × InventoryRow)) : Option ℚ := do
  let paging := fun p : MetricsRow × InventoryRow => pagingCounter p.1 p.2
  let time := fun p : MetricsRow × InventoryRow => some p.1.collectedAt
  let p1 ← maxAt rn 1 paging group
  let p2 ← maxAt rn 2 paging group
  let t1 ← maxAt rn 1 time group
  let t2 ← maxAt rn 2 time group
  if p2 ≤ p1 ∧ t2 < t1 then some ((p1 - p2 : ℤ) / epochSeconds t1 t2) else none

def hostNowOf (m2 : List (MetricsRow × InventoryRow)) (sid : ℕ)
    (group : List (MetricsRow × InventoryRow)) : HostNow :=
  let rn := hostRn m2
  let retransmits := fun p : MetricsRow × InventoryRow => p.1.netTcpRetransmits
  let limit := maxAt rn 1 (fun p => p.1.netConntrackLimit) group
  { serverId := sid
    runQueue := maxAt rn 1 (fun p => p.1.cpuRunQueue) group
    retransDelta := minus (maxAt rn 1 retransmits group) (maxAt rn 2 retransmits group)
    conntrackRatio :=
      if limit.any (0 < ·) then
        ratio (column (maxAt rn 1 (fun p => p.1.netConntrackUsage) group)) (column limit)
      else none
    pagingMajorRate := pagingMajorRate rn group }

/-- `m`. -/
def MetricTables.hostsNow (db : MetricTables) (sids : List ℕ) (since now : ℤ) : List HostNow :=
  let m2 := db.hostRows sids since now
  groupBy (fun p : MetricsRow × InventoryRow => p.1.serverId) (hostNowOf m2)
    (m2.filter fun p => hostRn m2 p ≤ 2)

/-! ## The disks -/

/-- A row of `dd`. -/
structure DiskNow where
  serverId : ℕ
  tDelta : Option ℚ
  opsDelta : Option ℤ
  iotDelta : Option ℚ
  wall : Option ℚ
  pendingOps : Option ℚ
  deriving DecidableEq, Repr

/-- The rows of `d2`. -/
def MetricTables.diskRows (db : MetricTables) (sids : List ℕ) (since now : ℤ) : List DiskIoRow :=
  db.serverDiskIo.rows.filter fun r =>
    r.serverId ∈ sids ∧ since ≤ r.collectedAt ∧ r.collectedAt ≤ skewEnd now ∧
      db.physDisk r.serverId r.deviceId = true

/-- `rn` of `d2`. -/
def diskRn (d2 : List DiskIoRow) (r : DiskIoRow) : ℕ :=
  rowNumber (fun r : DiskIoRow => (r.serverId, r.deviceId)) (fun r => r.collectedAt) d2 r

def diskNowOf (d2 : List DiskIoRow) (k : ℕ × String) (group : List DiskIoRow) : DiskNow :=
  let rn := diskRn d2
  let delta := fun f : DiskIoRow → ℚ =>
    minus (maxAt rn 1 (fun r => some (f r)) group) (maxAt rn 2 (fun r => some (f r)) group)
  { serverId := k.1
    tDelta := delta DiskIoRow.opTime
    opsDelta := minus (maxAt rn 1 (fun r => some r.ops) group)
      (maxAt rn 2 (fun r => some r.ops) group)
    iotDelta := delta DiskIoRow.ioTime
    wall := (maxAt rn 1 (fun r => some r.collectedAt) group).bind fun t1 =>
      (maxAt rn 2 (fun r => some r.collectedAt) group).map fun t2 => epochSeconds t1 t2
    pendingOps := maxAt rn 1 (fun r => r.pendingOps) group }

/-- `dd`. -/
def MetricTables.disksNow (db : MetricTables) (sids : List ℕ) (since now : ℤ) : List DiskNow :=
  let d2 := db.diskRows sids since now
  groupBy (fun r : DiskIoRow => (r.serverId, r.deviceId)) (diskNowOf d2)
    (d2.filter fun r => diskRn d2 r ≤ 2)

namespace DiskNow

/-- `await_ms` of a disk that is busy. -/
def awaitMs (d : DiskNow) : Option ℚ := do
  let t ← d.tDelta
  let ops ← d.opsDelta
  let iot ← d.iotDelta
  let wall ← d.wall
  if 0 < ops ∧ 0 ≤ t ∧ 0 < wall ∧ rsDiskioUtilMin ≤ iot / wall ∧ iot ≤ wall then
    some (t / ops * 1000)
  else none

/-- `ops_delta > 0 AND wall > 0 AND iot_delta >= 0 AND iot_delta <= wall`. -/
def trusted (d : DiskNow) : Bool :=
  d.opsDelta.any (0 < ·) && d.wall.any fun wall =>
    d.iotDelta.any fun iot => 0 < wall ∧ 0 ≤ iot ∧ iot ≤ wall

/-- `disk_io_util_pct` of a disk. -/
def diskIoUtilPct (d : DiskNow) : Option ℚ :=
  if d.trusted then percent d.iotDelta d.wall else none

/-- `pending_ops` of a disk. -/
def trustedPendingOps (d : DiskNow) : Option ℚ := if d.trusted then d.pendingOps else none

end DiskNow

/-- A row of `da`. -/
structure WorstDisk where
  serverId : ℕ
  awaitMs : Option ℚ
  diskIoUtilPct : Option ℚ
  pendingOps : Option ℚ
  deriving DecidableEq, Repr

/-- `da`. -/
def worstDisks (dd : List DiskNow) : List WorstDisk :=
  groupBy (fun d : DiskNow => d.serverId)
    (fun sid group =>
      { serverId := sid
        awaitMs := Nullable.maxSome (group.map DiskNow.awaitMs)
        diskIoUtilPct := Nullable.maxSome (group.map DiskNow.diskIoUtilPct)
        pendingOps := Nullable.maxSome (group.map DiskNow.trustedPendingOps) }) dd

/-! ## The network -/

/-- A row of `nt`. -/
structure NetNow where
  serverId : ℕ
  pktDelta : Option ℤ
  txpDelta : Option ℤ
  dropDelta : Option ℤ
  deriving DecidableEq, Repr

namespace NetIoRow

/-- `COALESCE(tx_packets,0)+COALESCE(rx_packets,0)`. -/
def packets (r : NetIoRow) : ℤ := r.txPackets.getD 0 + r.rxPackets.getD 0

def sent (r : NetIoRow) : ℤ := r.txPackets.getD 0

/-- `COALESCE(rx_dropped,0)+COALESCE(tx_dropped,0)`. -/
def dropped (r : NetIoRow) : ℤ := r.rxDropped.getD 0 + r.txDropped.getD 0

end NetIoRow

/-- `rn` of `n2`. -/
def netRn (n2 : List NetIoRow) (r : NetIoRow) : ℕ :=
  rowNumber (fun r : NetIoRow => (r.serverId, r.ifaceId)) (fun r => r.collectedAt) n2 r

/-- The sums of the newest samples of the interfaces less those of the second newest. -/
def netNowOf (n2 : List NetIoRow) (sid : ℕ) (group : List NetIoRow) : NetNow :=
  let delta := fun f : NetIoRow → ℤ =>
    minus (sumAt (netRn n2) 1 f group) (sumAt (netRn n2) 2 f group)
  { serverId := sid
    pktDelta := delta NetIoRow.packets
    txpDelta := delta NetIoRow.sent
    dropDelta := delta NetIoRow.dropped }

/-- `nt`. -/
def MetricTables.netsNow (db : MetricTables) (sids : List ℕ) (since now : ℤ) : List NetNow :=
  let n2 := db.netIoIn sids since now
  groupBy (fun r : NetIoRow => r.serverId) (netNowOf n2) (n2.filter fun r => netRn n2 r ≤ 2)

/-! ## The pressure -/

/-- The innermost rows of `psi`. -/
def MetricTables.pressureRows (db : MetricTables) (sids : List ℕ) (since now : ℤ) :
    List PressureRow :=
  db.serverPressure.rows.filter fun r =>
    r.serverId ∈ sids ∧ r.scope = "some" ∧ since ≤ r.collectedAt ∧ r.collectedAt ≤ skewEnd now

/-- `rate` of a resource. -/
def psiRateOf (pp : List PressureRow) (group : List PressureRow) : Option ℚ := do
  let rn := rowNumber (fun r : PressureRow => (r.serverId, r.resource)) (fun r => r.collectedAt) pp
  let s1 ← maxAt rn 1 (fun r => r.stallTimeS) group
  let s2 ← maxAt rn 2 (fun r => r.stallTimeS) group
  let t1 ← maxAt rn 1 (fun r => some r.collectedAt) group
  let t2 ← maxAt rn 2 (fun r => some r.collectedAt) group
  if s2 ≤ s1 ∧ t2 < t1 then some ((s1 - s2) / epochSeconds t1 t2 * 100) else none

/-- `psi`: the rate of a resource of a server. -/
def MetricTables.psiNow (db : MetricTables) (sids : List ℕ) (since now : ℤ) (sid : ℕ)
    (resource : String) : Option ℚ :=
  let pp := db.pressureRows sids since now
  let rn := rowNumber (fun r : PressureRow => (r.serverId, r.resource)) (fun r => r.collectedAt) pp
  Nullable.maxSome (groupBy (fun r : PressureRow => (r.serverId, r.resource))
    (fun k group => if k = (sid, resource) then psiRateOf pp group else none)
    (pp.filter fun r => rn r ≤ 2))

/-! ## The rows of a server -/

/-- `CASE WHEN den > 0 AND num >= 0 THEN num::float / den * 100 END`. -/
def shownPct (num den : Option ℤ) : Option ℚ :=
  if den.any (0 < ·) ∧ num.any (0 ≤ ·) then percent (column num) (column den) else none

/-- `latest_saturation`, a row for each server with a sample. -/
def MetricTables.latestSaturation (db : MetricTables) (sids : List ℕ) (since now : ℤ) :
    List (ℕ × SaturationRaw) :=
  if sids = [] then [] else
    let disks := worstDisks (db.disksNow sids since now)
    let nets := db.netsNow sids since now
    (db.hostsNow sids since now).map fun m =>
      let da := disks.find? fun d => d.serverId = m.serverId
      let nt := nets.find? fun n => n.serverId = m.serverId
      (m.serverId,
        { runQueue := m.runQueue
          awaitMs := da.bind fun d => d.awaitMs
          diskIoUtilPct := da.bind fun d => d.diskIoUtilPct
          pendingOps := da.bind fun d => d.pendingOps
          pagingMajorRate := m.pagingMajorRate
          retransPct := shownPct m.retransDelta (nt.bind fun n => n.txpDelta)
          dropPct := shownPct (nt.bind fun n => n.dropDelta) (nt.bind fun n => n.pktDelta)
          conntrackRatio := m.conntrackRatio
          psiCpu := db.psiNow sids since now m.serverId "cpu"
          psiMem := db.psiNow sids since now m.serverId "memory"
          psiIo := db.psiNow sids since now m.serverId "io" })

end AssessmentEngine
