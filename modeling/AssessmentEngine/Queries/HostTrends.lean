import AssessmentEngine.Queries.TrendWindow
import AssessmentEngine.Recommendation.Thresholds

/-!
# Charts of crossed thresholds

The four charts of a server that are one in a bucket in which it crossed a threshold, and the four
of the environment that count the servers that did.  The two of a kind have the same stages; the
one of the environment also groups by the server.
-/

namespace AssessmentEngine

open RowGroups

/-! ## The run queue -/

/-- `crossed` of `_trend_cpu_saturation`. -/
def runQueueCrossed (sm : MetricsRow) (si : InventoryRow) : Option Bool := do
  let runQueue ← sm.cpuRunQueue
  let cpuCores ← si.cpuCores
  return 1 ≤ runQueue / cpuCores /
    (if si.osFamily = some "windows" then cpuRunQueuePerCoreSaturation
      else procsRunningPerCoreSaturation)

def cpuSaturationFlags (db : MetricTables) (ctx : MetricTrendCtx) : List HostFlag :=
  ((db.joinedOf ctx ctx.start).filter fun p =>
    p.1.cpuRunQueue.isSome ∧ p.2.cpuCores.any (0 < ·)).map fun p =>
      ⟨p.1.collectedAt, p.1.serverId, runQueueCrossed p.1 p.2⟩

/-- `_trend_cpu_saturation`. -/
def trendCpuSaturation (db : MetricTables) (ctx : MetricTrendCtx) : List TrendPoint :=
  everSeries ctx ((cpuSaturationFlags db ctx).map fun x => (x.collectedAt, x.crossed))

/-- `_trend_cpu_saturation_hosts`. -/
def trendCpuSaturationHosts (db : MetricTables) (ctx : MetricTrendCtx) : List TrendPoint :=
  hostsSeries ctx (cpuSaturationFlags db ctx)

/-! ## Paging -/

/-- A row of `raw`. -/
structure PagingSample where
  collectedAt : ℤ
  serverId : ℕ
  osFamily : Option String
  p : ℤ
  deriving DecidableEq, Repr

/-- `CASE WHEN si.os_family = 'windows' THEN sm.paging_in ELSE sm.paging_major END`. -/
def pagingCounter (sm : MetricsRow) (si : InventoryRow) : Option ℤ :=
  if si.osFamily = some "windows" then sm.pagingIn else sm.pagingMajor

def pagingSample (p : MetricsRow × InventoryRow) : Option PagingSample :=
  (pagingCounter p.1 p.2).map fun v => ⟨p.1.collectedAt, p.1.serverId, p.2.osFamily, v⟩

def pagingSamples (db : MetricTables) (ctx : MetricTrendCtx) : List PagingSample :=
  (db.joinedOf ctx ctx.windowStart).filterMap pagingSample

/-- The row before in `WINDOW w AS (PARTITION BY server_id ORDER BY collected_at)`. -/
def pagingLag (raw : List PagingSample) (r : PagingSample) : Option PagingSample :=
  lag (fun a => a.serverId) (fun a => a.collectedAt) raw r

/-- `rates`: pages per second since the row before. -/
def pagingRate (raw : List PagingSample) (r : PagingSample) : Option ℚ := do
  let prev ← pagingLag raw r
  let dt := epochSeconds r.collectedAt prev.collectedAt
  if 0 < dt then some ((max (r.p - prev.p) 0 : ℤ) / dt) else none

/-- `crossed` of `_trend_mem_paging_pressure`. -/
def pagingCrossed (osFamily : Option String) (rate : ℚ) : Option Bool :=
  sqlOr
    (sqlAnd (osFamily.map (· = "windows")) (some (winPagesInputSaturation ≤ rate)))
    (sqlAnd (osFamily.map (· ≠ "windows")) (some (0 < rate)))

def memPagingFlag (raw : List PagingSample) (r : PagingSample) : Option HostFlag :=
  (pagingRate raw r).map fun rate => ⟨r.collectedAt, r.serverId, pagingCrossed r.osFamily rate⟩

def memPagingFlags (db : MetricTables) (ctx : MetricTrendCtx) : List HostFlag :=
  let raw := pagingSamples db ctx
  (raw.filter fun r => ctx.start ≤ r.collectedAt).filterMap (memPagingFlag raw)

/-- `_trend_mem_paging_pressure`. -/
def trendMemPagingPressure (db : MetricTables) (ctx : MetricTrendCtx) : List TrendPoint :=
  everSeries ctx ((memPagingFlags db ctx).map fun x => (x.collectedAt, x.crossed))

/-- `_trend_mem_paging_pressure_hosts`. -/
def trendMemPagingPressureHosts (db : MetricTables) (ctx : MetricTrendCtx) : List TrendPoint :=
  hostsSeries ctx (memPagingFlags db ctx)

/-! ## Disk waits -/

/-- `l_raw`: the samples of the physical disks. -/
def diskRaw (db : MetricTables) (ctx : MetricTrendCtx) : List DiskIoRow :=
  (db.diskIoOf ctx ctx.windowStart).filter fun r => db.physDisk r.serverId r.deviceId

namespace DiskIoRow

def opTime (r : DiskIoRow) : ℚ := r.opReadTimeS.getD 0 + r.opWriteTimeS.getD 0

def ops (r : DiskIoRow) : ℤ := r.opsRead.getD 0 + r.opsWrite.getD 0

def ioTime (r : DiskIoRow) : ℚ := r.ioTimeS.getD 0

end DiskIoRow

/-- The row before in `WINDOW w AS (PARTITION BY server_id, device_id ORDER BY collected_at)`. -/
def diskLag (raw : List DiskIoRow) (r : DiskIoRow) : Option DiskIoRow :=
  lag (fun a : DiskIoRow => (a.serverId, a.deviceId)) (fun a => a.collectedAt) raw r

/-- `await_ms` of `per_dev`: the wait of a disk that is busy and whose counters can be trusted. -/
def diskAwaitMs (raw : List DiskIoRow) (r : DiskIoRow) : Option ℚ := do
  let prev ← diskLag raw r
  let dT := r.opTime - prev.opTime
  let dOps := r.ops - prev.ops
  let dIot := r.ioTime - prev.ioTime
  let dWall := epochSeconds r.collectedAt prev.collectedAt
  if 0 < dOps ∧ 0 < dWall ∧ 0 ≤ dIot ∧ dIot ≤ dWall ∧ rsDiskioUtilMin ≤ dIot / dWall then
    some (dT / dOps * 1000)
  else none

/-- `await_ms > (:diskio_await_ms)::float`. -/
def diskAwaitCrossed (raw : List DiskIoRow) (r : DiskIoRow) : Option Bool :=
  (diskAwaitMs raw r).map fun await => rsDiskioAwaitMs < await

/-- `per_dev`. -/
def diskPerDev (db : MetricTables) (ctx : MetricTrendCtx) : List HostFlag :=
  let raw := diskRaw db ctx
  (raw.filter fun r => ctx.start ≤ r.collectedAt).map fun r =>
    ⟨r.collectedAt, r.serverId, diskAwaitCrossed raw r⟩

/-- `_trend_disk_saturation`. -/
def trendDiskSaturation (db : MetricTables) (ctx : MetricTrendCtx) : List TrendPoint :=
  everSeries ctx (groupBy (fun x : HostFlag => x.collectedAt)
    (fun t group => (t, boolOr (group.map fun x => x.crossed))) (diskPerDev db ctx))

/-- `_trend_disk_saturation_hosts`. -/
def trendDiskSaturationHosts (db : MetricTables) (ctx : MetricTrendCtx) : List TrendPoint :=
  hostsSeries ctx (groupBy (fun x : HostFlag => (x.collectedAt, x.serverId))
    (fun k group => ⟨k.1, k.2, boolOr (group.map fun x => x.crossed)⟩) (diskPerDev db ctx))

/-! ## The network -/

/-- A row of `tcp_deltas`. -/
structure TcpDelta where
  collectedAt : ℤ
  serverId : ℕ
  dRetrans : ℤ
  conntrackRatio : Option ℚ
  deriving DecidableEq, Repr

/-- `net_tcp_retransmits - LAG(net_tcp_retransmits)`, clamped. -/
def retransDelta (raw : List MetricsRow) (r : MetricsRow) : ℤ :=
  greatestZero (lagDelta (fun a => a.serverId) (fun a => a.collectedAt)
    (fun a => a.netTcpRetransmits) raw r)

/-- `CASE WHEN net_conntrack_limit > 0 THEN net_conntrack_usage::float / net_conntrack_limit END`.
-/
def conntrackRatioOf (r : MetricsRow) : Option ℚ :=
  if r.netConntrackLimit.any (0 < ·) then ratio (column r.netConntrackUsage)
    (column r.netConntrackLimit) else none

def tcpDeltas (db : MetricTables) (ctx : MetricTrendCtx) : List TcpDelta :=
  let raw := db.metricsOf ctx ctx.windowStart
  raw.map fun r => ⟨r.collectedAt, r.serverId, retransDelta raw r, conntrackRatioOf r⟩

/-- `net_raw`: the samples of the physical interfaces. -/
def netRaw (db : MetricTables) (ctx : MetricTrendCtx) : List NetIoRow :=
  (db.netIoOf ctx ctx.windowStart).filter fun r => db.physIface r.serverId r.ifaceId

/-- The row before in `WINDOW w AS (PARTITION BY server_id, iface_id ORDER BY collected_at)`. -/
def netLag (raw : List NetIoRow) (r : NetIoRow) : Option NetIoRow :=
  lag (fun a : NetIoRow => (a.serverId, a.ifaceId)) (fun a => a.collectedAt) raw r

/-- `GREATEST(f - LAG(f) OVER w, 0)`. -/
def netDelta (f : NetIoRow → Option ℤ) (raw : List NetIoRow) (r : NetIoRow) : ℤ :=
  greatestZero (lagDelta (fun a : NetIoRow => (a.serverId, a.ifaceId)) (fun a => a.collectedAt) f
    raw r)

/-- `EXTRACT(EPOCH FROM (collected_at - LAG(collected_at) OVER w))`. -/
def netDt (raw : List NetIoRow) (r : NetIoRow) : Option ℚ :=
  (netLag raw r).map fun prev => epochSeconds r.collectedAt prev.collectedAt

/-- A row of `net_deltas`. -/
structure NetDelta where
  collectedAt : ℤ
  serverId : ℕ
  dTxp : ℤ
  dDrop : ℤ
  dPkt : ℤ
  kbytesPerS : Option ℚ
  deriving DecidableEq, Repr

/-- The sums of the deltas of some interfaces. -/
def netDeltaOf (raw : List NetIoRow) (k : ℤ × ℕ) (group : List NetIoRow) : NetDelta :=
  let sum := fun f : NetIoRow → Option ℤ => (group.map (netDelta f raw)).sum
  { collectedAt := k.1
    serverId := k.2
    dTxp := sum fun r => r.txPackets
    dDrop := (sum fun r => r.rxDropped) + sum fun r => r.txDropped
    dPkt := (sum fun r => r.rxPackets) + sum fun r => r.txPackets
    kbytesPerS := ratio
      (some ((((sum fun r => r.rxBytes) + sum fun r => r.txBytes : ℤ) : ℚ) / 1024))
      (Nullable.maxSome (group.map (netDt raw))) }

/-- `net_deltas`: the deltas of the interfaces, then their sums. -/
def netDeltas (db : MetricTables) (ctx : MetricTrendCtx) : List NetDelta :=
  let raw := netRaw db ctx
  groupBy (fun r : NetIoRow => (r.collectedAt, r.serverId)) (netDeltaOf raw) raw

/-- A row of `flags`. -/
structure NetFlag where
  collectedAt : ℤ
  serverId : ℕ
  hasTraffic : Bool
  retransPct : Option ℚ
  dropPct : Option ℚ
  conntrackRatio : Option ℚ
  deriving DecidableEq, Repr

/-- `LEFT JOIN tcp_deltas t USING (collected_at, server_id)`. -/
def tcpDeltaFor (tcp : List TcpDelta) (n : NetDelta) : Option TcpDelta :=
  tcp.find? fun t => t.collectedAt = n.collectedAt ∧ t.serverId = n.serverId

def netFlagOf (tcp : List TcpDelta) (n : NetDelta) : NetFlag :=
  let t := tcpDeltaFor tcp n
  { collectedAt := n.collectedAt
    serverId := n.serverId
    hasTraffic := n.kbytesPerS.all (rsNetMinTrafficKbps ≤ ·)
    retransPct := percent (column (t.map fun t => t.dRetrans)) (some n.dTxp)
    dropPct := percent (some n.dDrop) (some n.dPkt)
    conntrackRatio := t.bind fun t => t.conntrackRatio }

/-- `flags`. -/
def netFlags (db : MetricTables) (ctx : MetricTrendCtx) : List NetFlag :=
  ((netDeltas db ctx).filter fun n => ctx.start ≤ n.collectedAt).map (netFlagOf (tcpDeltas db ctx))

/-- `congested`. -/
def NetFlag.congested (x : NetFlag) : Bool :=
  (x.hasTraffic && (x.retransPct.any (rsNetRetransPct < ·) || x.dropPct.any (rsNetDropPct < ·))) ||
    x.conntrackRatio.any (rsConntrackSaturationRatio ≤ ·)

def NetFlag.hostFlag (x : NetFlag) : HostFlag := ⟨x.collectedAt, x.serverId, some x.congested⟩

/-- `_trend_net_congested`. -/
def trendNetCongested (db : MetricTables) (ctx : MetricTrendCtx) : List TrendPoint :=
  everSeries ctx ((netFlags db ctx).map fun x => (x.collectedAt, some x.congested))

/-- `_trend_net_congested_hosts`. -/
def trendNetCongestedHosts (db : MetricTables) (ctx : MetricTrendCtx) : List TrendPoint :=
  hostsSeries ctx ((netFlags db ctx).map NetFlag.hostFlag)

end AssessmentEngine
