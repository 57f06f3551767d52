import AssessmentEngine.Recommendation.Stats
import AssessmentEngine.Library.Nullable

/-!
# Raw report rows

The rows that the report queries return, and `buildResourceStats`, which turns one into
the statistics that the right-sizing rules read.  Every screen and every API goes through
this one function; they differ only in whether they pass on the measured disk activity.
-/

namespace AssessmentEngine

/-- A node of the block device tree of a server. -/
structure BlockDevice where
  id : Option String
  mountpoint : Option String
  deriving DecidableEq, Repr

/-- One row of the report aggregate. -/
structure ReportRowRaw where
  publicId : String
  hostname : String
  osFamily : Option String
  cpuP95Pct : Option ℚ
  cpuPeakPct : Option ℚ
  memP95Pct : Option ℚ
  memNearPeakPct : Option ℚ := none
  cpuRunQueueP95 : Option ℚ := none
  memPagesInputRateP95 : Option ℚ := none
  cpuCores : Option ℤ := none
  memTotalBytes : Option ℤ := none
  blockDevices : Option (List BlockDevice) := none
  worstMountUsedPct : Option ℚ := none
  diskIopsBaseline : Option ℤ := none
  netRxKbps : Option ℚ := none
  netTxKbps : Option ℚ := none
  cpuSufficiency : Option ℚ := none
  memSufficiency : Option ℚ := none
  cpuStealP95Pct : Option ℚ := none
  cpuBurstRatio : Option ℚ := none
  procsBlockedP95 : Option ℚ := none
  procsRunningP95 : Option ℚ := none
  memSwapPaging : Bool := false
  oomOccurred : Bool := false
  historyHours : Option ℚ := none
  diskAwaitP95Ms : Option ℚ := none
  diskCapacityRunwayDays : Option ℚ := none
  diskInodeRunwayDays : Option ℚ := none
  diskInodeUsedPct : Option ℚ := none
  diskCapacityTargetGb : Option ℚ := none
  netDropPct : Option ℚ := none
  netRetransPct : Option ℚ := none
  conntrackRatio : Option ℚ := none
  cpuTrendSlope : Option ℚ := none
  memTrendSlope : Option ℚ := none
  cpuPercoreP95Max : Option ℚ := none
  deriving DecidableEq

/-- The capacity figures of one mount. -/
structure MountCapacityRaw where
  mountpoint : String
  totalBytes : Option ℤ
  usedPct : Option ℚ
  byteRunwayDays : Option ℚ
  inodeRunwayDays : Option ℚ
  inodeUsedPct : Option ℚ
  targetBytes : Option ℤ
  deriving DecidableEq, Repr

/-- Network traffic in both directions; one missing direction counts as none. -/
def netAverage (raw : ReportRowRaw) : Option ℚ :=
  if raw.netRxKbps = none ∧ raw.netTxKbps = none then none
  else some (raw.netRxKbps.getD 0 + raw.netTxKbps.getD 0)

/-- The smaller observed share of the window among the axes that were measured. -/
def sampleSufficiency (raw : ReportRowRaw) : Option ℚ :=
  Nullable.minSome
    [if raw.cpuP95Pct.isSome then raw.cpuSufficiency else none,
      if raw.memP95Pct.isSome then raw.memSufficiency else none]

/-- The statistics of a row.  The disk activity is passed separately because only some
callers know it. -/
def buildResourceStats (raw : ReportRowRaw) (diskBaseline : Option ℤ) : ResourceStats :=
  { cpuP95Pct := raw.cpuP95Pct
    cpuPeakPct := raw.cpuPeakPct
    cpuCores := raw.cpuCores
    memP95Pct := raw.memP95Pct
    memNearPeakPct := raw.memNearPeakPct
    diskUsedPct := raw.worstMountUsedPct
    netAvgKbytesPerS := netAverage raw
    osFamily := raw.osFamily
    sampleSufficiency := sampleSufficiency raw
    cpuRunQueueP95 := raw.cpuRunQueueP95
    memPagesInputRateP95 := raw.memPagesInputRateP95
    cpuPercoreP95Max := raw.cpuPercoreP95Max
    procsBlockedP95 := raw.procsBlockedP95
    procsRunningP95 := raw.procsRunningP95
    oomOccurred := raw.oomOccurred
    memSwapPaging := raw.memSwapPaging
    memTotalMb := raw.memTotalBytes.map fun bytes => bytes / 1024 ^ 2
    diskAwaitP95Ms := raw.diskAwaitP95Ms
    diskIopsBaseline := diskBaseline.map fun iops => (iops : ℚ)
    diskCapacityRunwayDays := raw.diskCapacityRunwayDays
    diskInodeRunwayDays := raw.diskInodeRunwayDays
    diskInodeUsedPct := raw.diskInodeUsedPct
    diskCapacityTargetGb := raw.diskCapacityTargetGb
    netRetransPct := raw.netRetransPct
    netDropPct := raw.netDropPct
    conntrackRatio := raw.conntrackRatio
    historyHours := raw.historyHours
    cpuBurstRatio := raw.cpuBurstRatio
    -- a short history makes the slope meaningless
    utilTrendRising :=
      if raw.historyHours.any (rsConfidenceMinHours ≤ ·) then
        utilTrendRisingFromSlopes raw.cpuTrendSlope raw.memTrendSlope
      else none
    cpuStealP95Pct := raw.cpuStealP95Pct }

end AssessmentEngine
