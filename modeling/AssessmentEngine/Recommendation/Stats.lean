import AssessmentEngine.Recommendation.Thresholds

/-!
# Measured statistics of a host

`ResourceStats` is the input of the right-sizing rules: one field per signal, absent
when the agent could not measure it.  The three saturation helpers normalise signals
that differ between operating systems; each returns `none` when it cannot decide.
-/

namespace AssessmentEngine

/-- The statistics of one host over the observation window. -/
structure ResourceStats where
  /-- CPU utilisation p95 (%). -/
  cpuP95Pct : Option ℚ
  cpuPeakPct : Option ℚ
  cpuCores : Option ℤ
  /-- Memory utilisation p95 (%). -/
  memP95Pct : Option ℚ
  /-- Used share (%) of the fullest mount. -/
  diskUsedPct : Option ℚ
  netAvgKbytesPerS : Option ℚ
  osFamily : Option String := none
  sampleSufficiency : Option ℚ := none
  diskQueueP95 : Option ℚ := none
  cpuRunQueueP95 : Option ℚ := none
  memPagesInputRateP95 : Option ℚ := none
  cpuPercoreP95Max : Option ℚ := none
  procsBlockedP95 : Option ℚ := none
  procsRunningP95 : Option ℚ := none
  memSwapPaging : Bool := false
  oomOccurred : Bool := false
  memTotalMb : Option ℤ := none
  memNearPeakPct : Option ℚ := none
  diskAwaitP95Ms : Option ℚ := none
  diskIopsBaseline : Option ℚ := none
  diskCapacityRunwayDays : Option ℚ := none
  diskInodeRunwayDays : Option ℚ := none
  diskInodeUsedPct : Option ℚ := none
  diskCapacityTargetGb : Option ℚ := none
  netRetransPct : Option ℚ := none
  netDropPct : Option ℚ := none
  conntrackRatio : Option ℚ := none
  historyHours : Option ℚ := none
  cpuBurstRatio : Option ℚ := none
  utilTrendRising : Option Bool := none
  cpuStealP95Pct : Option ℚ := none
  deriving DecidableEq

/-- Disk I/O saturation: the device latency, or on Windows the queue depth when no latency
is available. -/
def diskIoSaturated (stats : ResourceStats) : Option Bool :=
  match stats.diskAwaitP95Ms with
  | some awaitMs => some (decide (rsDiskioAwaitMs < awaitMs))
  | none =>
    if stats.osFamily = some "windows" then
      stats.diskQueueP95.map fun queue => decide (diskQueuePerDiskSaturation ≤ queue)
    else none

/-- Run-queue saturation per core, before the utilisation gate. -/
def runQueueSaturated (stats : ResourceStats) (cores : ℤ) : Option Bool :=
  if stats.osFamily = some "windows" then
    stats.cpuRunQueueP95.map fun queue => decide (cpuRunQueuePerCoreSaturation ≤ queue / cores)
  else
    stats.procsRunningP95.map fun queue => decide (procsRunningPerCoreSaturation ≤ queue / cores)

/-- CPU saturation.  A long run queue counts only when the CPU is not measured to be
quiet. -/
def cpuSaturated (stats : ResourceStats) : Option Bool :=
  match stats.cpuCores with
  | none => none
  | some cores =>
    if cores ≤ 0 then none
    else
      match runQueueSaturated stats cores with
      | none => none
      | some false => some false
      | some true =>
        match stats.cpuP95Pct with
        -- a measured low utilisation contradicts the queue, a missing one does not
        | none => some true
        | some util => some (decide (rsCpuUnderPct ≤ util))

/-- Memory saturation: high utilisation together with paging. -/
def memSaturated (stats : ResourceStats) : Option Bool :=
  match stats.memP95Pct with
  | none => none
  | some util =>
    if util < rsMemUnderPct then some false
    else if stats.osFamily = some "windows" then
      stats.memPagesInputRateP95.map fun rate => decide (winPagesInputSaturation ≤ rate)
    else some stats.memSwapPaging

/-- A host whose CPU peak and network traffic are next to nothing. -/
def isIdleStrong (stats : ResourceStats) : Bool :=
  stats.cpuPeakPct.any (· ≤ idleStrongPeakPct) &&
    stats.netAvgKbytesPerS.any (· ≤ idleStrongNetKbytesPerS)

/-- Rising utilisation from the slopes of CPU and memory; undecided without any slope. -/
def utilTrendRisingFromSlopes (cpuSlope memSlope : Option ℚ) : Option Bool :=
  let slopes := [cpuSlope, memSlope].reduceOption
  if slopes = [] then none else some (slopes.any (rsUtilTrendRisingPctPerDay ≤ ·))

end AssessmentEngine
