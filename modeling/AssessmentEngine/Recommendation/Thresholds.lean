import Mathlib.Data.Rat.Floor

/-!
# Thresholds of the right-sizing rules

The numeric constants of `recommendation.py`.  Measurements are floating-point
numbers in the source and exact rationals here: the model does not round the
results of `*` and `/`, and has no infinities and no NaN.
-/

namespace AssessmentEngine

/-! ### Idle detection -/

def idleCpuP95Pct : ℚ := 3
def idleNetMbps : ℚ := 2
def idleDiskIops : ℚ := 5

/-- The two lines below which a host is idle beyond doubt. -/
def idleStrongPeakPct : ℚ := 1
def idleStrongNetKbytesPerS : ℚ := 1

/-! ### Saturation lines -/

/-- Linux counts running tasks in its run queue, Windows only waiting ones; hence the two
lines. -/
def procsRunningPerCoreSaturation : ℚ := 1
def cpuRunQueuePerCoreSaturation : ℚ := 2
def diskQueuePerDiskSaturation : ℚ := 2
def winPagesInputSaturation : ℚ := 20
def procsBlockedDstateSaturation : ℚ := 1

/-! ### CPU and memory -/

def rsCpuUnderPct : ℚ := 70
def rsCpuSizingTargetPct : ℚ := 70
def rsCpuSatHeadroom : ℚ := 7 / 10
def rsCpuPercoreHoldPct : ℚ := 85
def rsCpuStealBiasPct : ℚ := 5
def rsMemUnderPct : ℚ := 90
def rsMemSizingTargetPct : ℚ := 80
def rsMemSaturationHeadroomPct : ℚ := 30

/-! ### Disk and network -/

def rsDiskRunwayDays : ℚ := 30

/-- The number of days that an extended disk is to last at the present rate of growth. -/
def rsDiskTargetRunwayDays : ℚ := 365

/-- The history (days) from which on a rate is extrapolated over a year, and that from which on
it is extrapolated at all. -/
def rsDiskTrendMinSpanDays : ℚ := 14
def rsDiskRateMinSpanDays : ℚ := 30 / 24
def rsDiskNearHorizonDays : ℚ := 30
def rsDiskHeadroomTargetPct : ℚ := 70
def rsDiskStaticGuardPct : ℚ := 85
def rsDiskioAwaitMs : ℚ := 20

/-- The share of the time that a disk is busy, from which on its waits are judged. -/
def rsDiskioUtilMin : ℚ := 1 / 2
def rsNetRetransPct : ℚ := 1
def rsNetDropPct : ℚ := 1 / 2

/-- Traffic (kB/s) below which retransmissions and drops are not judged. -/
def rsNetMinTrafficKbps : ℚ := 10
def rsConntrackSaturationRatio : ℚ := 8 / 10

/-! ### Confidence -/

def rsConfidenceMinHours : ℚ := 30

/-- Observed share of the window below which no smaller size is prescribed. -/
def rsDownsizeMinSufficiency : ℚ := 7 / 10
def rsBurstRatioMax : ℚ := 2
def rsUtilTrendRisingPctPerDay : ℚ := 2 / 10

end AssessmentEngine
