import AssessmentEngine.Mappers.Overview
import AssessmentEngine.Mappers.Saturation

/-!
# The environment now

`build_environment_realtime`: the figures of the page that shows the servers as they are now.  The
means weigh the servers by their cores and their memory; the gauges count the servers over a line.
-/

namespace AssessmentEngine

open FixedPoint

/-! ## Signals -/

/-- `disk_io_saturation_index`. -/
def diskIoSaturationIndex (awaitMs diskQueue : Option ℚ) (osFamily : Option String) : Option ℚ :=
  match awaitMs with
  | some await => some (await / rsDiskioAwaitMs)
  | none =>
    if osFamily = some "windows" then diskQueue.map (· / diskQueuePerDiskSaturation) else none

/-- `mem_pressure_active`. -/
def memPressureActive (pagingMajorRate : Option ℚ) (osFamily : Option String) : Bool :=
  match pagingMajorRate with
  | none => false
  | some rate =>
    if osFamily = some "windows" then decide (winPagesInputSaturation ≤ rate) else decide (0 < rate)

/-- `net_signal_active`. -/
def netSignalActive (retransPct dropPct conntrackRatio netKbytesPerS : Option ℚ) : Bool :=
  let lowTraffic := netKbytesPerS.any (· < rsNetMinTrafficKbps)
  (!lowTraffic && retransPct.any (rsNetRetransPct < ·)) ||
    (!lowTraffic && dropPct.any (rsNetDropPct < ·)) ||
      conntrackRatio.any (rsConntrackSaturationRatio ≤ ·)

/-! ## Gauges -/

/-- An element of `snapshots`. -/
structure RealtimeSnapshot where
  hostname : String
  publicId : String
  osFamily : Option String
  cpuPct : Option ℚ
  memPct : Option ℚ
  cpuSatIndex : Option ℚ
  diskSatIndex : Option ℚ
  diskUtilPct : Option ℚ
  pagingRate : Option ℚ
  netKbps : Option ℚ
  memPressure : Bool
  netCongested : Bool
  cpuCores : Option ℤ
  memUsedBytes : Option ℤ
  memTotalBytes : Option ℤ
  deriving DecidableEq, Repr

/-- `_UTIL_DONUT_CIRC`, from the number that stands for π. -/
def utilDonutCirc : ℚ := 2 * (884279719003555 / 281474976710656) * 42

/-- `_UTIL_COLOR_GAUGE`. -/
def utilColorGauge : String := "var(--color-title)"

/-- `_UTIL_COLOR_NONE`. -/
def utilColorNone : String := "#cbd5e1"

/-- `_NET_CONGESTED_COLOR`. -/
def netCongestedColor : String := "#dc2626"

structure UtilizationBar where
  label : String
  pct : Option ℚ
  barColor : String
  dashLength : ℚ
  deriving DecidableEq, Repr

/-- `_util_bar`, with `_bar_color` and `_dash_length`. -/
def utilBar (label : String) (pct : Option ℚ) : UtilizationBar where
  label := label
  pct := pct
  barColor := if pct.isSome then utilColorGauge else utilColorNone
  dashLength := pct.elim 0 fun pct => max 0 (min pct 100) / 100 * utilDonutCirc

/-- A `SaturationDonut` with the way in which it is drawn. -/
structure SaturationGauge extends SaturationDonut where
  dashLength : ℚ
  color : String
  deriving DecidableEq, Repr

/-- `_donut_dash`. -/
def donutDash (count total : ℕ) : ℚ :=
  if 0 < total ∧ 0 < count then (count : ℚ) / total * utilDonutCirc else 0

/-- `_build_saturation_donut`. -/
def buildSaturationDonut (label : String) (count total : ℕ) : SaturationGauge where
  label := label
  count := count
  total := total
  dashLength := donutDash count total
  color := utilColorGauge

/-! ## Means -/

/-- The values and weights of the snapshots that have both; a weight of zero is none. -/
def weighted {α : Type} (value : RealtimeSnapshot → Option α)
    (weight : RealtimeSnapshot → Option ℤ) (snapshots : List RealtimeSnapshot) : List (α × ℤ) :=
  snapshots.filterMap fun s => do return (← value s, ← truthy (weight s))

/-- `_cap_weighted`. -/
def capWeighted (value : RealtimeSnapshot → Option ℚ) (weight : RealtimeSnapshot → Option ℤ)
    (snapshots : List RealtimeSnapshot) : Option ℚ :=
  let parts := weighted value weight snapshots
  let num := (parts.map fun p => p.1 * (p.2 : ℚ)).sum
  let den := (parts.map Prod.snd).sum
  if den = 0 then none else some (roundTo 1 (num / den))

/-- `_ratio`. -/
def usedRatio (used total : RealtimeSnapshot → Option ℤ) (snapshots : List RealtimeSnapshot) :
    Option ℚ :=
  let parts := weighted used total snapshots
  let used := (parts.map Prod.fst).sum
  let total := (parts.map Prod.snd).sum
  if total = 0 then none else some (roundTo 1 ((used : ℚ) / total * 100))

/-! ## The table of loads -/

structure RealtimeLoadCell where
  value : Option ℚ
  display : String
  color : String := ""
  deriving DecidableEq, Repr

/-- `_net_status_cell`. -/
def netStatusCell (congested : Bool) : RealtimeLoadCell :=
  if congested then ⟨some 1, "혼잡", netCongestedColor⟩ else { value := some 0, display := "정상" }

/-- `_cell`. -/
def loadCell (value : Option ℚ) (fmt : ℚ → String) (exceeded : Bool := false) : RealtimeLoadCell :=
  match value with
  | none => { value := none, display := "—" }
  | some v => ⟨value, fmt v, if exceeded then netCongestedColor else ""⟩

/-- `_os_cell`, with `_os_tag`. -/
def osCell (value : Option ℚ) (osFamily : Option String) (fmt : ℚ → String) (exceeded : Bool) :
    RealtimeLoadCell :=
  let tag := if osFamily = some "windows" then "W" else "L"
  loadCell value (fun v => tag ++ " " ++ fmt v) exceeded

structure RealtimeLoadRow where
  hostname : String
  publicId : String
  cpu : RealtimeLoadCell
  mem : RealtimeLoadCell
  runQueue : RealtimeLoadCell
  paging : RealtimeLoadCell
  diskUtil : RealtimeLoadCell
  diskIo : RealtimeLoadCell
  network : RealtimeLoadCell
  deriving DecidableEq, Repr

namespace RealtimeSnapshot

/-- The index of the CPU is over its line. -/
def cpuExceeded (s : RealtimeSnapshot) : Bool := decide (1 ≤ s.cpuSatIndex.getD 0)

/-- The index of the disks is over its line. -/
def diskExceeded (s : RealtimeSnapshot) : Bool := decide (1 ≤ s.diskSatIndex.getD 0)

/-- The row of a server in `load_rows`. -/
def loadRow (s : RealtimeSnapshot) : RealtimeLoadRow where
  hostname := s.hostname
  publicId := s.publicId
  cpu := loadCell s.cpuPct fun v => formatFixed 1 v ++ "%"
  mem := loadCell s.memPct fun v => formatFixed 1 v ++ "%"
  runQueue := loadCell s.cpuSatIndex (fun v => formatFixed 2 v ++ "x") s.cpuExceeded
  paging := osCell s.pagingRate s.osFamily (fun v => formatFixed 2 v ++ "/s") s.memPressure
  diskUtil := loadCell s.diskUtilPct fun v => formatFixed 0 v ++ "%"
  diskIo := loadCell s.diskSatIndex (fun v => formatFixed 2 v ++ "x") s.diskExceeded
  network := netStatusCell s.netCongested

end RealtimeSnapshot

/-! ## The figures -/

structure EnvironmentRealtime where
  total : ℕ
  online : ℕ
  offline : ℤ
  sampleSize : ℕ
  utilization : List UtilizationBar
  lastCollectedAt : Option ℤ
  loadRows : List RealtimeLoadRow
  saturationDonuts : List SaturationGauge
  deriving DecidableEq, Repr

/-- `build_environment_realtime`. -/
def buildEnvironmentRealtime (total online : ℕ) (snapshots : List RealtimeSnapshot)
    (lastCollectedAt : Option ℤ) : EnvironmentRealtime :=
  let sample := snapshots.length
  { total := total
    online := online
    offline := total - online
    sampleSize := sample
    utilization :=
      [utilBar "CPU" (capWeighted RealtimeSnapshot.cpuPct RealtimeSnapshot.cpuCores snapshots),
        utilBar "메모리"
          (usedRatio RealtimeSnapshot.memUsedBytes RealtimeSnapshot.memTotalBytes snapshots)]
    lastCollectedAt := lastCollectedAt
    loadRows := (snapshots.map RealtimeSnapshot.loadRow).mergeSort
      fun a b => decide (a.hostname ≤ b.hostname)
    saturationDonuts :=
      [buildSaturationDonut "실행 큐 임계" (snapshots.countP RealtimeSnapshot.cpuExceeded) sample,
        buildSaturationDonut "페이징" (snapshots.countP RealtimeSnapshot.memPressure) sample,
        buildSaturationDonut "디스크 응답지연 임계"
          (snapshots.countP RealtimeSnapshot.diskExceeded) sample,
        buildSaturationDonut "네트워크 혼잡" (snapshots.countP RealtimeSnapshot.netCongested)
          sample] }

end AssessmentEngine
