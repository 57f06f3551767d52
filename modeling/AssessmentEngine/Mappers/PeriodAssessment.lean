import AssessmentEngine.Mappers.Overview
import AssessmentEngine.Mappers.StorageTree
import AssessmentEngine.Queries.ErrorCounts

/-!
# The card of a period

`build_period_assessment`, the card on which the page of a server and its report show what the
verdicts on the server rest on: for each resource its utilisation, its saturation and what else is
known of it, each value with its line and with whether it is over, beside the verdict itself.
-/

namespace AssessmentEngine

open FixedPoint

/-! ## Numbers as texts -/

/-- `f"{x:g}"` of a number between a tenth and a million: six digits, without zeros at the end. -/
def formatGeneral (x : ℚ) : String :=
  let whole := (toString x.floor.natAbs).length
  let text := (formatFixed (if x < 1 then 6 else 6 - whole) x).toList
  if '.' ∈ text then
    String.ofList (((text.reverse.dropWhile (· = '0')).dropWhile (· = '.')).reverse)
  else String.ofList text

/-- `text(v) if v is not None else "N/A"`. -/
def shownOr (v : Option ℚ) (text : ℚ → String) : String := (v.map text).getD "N/A"

/-! ## Saturation -/

/-- `SaturationAxisDisplay`. -/
structure SaturationAxisDisplay where
  axis : String
  signal : String
  value : String
  threshold : String
  measured : Bool
  crossed : Bool := false
  deriving DecidableEq, Repr

/-- The queue per core; a host without cores has none. -/
def queuePerCore (queue : Option ℚ) (cores : Option ℤ) : Option ℚ :=
  queue.bind fun queue => (truthy cores).map fun cores => queue / cores

/-- How many processes wait for a core, against the line of the system: the first of
`saturation_axis_displays`. -/
def cpuAxisDisplay (stats : ResourceStats) : SaturationAxisDisplay :=
  if stats.osFamily = some "windows" then
    let rq := queuePerCore stats.cpuRunQueueP95 stats.cpuCores
    { axis := "CPU 포화"
      signal := "Processor Queue Length / core"
      value := shownOr rq fun rq => "W " ++ formatFixed 2 rq
      threshold := ">= " ++ formatGeneral cpuRunQueuePerCoreSaturation
      measured := rq.isSome
      crossed := rq.any (cpuRunQueuePerCoreSaturation ≤ ·) }
  else
    let rq := queuePerCore stats.procsRunningP95 stats.cpuCores
    { axis := "CPU 포화"
      signal := "run queue (procs_running) / core"
      value := shownOr rq fun rq => "L " ++ formatFixed 2 rq
      threshold := ">= " ++ formatGeneral procsRunningPerCoreSaturation
      measured := rq.isSome
      crossed := rq.any (procsRunningPerCoreSaturation ≤ ·) }

/-- How much is paged in on Windows, and whether Linux swaps at all, which is always known: the
second of `saturation_axis_displays`. -/
def memAxisDisplay (stats : ResourceStats) : SaturationAxisDisplay :=
  if stats.osFamily = some "windows" then
    let pages := stats.memPagesInputRateP95
    { axis := "메모리 포화"
      signal := "Memory Pages Input/sec p95"
      value := shownOr pages fun pages => "W " ++ formatFixed 0 pages ++ "/s"
      threshold := ">= " ++ formatGeneral winPagesInputSaturation ++ "/s"
      measured := pages.isSome
      crossed := pages.any (winPagesInputSaturation ≤ ·) }
  else
    { axis := "메모리 포화"
      signal := "swap page-out"
      value := if stats.memSwapPaging then "L 발생" else "L 없음"
      threshold := "발생 시"
      measured := true
      crossed := stats.memSwapPaging }

/-- How long a request waits for its disk, a figure that both systems have: the third of
`saturation_axis_displays`. -/
def diskAxisDisplay (stats : ResourceStats) : SaturationAxisDisplay where
  axis := "디스크 I/O 포화"
  signal :=
    if stats.osFamily = some "windows" then "await p95 (IOCTL ReadTime/WriteTime)" else "await p95"
  value := shownOr stats.diskAwaitP95Ms fun awaitMs => formatFixed 0 awaitMs ++ "ms"
  threshold := "> " ++ formatGeneral rsDiskioAwaitMs ++ "ms"
  measured := stats.diskAwaitP95Ms.isSome
  crossed := stats.diskAwaitP95Ms.any (rsDiskioAwaitMs < ·)

/-! ## The rows of the card -/

/-- `PeriodSignalRow`. -/
structure PeriodSignalRow where
  label : String
  value : String
  threshold : String
  isOver : Bool
  measured : Bool
  deriving DecidableEq, Repr

/-- `PeriodErrorRow`. -/
structure PeriodErrorRow where
  key : String
  label : String
  badgeText : String
  badgeClass : String
  note : String
  sizingSignal : String
  deriving DecidableEq, Repr

/-- `PeriodExtraGroup`. -/
structure PeriodExtraGroup where
  label : String
  rows : List PeriodSignalRow
  deriving DecidableEq, Repr

/-- `PeriodResource`. -/
structure PeriodResource where
  name : String
  utilRows : List PeriodSignalRow
  utilOver : ℕ
  satRows : List PeriodSignalRow
  satOver : ℕ
  hasUtil : Bool
  detailSlug : String
  verdictLabel : String
  verdictColor : String
  extraGroups : List PeriodExtraGroup := []
  errorRows : List PeriodErrorRow := []
  verdictLabel2 : String := ""
  verdictColor2 : String := ""
  deriving DecidableEq, Repr

/-- `PeriodAssessment`. -/
structure PeriodAssessment where
  resources : List PeriodResource
  errorRows : List PeriodErrorRow
  windowDays : ℤ
  classificationLabel : String
  classificationColor : String
  deriving DecidableEq, Repr

/-- `_VERDICT_LABEL`. -/
def verdictLabel : ResourceStatus → String
  | .under => "부족"
  | .over => "과다"
  | .filling => "용량 임박"
  | .ioBound => "I/O 병목"
  | .congested => "혼잡"
  | .unmeasured => "미측정"
  | .insufficient => "표본 부족"
  | .optimal | .capacityOk | .ioOk | .qualityOk => "정상"

/-- `_VERDICT_COLOR`. -/
def verdictColor : ResourceStatus → String
  | .under | .filling | .ioBound => "#dc2626"
  | .congested => "#d97706"
  | .over => "var(--color-title)"
  | .optimal | .insufficient | .capacityOk | .ioOk | .qualityOk | .unmeasured => "#94a3b8"

/-- The colours of `_DONUT_SEGMENT_DEFS`. -/
def donutColor : Recommendation → String
  | .underProvisioned => "#ef4444"
  | .overProvisioned => "var(--color-title)"
  | .idle => "#64748b"
  | .optimal => "#22c55e"
  | .insufficientData => "#cbd5e1"

/-- A turn of `_period_error_rows`. -/
def periodErrorRow (e : ErrorSignal) : PeriodErrorRow :=
  let shown : String × String × String :=
    match e.state with
    | .occurred =>
      ((e.count.map fun count => toString count ++ "건").getD "발생", "badge-danger",
        e.context.getD "")
    | .clean => ("이상 없음", "badge-ok", "")
    | .notApplicable => ("N/A", "badge-muted", "")
    | .noData => ("수집 대기", "badge-muted", "")
  { key := e.key
    label := e.label
    badgeText := shown.1
    badgeClass := shown.2.1
    note := shown.2.2
    sizingSignal := if e.key = "mem_oom" ∧ e.state = .occurred then "메모리 자원 부족" else "" }

/-- `_extra_row`. -/
def extraRow (label : String) (val : Option ℚ) (unit : String) (thr : Option ℚ := none)
    (isOver : Bool := false) : PeriodSignalRow where
  label := label
  value := shownOr val fun val => formatFixed 1 val ++ unit
  threshold := (thr.map fun thr => "임계 " ++ formatGeneral thr ++ unit).getD ""
  isOver := isOver
  measured := val.isSome

/-- `_confidence_rows`. -/
def confidenceRows (stats : ResourceStats) : List PeriodSignalRow :=
  [{ label := "관측 시간"
     value := shownOr stats.historyHours fun hours => formatFixed 0 hours ++ "h"
     threshold := "최소 " ++ formatGeneral rsConfidenceMinHours ++ "h"
     measured := stats.historyHours.isSome
     isOver := stats.historyHours.any (· < rsConfidenceMinHours) },
    { label := "표본 충분성"
      value := shownOr stats.sampleSufficiency fun suff => formatFixed 0 (suff * 100) ++ "%"
      threshold := "최소 " ++ formatGeneral (rsDownsizeMinSufficiency * 100) ++ "%"
      measured := stats.sampleSufficiency.isSome
      isOver := stats.sampleSufficiency.any (· < rsDownsizeMinSufficiency) }]

/-- `_cpu_extra_groups`. -/
def cpuExtraGroups (stats : ResourceStats) : List PeriodExtraGroup :=
  [⟨"부하 신호",
      [extraRow "피크 사용률" stats.cpuPeakPct "%",
        extraRow "코어별 최대 p95" stats.cpuPercoreP95Max "%" (some rsCpuPercoreHoldPct)
          (stats.cpuPercoreP95Max.any (rsCpuPercoreHoldPct ≤ ·)),
        extraRow "D-state 블록 p95" stats.procsBlockedP95 "" (some procsBlockedDstateSaturation)
          (stats.procsBlockedP95.any (procsBlockedDstateSaturation ≤ ·))]⟩,
    ⟨"통계 신뢰도",
      [extraRow "버스트 비율(p95/median)" stats.cpuBurstRatio "x" (some rsBurstRatioMax)
          (stats.cpuBurstRatio.any (rsBurstRatioMax < ·)),
        extraRow "Steal 편향 p95" stats.cpuStealP95Pct "%" (some rsCpuStealBiasPct)
          (stats.cpuStealP95Pct.any (rsCpuStealBiasPct ≤ ·))] ++ confidenceRows stats⟩]

/-- `_mem_extra_groups`. -/
def memExtraGroups (stats : ResourceStats) : List PeriodExtraGroup :=
  [⟨"부하 신호", [extraRow "Near-peak 사용률" stats.memNearPeakPct "%"]⟩,
    ⟨"통계 신뢰도", confidenceRows stats⟩]

/-- `_runway_row`.  Without a runway a mount is not filling up when it was observed for long enough,
and has no trend yet when it was not. -/
def runwayRow (stats : ResourceStats) (label : String) (val : Option ℚ) : PeriodSignalRow :=
  let stable := stats.historyHours.any (rsConfidenceMinHours ≤ ·)
  let shown : String × String :=
    match val with
    | some val => (formatFixed 0 val ++ "일", "최소 " ++ formatGeneral rsDiskRunwayDays ++ "일")
    | none =>
      if stable then ("안정 (추세 없음)", "")
      else ("N/A (관측 부족)", "최소 " ++ formatGeneral rsConfidenceMinHours ++ "h 관측")
  { label := label
    value := shown.1
    threshold := shown.2
    isOver := runwayImminent val
    measured := val.isSome || stable }

/-- `_storage_extra_groups`. -/
def storageExtraGroups (stats : ResourceStats) : List PeriodExtraGroup :=
  [⟨"통계 신뢰도", confidenceRows stats⟩,
    ⟨"부하 신호",
      [runwayRow stats "용량 소진 잔여일수" stats.diskCapacityRunwayDays,
        runwayRow stats "inode 소진 잔여일수" stats.diskInodeRunwayDays,
        extraRow "inode 사용률" stats.diskInodeUsedPct "%" (some rsDiskStaticGuardPct)
          (overStaticGuard stats.diskInodeUsedPct),
        extraRow "IOPS 활동량(baseline)" stats.diskIopsBaseline " IOPS",
        extraRow "확장 목표 용량(1년 수명)" stats.diskCapacityTargetGb "GB"]⟩]

/-- `_network_extra_groups`. -/
def networkExtraGroups (stats : ResourceStats) : List PeriodExtraGroup :=
  [⟨"부하 신호", [extraRow "트래픽 baseline" stats.netAvgKbytesPerS " kB/s"]⟩,
    ⟨"통계 신뢰도", confidenceRows stats⟩]

/-! ## The card -/

/-- `_pct_str`. -/
def pctStr (v : Option ℚ) : String := shownOr v fun v => formatFixed 1 v ++ "%"

/-- `_u`. -/
def utilRow (label : String) (val : Option ℚ) (thr : ℚ) : PeriodSignalRow where
  label := label
  value := pctStr val
  threshold := "임계 " ++ formatGeneral thr ++ "%"
  isOver := val.any (thr ≤ ·)
  measured := val.isSome

/-- `_s`. -/
def satRow (label : String) (d : SaturationAxisDisplay) : PeriodSignalRow where
  label := label
  value := d.value
  threshold :=
    if "발생".toList.isPrefixOf d.threshold.toList then d.threshold
    else "임계 " ++ removePrefix "> " (removePrefix ">= " d.threshold)
  isOver := d.crossed
  measured := d.measured

/-- `_net`. -/
def netRow (label : String) (val : Option ℚ) (thr : ℚ) (unit : String) : PeriodSignalRow where
  label := label
  value := shownOr val fun val => formatFixed 2 val ++ unit
  threshold := "임계 " ++ formatGeneral thr ++ unit
  isOver := val.any (thr ≤ ·)
  measured := val.isSome

/-- The row of the fullest mount, which its value names. -/
def diskUtilRow (stats : ResourceStats) (diskWorstMount : Option String) : PeriodSignalRow :=
  { utilRow "사용률 (worst mount)" stats.diskUsedPct rsDiskStaticGuardPct with
    value :=
      match stats.diskUsedPct, filled diskWorstMount with
      | some used, mount :: _ => pctStr (some used) ++ " (" ++ mount ++ ")"
      | used, _ => pctStr used }

/-- `net_s`. -/
def netSatRows (stats : ResourceStats) : List PeriodSignalRow :=
  [netRow "재전송" stats.netRetransPct rsNetRetransPct "%",
    netRow "드롭" stats.netDropPct rsNetDropPct "%",
    netRow "conntrack" stats.conntrackRatio rsConntrackSaturationRatio ""]

/-- `_over`. -/
def overCount (rows : List PeriodSignalRow) : ℕ := rows.countP PeriodSignalRow.isOver

/-- `rec.WINDOW_DAYS`. -/
def cardWindowDays : ℤ := 14

/-- The error rows whose key begins with `mem_`. -/
def memErrorRows (errors : List ErrorSignal) : List PeriodErrorRow :=
  (errors.map periodErrorRow).filter fun r => "mem_".toList.isPrefixOf r.key.toList

/-- A resource of the card with the counts of its rows and the label and the colour of its
status. -/
def periodResource (name : String) (utilRows satRows : List PeriodSignalRow) (hasUtil : Bool)
    (detailSlug : String) (status : ResourceStatus) (extraGroups : List PeriodExtraGroup) :
    PeriodResource where
  name := name
  utilRows := utilRows
  utilOver := overCount utilRows
  satRows := satRows
  satOver := overCount satRows
  hasUtil := hasUtil
  detailSlug := detailSlug
  verdictLabel := verdictLabel status
  verdictColor := verdictColor status
  extraGroups := extraGroups

def cpuResource (stats : ResourceStats) : PeriodResource :=
  periodResource "CPU" [utilRow "P95 사용률" stats.cpuP95Pct rsCpuUnderPct]
    [satRow "실행 큐" (cpuAxisDisplay stats)] true "cpu" (rollupHost stats).resources.cpu.status
    (cpuExtraGroups stats)

def memoryResource (stats : ResourceStats) (errors : List ErrorSignal) : PeriodResource :=
  { periodResource "메모리" [utilRow "P95 사용률" stats.memP95Pct rsMemUnderPct]
      [satRow "페이징" (memAxisDisplay stats)] true "memory"
      (rollupHost stats).resources.memory.status (memExtraGroups stats) with
    errorRows := memErrorRows errors }

/-- Storage has a verdict on its capacity and one on its speed. -/
def storageResource (stats : ResourceStats) (diskWorstMount : Option String) : PeriodResource :=
  { periodResource "스토리지" [diskUtilRow stats diskWorstMount]
      [satRow "응답 지연" (diskAxisDisplay stats)] true "storage"
      (rollupHost stats).resources.diskCapacity.status (storageExtraGroups stats) with
    verdictLabel2 := verdictLabel (rollupHost stats).resources.diskIo.status
    verdictColor2 := verdictColor (rollupHost stats).resources.diskIo.status }

def networkResource (stats : ResourceStats) : PeriodResource :=
  periodResource "네트워크" [] (netSatRows stats) false "network"
    (rollupHost stats).resources.network.status (networkExtraGroups stats)

/-- `build_period_assessment`. -/
def buildPeriodAssessment (stats : ResourceStats) (errors : List ErrorSignal)
    (diskWorstMount : Option String) (windowDays : Option ℤ) : PeriodAssessment where
  resources :=
    [cpuResource stats, memoryResource stats errors, storageResource stats diskWorstMount,
      networkResource stats]
  errorRows := errors.map periodErrorRow
  windowDays := windowDays.getD cardWindowDays
  classificationLabel := labelKo (classifyHost stats)
  classificationColor := donutColor (classifyHost stats)

end AssessmentEngine
