import AssessmentEngine.Recommendation.Cpu

/-!
# Published saturation signals

Beside the verdict of a resource the interfaces publish the signal it rests on: the
number, the line it is held against, the unit and the flag.  The number of the CPU is the
saturation index, which has already been divided by the line.  On Windows the line is 2,
so a flag that is raised from two waiting tasks per core on is published with a number
that only reaches its line from four on.
-/

namespace AssessmentEngine

/-- A saturation signal as it is published. -/
structure SaturationBlock where
  signal : String
  value : Option ℚ
  threshold : Option ℚ
  unit : String
  measured : Bool
  saturated : Option Bool
  deriving DecidableEq

/-- The CPU saturation index: the run queue per core in multiples of its line. -/
def cpuSaturationIndex (runQueue : Option ℚ) (cores : Option ℤ) (osFamily : Option String) :
    Option ℚ :=
  match runQueue, truthy cores with
  | some queue, some cores => some (queue / cores / rsCpuSatLine osFamily)
  | _, _ => none

/-- A signal with a number. -/
def saturationDict (signal : String) (value threshold : Option ℚ) (unit : String)
    (saturated : Option Bool) : SaturationBlock where
  signal := signal
  value := value.map (FixedPoint.roundTo 2)
  threshold := threshold
  unit := unit
  measured := value.isSome
  saturated := saturated

/-- The saturation signal of a resource; everything that is neither CPU nor memory is
taken for disk I/O. -/
def saturationBlock (kind : ResourceKind) (stats : ResourceStats) : SaturationBlock :=
  let win : Bool := stats.osFamily = some "windows"
  match kind with
  | .cpu =>
    saturationDict (if win then "Processor Queue Length/core" else "run queue (procs_running)/core")
      (cpuSaturationIndex (runQueueValue stats) stats.cpuCores stats.osFamily)
      (if win then cpuRunQueuePerCoreSaturation else procsRunningPerCoreSaturation) "per_core"
      (cpuSaturated stats)
  | .memory =>
    if win then
      saturationDict "Pages Input/sec" stats.memPagesInputRateP95 winPagesInputSaturation "per_sec"
        (memSaturated stats)
    else
      -- swapping is an event without a number
      { signal := "swap page-out", value := none, threshold := none, unit := "event",
        measured := (memSaturated stats).isSome, saturated := memSaturated stats }
  | _ =>
    if stats.diskAwaitP95Ms.isSome then
      saturationDict "await" stats.diskAwaitP95Ms rsDiskioAwaitMs "ms" (diskIoSaturated stats)
    else if stats.diskQueueP95.isSome then
      saturationDict "Avg Disk Queue Length" stats.diskQueueP95 diskQueuePerDiskSaturation "queue"
        (diskIoSaturated stats)
    else
      { signal := "await", value := none, threshold := rsDiskioAwaitMs, unit := "ms",
        measured := false, saturated := diskIoSaturated stats }

namespace SaturationBlock

/-- A raised flag is borne out by the published number. -/
def Justified (block : SaturationBlock) : Prop :=
  block.saturated = some true →
    ∀ value ∈ block.value, ∀ threshold ∈ block.threshold, threshold ≤ value

/-- A signal counts as measured exactly when its flag is decided. -/
def MeasuredWhenDecided (block : SaturationBlock) : Prop :=
  block.measured = true ↔ block.saturated ≠ none

/-- The published numbers agree with the flag. -/
def Consistent (block : SaturationBlock) : Prop :=
  block.Justified ∧ block.MeasuredWhenDecided

end SaturationBlock

/-- The statistics whose published signals agree with their flags. -/
structure SaturationEvidence (stats : ResourceStats) : Prop where
  /-- The queue of a saturated Windows CPU is twice the line, up to rounding. -/
  queue : stats.osFamily = some "windows" → ∀ queue ∈ stats.cpuRunQueueP95,
    ∀ cores ∈ stats.cpuCores, 0 < cores → 2 ≤ queue / cores →
      (∀ util ∈ stats.cpuP95Pct, rsCpuUnderPct ≤ util) → 399 / 100 ≤ queue / cores
  /-- A run queue comes with a number of cores that is not negative. -/
  cores : ∀ cores ∈ stats.cpuCores, cores < 0 → runQueueValue stats = none
  /-- On Windows a paging rate comes with a utilisation and a low utilisation with a rate. -/
  paging : stats.osFamily = some "windows" →
    (stats.memP95Pct = none → stats.memPagesInputRateP95 = none) ∧
      ∀ util ∈ stats.memP95Pct, util < rsMemUnderPct → stats.memPagesInputRateP95 ≠ none
  /-- Elsewhere a queue depth comes with a latency. -/
  depth : stats.osFamily ≠ some "windows" → stats.diskAwaitP95Ms = none →
    stats.diskQueueP95 = none

/-! ### CPU -/

section Cpu

variable {stats : ResourceStats} {cores : ℤ}

lemma runQueueSaturated_eq (stats : ResourceStats) (cores : ℤ) :
    runQueueSaturated stats cores =
      (runQueueValue stats).map fun queue =>
        decide (rsCpuSatLine stats.osFamily ≤ queue / cores) := by
  unfold runQueueSaturated runQueueValue rsCpuSatLine
  split_ifs <;> rfl

/-- With a positive number of cores the flag of the CPU is decided by the run queue. -/
lemma cpuSaturated_ne_none_iff (hcores : stats.cpuCores = some cores) (hpos : 0 < cores) :
    cpuSaturated stats ≠ none ↔ runQueueValue stats ≠ none := by
  have hnot : ¬cores ≤ 0 := not_le.mpr hpos
  unfold cpuSaturated
  simp only [hcores, if_neg hnot, runQueueSaturated_eq]
  cases hqueue : runQueueValue stats with
  | none => simp
  | some queue =>
    by_cases hline : rsCpuSatLine stats.osFamily ≤ queue / cores
    · cases stats.cpuP95Pct <;> simp [hline]
    · simp [hline]

/-- A CPU is saturated when its queue reaches the line and it is not measured to be quiet. -/
lemma cpuSaturated_eq_true_iff (hcores : stats.cpuCores = some cores) (hpos : 0 < cores) :
    cpuSaturated stats = some true ↔
      ∃ queue ∈ runQueueValue stats, rsCpuSatLine stats.osFamily ≤ queue / cores ∧
        ∀ util ∈ stats.cpuP95Pct, rsCpuUnderPct ≤ util := by
  have hnot : ¬cores ≤ 0 := not_le.mpr hpos
  unfold cpuSaturated
  simp only [hcores, if_neg hnot, runQueueSaturated_eq]
  cases hqueue : runQueueValue stats with
  | none => simp
  | some queue =>
    by_cases hline : rsCpuSatLine stats.osFamily ≤ queue / cores
    · cases stats.cpuP95Pct <;> simp [hline]
    · simp [hline]

/-- Without a positive number of cores the flag of the CPU is open. -/
lemma cpuSaturated_eq_none (hcores : ∀ cores ∈ stats.cpuCores, cores ≤ 0) :
    cpuSaturated stats = none := by
  unfold cpuSaturated
  cases h : stats.cpuCores with
  | none => rfl
  | some cores => exact if_pos (hcores cores h)

/-- The index is there when the queue is and the number of cores is not zero. -/
lemma cpuSaturationIndex_isSome_iff (runQueue : Option ℚ) (cores : Option ℤ)
    (osFamily : Option String) :
    (cpuSaturationIndex runQueue cores osFamily).isSome ↔
      runQueue ≠ none ∧ ∃ n ∈ cores, n ≠ 0 := by
  unfold cpuSaturationIndex truthy
  cases runQueue with
  | none => simp
  | some queue =>
    cases cores with
    | none => simp
    | some n => by_cases hzero : n = 0 <;> simp [Option.filter, hzero]

/-- The index of a Linux host is its queue per core, that of a Windows host half of it. -/
lemma line_le_roundTo_iff (queue : ℚ) (osFamily : Option String) (cores : ℤ)
    (hline : rsCpuSatLine osFamily ≤ queue / cores) :
    rsCpuSatLine osFamily ≤ FixedPoint.roundTo 2 (queue / cores / rsCpuSatLine osFamily) ↔
      (osFamily = some "windows" → 399 / 100 ≤ queue / cores) := by
  by_cases hwin : osFamily = some "windows"
  · have htwo : rsCpuSatLine osFamily = 2 := by
      rw [rsCpuSatLine, if_pos hwin, cpuRunQueuePerCoreSaturation]
    have hiff := FixedPoint.le_roundTo_iff_of_even (d := 2) (n := 200) (by norm_num)
      (queue / cores / 2)
    norm_num at hiff
    rw [htwo, hiff]
    constructor
    · intro hindex _
      linarith
    · intro hindex
      have h := hindex hwin
      linarith
  · have hone : rsCpuSatLine osFamily = 1 := by
      rw [rsCpuSatLine, if_neg hwin, procsRunningPerCoreSaturation]
    have hindex := FixedPoint.le_roundTo_of_le (d := 2) (n := 100) (x := queue / cores)
      (by rw [hone] at hline; norm_num; exact hline)
    norm_num at hindex
    rw [hone, div_one]
    exact ⟨fun _ hcontra => absurd hcontra hwin, fun _ => hindex⟩

/-- With a positive number of cores only a Windows queue can fall short of its line. -/
lemma justified_cpu_iff (hcores : stats.cpuCores = some cores) (hpos : 0 < cores) :
    (saturationBlock .cpu stats).Justified ↔
      ∀ queue ∈ runQueueValue stats, rsCpuSatLine stats.osFamily ≤ queue / cores →
        (∀ util ∈ stats.cpuP95Pct, rsCpuUnderPct ≤ util) →
          (stats.osFamily = some "windows" → 399 / 100 ≤ queue / cores) := by
  have htruthy : truthy (some cores) = some cores := truthy_of_pos rfl hpos
  have hthreshold :
      (saturationBlock .cpu stats).threshold = some (rsCpuSatLine stats.osFamily) := by
    simp [saturationBlock, saturationDict, rsCpuSatLine]
    split_ifs <;> rfl
  have hvalue : (saturationBlock .cpu stats).value = (runQueueValue stats).map fun queue =>
      FixedPoint.roundTo 2 (queue / cores / rsCpuSatLine stats.osFamily) := by
    simp only [saturationBlock, saturationDict, cpuSaturationIndex, hcores, htruthy]
    cases runQueueValue stats <;> rfl
  have hflag : (saturationBlock .cpu stats).saturated = cpuSaturated stats := rfl
  unfold SaturationBlock.Justified
  rw [hthreshold, hvalue, hflag, cpuSaturated_eq_true_iff hcores hpos]
  constructor
  · intro hjustified queue hqueue hline hutil
    rw [← line_le_roundTo_iff queue stats.osFamily cores hline]
    exact hjustified ⟨queue, hqueue, hline, hutil⟩ _ (Option.mem_map_of_mem _ hqueue) _ rfl
  · rintro hqueues ⟨queue, hqueue, hline, hutil⟩ value hvalue threshold hthreshold
    obtain ⟨queue', hqueue', rfl⟩ := Option.mem_map.mp hvalue
    obtain rfl : queue = queue' := Option.mem_unique hqueue hqueue'
    obtain rfl : rsCpuSatLine stats.osFamily = threshold := Option.some.inj hthreshold
    rw [line_le_roundTo_iff queue stats.osFamily cores hline]
    exact hqueues queue hqueue hline hutil

lemma measuredWhenDecided_cpu_iff (stats : ResourceStats) :
    (saturationBlock .cpu stats).MeasuredWhenDecided ↔
      ∀ cores ∈ stats.cpuCores, cores < 0 → runQueueValue stats = none := by
  have hmeasured : (saturationBlock .cpu stats).measured =
      (cpuSaturationIndex (runQueueValue stats) stats.cpuCores stats.osFamily).isSome := rfl
  have hflag : (saturationBlock .cpu stats).saturated = cpuSaturated stats := rfl
  unfold SaturationBlock.MeasuredWhenDecided
  rw [hmeasured, hflag, cpuSaturationIndex_isSome_iff]
  cases hcores : stats.cpuCores with
  | none =>
    have hnone : cpuSaturated stats = none := cpuSaturated_eq_none (by simp [hcores])
    simp [hnone]
  | some cores =>
    rcases lt_trichotomy cores 0 with hneg | hzero | hpos
    · have hnone : cpuSaturated stats = none :=
        cpuSaturated_eq_none (by simpa [hcores] using hneg.le)
      simp [hnone, hneg, hneg.ne]
    · have hnone : cpuSaturated stats = none :=
        cpuSaturated_eq_none (by simp [hcores, hzero])
      simp [hnone, hzero]
    · rw [cpuSaturated_ne_none_iff hcores hpos]
      simp [hpos.ne', hpos.le]

/-- The CPU signal is consistent unless a Windows queue is understated or there is a queue on
a negative number of cores. -/
lemma consistent_cpu_iff (stats : ResourceStats) :
    (saturationBlock .cpu stats).Consistent ↔
      (stats.osFamily = some "windows" → ∀ queue ∈ stats.cpuRunQueueP95,
        ∀ cores ∈ stats.cpuCores, 0 < cores → 2 ≤ queue / cores →
          (∀ util ∈ stats.cpuP95Pct, rsCpuUnderPct ≤ util) → 399 / 100 ≤ queue / cores) ∧
      ∀ cores ∈ stats.cpuCores, cores < 0 → runQueueValue stats = none := by
  refine and_congr ?_ (measuredWhenDecided_cpu_iff stats)
  by_cases hpos : ∃ cores ∈ stats.cpuCores, 0 < cores
  · obtain ⟨cores, hcores, hpos⟩ := hpos
    rw [justified_cpu_iff hcores hpos]
    constructor
    · intro hqueues hwin queue hqueue cores' hcores' _ hline hutil
      obtain rfl : cores = cores' := Option.mem_unique hcores hcores'
      refine hqueues queue ?_ ?_ hutil hwin
      · rwa [runQueueValue, if_pos hwin]
      · rwa [rsCpuSatLine, if_pos hwin]
    · intro hqueues queue hqueue hline hutil hwin
      rw [runQueueValue, if_pos hwin] at hqueue
      rw [rsCpuSatLine, if_pos hwin] at hline
      exact hqueues hwin queue hqueue cores hcores hpos hline hutil
  · have hnone : cpuSaturated stats = none :=
      cpuSaturated_eq_none fun cores hcores => not_lt.mp fun h => hpos ⟨cores, hcores, h⟩
    constructor
    · intro _ _ _ _ cores hcores hcoresPos
      exact absurd ⟨cores, hcores, hcoresPos⟩ hpos
    · intro _ hflag
      have hcontra : cpuSaturated stats = some true := hflag
      rw [hnone] at hcontra
      exact absurd hcontra (by simp)

end Cpu

/-! ### Memory and disk I/O -/

/-- A flag that compares the published number with a line of two decimals is borne out. -/
lemma justified_saturationDict {signal unit : String} {value : Option ℚ} {threshold : ℤ}
    {saturated : Option Bool}
    (hflag : saturated = some true → ∀ x ∈ value, (threshold : ℚ) ≤ x) :
    (saturationDict signal value (threshold : ℚ) unit saturated).Justified := by
  intro hsaturated x hx line hline
  obtain ⟨raw, hraw, rfl⟩ := Option.mem_map.mp hx
  obtain rfl : (threshold : ℚ) = line := Option.some.inj hline
  have hle : ((threshold * 100 : ℤ) : ℚ) / 10 ^ 2 ≤ raw := by
    have h := hflag hsaturated raw hraw
    push_cast
    linarith
  have hround := FixedPoint.le_roundTo_of_le hle
  push_cast at hround
  linarith

/-- The flag of a Windows memory that is short follows the paging rate. -/
lemma memSaturated_of_windows {stats : ResourceStats} {util : ℚ}
    (hwin : stats.osFamily = some "windows") (hutil : stats.memP95Pct = some util)
    (hhigh : rsMemUnderPct ≤ util) :
    memSaturated stats =
      stats.memPagesInputRateP95.map fun rate => decide (winPagesInputSaturation ≤ rate) := by
  have hnot : ¬util < rsMemUnderPct := not_lt.mpr hhigh
  unfold memSaturated
  simp only [hutil, if_neg hnot, if_pos hwin]

/-- The memory signal is consistent when a Windows paging rate goes with a utilisation. -/
lemma consistent_memory_iff (stats : ResourceStats) :
    (saturationBlock .memory stats).Consistent ↔
      (stats.osFamily = some "windows" →
        (stats.memP95Pct = none → stats.memPagesInputRateP95 = none) ∧
          ∀ util ∈ stats.memP95Pct, util < rsMemUnderPct → stats.memPagesInputRateP95 ≠ none) := by
  by_cases hwin : stats.osFamily = some "windows"
  · have hblock : saturationBlock .memory stats =
        saturationDict "Pages Input/sec" stats.memPagesInputRateP95 ((20 : ℤ) : ℚ) "per_sec"
          (memSaturated stats) := by
      simp [saturationBlock, hwin, winPagesInputSaturation]
    have hmeasured : (saturationBlock .memory stats).MeasuredWhenDecided ↔
        (stats.memPagesInputRateP95 ≠ none ↔ memSaturated stats ≠ none) := by
      rw [hblock, SaturationBlock.MeasuredWhenDecided, saturationDict, Option.isSome_iff_ne_none]
    have hjustified : (saturationBlock .memory stats).Justified := by
      rw [hblock]
      apply justified_saturationDict
      intro hflag rate hrate
      cases hutil : stats.memP95Pct with
      | none => simp [memSaturated, hutil] at hflag
      | some util =>
        by_cases hlow : util < rsMemUnderPct
        · simp [memSaturated, hutil, hlow] at hflag
        · rw [memSaturated_of_windows hwin hutil (not_lt.mp hlow), Option.mem_def.mp hrate] at hflag
          have hle : winPagesInputSaturation ≤ rate := of_decide_eq_true (Option.some.inj hflag)
          rw [winPagesInputSaturation] at hle
          exact_mod_cast hle
    rw [SaturationBlock.Consistent, hmeasured, and_iff_right hjustified]
    cases hutil : stats.memP95Pct with
    | none =>
      have hnone : memSaturated stats = none := by simp [memSaturated, hutil]
      simp [hwin, hnone]
    | some util =>
      by_cases hlow : util < rsMemUnderPct
      · have hfalse : memSaturated stats = some false := by simp [memSaturated, hutil, hlow]
        simp [hwin, hfalse, hlow]
      · rw [memSaturated_of_windows hwin hutil (not_lt.mp hlow)]
        simp [hlow]
  · have hblock : saturationBlock .memory stats =
        { signal := "swap page-out", value := none, threshold := none, unit := "event",
          measured := (memSaturated stats).isSome, saturated := memSaturated stats } := by
      simp [saturationBlock, hwin]
    rw [hblock]
    simp [SaturationBlock.Consistent, SaturationBlock.Justified,
      SaturationBlock.MeasuredWhenDecided, Option.isSome_iff_ne_none, hwin]

/-- The disk I/O signal is consistent unless a queue stands in for a latency elsewhere than on
Windows. -/
lemma consistent_diskIo_iff (stats : ResourceStats) :
    (saturationBlock .diskIo stats).Consistent ↔
      (stats.osFamily ≠ some "windows" → stats.diskAwaitP95Ms = none →
        stats.diskQueueP95 = none) := by
  cases hawait : stats.diskAwaitP95Ms with
  | some awaitMs =>
    have hflag : diskIoSaturated stats = some (decide (rsDiskioAwaitMs < awaitMs)) := by
      simp [diskIoSaturated, hawait]
    have hblock : saturationBlock .diskIo stats =
        saturationDict "await" (some awaitMs) ((20 : ℤ) : ℚ) "ms" (diskIoSaturated stats) := by
      simp [saturationBlock, hawait, rsDiskioAwaitMs]
    have hjustified : (saturationBlock .diskIo stats).Justified := by
      rw [hblock]
      apply justified_saturationDict
      intro hsaturated x hx
      obtain rfl : awaitMs = x := Option.some.inj hx
      have hlt : rsDiskioAwaitMs < awaitMs := by simpa [hflag] using hsaturated
      rw [rsDiskioAwaitMs] at hlt
      push_cast
      exact hlt.le
    rw [SaturationBlock.Consistent, and_iff_right hjustified, SaturationBlock.MeasuredWhenDecided,
      hblock]
    simp [saturationDict, hflag]
  | none =>
    cases hqueue : stats.diskQueueP95 with
    | none =>
      have hflag : diskIoSaturated stats = none := by simp [diskIoSaturated, hawait, hqueue]
      simp [saturationBlock, SaturationBlock.Consistent, SaturationBlock.Justified,
        SaturationBlock.MeasuredWhenDecided, hawait, hqueue, hflag]
    | some queue =>
      have hblock : saturationBlock .diskIo stats =
          saturationDict "Avg Disk Queue Length" (some queue) ((2 : ℤ) : ℚ) "queue"
            (diskIoSaturated stats) := by
        simp [saturationBlock, hawait, hqueue, diskQueuePerDiskSaturation]
      by_cases hwin : stats.osFamily = some "windows"
      · have hflag :
            diskIoSaturated stats = some (decide (diskQueuePerDiskSaturation ≤ queue)) := by
          simp [diskIoSaturated, hawait, hqueue, hwin]
        have hjustified : (saturationBlock .diskIo stats).Justified := by
          rw [hblock]
          apply justified_saturationDict
          intro hsaturated x hx
          obtain rfl : queue = x := Option.some.inj hx
          rw [hflag] at hsaturated
          have hle : diskQueuePerDiskSaturation ≤ queue :=
            of_decide_eq_true (Option.some.inj hsaturated)
          rw [diskQueuePerDiskSaturation] at hle
          exact_mod_cast hle
        rw [SaturationBlock.Consistent, and_iff_right hjustified,
          SaturationBlock.MeasuredWhenDecided, hblock]
        simp [saturationDict, hflag, hwin]
      · have hflag : diskIoSaturated stats = none := by simp [diskIoSaturated, hawait, hwin]
        rw [SaturationBlock.Consistent, SaturationBlock.MeasuredWhenDecided, hblock]
        simp [saturationDict, hflag, hwin]

/-! ### All signals -/

/-- The resources with a saturation signal. -/
def saturationKinds : List ResourceKind := [.cpu, .memory, .diskIo]

/-- The published signals of a host agree with their flags exactly on the statistics of
`SaturationEvidence`. -/
theorem saturationBlock_consistent_iff (stats : ResourceStats) :
    (∀ kind ∈ saturationKinds, (saturationBlock kind stats).Consistent) ↔
      SaturationEvidence stats := by
  have hkinds : (∀ kind ∈ saturationKinds, (saturationBlock kind stats).Consistent) ↔
      (saturationBlock .cpu stats).Consistent ∧ (saturationBlock .memory stats).Consistent ∧
        (saturationBlock .diskIo stats).Consistent := by
    simp [saturationKinds]
  rw [hkinds, consistent_cpu_iff, consistent_memory_iff, consistent_diskIo_iff]
  constructor
  · rintro ⟨⟨hqueue, hcores⟩, hpaging, hdepth⟩
    exact ⟨hqueue, hcores, hpaging, hdepth⟩
  · rintro ⟨hqueue, hcores, hpaging, hdepth⟩
    exact ⟨⟨hqueue, hcores⟩, hpaging, hdepth⟩

/-- A Windows host with eight waiting tasks on four cores at 80 %. -/
def busyWindowsHost : ResourceStats where
  cpuP95Pct := some 80
  cpuPeakPct := none
  cpuCores := some 4
  memP95Pct := none
  diskUsedPct := none
  netAvgKbytesPerS := none
  osFamily := some "windows"
  cpuRunQueueP95 := some 8

/-- Two waiting tasks per core raise the flag of a Windows host, whose number is half of its
line. -/
theorem not_saturationBlock_justified :
    saturationBlock .cpu busyWindowsHost =
        { signal := "Processor Queue Length/core", value := some 1, threshold := some 2,
          unit := "per_core", measured := true, saturated := some true } ∧
      ¬(saturationBlock .cpu busyWindowsHost).Justified := by
  have hblock : saturationBlock .cpu busyWindowsHost =
      { signal := "Processor Queue Length/core", value := some 1, threshold := some 2,
        unit := "per_core", measured := true, saturated := some true } := by
    decide +kernel
  refine ⟨hblock, ?_⟩
  rw [hblock]
  intro hjustified
  have hle : (2 : ℚ) ≤ 1 := hjustified rfl 1 rfl 2 rfl
  norm_num at hle

end AssessmentEngine
