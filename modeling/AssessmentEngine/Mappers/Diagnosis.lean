import AssessmentEngine.Mappers.CauseSummary

/-!
# The diagnosis of a report row

A row of the engineer's report carries a badge, taken from the status of the host, and a
diagnosis, one line about its most urgent signal.  The first lines of the table name
shortages and are meant for short hosts only.  A disk I/O bottleneck is among them, but it
has become advisory and no longer makes a host short: on a host that is short of nothing
else the diagnosis and the badge disagree.
-/

namespace AssessmentEngine

/-- The peak over p95 from which a load counts as bursting. -/
def varianceBurstRatio : ℚ := 3 / 2

/-- The peaks up to which a burst is not worth a line. -/
def burstPeakFloorCpuPct : ℚ := 30
def burstPeakFloorMemPct : ℚ := 50

/-- A report row with the memory peak that only the diagnosis reads. -/
structure DiagnosedRow extends ReportRowRaw where
  memPeakPct : Option ℚ := none
  deriving DecidableEq

/-- The peak over the p95; absent when either is missing or zero, or the p95 is negative. -/
def varianceRatio (p95 peak : Option ℚ) : Option ℚ :=
  match p95, peak with
  | some p95, some peak => if p95 ≠ 0 ∧ peak ≠ 0 ∧ 0 < p95 then some (peak / p95) else none
  | _, _ => none

/-- The variance and the peak make a burst. -/
def isBurst (variance peak : Option ℚ) (floorPct : ℚ) : Bool :=
  variance.any (varianceBurstRatio ≤ ·) && peak.any (floorPct < ·)

/-- The diagnosis of a host: the first line that applies. -/
def buildDiagnosis (host : HostAssessment) (raw : DiagnosedRow)
    (cpuVariance memVariance : Option ℚ) : String :=
  let mem := host.resources.memory
  let cpu := host.resources.cpu
  if mem.status = .under ∧ (.memSaturation ∈ mem.triggers ∨ .memOom ∈ mem.triggers) then
    if raw.osFamily = some "windows" then "메모리 부족 (페이징 과다)" else "메모리 부족 (스왑 발생)"
  else if host.resources.diskIo.status = .ioBound then "디스크 I/O 병목"
  else if cpu.status = .under ∧ .cpuSaturation ∈ cpu.triggers then "CPU 포화"
  else if mem.status = .under ∧ .memUtil ∈ mem.triggers then "메모리 압박"
  else if cpu.status = .under ∧ .cpuUtil ∈ cpu.triggers then "CPU 압박"
  else if host.resources.diskCapacity.status = .filling then "디스크 용량 임박"
  else if host.networkCongested then "네트워크 혼잡"
  else if isBurst cpuVariance raw.cpuPeakPct burstPeakFloorCpuPct ||
      isBurst memVariance raw.memPeakPct burstPeakFloorMemPct then "부하 변동 큼"
  else if host.hostStatus = .idle then "거의 미사용"
  else if host.hostStatus = .over then "여유 있음"
  else "정상"

/-- The verdict on the host of a report row. -/
def reportHost (raw : DiagnosedRow) : HostAssessment :=
  rollupHost (buildResourceStats raw.toReportRowRaw raw.diskIopsBaseline)

/-- The diagnosis of a report row. -/
def reportDiagnosis (raw : DiagnosedRow) : String :=
  buildDiagnosis (reportHost raw) raw (varianceRatio raw.cpuP95Pct raw.cpuPeakPct)
    (varianceRatio raw.memP95Pct raw.memPeakPct)

/-- The lines that name a shortage. -/
def shortageDiagnoses : List String :=
  ["메모리 부족 (페이징 과다)", "메모리 부족 (스왑 발생)", "디스크 I/O 병목", "CPU 포화", "메모리 압박",
    "CPU 압박", "디스크 용량 임박"]

/-- The measurements make some resource short: a CPU with cores that is busy or saturated, a
memory that is full or had an OOM kill, or a disk that is filling. -/
def shortOnInputs (stats : ResourceStats) : Bool :=
  (stats.cpuCores.any (0 < ·) &&
      (stats.cpuP95Pct.any (rsCpuUnderPct ≤ ·) || decide (cpuSaturated stats = some true))) ||
    (stats.oomOccurred || stats.memP95Pct.any (rsMemUnderPct ≤ ·)) ||
    (axisFilling stats.diskCapacityRunwayDays stats.diskUsedPct ||
      axisFilling stats.diskInodeRunwayDays stats.diskInodeUsedPct)

/-! ### Which measurements make a host short -/

section Short

variable (stats : ResourceStats)

lemma cpuTriggers_ne_nil_iff_inputs :
    cpuTriggers stats ≠ [] ↔
      stats.cpuP95Pct.any (rsCpuUnderPct ≤ ·) = true ∨ cpuSaturated stats = some true := by
  unfold cpuTriggers
  by_cases hutil : stats.cpuP95Pct.any (rsCpuUnderPct ≤ ·) = true
  · simp [hutil]
  · simp [hutil]

/-- A CPU is short when it has cores and is busy or saturated. -/
lemma assessCpu_under_iff_inputs :
    (assessCpu stats).status = .under ↔
      stats.cpuCores.any (0 < ·) = true ∧
        (stats.cpuP95Pct.any (rsCpuUnderPct ≤ ·) = true ∨ cpuSaturated stats = some true) := by
  rw [← cpuTriggers_ne_nil_iff_inputs]
  cases hcores : stats.cpuCores with
  | none =>
    unfold assessCpu assessCpuWith
    simp only [hcores]
    split_ifs <;> simp
  | some cores =>
    by_cases hpos : 0 < cores
    · rw [assessCpu_under_iff hcores hpos]
      simp [hpos]
    · unfold assessCpu assessCpuWith
      simp only [hcores, if_pos (not_lt.mp hpos)]
      split_ifs <;> simp [hpos]

/-- A memory is short after an OOM kill or when it is full. -/
lemma assessMemory_under_iff_inputs :
    (assessMemory stats).status = .under ↔
      stats.oomOccurred = true ∨ stats.memP95Pct.any (rsMemUnderPct ≤ ·) = true := by
  unfold assessMemory
  cases hutil : stats.memP95Pct with
  | none =>
    simp only
    split_ifs with hoom <;> simp [hoom]
  | some util =>
    have htriggers := memTriggers_ne_nil_iff hutil
    have hinputs : (stats.oomOccurred = true ∨ (some util).any (rsMemUnderPct ≤ ·) = true) ↔
        memTriggers stats util ≠ [] := by
      rw [htriggers, or_comm, Option.any_some, decide_eq_true_iff]
    rw [hinputs]
    by_cases hnil : memTriggers stats util = []
    · simp only [hnil, ne_eq, not_true_eq_false, if_false, iff_false]
      split
      · split_ifs <;> simp
      · simp
    · simp only [if_pos hnil]
      exact iff_of_true trivial hnil

lemma hostShort_iff_shortOnInputs : HostShort stats ↔ shortOnInputs stats = true := by
  unfold HostShort shortOnInputs
  rw [assessCpu_under_iff_inputs, assessMemory_under_iff_inputs, assessDiskCapacity_filling_iff]
  simp only [Bool.or_eq_true, Bool.and_eq_true, decide_eq_true_iff, or_assoc]

/-- A disk has an I/O bottleneck exactly when it is saturated. -/
lemma assessDiskIo_ioBound_iff :
    (assessDiskIo stats).status = .ioBound ↔ diskIoSaturated stats = some true := by
  unfold assessDiskIo
  cases diskIoSaturated stats with
  | none =>
    simp only
    split_ifs <;> simp
  | some saturated => cases saturated <;> simp

/-- A short CPU is saturated or busy. -/
lemma cpu_trigger_of_under (hunder : (assessCpu stats).status = .under) :
    .cpuSaturation ∈ (assessCpu stats).triggers ∨ .cpuUtil ∈ (assessCpu stats).triggers := by
  obtain ⟨t, ht⟩ := List.exists_mem_of_ne_nil _ (assessCpu_triggers_ne_nil hunder)
  have hcases : (assessCpu stats).triggers = [] ∨ (assessCpu stats).triggers = cpuTriggers stats :=
    assessCpu_triggers
  have hlist : (assessCpu stats).triggers = cpuTriggers stats :=
    hcases.resolve_left (List.ne_nil_of_mem ht)
  rw [hlist] at ht ⊢
  rcases mem_cpuTriggers ht with rfl | rfl
  · exact Or.inr ht
  · exact Or.inl ht

/-- A short memory pages, had an OOM kill or is full. -/
lemma memory_trigger_of_under (hunder : (assessMemory stats).status = .under) :
    (.memSaturation ∈ (assessMemory stats).triggers ∨ .memOom ∈ (assessMemory stats).triggers) ∨
      .memUtil ∈ (assessMemory stats).triggers := by
  obtain ⟨t, ht⟩ := List.exists_mem_of_ne_nil _ (assessMemory_triggers_ne_nil hunder)
  rcases mem_assessMemory_triggers ht with rfl | rfl | rfl
  · exact Or.inr ht
  · exact Or.inl (Or.inl ht)
  · exact Or.inl (Or.inr ht)

end Short

/-! ### The lines that name a shortage -/

/-- The diagnosis names a shortage when one of the first six conditions holds. -/
lemma buildDiagnosis_mem_shortageDiagnoses_iff (host : HostAssessment) (raw : DiagnosedRow)
    (cpuVariance memVariance : Option ℚ) :
    buildDiagnosis host raw cpuVariance memVariance ∈ shortageDiagnoses ↔
      (host.resources.memory.status = .under ∧
          (.memSaturation ∈ host.resources.memory.triggers ∨
            .memOom ∈ host.resources.memory.triggers)) ∨
        host.resources.diskIo.status = .ioBound ∨
        (host.resources.cpu.status = .under ∧ .cpuSaturation ∈ host.resources.cpu.triggers) ∨
        (host.resources.memory.status = .under ∧ .memUtil ∈ host.resources.memory.triggers) ∨
        (host.resources.cpu.status = .under ∧ .cpuUtil ∈ host.resources.cpu.triggers) ∨
        host.resources.diskCapacity.status = .filling := by
  unfold buildDiagnosis
  simp only
  by_cases hmemory : host.resources.memory.status = .under ∧
      (.memSaturation ∈ host.resources.memory.triggers ∨
        .memOom ∈ host.resources.memory.triggers)
  · rw [if_pos hmemory]
    refine iff_of_true ?_ (Or.inl hmemory)
    split_ifs <;> decide
  rw [if_neg hmemory, or_iff_right hmemory]
  by_cases hio : host.resources.diskIo.status = .ioBound
  · rw [if_pos hio]
    exact iff_of_true (by decide) (Or.inl hio)
  rw [if_neg hio, or_iff_right hio]
  by_cases hcpuSat : host.resources.cpu.status = .under ∧
      .cpuSaturation ∈ host.resources.cpu.triggers
  · rw [if_pos hcpuSat]
    exact iff_of_true (by decide) (Or.inl hcpuSat)
  rw [if_neg hcpuSat, or_iff_right hcpuSat]
  by_cases hmemUtil : host.resources.memory.status = .under ∧
      .memUtil ∈ host.resources.memory.triggers
  · rw [if_pos hmemUtil]
    exact iff_of_true (by decide) (Or.inl hmemUtil)
  rw [if_neg hmemUtil, or_iff_right hmemUtil]
  by_cases hcpuUtil : host.resources.cpu.status = .under ∧
      .cpuUtil ∈ host.resources.cpu.triggers
  · rw [if_pos hcpuUtil]
    exact iff_of_true (by decide) (Or.inl hcpuUtil)
  rw [if_neg hcpuUtil, or_iff_right hcpuUtil]
  by_cases hdisk : host.resources.diskCapacity.status = .filling
  · rw [if_pos hdisk]
    exact iff_of_true (by decide) hdisk
  rw [if_neg hdisk]
  -- the lines below name no shortage
  refine iff_of_false ?_ hdisk
  split_ifs <;> decide

/-- The diagnosis names a shortage when the host is short or has an I/O bottleneck. -/
lemma reportDiagnosis_mem_shortageDiagnoses_iff (raw : DiagnosedRow) :
    reportDiagnosis raw ∈ shortageDiagnoses ↔
      HostShort (buildResourceStats raw.toReportRowRaw raw.diskIopsBaseline) ∨
        (assessDiskIo (buildResourceStats raw.toReportRowRaw raw.diskIopsBaseline)).status =
          .ioBound := by
  have hresources : (reportHost raw).resources =
      assessResources (buildResourceStats raw.toReportRowRaw raw.diskIopsBaseline) := rfl
  rw [reportDiagnosis, buildDiagnosis_mem_shortageDiagnoses_iff, hresources]
  simp only [assessResources]
  generalize buildResourceStats raw.toReportRowRaw raw.diskIopsBaseline = stats
  have hcpu := cpu_trigger_of_under stats
  have hmem := memory_trigger_of_under stats
  unfold HostShort
  constructor
  · rintro (⟨h, -⟩ | h | ⟨h, -⟩ | ⟨h, -⟩ | ⟨h, -⟩ | h)
    · exact Or.inl (Or.inr (Or.inl h))
    · exact Or.inr h
    · exact Or.inl (Or.inl h)
    · exact Or.inl (Or.inr (Or.inl h))
    · exact Or.inl (Or.inl h)
    · exact Or.inl (Or.inr (Or.inr h))
  · rintro ((h | h | h) | h)
    · rcases hcpu h with ht | ht
      · exact Or.inr (Or.inr (Or.inl ⟨h, ht⟩))
      · exact Or.inr (Or.inr (Or.inr (Or.inr (Or.inl ⟨h, ht⟩))))
    · rcases hmem h with ht | ht
      · exact Or.inl ⟨h, ht⟩
      · exact Or.inr (Or.inr (Or.inr (Or.inl ⟨h, ht⟩)))
    · exact Or.inr (Or.inr (Or.inr (Or.inr (Or.inr h))))
    · exact Or.inr (Or.inl h)

/-- The diagnosis names a shortage exactly on the hosts with the badge of a short host, unless
the disk is saturated and nothing is short. -/
theorem reportDiagnosis_iff_under_iff (raw : DiagnosedRow) :
    (reportDiagnosis raw ∈ shortageDiagnoses ↔ (reportHost raw).hostStatus = .under) ↔
      (diskIoSaturated (buildResourceStats raw.toReportRowRaw raw.diskIopsBaseline) = some true →
        shortOnInputs (buildResourceStats raw.toReportRowRaw raw.diskIopsBaseline) = true) := by
  rw [reportDiagnosis_mem_shortageDiagnoses_iff, reportHost, rollupHost_hostStatus_under_iff,
    assessDiskIo_ioBound_iff, ← hostShort_iff_shortOnInputs]
  exact or_iff_left_iff_imp

/-- A quiet Linux host whose disk answers within 30 ms. -/
def slowDiskHost : DiagnosedRow where
  publicId := "00000000-0000-0000-0000-000000000001"
  hostname := "db-1"
  osFamily := some "linux"
  cpuP95Pct := some 20
  cpuPeakPct := some 25
  memP95Pct := some 40
  cpuCores := some 2
  memTotalBytes := some (4 * 1024 ^ 3)
  diskAwaitP95Ms := some 30

/-- The host with the slow disk is judged, is not short, and is diagnosed with a bottleneck. -/
theorem not_reportDiagnosis_iff_under :
    ((reportHost slowDiskHost).hostStatus ≠ .insufficient ∧
        reportDiagnosis slowDiskHost = "디스크 I/O 병목" ∧
        (reportHost slowDiskHost).hostStatus ≠ .under) ∧
      ¬(reportDiagnosis slowDiskHost ∈ shortageDiagnoses ↔
        (reportHost slowDiskHost).hostStatus = .under) := by
  have hjudged : (reportHost slowDiskHost).hostStatus ≠ .insufficient := by decide +kernel
  have hdiagnosis : reportDiagnosis slowDiskHost = "디스크 I/O 병목" := by decide +kernel
  have hnotUnder : (reportHost slowDiskHost).hostStatus ≠ .under := by decide +kernel
  refine ⟨⟨hjudged, hdiagnosis, hnotUnder⟩, ?_⟩
  intro hiff
  refine hnotUnder (hiff.mp ?_)
  rw [hdiagnosis]
  decide

end AssessmentEngine
