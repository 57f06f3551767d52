import AssessmentEngine.Mappers.Diagnosis
import AssessmentEngine.Mappers.PeriodAssessment
import AssessmentEngine.Mappers.Saturation

/-!
# The card explains its verdicts

The verdicts come of the rules, the rows beside them of a reading of their own of the same figures
against the same lines.  What a card says of a resource can be told from the rows of the resource,
but for an OOM kill, which is an event, and for two ratios of the network, which are over when they
are at their line and are no trouble then (`period_card_self_explained`).
-/

namespace AssessmentEngine

/-! ## Rows that are over -/

/-- The rows of a resource. -/
def PeriodResource.rows (r : PeriodResource) : List PeriodSignalRow :=
  r.utilRows ++ r.satRows ++ r.extraGroups.flatMap PeriodExtraGroup.rows

/-- The row of this label is over its line. -/
def PeriodResource.Flags (r : PeriodResource) (label : String) : Prop :=
  ∃ row ∈ r.rows, row.label = label ∧ row.isOver = true

/-- A row that is over its line was measured, and one that was not measured says so. -/
structure PeriodSignalRow.Honest (row : PeriodSignalRow) : Prop where
  measured : row.isOver = true → row.measured = true
  notAvailable : row.measured = false → "N/A".toList <+: row.value.toList

/-- The card of a row of the report query, in its own terms. -/
structure SelfExplained (raw : ReportRowRaw) (cpu memory storage network : PeriodResource)
    (card : PeriodAssessment) : Prop where
  resources : card.resources = [cpu, memory, storage, network]
  badge : card.classificationLabel = "자원 부족" ↔
    cpu.verdictLabel = "부족" ∨ memory.verdictLabel = "부족" ∨ storage.verdictLabel = "용량 임박"
  /-- A long queue counts where the utilisation is not known. -/
  cpuShort : cpu.verdictLabel = "부족" ↔ raw.cpuCores.any (0 < ·) = true ∧
    (cpu.Flags "P95 사용률" ∨ raw.cpuP95Pct = none ∧ cpu.Flags "실행 큐")
  /-- Paging never decides. -/
  memoryShort : memory.verdictLabel = "부족" ↔
    memory.Flags "P95 사용률" ∨ raw.oomOccurred = true
  /-- A used share counts where there is no runway. -/
  storageFilling : storage.verdictLabel = "용량 임박" ↔
    (storage.Flags "용량 소진 잔여일수" ∨
      raw.diskCapacityRunwayDays = none ∧ storage.Flags "사용률 (worst mount)") ∨
    storage.Flags "inode 소진 잔여일수" ∨
      raw.diskInodeRunwayDays = none ∧ storage.Flags "inode 사용률"
  storageIoBound : storage.verdictLabel2 = "I/O 병목" ↔ storage.Flags "응답 지연"
  networkCongested : network.verdictLabel = "혼잡" ↔
    (netAverage raw).any (· < rsNetMinTrafficKbps) = false ∧
        (network.Flags "재전송" ∧ raw.netRetransPct ≠ some rsNetRetransPct ∨
          network.Flags "드롭" ∧ raw.netDropPct ≠ some rsNetDropPct) ∨
      network.Flags "conntrack"
  honest : ∀ r ∈ card.resources, ∀ row ∈ r.rows, row.Honest

section Honest

variable {stats : ResourceStats} {row : PeriodSignalRow} {v : Option ℚ} {text : ℚ → String}

lemma isSome_of_any {p : ℚ → Bool} (h : v.any p = true) : v.isSome = true := by
  cases v with
  | none => simp at h
  | some v => rfl

lemma honest_of_shownOr (hvalue : row.value = shownOr v text) (hmeasured : row.measured = v.isSome)
    (hover : row.isOver = true → v.isSome = true) : row.Honest where
  measured h := hmeasured.trans (hover h)
  notAvailable h := by
    rw [hmeasured, Option.isSome_eq_false_iff, Option.isNone_iff_eq_none] at h
    rw [hvalue, h]
    exact List.prefix_rfl

lemma honest_extraRow (label unit : String) (thr : Option ℚ) {isOver : Bool}
    (hover : isOver = true → v.isSome = true) : (extraRow label v unit thr isOver).Honest :=
  honest_of_shownOr rfl rfl hover

/-- A row that never flags is honest whatever it shows. -/
lemma honest_plainRow (label unit : String) (thr : Option ℚ) :
    (extraRow label v unit thr false).Honest :=
  honest_extraRow label unit thr fun hover => absurd hover Bool.false_ne_true

lemma honest_confidenceRows (stats : ResourceStats) : ∀ row ∈ confidenceRows stats, row.Honest := by
  unfold confidenceRows
  simp only [List.forall_mem_cons, List.not_mem_nil, false_imp_iff, implies_true, and_true]
  exact ⟨honest_of_shownOr rfl rfl isSome_of_any, honest_of_shownOr rfl rfl isSome_of_any⟩

lemma honest_utilRow (label : String) (thr : ℚ) : (utilRow label v thr).Honest :=
  honest_of_shownOr rfl rfl isSome_of_any

lemma honest_netRow (label unit : String) (thr : ℚ) : (netRow label v thr unit).Honest :=
  honest_of_shownOr rfl rfl isSome_of_any

lemma honest_runwayRow (label : String) : (runwayRow stats label v).Honest := by
  cases v with
  | none =>
    cases hstable : stats.historyHours.any (rsConfidenceMinHours ≤ ·) with
    | true => exact ⟨fun _ => hstable, fun h => absurd (hstable.symm.trans h) (by simp)⟩
    | false =>
      have hvalue : (runwayRow stats label none).value = "N/A (관측 부족)" := by
        simp [runwayRow, hstable]
      refine ⟨fun h => absurd h (by simp [runwayRow, runwayImminent]), fun _ => ?_⟩
      rw [hvalue]
      decide
  | some v => exact ⟨fun _ => rfl, fun h => absurd h (by simp [runwayRow])⟩

lemma honest_cpuAxis (label : String) : (satRow label (cpuAxisDisplay stats)).Honest := by
  unfold cpuAxisDisplay
  by_cases hwindows : stats.osFamily = some "windows"
  · rw [if_pos hwindows]
    exact honest_of_shownOr rfl rfl isSome_of_any
  · rw [if_neg hwindows]
    exact honest_of_shownOr rfl rfl isSome_of_any

lemma honest_memAxis (label : String) : (satRow label (memAxisDisplay stats)).Honest := by
  unfold memAxisDisplay
  by_cases hwindows : stats.osFamily = some "windows"
  · rw [if_pos hwindows]
    exact honest_of_shownOr rfl rfl isSome_of_any
  · rw [if_neg hwindows]
    exact ⟨fun _ => rfl, fun h => Bool.noConfusion h⟩

lemma honest_diskUtilRow (worst : Option String) : (diskUtilRow stats worst).Honest where
  measured h := isSome_of_any h
  notAvailable h := by
    have hnone : stats.diskUsedPct = none := by
      rw [← Option.isNone_iff_eq_none, ← Option.isSome_eq_false_iff]
      exact h
    unfold diskUtilRow
    rw [hnone]
    exact List.prefix_rfl

lemma honest_resources (errors : List ErrorSignal) (worst : Option String) :
    ∀ r ∈ [cpuResource stats, memoryResource stats errors, storageResource stats worst,
      networkResource stats], ∀ row ∈ r.rows, row.Honest := by
  have hconfidence := honest_confidenceRows stats
  simp only [List.forall_mem_cons, List.not_mem_nil, false_imp_iff, implies_true, and_true,
    PeriodResource.rows, cpuResource, memoryResource, storageResource, networkResource,
    periodResource, cpuExtraGroups, memExtraGroups, storageExtraGroups, networkExtraGroups,
    netSatRows, true_and, List.flatMap_cons, List.flatMap_nil, List.append_nil,
    List.forall_mem_append]
  refine ⟨⟨⟨honest_utilRow _ _, honest_cpuAxis _⟩, ⟨honest_plainRow _ _ _,
      honest_extraRow _ _ _ isSome_of_any, honest_extraRow _ _ _ isSome_of_any⟩,
      ⟨honest_extraRow _ _ _ isSome_of_any, honest_extraRow _ _ _ isSome_of_any⟩, hconfidence⟩,
    ⟨⟨honest_utilRow _ _, honest_memAxis _⟩, honest_plainRow _ _ _, hconfidence⟩,
    ⟨⟨honest_diskUtilRow _, honest_of_shownOr rfl rfl isSome_of_any⟩, hconfidence,
      honest_runwayRow _, honest_runwayRow _, honest_extraRow _ _ _ isSome_of_any,
      honest_plainRow _ _ _, honest_plainRow _ _ _⟩,
    ⟨honest_netRow _ _ _, honest_netRow _ _ _, honest_netRow _ _ _⟩, honest_plainRow _ _ _,
    hconfidence⟩

end Honest

/-! ## The rows that decide -/

section Flags

variable {stats : ResourceStats} {errors : List ErrorSignal} {worst : Option String}

lemma cpu_flags_util :
    (cpuResource stats).Flags "P95 사용률" ↔ stats.cpuP95Pct.any (rsCpuUnderPct ≤ ·) = true := by
  simp [PeriodResource.Flags, PeriodResource.rows, cpuResource, periodResource, utilRow, satRow,
    cpuExtraGroups, extraRow, confidenceRows]

lemma cpu_flags_queue :
    (cpuResource stats).Flags "실행 큐" ↔ (cpuAxisDisplay stats).crossed = true := by
  simp [PeriodResource.Flags, PeriodResource.rows, cpuResource, periodResource, utilRow, satRow,
    cpuExtraGroups, extraRow, confidenceRows]

lemma memory_flags_util : (memoryResource stats errors).Flags "P95 사용률" ↔
    stats.memP95Pct.any (rsMemUnderPct ≤ ·) = true := by
  simp [PeriodResource.Flags, PeriodResource.rows, memoryResource, periodResource, utilRow, satRow,
    memExtraGroups, extraRow, confidenceRows]

lemma storage_flags_used : (storageResource stats worst).Flags "사용률 (worst mount)" ↔
    overStaticGuard stats.diskUsedPct = true := by
  simp [PeriodResource.Flags, PeriodResource.rows, storageResource, periodResource, diskUtilRow,
    utilRow, satRow, storageExtraGroups, runwayRow, extraRow, confidenceRows, overStaticGuard]

lemma storage_flags_await : (storageResource stats worst).Flags "응답 지연" ↔
    stats.diskAwaitP95Ms.any (rsDiskioAwaitMs < ·) = true := by
  simp [PeriodResource.Flags, PeriodResource.rows, storageResource, periodResource, diskUtilRow,
    utilRow, satRow, storageExtraGroups, runwayRow, extraRow, confidenceRows, diskAxisDisplay]

lemma storage_flags_runway : (storageResource stats worst).Flags "용량 소진 잔여일수" ↔
    runwayImminent stats.diskCapacityRunwayDays = true := by
  simp [PeriodResource.Flags, PeriodResource.rows, storageResource, periodResource, diskUtilRow,
    utilRow, satRow, storageExtraGroups, runwayRow, extraRow, confidenceRows]

lemma storage_flags_inodeRunway : (storageResource stats worst).Flags "inode 소진 잔여일수" ↔
    runwayImminent stats.diskInodeRunwayDays = true := by
  simp [PeriodResource.Flags, PeriodResource.rows, storageResource, periodResource, diskUtilRow,
    utilRow, satRow, storageExtraGroups, runwayRow, extraRow, confidenceRows]

lemma storage_flags_inodes : (storageResource stats worst).Flags "inode 사용률" ↔
    overStaticGuard stats.diskInodeUsedPct = true := by
  simp [PeriodResource.Flags, PeriodResource.rows, storageResource, periodResource, diskUtilRow,
    utilRow, satRow, storageExtraGroups, runwayRow, extraRow, confidenceRows]

lemma network_flags_retrans : (networkResource stats).Flags "재전송" ↔
    stats.netRetransPct.any (rsNetRetransPct ≤ ·) = true := by
  simp [PeriodResource.Flags, PeriodResource.rows, networkResource, periodResource, netSatRows,
    netRow, networkExtraGroups, extraRow, confidenceRows]

lemma network_flags_drop : (networkResource stats).Flags "드롭" ↔
    stats.netDropPct.any (rsNetDropPct ≤ ·) = true := by
  simp [PeriodResource.Flags, PeriodResource.rows, networkResource, periodResource, netSatRows,
    netRow, networkExtraGroups, extraRow, confidenceRows]

lemma network_flags_conntrack : (networkResource stats).Flags "conntrack" ↔
    stats.conntrackRatio.any (rsConntrackSaturationRatio ≤ ·) = true := by
  simp [PeriodResource.Flags, PeriodResource.rows, networkResource, periodResource, netSatRows,
    netRow, networkExtraGroups, extraRow, confidenceRows]

end Flags

/-! ## The verdicts -/

section Verdicts

variable {stats : ResourceStats}

lemma verdictLabel_under_iff {status : ResourceStatus} :
    verdictLabel status = "부족" ↔ status = .under := by
  cases status <;> simp [verdictLabel]

lemma verdictLabel_filling_iff {status : ResourceStatus} :
    verdictLabel status = "용량 임박" ↔ status = .filling := by
  cases status <;> simp [verdictLabel]

lemma verdictLabel_ioBound_iff {status : ResourceStatus} :
    verdictLabel status = "I/O 병목" ↔ status = .ioBound := by
  cases status <;> simp [verdictLabel]

lemma verdictLabel_congested_iff {status : ResourceStatus} :
    verdictLabel status = "혼잡" ↔ status = .congested := by
  cases status <;> simp [verdictLabel]

lemma labelKo_under_iff {rec : Recommendation} :
    labelKo rec = "자원 부족" ↔ rec = .underProvisioned := by
  cases rec <;> simp [labelKo]

/-- The queue of a CPU that has cores is over when it reaches the line of the system. -/
lemma crossed_cpu_iff {cores : ℤ} (hcores : stats.cpuCores = some cores) (hpos : 0 < cores) :
    (cpuAxisDisplay stats).crossed = true ↔
      ∃ queue ∈ runQueueValue stats, rsCpuSatLine stats.osFamily ≤ queue / cores := by
  have htruthy : truthy (some cores) = some cores := truthy_of_pos rfl hpos
  unfold cpuAxisDisplay runQueueValue rsCpuSatLine queuePerCore
  rw [hcores, htruthy]
  by_cases hwindows : stats.osFamily = some "windows"
  · simp only [if_pos hwindows]
    cases stats.cpuRunQueueP95 <;> simp
  · simp only [if_neg hwindows]
    cases stats.procsRunningP95 <;> simp

/-- A CPU with cores is short when it is busy, or when its queue is long and nothing says that it is
not busy. -/
lemma assessCpu_under_iff_rows : (assessCpu stats).status = .under ↔
    stats.cpuCores.any (0 < ·) = true ∧
      (stats.cpuP95Pct.any (rsCpuUnderPct ≤ ·) = true ∨
        stats.cpuP95Pct = none ∧ (cpuAxisDisplay stats).crossed = true) := by
  rw [assessCpu_under_iff_inputs]
  refine and_congr_right fun hcores => ?_
  cases hsome : stats.cpuCores with
  | none => simp [hsome] at hcores
  | some cores =>
    have hpos : 0 < cores := by simpa [hsome] using hcores
    rw [cpuSaturated_eq_true_iff hsome hpos, crossed_cpu_iff hsome hpos]
    cases hutil : stats.cpuP95Pct with
    | none => simp
    | some util =>
      -- a measured utilisation makes a long queue count only where it is high itself
      simp only [Option.any_some, decide_eq_true_eq, Option.mem_def, Option.some.injEq,
        forall_eq', reduceCtorEq, false_and, or_false]
      exact or_iff_left_of_imp fun ⟨_, _, _, hbusy⟩ => hbusy

lemma any_lt_iff {v : Option ℚ} {line : ℚ} :
    v.any (line < ·) = true ↔ v.any (line ≤ ·) = true ∧ v ≠ some line := by
  cases v with
  | none => simp
  | some v => simp [lt_iff_le_and_ne, ne_comm]

lemma assessNetwork_congested_iff_rows : (assessNetwork stats).status = .congested ↔
    stats.netAvgKbytesPerS.any (· < rsNetMinTrafficKbps) = false ∧
        (stats.netRetransPct.any (rsNetRetransPct ≤ ·) = true ∧
            stats.netRetransPct ≠ some rsNetRetransPct ∨
          stats.netDropPct.any (rsNetDropPct ≤ ·) = true ∧ stats.netDropPct ≠ some rsNetDropPct) ∨
      stats.conntrackRatio.any (rsConntrackSaturationRatio ≤ ·) = true := by
  have hstatus : (assessNetwork stats).status = .congested ↔ netTriggers stats ≠ [] := by
    unfold assessNetwork
    simp only
    split_ifs <;> simp_all
  rw [hstatus, ← any_lt_iff, ← any_lt_iff]
  unfold netTriggers lowTraffic
  cases stats.netAvgKbytesPerS.any (· < rsNetMinTrafficKbps) <;>
    cases stats.netRetransPct.any (rsNetRetransPct < ·) <;>
      cases stats.netDropPct.any (rsNetDropPct < ·) <;> simp

lemma axisFilling_iff {runwayDays usedPct : Option ℚ} : axisFilling runwayDays usedPct = true ↔
    runwayImminent runwayDays = true ∨ runwayDays = none ∧ overStaticGuard usedPct = true := by
  simp [axisFilling, staticallyFilling]

lemma badge_iff : labelKo (classifyHost stats) = "자원 부족" ↔
    verdictLabel (assessCpu stats).status = "부족" ∨
      verdictLabel (assessMemory stats).status = "부족" ∨
        verdictLabel (assessDiskCapacity stats).status = "용량 임박" := by
  rw [labelKo_under_iff, classifyHost_underProvisioned_iff, verdictLabel_under_iff,
    verdictLabel_under_iff, verdictLabel_filling_iff]
  rfl

lemma cpu_short_iff : verdictLabel (assessCpu stats).status = "부족" ↔
    stats.cpuCores.any (0 < ·) = true ∧ ((cpuResource stats).Flags "P95 사용률" ∨
      stats.cpuP95Pct = none ∧ (cpuResource stats).Flags "실행 큐") := by
  rw [verdictLabel_under_iff, assessCpu_under_iff_rows, cpu_flags_util, cpu_flags_queue]

lemma memory_short_iff (errors : List ErrorSignal) :
    verdictLabel (assessMemory stats).status = "부족" ↔
      (memoryResource stats errors).Flags "P95 사용률" ∨ stats.oomOccurred = true := by
  rw [verdictLabel_under_iff, assessMemory_under_iff_inputs, memory_flags_util, or_comm]

lemma storage_filling_iff (worst : Option String) :
    verdictLabel (assessDiskCapacity stats).status = "용량 임박" ↔
      ((storageResource stats worst).Flags "용량 소진 잔여일수" ∨
        stats.diskCapacityRunwayDays = none ∧
          (storageResource stats worst).Flags "사용률 (worst mount)") ∨
      (storageResource stats worst).Flags "inode 소진 잔여일수" ∨
        stats.diskInodeRunwayDays = none ∧
          (storageResource stats worst).Flags "inode 사용률" := by
  rw [verdictLabel_filling_iff, assessDiskCapacity_filling_iff, axisFilling_iff, axisFilling_iff,
    storage_flags_runway, storage_flags_used, storage_flags_inodeRunway, storage_flags_inodes]

end Verdicts

/-- For each row of the report query: the badge, the five verdicts and the rows beside them. -/
theorem period_card_self_explained (raw : ReportRowRaw) (diskBaseline : Option ℤ)
    (errors : List ErrorSignal) (worst : Option String) (windowDays : Option ℤ) :
    ∃ cpu memory storage network, SelfExplained raw cpu memory storage network
      (buildPeriodAssessment (buildResourceStats raw diskBaseline) errors worst windowDays) := by
  set stats := buildResourceStats raw diskBaseline
  refine ⟨cpuResource stats, memoryResource stats errors, storageResource stats worst,
    networkResource stats, rfl, badge_iff, cpu_short_iff, memory_short_iff errors,
    storage_filling_iff worst, ?_, ?_, honest_resources errors worst⟩
  · change verdictLabel (assessDiskIo stats).status = _ ↔ _
    rw [verdictLabel_ioBound_iff, assessDiskIo_ioBound_iff, storage_flags_await]
    -- no caller knows the depth of the disk queue
    have hdepth : stats.diskQueueP95 = none := rfl
    unfold diskIoSaturated
    rw [hdepth]
    cases stats.diskAwaitP95Ms <;> simp
  · change verdictLabel (assessNetwork stats).status = _ ↔ _
    rw [verdictLabel_congested_iff, assessNetwork_congested_iff_rows, network_flags_retrans,
      network_flags_drop, network_flags_conntrack]
    rfl

end AssessmentEngine
