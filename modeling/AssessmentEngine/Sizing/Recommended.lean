import AssessmentEngine.Library.Landing
import AssessmentEngine.Mappers.Sizing

/-!
# The recommended sizes of a host

The size that the assessment API recommends for a resource is the outcome of two cascades:
the verdict on the resource and `axisSize`.  This module puts them together: `cpuSize` and
`memSize` say in one expression which size is recommended, and `assessCpu_status` and
`assessMemory_status` which status goes with it.
-/

namespace AssessmentEngine

/-- A verdict with this confidence may prescribe a smaller size. -/
def downsizeOpen (conf : ConfidenceNote) (stats : ResourceStats) : Bool :=
  conf.high && !conf.nonstationary && stats.sampleSufficiency.any (rsDownsizeMinSufficiency ≤ ·)

lemma downsizePrescribable_eq (ra : ResourceAssessment) (stats : ResourceStats) :
    downsizePrescribable ra stats =
      (decide (ra.status = .over) && downsizeOpen ra.confidence stats) := by
  unfold downsizePrescribable downsizeOpen
  simp only [Bool.and_assoc]

/-- What is recommended on a surplus. -/
lemma axisSize_over {current target : ℤ} {ra : ResourceAssessment} {stats : ResourceStats}
    (hover : ra.status = .over) (htarget : ra.sizingTarget = some target) :
    axisSize current ra stats =
      if downsizeOpen ra.confidence stats then (some target, .decrease, .exact)
      else (some current, .keep, .exact) := by
  unfold axisSize
  rw [hover]
  simp [downsizePrescribable_eq, hover, htarget]

/-! ### CPU -/

section Cpu

variable {stats : ResourceStats} {cores : ℤ} {util : ℚ}

/-- Neither the utilisation nor a saturated run queue is there to judge a CPU by. -/
abbrev CpuUnjudged (stats : ResourceStats) : Prop :=
  stats.cpuP95Pct = none ∧ cpuSaturated stats ≠ some true

/-- The number of cores that is recommended to a host of `cores` cores. -/
def cpuSize (round : ℚ → ℚ) (stats : ResourceStats) (cores : ℤ) : ℤ :=
  if cpuTriggers stats ≠ [] then max (cpuTarget round stats cores) (cores + 1)
  else if cpuTarget round stats cores < cores ∧ percoreBusy stats = false ∧
      downsizeOpen (cpuConfidence stats) stats = true then
    cpuTarget round stats cores
  else cores

lemma cpuTriggers_eq_nil_of_unjudged (hmissing : CpuUnjudged stats) : cpuTriggers stats = [] := by
  unfold cpuTriggers
  rw [hmissing.1, if_neg hmissing.2]
  rfl

lemma downsizeOpen_eq_false_of_unjudged (hmissing : CpuUnjudged stats) :
    downsizeOpen (cpuConfidence stats) stats = false := by
  have hgap : (cpuConfidence stats).coverageGap = true := by
    unfold cpuConfidence
    rw [if_pos hmissing.1]
  simp [downsizeOpen, ConfidenceNote.high, hgap]

section Rounded

variable {round : ℚ → ℚ}
  (hquiet : ¬CpuUnjudged stats → cpuTriggers stats = [] → cpuTarget round stats cores ≤ cores)

include hquiet

/-- The status of a CPU of at least one core that asks for more cores only when it has a trigger. -/
lemma assessCpuWith_status (hcores : stats.cpuCores = some cores) (hpos : 0 < cores) :
    (assessCpuWith round stats).status =
      if CpuUnjudged stats then .unmeasured
      else if cpuTriggers stats ≠ [] then .under
      else if cpuTarget round stats cores < cores ∧ percoreBusy stats = false then .over
      else .optimal := by
  unfold assessCpuWith
  by_cases hmissing : CpuUnjudged stats
  · rw [if_pos hmissing, if_pos hmissing]
  rw [if_neg hmissing, if_neg hmissing]
  simp only [hcores, if_neg (not_le.mpr hpos)]
  by_cases htriggers : cpuTriggers stats = []
  · have hup := hquiet hmissing htriggers
    rw [if_neg (by simp [htriggers, hup]), if_neg (not_not.mpr htriggers)]
    split_ifs <;> rfl
  · rw [if_pos (Or.inl htriggers), if_pos htriggers]

/-- It is short exactly when it has a trigger. -/
lemma assessCpuWith_under_iff (hcores : stats.cpuCores = some cores) (hpos : 0 < cores) :
    (assessCpuWith round stats).status = .under ↔ cpuTriggers stats ≠ [] := by
  rw [assessCpuWith_status hquiet hcores hpos]
  by_cases hmissing : CpuUnjudged stats
  · rw [if_pos hmissing]
    simp [cpuTriggers_eq_nil_of_unjudged hmissing]
  · rw [if_neg hmissing]
    by_cases htriggers : cpuTriggers stats = []
    · simp only [htriggers, ne_eq, not_true_eq_false, if_false, iff_false]
      split_ifs <;> simp
    · simp [htriggers]

/-- The recommended number of cores. -/
lemma axisSize_assessCpuWith (hcores : stats.cpuCores = some cores) (hpos : 0 < cores) :
    (axisSize cores (assessCpuWith round stats) stats).1 = some (cpuSize round stats cores) := by
  unfold cpuSize
  by_cases hmissing : CpuUnjudged stats
  · have hstatus : (assessCpuWith round stats).status = .unmeasured := by
      rw [assessCpuWith_status hquiet hcores hpos, if_pos hmissing]
    simp [axisSize, hstatus, cpuTriggers_eq_nil_of_unjudged hmissing,
      downsizeOpen_eq_false_of_unjudged hmissing]
  · unfold assessCpuWith
    rw [if_neg hmissing]
    simp only [hcores, if_neg (not_le.mpr hpos)]
    by_cases htriggers : cpuTriggers stats = []
    · have hup := hquiet hmissing htriggers
      rw [if_neg (by simp [htriggers, hup]), if_neg (not_not.mpr htriggers)]
      by_cases hover : cpuTarget round stats cores < cores ∧ percoreBusy stats = false
      · rw [if_pos hover, axisSize_over rfl rfl]
        by_cases hopen : downsizeOpen (cpuConfidence stats) stats = true
        · simp [hopen, hover]
        · simp [hopen]
      · rw [if_neg hover, if_neg fun h => hover ⟨h.1, h.2.1⟩]
        rfl
    · rw [if_pos (Or.inl htriggers), if_pos htriggers]
      by_cases hup : cores < cpuTarget round stats cores
      · rw [max_eq_left (Int.add_one_le_of_lt hup)]
        simp [axisSize, hup]
      · simp [axisSize, hup, max_eq_right ((not_lt.mp hup).trans (Int.le_add_one le_rfl))]

end Rounded

lemma assessCpu_status (hcores : stats.cpuCores = some cores) (hpos : 0 < cores) :
    (assessCpu stats).status =
      if CpuUnjudged stats then .unmeasured
      else if cpuTriggers stats ≠ [] then .under
      else if cpuTarget id stats cores < cores ∧ percoreBusy stats = false then .over
      else .optimal :=
  assessCpuWith_status (cpuTarget_le_of_no_triggers hpos) hcores hpos

/-- A CPU of at least one core is short exactly when it has a trigger. -/
lemma assessCpu_under_iff (hcores : stats.cpuCores = some cores) (hpos : 0 < cores) :
    (assessCpu stats).status = .under ↔ cpuTriggers stats ≠ [] :=
  assessCpuWith_under_iff (cpuTarget_le_of_no_triggers hpos) hcores hpos

lemma axisSize_assessCpu (hcores : stats.cpuCores = some cores) (hpos : 0 < cores) :
    (axisSize cores (assessCpu stats) stats).1 = some (cpuSize id stats cores) :=
  axisSize_assessCpuWith (cpuTarget_le_of_no_triggers hpos) hcores hpos

/-- A run queue never makes a CPU saturated whose utilisation is measured below 70 %. -/
lemma cpuSaturated_ne_of_lt (hutil : stats.cpuP95Pct = some util) (hlt : util < rsCpuUnderPct) :
    cpuSaturated stats ≠ some true := by
  unfold cpuSaturated
  rw [hutil]
  split
  · simp
  · split_ifs
    · simp
    · split <;> simp [hlt]

/-- A measured CPU has a trigger exactly when its utilisation reaches 70 %. -/
lemma cpuTriggers_ne_nil_iff (hutil : stats.cpuP95Pct = some util) :
    cpuTriggers stats ≠ [] ↔ rsCpuUnderPct ≤ util := by
  unfold cpuTriggers
  rw [hutil]
  constructor
  · intro hne
    by_contra hlt
    have hsat := cpuSaturated_ne_of_lt hutil (not_le.mp hlt)
    simp [hlt, hsat] at hne
  · intro hle
    simp [hle]

section Target

variable {round : ℚ → ℚ}

lemma satLine_pos (osFamily : Option String) :
    0 < rsCpuSatLine osFamily * rsCpuSatHeadroom := by
  unfold rsCpuSatLine
  split_ifs
  · norm_num [cpuRunQueuePerCoreSaturation, rsCpuSatHeadroom]
  · norm_num [procsRunningPerCoreSaturation, rsCpuSatHeadroom]

lemma one_le_cpuTarget : 1 ≤ cpuTarget round stats cores := one_le_cpuTargetCores _ _ _ _ _ _

lemma cpuSize_pos (hpos : 0 < cores) : 0 < cpuSize round stats cores := by
  have htarget : 1 ≤ cpuTarget round stats cores := one_le_cpuTarget
  unfold cpuSize
  split_ifs <;> omega

end Target

end Cpu

/-! ### Memory -/

section Memory

variable {stats : ResourceStats} {total : ℤ} {util : ℚ}

/-- The sizes that a short memory can be extended to. -/
def memCandidates (utilTarget : Option ℤ) (stats : ResourceStats) (total : ℤ) : List ℤ :=
  utilTarget.toList ++
    if memPagingActive stats ∨ stats.oomOccurred then [memHeadroomMb total] else []

lemma memUnderTarget_eq (utilTarget : Option ℤ) (htotal : stats.memTotalMb = some total) :
    memUnderTarget utilTarget stats =
      (memCandidates utilTarget stats total).max?.filter (total < ·) := by
  unfold memUnderTarget memCandidates
  simp only [htotal]
  cases (utilTarget.toList ++ if memPagingActive stats ∨ stats.oomOccurred then
    [memHeadroomMb total] else []).max? with
  | none => rfl
  | some up => simp [Option.filter]

/-- An extension of a short memory is one of the candidates and exceeds the present size. -/
lemma mem_candidates_of_memUnderTarget {utilTarget : Option ℤ} {up : ℤ}
    (htotal : stats.memTotalMb = some total) (hup : memUnderTarget utilTarget stats = some up) :
    up ∈ memCandidates utilTarget stats total ∧ total < up := by
  rw [memUnderTarget_eq utilTarget htotal, Option.filter_eq_some_iff] at hup
  exact ⟨List.max?_mem hup.1, of_decide_eq_true hup.2⟩

/-- A candidate above the present size is reached by the extension. -/
lemma exists_memUnderTarget {utilTarget : Option ℤ} {c : ℤ} (htotal : stats.memTotalMb = some total)
    (hc : c ∈ memCandidates utilTarget stats total) (hlt : total < c) :
    ∃ up, memUnderTarget utilTarget stats = some up ∧ c ≤ up := by
  rw [memUnderTarget_eq utilTarget htotal]
  cases hmax : (memCandidates utilTarget stats total).max? with
  | none =>
    rw [List.max?_eq_none_iff] at hmax
    simp [hmax] at hc
  | some up =>
    have hle : c ≤ up := (List.max?_eq_some_iff.mp hmax).2 c hc
    exact ⟨up, by simp [Option.filter, hlt.trans_le hle], hle⟩

/-- The size (MB) that is recommended to a host of `total` MB. -/
def memSize (stats : ResourceStats) (total : ℤ) : ℤ :=
  match stats.memP95Pct with
  | none => if stats.oomOccurred then memHeadroomMb total else total
  | some util =>
    if memTriggers stats util ≠ [] then
      (memUnderTarget (memTarget stats util) stats).getD (memHeadroomMb total)
    else
      match memTarget stats util with
      | some target =>
        if target < total ∧ downsizeOpen (baseConfidence stats false true) stats = true then target
        else total
      | none => total

/-- A utilisation target is a size. -/
lemma memTarget_pos {target : ℤ} (htotal : stats.memTotalMb = some total) (hpos : 0 < total)
    (htarget : memTarget stats util = some target) : 0 < target := by
  rw [memTarget, htotal] at htarget
  exact memTargetMb_pos hpos htarget

/-- The status of a memory of at least one MB. -/
lemma assessMemory_status (htotal : stats.memTotalMb = some total) (hpos : 0 < total) :
    (assessMemory stats).status =
      match stats.memP95Pct with
      | none => if stats.oomOccurred then .under else .unmeasured
      | some util =>
        if memTriggers stats util ≠ [] then .under
        else if (memTarget stats util).any (· < total) then .over
        else .optimal := by
  unfold assessMemory
  cases hutil : stats.memP95Pct with
  | none =>
    simp only
    split_ifs <;> rfl
  | some util =>
    by_cases htriggers : memTriggers stats util = []
    · have htruthy := truthy_of_pos htotal hpos
      simp only [if_neg (not_not.mpr htriggers), htruthy]
      cases htarget : memTarget stats util with
      | none => simp [truthy, Option.filter]
      | some target =>
        have htarget' := truthy_of_pos rfl (memTarget_pos htotal hpos htarget)
        simp only [htarget', Option.any_some, decide_eq_true_eq]
        split_ifs <;> rfl
    · simp only [if_pos htriggers]

/-- The recommended size of a memory. -/
lemma axisSize_assessMemory (htotal : stats.memTotalMb = some total) (hpos : 0 < total) :
    (axisSize total (assessMemory stats) stats).1 = some (memSize stats total) := by
  unfold assessMemory memSize
  cases hutil : stats.memP95Pct with
  | none =>
    by_cases hoom : stats.oomOccurred = true
    · simp [hoom, axisSize, htotal]
    · simp [hoom, axisSize]
  | some util =>
    by_cases htriggers : memTriggers stats util = []
    · have htruthy := truthy_of_pos htotal hpos
      simp only [if_neg (not_not.mpr htriggers), htruthy]
      cases htarget : memTarget stats util with
      | none => simp [truthy, Option.filter, axisSize]
      | some target =>
        have htarget' := truthy_of_pos rfl (memTarget_pos htotal hpos htarget)
        simp only [htarget']
        by_cases hdown : target < total
        · rw [if_pos hdown, axisSize_over rfl rfl]
          by_cases hopen : downsizeOpen (baseConfidence stats false true) stats = true
          · simp [hopen, hdown]
          · simp [hopen]
        · simp [hdown, axisSize]
    · simp only [if_pos htriggers]
      cases hup : memUnderTarget (memTarget stats util) stats with
      | none => simp [axisSize, htotal]
      | some up => simp [axisSize]

/-- The near-peak is absent or at least the utilisation. -/
def NearPeakAbove (stats : ResourceStats) : Prop :=
  ∀ near ∈ stats.memNearPeakPct, ∀ util ∈ stats.memP95Pct, util ≤ near

/-- The usage that the memory is sized on. -/
def memSizingPct (stats : ResourceStats) (util : ℚ) : ℚ := stats.memNearPeakPct.getD util

lemma le_memSizingPct (hnear : NearPeakAbove stats) (hutil : stats.memP95Pct = some util) :
    util ≤ memSizingPct stats util := by
  unfold memSizingPct
  cases hpeak : stats.memNearPeakPct with
  | none => exact le_rfl
  | some near => exact hnear near hpeak util hutil

lemma memSizingLine_pos : (0 : ℚ) < rsMemSizingTargetPct := by norm_num [rsMemSizingTargetPct]

/-- The utilisation target is the least size on which the sizing usage takes at most 80 %. -/
lemma memTarget_of_pos (htotal : stats.memTotalMb = some total)
    (hpos : 0 < memSizingPct stats util) :
    memTarget stats util =
      some (Landing.landing (total * memSizingPct stats util) rsMemSizingTargetPct) := by
  unfold memTarget memTargetMb
  rw [htotal]
  exact if_neg (not_le.mpr hpos)

lemma memTarget_of_nonpos (hnonpos : memSizingPct stats util ≤ 0) :
    memTarget stats util = none := by
  unfold memTarget memTargetMb
  cases stats.memTotalMb with
  | none => rfl
  | some total => exact if_pos hnonpos

lemma memTarget_eq_some_iff {target : ℤ} (htotal : stats.memTotalMb = some total) :
    memTarget stats util = some target ↔ 0 < memSizingPct stats util ∧
      Landing.landing (total * memSizingPct stats util) rsMemSizingTargetPct = target := by
  by_cases hpos : 0 < memSizingPct stats util
  · rw [memTarget_of_pos htotal hpos]
    simp [hpos]
  · rw [memTarget_of_nonpos (not_lt.mp hpos)]
    simp [hpos]

/-- Memory pages only under high utilisation. -/
lemma memPagingActive_eq_false (hutil : stats.memP95Pct = some util) (hlt : util < rsMemUnderPct) :
    memPagingActive stats = false := by
  unfold memPagingActive memSaturated
  simp [hutil, hlt]

/-- A measured memory has a trigger exactly when its utilisation reaches 90 % or an OOM kill
was seen. -/
lemma memTriggers_ne_nil_iff (hutil : stats.memP95Pct = some util) :
    memTriggers stats util ≠ [] ↔ rsMemUnderPct ≤ util ∨ stats.oomOccurred = true := by
  unfold memTriggers
  by_cases hlt : util < rsMemUnderPct
  · have hpaging := memPagingActive_eq_false hutil hlt
    simp [hpaging, not_le.mpr hlt]
  · simp [not_lt.mp hlt]

/-- A measured memory of at least one MB is short exactly when it has a trigger. -/
lemma assessMemory_under_iff (htotal : stats.memTotalMb = some total) (hpos : 0 < total)
    (hutil : stats.memP95Pct = some util) :
    (assessMemory stats).status = .under ↔ memTriggers stats util ≠ [] := by
  rw [assessMemory_status htotal hpos, hutil]
  simp only
  by_cases htriggers : memTriggers stats util = []
  · simp only [htriggers, ne_eq, not_true_eq_false, if_false, iff_false]
    split_ifs <;> simp
  · simp [htriggers]

/-- The utilisation that a size has to bear is at most 80 % of the utilisation target. -/
lemma load_le_landing (hpos : 0 < total) (hnear : NearPeakAbove stats)
    (hutil : stats.memP95Pct = some util) :
    util * total ≤ rsMemSizingTargetPct *
      Landing.landing ((total : ℚ) * memSizingPct stats util) rsMemSizingTargetPct := by
  have hposQ : (0 : ℚ) < total := by exact_mod_cast hpos
  calc util * total ≤ memSizingPct stats util * total :=
        mul_le_mul_of_nonneg_right (le_memSizingPct hnear hutil) hposQ.le
    _ = total * memSizingPct stats util := mul_comm _ _
    _ ≤ _ := Landing.le_line_mul_landing memSizingLine_pos

/-- A high utilisation lands on a size above the present one. -/
lemma exists_memTarget_of_high (htotal : stats.memTotalMb = some total) (hpos : 0 < total)
    (hnear : NearPeakAbove stats) (hutil : stats.memP95Pct = some util)
    (hhigh : rsMemUnderPct ≤ util) :
    ∃ target, memTarget stats util = some target ∧ total < target ∧
      util * total ≤ rsMemSizingTargetPct * target := by
  have hposQ : (0 : ℚ) < total := by exact_mod_cast hpos
  have hle := le_memSizingPct hnear hutil
  rw [rsMemUnderPct] at hhigh
  have hsizing : 0 < memSizingPct stats util := by linarith
  refine ⟨_, memTarget_of_pos htotal hsizing, ?_, ?_⟩
  · by_contra hge
    rw [not_lt, Landing.landing_le_iff memSizingLine_pos, rsMemSizingTargetPct] at hge
    have hload : (90 : ℚ) * total ≤ memSizingPct stats util * total :=
      mul_le_mul_of_nonneg_right (hhigh.trans hle) hposQ.le
    linarith
  · exact load_le_landing hpos hnear hutil

/-- Every extension of a short memory exceeds the present size, and a high utilisation takes
at most 80 % of it. -/
lemma memSize_of_triggers (htotal : stats.memTotalMb = some total) (hpos : 0 < total)
    (hnear : NearPeakAbove stats) (hutil : stats.memP95Pct = some util)
    (htriggers : memTriggers stats util ≠ []) :
    total < memSize stats total ∧
      (rsMemUnderPct ≤ util → util * total ≤ rsMemSizingTargetPct * memSize stats total) := by
  have hsize : memSize stats total =
      (memUnderTarget (memTarget stats util) stats).getD (memHeadroomMb total) := by
    unfold memSize
    simp only [hutil, if_pos htriggers]
  rw [hsize]
  constructor
  · cases hup : memUnderTarget (memTarget stats util) stats with
    | none => exact lt_memHeadroomMb hpos
    | some up => exact (mem_candidates_of_memUnderTarget htotal hup).2
  · intro hhigh
    obtain ⟨target, htarget, hlt, hload⟩ := exists_memTarget_of_high htotal hpos hnear hutil hhigh
    have hmem : target ∈ memCandidates (memTarget stats util) stats total := by
      simp [memCandidates, htarget]
    obtain ⟨up, hup, hle⟩ := exists_memUnderTarget htotal hmem hlt
    have hleQ : (target : ℚ) ≤ up := by exact_mod_cast hle
    rw [hup, Option.getD_some]
    exact hload.trans (mul_le_mul_of_nonneg_left hleQ memSizingLine_pos.le)

/-- Without a trigger the recommended size is the present one, or the utilisation target. -/
lemma memSize_of_no_triggers (hutil : stats.memP95Pct = some util)
    (htriggers : memTriggers stats util = []) :
    memSize stats total = total ∨ memTarget stats util = some (memSize stats total) := by
  unfold memSize
  simp only [hutil, if_neg (not_not.mpr htriggers)]
  cases memTarget stats util with
  | none => exact Or.inl rfl
  | some target =>
    simp only
    split_ifs
    · exact Or.inr rfl
    · exact Or.inl rfl

end Memory

end AssessmentEngine
