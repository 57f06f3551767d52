import AssessmentEngine.Sizing.Recommended

/-!
# More load, larger machine

A host that bears more load than another one, with the same machine and the same history, is
recommended at least as many cores and as much memory, and neither verdict becomes milder.
For the CPU this holds without exception.  For memory it needs a usage to size on: a memory
whose near-peak is not positive keeps its size, whatever little the other host uses of it.
-/

namespace AssessmentEngine

/-- The order of the statuses of a sizeable resource; a verdict that keeps the size is in the
middle. -/
def ResourceStatus.sizingRank : ResourceStatus → ℕ
  | .over => 0
  | .under => 2
  | _ => 1

/-- A signal that is absent on both hosts, or measured on both and not smaller on the second. -/
abbrev Grows (first second : Option ℚ) : Prop := Option.Rel (· ≤ ·) first second

/-- The second host is the first one under more load. -/
structure MoreLoad (first second : ResourceStats) : Prop where
  others : second =
    { first with
      cpuP95Pct := second.cpuP95Pct
      cpuRunQueueP95 := second.cpuRunQueueP95
      procsRunningP95 := second.procsRunningP95
      memP95Pct := second.memP95Pct
      memNearPeakPct := second.memNearPeakPct
      memPagesInputRateP95 := second.memPagesInputRateP95
      memSwapPaging := second.memSwapPaging
      oomOccurred := second.oomOccurred }
  cpuUtil : Grows first.cpuP95Pct second.cpuP95Pct
  runQueue : Grows first.cpuRunQueueP95 second.cpuRunQueueP95
  running : Grows first.procsRunningP95 second.procsRunningP95
  memUtil : Grows first.memP95Pct second.memP95Pct
  nearPeak : Grows first.memNearPeakPct second.memNearPeakPct
  pagesInput : Grows first.memPagesInputRateP95 second.memPagesInputRateP95
  above_first : NearPeakAbove first
  above_second : NearPeakAbove second
  paging : first.memSwapPaging = true → second.memSwapPaging = true
  oom : first.oomOccurred = true → second.oomOccurred = true

/-! ### Signals that grow -/

section Grows

variable {x y : Option ℚ} {a : ℚ}

lemma Grows.eq_none_iff (h : Grows x y) : y = none ↔ x = none := by
  cases h <;> simp

lemma Grows.exists_some (h : Grows x y) (hx : x = some a) : ∃ b, y = some b ∧ a ≤ b := by
  cases h with
  | some hab =>
    obtain rfl := Option.some.inj hx
    exact ⟨_, rfl, hab⟩
  | none => exact absurd hx (by simp)

lemma Grows.getD_le (h : Grows x y) (default : ℚ) : x.getD default ≤ y.getD default := by
  cases h with
  | some hab => exact hab
  | none => exact le_rfl

/-- A line that the first signal reaches is reached by the second. -/
lemma Grows.any_le (h : Grows x y) (line : ℚ) (hx : x.any (line ≤ ·) = true) :
    y.any (line ≤ ·) = true := by
  cases h with
  | some hab => simpa using (of_decide_eq_true hx).trans hab
  | none => exact hx

end Grows

/-! ### The CPU under more load -/

section Cpu

variable {first second : ResourceStats} {cores : ℤ}

lemma MoreLoad.cpuCores_eq (h : MoreLoad first second) : second.cpuCores = first.cpuCores := by
  rw [h.others]

lemma MoreLoad.osFamily_eq (h : MoreLoad first second) : second.osFamily = first.osFamily := by
  rw [h.others]

lemma MoreLoad.runQueueValue (h : MoreLoad first second) :
    Grows (runQueueValue first) (runQueueValue second) := by
  unfold AssessmentEngine.runQueueValue
  rw [h.osFamily_eq]
  split_ifs
  · exact h.runQueue
  · exact h.running

/-- The saturation of the run queue is decided on both hosts or on none, and grows. -/
lemma MoreLoad.runQueueSaturated (h : MoreLoad first second) (hpos : 0 < cores) :
    (runQueueSaturated second cores = none ↔ runQueueSaturated first cores = none) ∧
      (runQueueSaturated first cores = some true → runQueueSaturated second cores = some true) := by
  have hposQ : (0 : ℚ) < cores := by exact_mod_cast hpos
  unfold AssessmentEngine.runQueueSaturated
  rw [h.osFamily_eq]
  have hgrow : ∀ {x y : Option ℚ} (line : ℚ), Grows x y →
      (y.map (fun queue => decide (line ≤ queue / cores)) = none ↔
        x.map (fun queue => decide (line ≤ queue / cores)) = none) ∧
      (x.map (fun queue => decide (line ≤ queue / cores)) = some true →
        y.map (fun queue => decide (line ≤ queue / cores)) = some true) := by
    intro x y line hxy
    cases hxy with
    | none => simp
    | some hab =>
      refine ⟨by simp, fun hx => ?_⟩
      simp only [Option.map_some, Option.some_inj, decide_eq_true_eq] at hx ⊢
      exact hx.trans (div_le_div_of_nonneg_right hab hposQ.le)
  split_ifs
  · exact hgrow _ h.runQueue
  · exact hgrow _ h.running

/-- The saturation of the CPU is decided on both hosts or on none, and grows. -/
lemma MoreLoad.cpuSaturated (h : MoreLoad first second) (hcores : first.cpuCores = some cores)
    (hpos : 0 < cores) :
    (cpuSaturated second = none ↔ cpuSaturated first = none) ∧
      (cpuSaturated first = some true → cpuSaturated second = some true) := by
  obtain ⟨hnone, htrue⟩ := h.runQueueSaturated hpos
  unfold AssessmentEngine.cpuSaturated
  rw [h.cpuCores_eq, hcores]
  simp only [if_neg (not_le.mpr hpos)]
  cases hfirst : AssessmentEngine.runQueueSaturated first cores with
  | none => simp [hnone.mpr hfirst]
  | some saturated =>
    obtain ⟨saturated', hsecond⟩ := Option.ne_none_iff_exists'.mp fun h' =>
      absurd (hfirst.symm.trans (hnone.mp h')) (by simp)
    rw [hsecond]
    cases saturated with
    | false =>
      refine ⟨?_, by simp⟩
      cases saturated' <;> cases second.cpuP95Pct <;> simp
    | true =>
      obtain rfl : saturated' = true := by simpa [hsecond] using htrue hfirst
      cases hutil : first.cpuP95Pct with
      | none => simp [h.cpuUtil.eq_none_iff.mpr hutil]
      | some util =>
        obtain ⟨util', hutil', hle⟩ := h.cpuUtil.exists_some hutil
        rw [hutil']
        refine ⟨by simp, fun hline => ?_⟩
        simp only [Option.some_inj, decide_eq_true_eq] at hline ⊢
        exact hline.trans hle

lemma MoreLoad.cpuConfidence_eq (h : MoreLoad first second) (hcores : first.cpuCores = some cores)
    (hpos : 0 < cores) : cpuConfidence second = cpuConfidence first := by
  have hsat := (h.cpuSaturated hcores hpos).1
  have hutil := h.cpuUtil.eq_none_iff
  have hbase : ∀ biased, baseConfidence second biased true = baseConfidence first biased true := by
    intro biased
    rw [h.others]
    rfl
  have hsteal : second.cpuStealP95Pct = first.cpuStealP95Pct := by
    rw [h.others]
  unfold cpuConfidence
  simp only [hbase, hsteal, hsat, hutil]

lemma MoreLoad.downsizeOpen_eq (h : MoreLoad first second) (conf : ConfidenceNote) :
    downsizeOpen conf second = downsizeOpen conf first := by
  have hsuff : second.sampleSufficiency = first.sampleSufficiency := by
    rw [h.others]
  unfold downsizeOpen
  rw [hsuff]

lemma MoreLoad.percoreBusy_eq (h : MoreLoad first second) :
    percoreBusy second = percoreBusy first := by
  have hpercore : second.cpuPercoreP95Max = first.cpuPercoreP95Max := by
    rw [h.others]
  unfold percoreBusy
  rw [hpercore]

/-- A trigger of the first host is a trigger of the second. -/
lemma MoreLoad.cpuTriggers_ne_nil (h : MoreLoad first second)
    (hcores : first.cpuCores = some cores) (hpos : 0 < cores)
    (htriggers : cpuTriggers first ≠ []) : cpuTriggers second ≠ [] := by
  unfold cpuTriggers at htriggers ⊢
  by_cases hutil : first.cpuP95Pct.any (rsCpuUnderPct ≤ ·) = true
  · simp [h.cpuUtil.any_le _ hutil]
  · have hsat : AssessmentEngine.cpuSaturated first = some true := by
      by_contra hne
      simp [hutil, hne] at htriggers
    simp [(h.cpuSaturated hcores hpos).2 hsat]

/-- Whoever can judge the first CPU can judge the second. -/
lemma MoreLoad.unjudged (h : MoreLoad first second) (hcores : first.cpuCores = some cores)
    (hpos : 0 < cores) (hmissing : CpuUnjudged second) : CpuUnjudged first :=
  ⟨h.cpuUtil.eq_none_iff.mp hmissing.1,
    fun hsat => hmissing.2 ((h.cpuSaturated hcores hpos).2 hsat)⟩

lemma cpuSatCores_nonneg (queue : Option ℚ) (osFamily : Option String) (saturated : Bool) :
    0 ≤ cpuSatCores id queue osFamily saturated := by
  have hline := satLine_pos osFamily
  simp only [cpuSatCores, id_eq]
  cases queue with
  | none => exact le_rfl
  | some queue =>
    simp only
    split_ifs with hq
    · exact Int.ceil_nonneg (div_nonneg hq.2.le hline.le)
    · exact le_rfl

lemma cpuSatCores_mono {queue queue' : Option ℚ} {saturated saturated' : Bool}
    (osFamily : Option String) (hqueue : Grows queue queue')
    (hsat : saturated = true → saturated' = true) :
    cpuSatCores id queue osFamily saturated ≤ cpuSatCores id queue' osFamily saturated' := by
  have hline := satLine_pos osFamily
  cases hqueue with
  | none => exact le_rfl
  | @some a b hab =>
    by_cases hactive : saturated = true ∧ 0 < a
    · have hactive' : saturated' = true ∧ 0 < b := ⟨hsat hactive.1, hactive.2.trans_le hab⟩
      simp only [cpuSatCores, id_eq, if_pos hactive, if_pos hactive']
      exact Int.ceil_le_ceil (div_le_div_of_nonneg_right hab hline.le)
    · have hzero : cpuSatCores id (some a) osFamily saturated = 0 := by
        simp only [cpuSatCores, if_neg hactive]
      rw [hzero]
      exact cpuSatCores_nonneg _ _ _

/-- The cores that the utilisation asks for. -/
lemma utilCores_mono {util util' : ℚ} (hpos : 0 < cores) (hutil : util ≤ util') :
    (if 0 < util then ⌈util * cores / rsCpuSizingTargetPct⌉ else 1) ≤
      if 0 < util' then ⌈util' * cores / rsCpuSizingTargetPct⌉ else 1 := by
  have hposQ : (0 : ℚ) < cores := by exact_mod_cast hpos
  have hline : (0 : ℚ) < rsCpuSizingTargetPct := by norm_num [rsCpuSizingTargetPct]
  by_cases hu : 0 < util
  · rw [if_pos hu, if_pos (hu.trans_le hutil)]
    exact Landing.landing_mono hline (mul_le_mul_of_nonneg_right hutil hposQ.le)
  · rw [if_neg hu]
    split_ifs with hu'
    · exact Landing.landing_pos hline (mul_pos hu' hposQ)
    · exact le_rfl

lemma MoreLoad.cpuTarget_le (h : MoreLoad first second) (hcores : first.cpuCores = some cores)
    (hpos : 0 < cores) : cpuTarget id first cores ≤ cpuTarget id second cores := by
  have hutil := h.cpuUtil.getD_le 0
  have hsat : decide (AssessmentEngine.cpuSaturated first = some true) = true →
      decide (AssessmentEngine.cpuSaturated second = some true) = true := by
    simpa only [decide_eq_true_eq] using (h.cpuSaturated hcores hpos).2
  simp only [cpuTarget, cpuTargetCores, id_eq]
  rw [h.osFamily_eq]
  exact max_le_max le_rfl
    (max_le_max (utilCores_mono hpos hutil) (cpuSatCores_mono _ h.runQueueValue hsat))

/-- More load never recommends fewer cores. -/
lemma MoreLoad.cpuSize_le (h : MoreLoad first second) (hcores : first.cpuCores = some cores)
    (hpos : 0 < cores) : cpuSize id first cores ≤ cpuSize id second cores := by
  have htarget := h.cpuTarget_le hcores hpos
  unfold cpuSize
  rw [h.percoreBusy_eq, h.cpuConfidence_eq hcores hpos, h.downsizeOpen_eq]
  by_cases hfirst : cpuTriggers first = []
  · by_cases hsecond : cpuTriggers second = []
    · rw [if_neg (not_not.mpr hfirst), if_neg (not_not.mpr hsecond)]
      split_ifs with h₁ h₂ h₂
      · exact htarget
      · exact h₁.1.le
      · exact absurd ⟨htarget.trans_lt h₂.1, h₂.2⟩ h₁
      · exact le_rfl
    · rw [if_neg (not_not.mpr hfirst), if_pos hsecond]
      have hup : cores + 1 ≤ max (cpuTarget id second cores) (cores + 1) := le_max_right _ _
      split_ifs with h₁
      · have hdown := h₁.1
        omega
      · omega
  · rw [if_pos hfirst, if_pos (h.cpuTriggers_ne_nil hcores hpos hfirst)]
    exact max_le_max htarget le_rfl

/-- More load never gives a milder CPU verdict. -/
lemma MoreLoad.cpuRank_le (h : MoreLoad first second) (hcores : first.cpuCores = some cores)
    (hpos : 0 < cores) :
    (assessCpu first).status.sizingRank ≤ (assessCpu second).status.sizingRank := by
  have htarget := h.cpuTarget_le hcores hpos
  rw [assessCpu_status hcores hpos, assessCpu_status (h.cpuCores_eq.trans hcores) hpos,
    h.percoreBusy_eq]
  by_cases hsecond : cpuTriggers second = []
  · have hfirst : cpuTriggers first = [] := by
      by_contra hne
      exact h.cpuTriggers_ne_nil hcores hpos hne hsecond
    simp only [hfirst, hsecond, ne_eq, not_true_eq_false, if_false]
    by_cases hmissing : CpuUnjudged second
    · rw [if_pos hmissing, if_pos (h.unjudged hcores hpos hmissing)]
    · rw [if_neg hmissing]
      by_cases hmissing' : CpuUnjudged first
      · -- only a saturated queue could judge the second CPU, and it would be a trigger
        have hsat : AssessmentEngine.cpuSaturated second = some true := by
          by_contra hne
          exact hmissing ⟨h.cpuUtil.eq_none_iff.mpr hmissing'.1, hne⟩
        simp [cpuTriggers, hsat] at hsecond
      · rw [if_neg hmissing']
        by_cases hover : cpuTarget id second cores < cores ∧ percoreBusy first = false
        · have hover' : cpuTarget id first cores < cores ∧ percoreBusy first = false :=
            ⟨htarget.trans_lt hover.1, hover.2⟩
          rw [if_pos hover, if_pos hover']
        · rw [if_neg hover]
          split_ifs <;> simp [ResourceStatus.sizingRank]
  · have hmissing : ¬CpuUnjudged second := fun hm =>
      hsecond (cpuTriggers_eq_nil_of_unjudged hm)
    rw [if_neg hmissing, if_pos hsecond]
    split_ifs <;> simp [ResourceStatus.sizingRank]

end Cpu

/-! ### Memory under more load -/

section Memory

variable {first second : ResourceStats} {total : ℤ} {util util' : ℚ}

lemma MoreLoad.memTotalMb_eq (h : MoreLoad first second) :
    second.memTotalMb = first.memTotalMb := by
  rw [h.others]

/-- The usage to size on grows. -/
lemma MoreLoad.memSizingPct_le (h : MoreLoad first second) (hutil : util ≤ util') :
    memSizingPct first util ≤ memSizingPct second util' := by
  unfold memSizingPct
  cases hnear : first.memNearPeakPct with
  | none =>
    rw [h.nearPeak.eq_none_iff.mpr hnear]
    exact hutil
  | some near =>
    obtain ⟨near', hnear', hle⟩ := h.nearPeak.exists_some hnear
    rw [hnear']
    exact hle

/-- A utilisation target of the first memory is reached by the second. -/
lemma MoreLoad.memTarget_le {target : ℤ} (h : MoreLoad first second)
    (htotal : first.memTotalMb = some total) (hpos : 0 < total) (hutil : util ≤ util')
    (htarget : memTarget first util = some target) :
    ∃ target', memTarget second util' = some target' ∧ target ≤ target' := by
  have hposQ : (0 : ℚ) < total := by exact_mod_cast hpos
  obtain ⟨hsizing, rfl⟩ := (memTarget_eq_some_iff htotal).mp htarget
  have hle := h.memSizingPct_le hutil
  refine ⟨_, memTarget_of_pos (h.memTotalMb_eq.trans htotal) (hsizing.trans_le hle), ?_⟩
  exact Landing.landing_mono memSizingLine_pos (mul_le_mul_of_nonneg_left hle hposQ.le)

lemma MoreLoad.memPagingActive (h : MoreLoad first second) (hutil : first.memP95Pct = some util)
    (hpaging : memPagingActive first = true) : memPagingActive second = true := by
  obtain ⟨util', hutil', hle⟩ := h.memUtil.exists_some hutil
  have hhigh : ¬util < rsMemUnderPct := by
    intro hlt
    simp [memPagingActive_eq_false hutil hlt] at hpaging
  have hhigh' : ¬util' < rsMemUnderPct := not_lt.mpr ((not_lt.mp hhigh).trans hle)
  unfold AssessmentEngine.memPagingActive memSaturated at hpaging ⊢
  rw [h.osFamily_eq]
  simp only [hutil, hutil', if_neg hhigh, if_neg hhigh'] at hpaging ⊢
  by_cases hwindows : first.osFamily = some "windows"
  · simp only [if_pos hwindows] at hpaging ⊢
    cases hrate : first.memPagesInputRateP95 with
    | none => simp [hrate] at hpaging
    | some rate =>
      obtain ⟨rate', hrate', hrates⟩ := h.pagesInput.exists_some hrate
      simp only [hrate, hrate', Option.map_some, Option.getD_some, decide_eq_true_eq] at hpaging ⊢
      exact hpaging.trans hrates
  · simp only [if_neg hwindows, Option.getD_some] at hpaging ⊢
    exact h.paging hpaging

/-- A trigger of the first memory is a trigger of the second. -/
lemma MoreLoad.memTriggers_ne_nil (h : MoreLoad first second)
    (hutil : first.memP95Pct = some util) (hutil' : second.memP95Pct = some util')
    (hle : util ≤ util') (htriggers : memTriggers first util ≠ []) :
    memTriggers second util' ≠ [] := by
  rw [memTriggers_ne_nil_iff hutil] at htriggers
  rw [memTriggers_ne_nil_iff hutil']
  exact htriggers.imp (fun hhigh => hhigh.trans hle) h.oom

/-- Under less load a memory without triggers has none either. -/
lemma MoreLoad.memTriggers_eq_nil (h : MoreLoad first second)
    (hutil : first.memP95Pct = some util) (hutil' : second.memP95Pct = some util')
    (hle : util ≤ util') (hsecond : memTriggers second util' = []) :
    memTriggers first util = [] := by
  by_contra hne
  exact h.memTriggers_ne_nil hutil hutil' hle hne hsecond

/-- A short measured memory is extended to one of the candidates. -/
lemma exists_memUnderTarget_of_triggers (htotal : first.memTotalMb = some total) (hpos : 0 < total)
    (hnear : NearPeakAbove first) (hutil : first.memP95Pct = some util)
    (htriggers : memTriggers first util ≠ []) :
    ∃ up, memUnderTarget (memTarget first util) first = some up := by
  rcases (memTriggers_ne_nil_iff hutil).mp htriggers with hhigh | hoom
  · obtain ⟨target, htarget, hlt, -⟩ := exists_memTarget_of_high htotal hpos hnear hutil hhigh
    have hmem : target ∈ memCandidates (memTarget first util) first total := by
      simp [memCandidates, htarget]
    obtain ⟨up, hup, -⟩ := exists_memUnderTarget htotal hmem hlt
    exact ⟨up, hup⟩
  · have hmem : memHeadroomMb total ∈ memCandidates (memTarget first util) first total := by
      simp [memCandidates, hoom]
    obtain ⟨up, hup, -⟩ := exists_memUnderTarget htotal hmem (lt_memHeadroomMb hpos)
    exact ⟨up, hup⟩

/-- The extension of a short memory grows. -/
lemma MoreLoad.memUnderTarget_le {up : ℤ} (h : MoreLoad first second)
    (htotal : first.memTotalMb = some total) (hpos : 0 < total)
    (hutil : first.memP95Pct = some util) (hle : util ≤ util')
    (hup : memUnderTarget (memTarget first util) first = some up) :
    ∃ up', memUnderTarget (memTarget second util') second = some up' ∧ up ≤ up' := by
  have htotal' := h.memTotalMb_eq.trans htotal
  obtain ⟨hmem, hlt⟩ := mem_candidates_of_memUnderTarget htotal hup
  -- every candidate of the first host is dominated by one of the second
  have hdominated : ∃ c ∈ memCandidates (memTarget second util') second total, up ≤ c := by
    unfold memCandidates at hmem ⊢
    rcases List.mem_append.mp hmem with htarget | hheadroom
    · rw [Option.mem_toList] at htarget
      obtain ⟨target', htarget', hle'⟩ := h.memTarget_le htotal hpos hle htarget
      exact ⟨target', by simp [htarget'], hle'⟩
    · have hflags : AssessmentEngine.memPagingActive first = true ∨ first.oomOccurred = true := by
        by_contra hno
        simp [hno] at hheadroom
      have hflags' : AssessmentEngine.memPagingActive second = true ∨ second.oomOccurred = true :=
        hflags.imp (h.memPagingActive hutil) h.oom
      rw [if_pos hflags, List.mem_singleton] at hheadroom
      exact ⟨memHeadroomMb total, by simp [hflags'], hheadroom.le⟩
  obtain ⟨c, hc, hupc⟩ := hdominated
  obtain ⟨up', hup', hcup⟩ := exists_memUnderTarget htotal' hc (hlt.trans_le hupc)
  exact ⟨up', hup', hupc.trans hcup⟩

lemma MoreLoad.downsizeOpen_memory_eq (h : MoreLoad first second) :
    downsizeOpen (baseConfidence second false true) second =
      downsizeOpen (baseConfidence first false true) first := by
  have hbase : baseConfidence second false true = baseConfidence first false true := by
    rw [h.others]
    rfl
  rw [hbase, h.downsizeOpen_eq]

/-- Without a trigger the recommended size does not exceed the present one. -/
lemma memSize_le_of_no_triggers (hutil : first.memP95Pct = some util)
    (htriggers : memTriggers first util = []) : memSize first total ≤ total := by
  unfold memSize
  simp only [hutil, if_neg (not_not.mpr htriggers)]
  cases memTarget first util with
  | none => exact le_rfl
  | some target =>
    simp only
    split_ifs with hdown
    · exact hdown.1.le
    · exact le_rfl

lemma memSize_of_surplus {target : ℤ} (hutil : first.memP95Pct = some util)
    (htriggers : memTriggers first util = []) (htarget : memTarget first util = some target)
    (hdown : target < total)
    (hopen : downsizeOpen (baseConfidence first false true) first = true) :
    memSize first total = target := by
  unfold memSize
  simp [hutil, htriggers, htarget, hdown, hopen]

/-- Without a measured usage only an OOM kill extends the memory. -/
lemma MoreLoad.memSize_le_of_unmeasured (h : MoreLoad first second) (hpos : 0 < total)
    (hutil : first.memP95Pct = none) : memSize first total ≤ memSize second total := by
  have hutil' := h.memUtil.eq_none_iff.mpr hutil
  have hheadroom := (lt_memHeadroomMb hpos).le
  unfold memSize
  simp only [hutil, hutil']
  by_cases hoom : first.oomOccurred = true
  · rw [if_pos hoom, if_pos (h.oom hoom)]
  · rw [if_neg hoom]
    split_ifs
    · exact hheadroom
    · exact le_rfl

/-- Where the second host shrinks to its target, the first one does so too, to a smaller one. -/
lemma MoreLoad.memSize_le_of_surplus (h : MoreLoad first second)
    (htotal : first.memTotalMb = some total) (hpos : 0 < total)
    (hutil : first.memP95Pct = some util) (hutil' : second.memP95Pct = some util')
    (hle : util ≤ util') (hfirst : memTriggers first util = [])
    (hsecond : memTriggers second util' = []) (hpositive : 0 < memSizingPct first util)
    (htarget : memTarget second util' = some (memSize second total))
    (hdown : memSize second total < total) : memSize first total ≤ memSize second total := by
  have hopen : downsizeOpen (baseConfidence first false true) first = true := by
    by_contra hclosed
    rw [← h.downsizeOpen_memory_eq] at hclosed
    have hkeep : memSize second total = total := by
      unfold memSize
      simp [hutil', hsecond, htarget, hclosed]
    omega
  have hfirstTarget := memTarget_of_pos htotal hpositive
  obtain ⟨target', htarget', hle'⟩ := h.memTarget_le htotal hpos hle hfirstTarget
  have heq : target' = memSize second total := Option.some.inj (htarget'.symm.trans htarget)
  rw [heq] at hle'
  rw [memSize_of_surplus hutil hfirst hfirstTarget (hle'.trans_lt hdown) hopen]
  exact hle'

/-- A host that is short is extended at least as far under more load. -/
lemma MoreLoad.memSize_le_of_triggers (h : MoreLoad first second)
    (htotal : first.memTotalMb = some total) (hpos : 0 < total)
    (hutil : first.memP95Pct = some util) (hutil' : second.memP95Pct = some util')
    (hle : util ≤ util') (hsecond : memTriggers second util' ≠ []) :
    memSize first total ≤ memSize second total := by
  by_cases hfirst : memTriggers first util = []
  · have hup := (memSize_of_triggers (h.memTotalMb_eq.trans htotal) hpos h.above_second hutil'
      hsecond).1
    exact (memSize_le_of_no_triggers hutil hfirst).trans hup.le
  · obtain ⟨up, hup⟩ := exists_memUnderTarget_of_triggers htotal hpos h.above_first hutil hfirst
    obtain ⟨up', hup', hle'⟩ := h.memUnderTarget_le htotal hpos hutil hle hup
    unfold memSize
    simp only [hutil, hutil', if_pos hfirst, if_pos hsecond, hup, hup', Option.getD_some]
    exact hle'

/-- More load never recommends less memory, once there is a usage to size on or no surplus. -/
lemma MoreLoad.memSize_le (h : MoreLoad first second) (htotal : first.memTotalMb = some total)
    (hpos : 0 < total)
    (hsizing : (∀ util ∈ first.memP95Pct, 0 < memSizingPct first util) ∨
      (assessMemory second).status ≠ .over) :
    memSize first total ≤ memSize second total := by
  cases hutil : first.memP95Pct with
  | none => exact h.memSize_le_of_unmeasured hpos hutil
  | some util =>
    obtain ⟨util', hutil', hle⟩ := h.memUtil.exists_some hutil
    by_cases hsecond : memTriggers second util' = []
    · have hfirst := h.memTriggers_eq_nil hutil hutil' hle hsecond
      rcases memSize_of_no_triggers hutil' hsecond with hkeep | htarget
      · rw [hkeep]
        exact memSize_le_of_no_triggers hutil hfirst
      · by_cases hdown : memSize second total < total
        · have hover : (assessMemory second).status = .over := by
            rw [assessMemory_status (h.memTotalMb_eq.trans htotal) hpos, hutil']
            simp [hsecond, htarget, hdown]
          have hpositive : 0 < memSizingPct first util := by
            rcases hsizing with hsizing | hne
            · exact hsizing util hutil
            · exact absurd hover hne
          exact h.memSize_le_of_surplus htotal hpos hutil hutil' hle hfirst hsecond hpositive
            htarget hdown
        · exact (memSize_le_of_no_triggers hutil hfirst).trans (not_lt.mp hdown)
    · exact h.memSize_le_of_triggers htotal hpos hutil hutil' hle hsecond

/-- More load never gives a milder memory verdict, once there is a usage to size on or no
surplus. -/
lemma MoreLoad.memRank_le (h : MoreLoad first second) (htotal : first.memTotalMb = some total)
    (hpos : 0 < total)
    (hsizing : (∀ util ∈ first.memP95Pct, 0 < memSizingPct first util) ∨
      (assessMemory second).status ≠ .over) :
    (assessMemory first).status.sizingRank ≤ (assessMemory second).status.sizingRank := by
  have htotal' := h.memTotalMb_eq.trans htotal
  rw [assessMemory_status htotal' hpos] at hsizing ⊢
  rw [assessMemory_status htotal hpos]
  cases hutil : first.memP95Pct with
  | none =>
    rw [h.memUtil.eq_none_iff.mpr hutil]
    by_cases hoom : first.oomOccurred = true
    · simp [hoom, h.oom hoom]
    · simp only [if_neg hoom]
      split_ifs <;> simp [ResourceStatus.sizingRank]
  | some util =>
    obtain ⟨util', hutil', hle⟩ := h.memUtil.exists_some hutil
    rw [hutil'] at hsizing ⊢
    simp only
    by_cases hsecond : memTriggers second util' = []
    · have hfirst := h.memTriggers_eq_nil hutil hutil' hle hsecond
      simp only [hfirst, hsecond, ne_eq, not_true_eq_false, if_false] at hsizing ⊢
      by_cases hover : (memTarget second util').any (· < total) = true
      · rw [if_pos hover] at hsizing ⊢
        have hpositive : 0 < memSizingPct first util := by
          rcases hsizing with hsizing | hne
          · exact hsizing util hutil
          · exact absurd rfl hne
        have hfirstTarget := memTarget_of_pos htotal hpositive
        obtain ⟨target', htarget', hle'⟩ := h.memTarget_le htotal hpos hle hfirstTarget
        rw [htarget', Option.any_some, decide_eq_true_eq] at hover
        simp [hfirstTarget, hle'.trans_lt hover]
      · rw [if_neg hover]
        split_ifs <;> simp [ResourceStatus.sizingRank]
    · rw [if_pos hsecond]
      split_ifs <;> simp [ResourceStatus.sizingRank]

end Memory

/-! ### Both resources -/

/-- A host under more load is recommended at least as many cores, with a verdict that is not
milder; and likewise for memory, if the first memory has a positive usage to size on or the
second one is no surplus. -/
theorem moreLoad_larger_machine (first second : ResourceStats) (cores total : ℤ)
    (h : MoreLoad first second) (hcores : first.cpuCores = some cores) (hcpos : 1 ≤ cores)
    (htotal : first.memTotalMb = some total) (htpos : 1 ≤ total) :
    (∃ n n', (axisSize cores (assessCpu first) first).1 = some n ∧
        (axisSize cores (assessCpu second) second).1 = some n' ∧ n ≤ n' ∧
        (assessCpu first).status.sizingRank ≤ (assessCpu second).status.sizingRank) ∧
      ((∀ util ∈ first.memP95Pct, 0 < first.memNearPeakPct.getD util) ∨
          (assessMemory second).status ≠ .over →
        ∃ m m', (axisSize total (assessMemory first) first).1 = some m ∧
          (axisSize total (assessMemory second) second).1 = some m' ∧ m ≤ m' ∧
          (assessMemory first).status.sizingRank ≤ (assessMemory second).status.sizingRank) := by
  have hcores' := h.cpuCores_eq.trans hcores
  have htotal' := h.memTotalMb_eq.trans htotal
  refine ⟨⟨_, _, axisSize_assessCpu hcores hcpos, axisSize_assessCpu hcores' hcpos,
    h.cpuSize_le hcores hcpos, h.cpuRank_le hcores hcpos⟩, ?_⟩
  intro hsizing
  exact ⟨_, _, axisSize_assessMemory htotal htpos, axisSize_assessMemory htotal' htpos,
    h.memSize_le htotal htpos hsizing, h.memRank_le htotal htpos hsizing⟩

/-- A host whose memory shows no usage at all. -/
def untouchedMemory : ResourceStats :=
  { cpuP95Pct := some 40, cpuPeakPct := some 60, cpuCores := some 4, memP95Pct := some 0,
    diskUsedPct := some 40, netAvgKbytesPerS := some 500, osFamily := some "linux",
    sampleSufficiency := some 1, procsRunningP95 := some 1, historyHours := some 336,
    memTotalMb := some 1000 }

/-- The same host with one percent of its memory in use. -/
def touchedMemory : ResourceStats := { untouchedMemory with memP95Pct := some 1 }

lemma untouchedMemory_moreLoad : MoreLoad untouchedMemory touchedMemory where
  others := rfl
  cpuUtil := .some le_rfl
  runQueue := .none
  running := .some le_rfl
  memUtil := .some (by norm_num)
  nearPeak := .none
  pagesInput := .none
  above_first := by
    intro near hnear
    exact absurd hnear (by simp [untouchedMemory])
  above_second := by
    intro near hnear
    exact absurd hnear (by simp [touchedMemory, untouchedMemory])
  paging := id
  oom := id

/-- The host at full load. -/
def loadedHost : ResourceStats :=
  { touchedMemory with cpuP95Pct := some 90, memP95Pct := some 95, oomOccurred := true }

lemma touchedMemory_moreLoad : MoreLoad touchedMemory loadedHost where
  others := rfl
  cpuUtil := .some (by norm_num)
  runQueue := .none
  running := .some le_rfl
  memUtil := .some (by norm_num)
  nearPeak := .none
  pagesInput := .none
  above_first := by
    intro near hnear
    exact absurd hnear (by simp [touchedMemory, untouchedMemory])
  above_second := by
    intro near hnear
    exact absurd hnear (by simp [loadedHost, touchedMemory, untouchedMemory])
  paging := id
  oom := fun _ => rfl

theorem moreLoad_larger_machine_loadedHost :
    (∃ n n', (axisSize 4 (assessCpu touchedMemory) touchedMemory).1 = some n ∧
        (axisSize 4 (assessCpu loadedHost) loadedHost).1 = some n' ∧ n ≤ n' ∧
        (assessCpu touchedMemory).status.sizingRank ≤ (assessCpu loadedHost).status.sizingRank) ∧
      ∃ m m', (axisSize 1000 (assessMemory touchedMemory) touchedMemory).1 = some m ∧
        (axisSize 1000 (assessMemory loadedHost) loadedHost).1 = some m' ∧ m ≤ m' ∧
        (assessMemory touchedMemory).status.sizingRank ≤
          (assessMemory loadedHost).status.sizingRank :=
  have h := moreLoad_larger_machine touchedMemory loadedHost 4 1000 touchedMemory_moreLoad rfl
    (by decide) rfl (by decide)
  ⟨h.1, h.2 (Or.inl fun util hutil => by
    obtain rfl : 1 = util := Option.some.inj hutil
    exact one_pos)⟩

/-- The memory in use is recommended 13 MB, the untouched one keeps its 1000 MB. -/
theorem untouchedMemory_keeps_more :
    MoreLoad untouchedMemory touchedMemory ∧
      axisSize 1000 (assessMemory untouchedMemory) untouchedMemory = (some 1000, .keep, .exact) ∧
      axisSize 1000 (assessMemory touchedMemory) touchedMemory = (some 13, .decrease, .exact) ∧
      (assessMemory untouchedMemory).status = .optimal ∧
      (assessMemory touchedMemory).status = .over :=
  ⟨untouchedMemory_moreLoad, by decide +kernel, by decide +kernel, by decide +kernel,
    by decide +kernel⟩

end AssessmentEngine
