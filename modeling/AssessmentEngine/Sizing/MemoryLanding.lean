import AssessmentEngine.Sizing.Recommended

/-!
# Landing the memory

When the recommended memory size is applied, the used bytes are conserved: utilisation and
near-peak become `util * total / n`.  The sizing lands the near-peak on 80 %, below the
90 % of the verdict, so a host whose near-peak is at least its utilisation is not short after
the move; and a smaller size is where the next assessment leaves the host.
-/

namespace AssessmentEngine

variable {stats : ResourceStats} {total n : ℤ} {util : ℚ}

/-- The host after its memory was replaced by one of `n` MB: the used bytes are conserved and
the record of OOM kills starts anew. -/
def withMemory (stats : ResourceStats) (total n : ℤ) : ResourceStats :=
  { stats with
    memTotalMb := some n
    memP95Pct := stats.memP95Pct.map fun util => Landing.share (util * total) n
    memNearPeakPct := stats.memNearPeakPct.map fun near => Landing.share (near * total) n
    oomOccurred := false }

/-! ### The recommended size -/

/-- The line of the sizing lies below the line of the verdict. -/
lemma sizingLine_mul_lt (hn : 0 < n) : rsMemSizingTargetPct * (n : ℚ) < rsMemUnderPct * n := by
  have hnQ : (0 : ℚ) < n := by exact_mod_cast hn
  exact mul_lt_mul_of_pos_right (by norm_num [rsMemSizingTargetPct, rsMemUnderPct]) hnQ

/-- The recommended memory is not empty, and the utilisation stays below 90 % of it. -/
lemma memSize_lands (htotal : stats.memTotalMb = some total) (hpos : 0 < total)
    (hnear : NearPeakAbove stats) (hutil : stats.memP95Pct = some util) :
    0 < memSize stats total ∧ util * total < rsMemUnderPct * memSize stats total := by
  have hposQ : (0 : ℚ) < total := by exact_mod_cast hpos
  by_cases htriggers : memTriggers stats util = []
  · have hlt : util < rsMemUnderPct := by
      by_contra hge
      exact (memTriggers_ne_nil_iff hutil).mpr (Or.inl (not_lt.mp hge)) htriggers
    have hsize : memSize stats total = total ∨ memTarget stats util = some (memSize stats total) :=
      memSize_of_no_triggers hutil htriggers
    rcases hsize with hkeep | htarget
    · rw [hkeep]
      exact ⟨hpos, mul_lt_mul_of_pos_right hlt hposQ⟩
    · generalize memSize stats total = m at htarget ⊢
      obtain ⟨hsizing, rfl⟩ := (memTarget_eq_some_iff htotal).mp htarget
      have hload : 0 < (total : ℚ) * memSizingPct stats util := mul_pos hposQ hsizing
      have hland := load_le_landing hpos hnear hutil
      have hmpos := Landing.landing_pos memSizingLine_pos hload
      exact ⟨hmpos, hland.trans_lt (sizingLine_mul_lt hmpos)⟩
  · obtain ⟨hup, hhigh⟩ := memSize_of_triggers htotal hpos hnear hutil htriggers
    have hupQ : (total : ℚ) < memSize stats total := by exact_mod_cast hup
    refine ⟨hpos.trans hup, ?_⟩
    by_cases hge : rsMemUnderPct ≤ util
    · exact (hhigh hge).trans_lt (sizingLine_mul_lt (hpos.trans hup))
    · -- an OOM kill below 90 %: the larger memory only lowers the utilisation
      have hlt : util * total < rsMemUnderPct * total :=
        mul_lt_mul_of_pos_right (not_le.mp hge) hposQ
      rw [rsMemUnderPct] at hlt ⊢
      linarith

/-! ### After the move -/

lemma withMemory_memP95Pct (hutil : stats.memP95Pct = some util) :
    (withMemory stats total n).memP95Pct = some (Landing.share (util * total) n) := by
  rw [withMemory, hutil, Option.map_some]

lemma memSizingPct_withMemory :
    memSizingPct (withMemory stats total n) (Landing.share (util * total) n) =
      Landing.share (memSizingPct stats util * total) n := by
  unfold memSizingPct withMemory
  cases stats.memNearPeakPct <;> rfl

/-- After the move the memory is short exactly when the utilisation still reaches 90 %. -/
lemma withMemory_triggers_iff (hutil : stats.memP95Pct = some util) (hn : 0 < n) :
    memTriggers (withMemory stats total n) (Landing.share (util * total) n) ≠ [] ↔
      rsMemUnderPct * n ≤ util * total := by
  rw [memTriggers_ne_nil_iff (withMemory_memP95Pct hutil), Landing.line_le_share_iff hn]
  simp [withMemory]

/-- The size of a surplus is the utilisation target, which is smaller than the present size. -/
lemma surplus_target {target : ℤ} (htotal : stats.memTotalMb = some total) (hpos : 0 < total)
    (hutil : stats.memP95Pct = some util) (hover : (assessMemory stats).status = .over)
    (htarget : (assessMemory stats).sizingTarget = some target) :
    memTarget stats util = some target ∧ target < total ∧ util < rsMemUnderPct := by
  have hquiet : util < rsMemUnderPct := by
    by_contra hge
    have hunder := (assessMemory_under_iff htotal hpos hutil).mpr
      ((memTriggers_ne_nil_iff hutil).mpr (Or.inl (not_lt.mp hge)))
    simp [hover] at hunder
  have h := assessMemory_verdict stats
  generalize assessMemory stats = a at h hover htarget
  cases h with
  | surplus util' total' target' _ hutil' htotal' htarget' hdown =>
    obtain rfl : util = util' := Option.some.inj (hutil.symm.trans hutil')
    obtain rfl : total = total' := Option.some.inj (htotal.symm.trans htotal')
    obtain rfl : target' = target := Option.some.inj htarget
    exact ⟨htarget', hdown, hquiet⟩
  | _ => simp at hover

/-- A memory that was shrunk to the utilisation target has this size as its target again. -/
lemma memTarget_withMemory {target : ℤ} (htotal : stats.memTotalMb = some total) (hpos : 0 < total)
    (htarget : memTarget stats util = some target) :
    0 < target ∧ memTarget (withMemory stats total target) (Landing.share (util * total) target) =
      some target := by
  have hposQ : (0 : ℚ) < total := by exact_mod_cast hpos
  obtain ⟨hsizing, hland⟩ := (memTarget_eq_some_iff htotal).mp htarget
  have hload : 0 < (total : ℚ) * memSizingPct stats util := mul_pos hposQ hsizing
  have htpos : 0 < target := hland ▸ Landing.landing_pos memSizingLine_pos hload
  have htposQ : (0 : ℚ) < target := by exact_mod_cast htpos
  refine ⟨htpos, (memTarget_eq_some_iff rfl).mpr ?_⟩
  rw [memSizingPct_withMemory, mul_comm (memSizingPct stats util)]
  exact ⟨div_pos hload htposQ, (Landing.landing_share_mul htpos.ne').trans hland⟩

/-- Re-assessed on the target of a surplus, the memory is balanced and keeps its size. -/
lemma surplus_target_stable {target : ℤ} (htotal : stats.memTotalMb = some total) (hpos : 0 < total)
    (hutil : stats.memP95Pct = some util) (hland : util * total < rsMemUnderPct * target)
    (htarget : memTarget stats util = some target) :
    (assessMemory (withMemory stats total target)).status = .optimal ∧
      (axisSize target (assessMemory (withMemory stats total target))
        (withMemory stats total target)).1 = some target := by
  obtain ⟨htpos, hagain⟩ := memTarget_withMemory htotal hpos htarget
  have hmoved : (withMemory stats total target).memP95Pct =
      some (Landing.share (util * total) target) := withMemory_memP95Pct hutil
  have htriggers : memTriggers (withMemory stats total target)
      (Landing.share (util * total) target) = [] := by
    by_contra hne
    exact absurd ((withMemory_triggers_iff hutil htpos).mp hne) (not_le.mpr hland)
  constructor
  · rw [assessMemory_status rfl htpos, hmoved]
    simp [htriggers, hagain]
  · rw [axisSize_assessMemory rfl htpos]
    have hsize : memSize (withMemory stats total target) target = target ∨
        memTarget (withMemory stats total target) (Landing.share (util * total) target) =
          some (memSize (withMemory stats total target) target) :=
      memSize_of_no_triggers hmoved htriggers
    rcases hsize with h | h
    · rw [h]
    · rw [← h, hagain]

/-- On the recommended memory a host of at least one MB, of measured utilisation and with a
near-peak at least as high is not short; and re-assessed on the target of a surplus it is
balanced with the same size. -/
theorem recommendedMemory_lands (stats : ResourceStats) (total : ℤ) (util : ℚ)
    (htotal : stats.memTotalMb = some total) (hpos : 1 ≤ total)
    (hutil : stats.memP95Pct = some util)
    (hnear : ∀ near, stats.memNearPeakPct = some near → util ≤ near) :
    (∃ n, (axisSize total (assessMemory stats) stats).1 = some n ∧ 1 ≤ n ∧
      (assessMemory (withMemory stats total n)).status ≠ .under) ∧
    ∀ target, (assessMemory stats).status = .over →
      (assessMemory stats).sizingTarget = some target →
      1 ≤ target ∧ target < total ∧
        (assessMemory (withMemory stats total target)).status = .optimal ∧
        (axisSize target (assessMemory (withMemory stats total target))
          (withMemory stats total target)).1 = some target := by
  have habove : NearPeakAbove stats := by
    intro near hpeak u hu
    obtain rfl : util = u := Option.some.inj (hutil.symm.trans hu)
    exact hnear near hpeak
  constructor
  · obtain ⟨hn, hland⟩ := memSize_lands htotal hpos habove hutil
    refine ⟨memSize stats total, axisSize_assessMemory htotal hpos, hn, ?_⟩
    intro hunder
    have htriggers := (assessMemory_under_iff rfl hn (withMemory_memP95Pct hutil)).mp hunder
    exact absurd ((withMemory_triggers_iff hutil hn).mp htriggers) (not_le.mpr hland)
  · intro target hover hsizing
    obtain ⟨htarget, hdown, hquiet⟩ := surplus_target htotal hpos hutil hover hsizing
    obtain ⟨htpos, -⟩ := memTarget_withMemory htotal hpos htarget
    have hland : util * total < rsMemUnderPct * target := by
      obtain ⟨-, rfl⟩ := (memTarget_eq_some_iff htotal).mp htarget
      exact (load_le_landing hpos habove hutil).trans_lt (sizingLine_mul_lt htpos)
    exact ⟨htpos, hdown, surplus_target_stable htotal hpos hutil hland htarget⟩

/-- A well-observed host of 16 GB that uses a quarter of them, with peaks at 30 %. -/
def spaciousHost : ResourceStats :=
  { cpuP95Pct := some 40, cpuPeakPct := some 60, cpuCores := some 4, memP95Pct := some 25,
    diskUsedPct := some 40, netAvgKbytesPerS := some 500, osFamily := some "linux",
    sampleSufficiency := some 1, procsRunningP95 := some 1, historyHours := some 336,
    memTotalMb := some 16384, memNearPeakPct := some 30 }

theorem recommendedMemory_lands_spaciousHost :
    (∃ n, (axisSize 16384 (assessMemory spaciousHost) spaciousHost).1 = some n ∧ 1 ≤ n ∧
      (assessMemory (withMemory spaciousHost 16384 n)).status ≠ .under) ∧
    (assessMemory (withMemory spaciousHost 16384 6144)).status = .optimal :=
  have h := recommendedMemory_lands spaciousHost 16384 25 rfl (by decide) rfl
    fun near hnear => by
      obtain rfl : 30 = near := Option.some.inj hnear
      norm_num
  ⟨h.1, (h.2 6144 (by decide +kernel) (by decide +kernel)).2.2.1⟩

end AssessmentEngine
