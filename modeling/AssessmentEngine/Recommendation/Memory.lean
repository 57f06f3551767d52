import AssessmentEngine.Recommendation.Assessment
import Mathlib.Algebra.Order.Field.Basic
import Mathlib.Tactic.NormNum
import Mathlib.Tactic.Positivity
import Mathlib.Tactic.Linarith

/-!
# Memory verdict

Memory is short when its utilisation reaches 90 %, when it pages under high utilisation,
or after an OOM kill.  The size to move to makes the near-peak usage land on 80 %; after
paging or an OOM kill it is at least 30 % above the present size.
-/

namespace AssessmentEngine

/-- The size (MB) on which a near-peak usage lands at 80 %. -/
def memTargetMb (nearPeakPct : ℚ) (totalMb : Option ℤ) : Option ℤ :=
  match totalMb with
  | none => none
  | some total =>
    if nearPeakPct ≤ 0 then none else some ⌈total * nearPeakPct / rsMemSizingTargetPct⌉

/-- The present size with 30 % headroom. -/
def memHeadroomMb (total : ℤ) : ℤ := ⌈(total : ℚ) * (1 + rsMemSaturationHeadroomPct / 100)⌉

/-- Memory pages under pressure; an undecided saturation counts as none. -/
def memPagingActive (stats : ResourceStats) : Bool := (memSaturated stats).getD false

/-- The larger of the utilisation target and, after paging or an OOM kill, the present size
with headroom.  Absent when it does not exceed the present size. -/
def memUnderTarget (utilTarget : Option ℤ) (stats : ResourceStats) : Option ℤ :=
  let headroom :=
    match stats.memTotalMb with
    | some total => if memPagingActive stats ∨ stats.oomOccurred then [memHeadroomMb total] else []
    | none => []
  match (utilTarget.toList ++ headroom).max? with
  | none => none
  | some up =>
    match stats.memTotalMb with
    | none => some up
    | some total => if total < up then some up else none

/-- The reasons for which a memory of utilisation `util` is short. -/
def memTriggers (stats : ResourceStats) (util : ℚ) : List TriggerKind :=
  (if rsMemUnderPct ≤ util then [.memUtil] else []) ++
    (if memPagingActive stats then [.memSaturation] else []) ++
    if stats.oomOccurred then [.memOom] else []

/-- The utilisation target of the memory, on the near-peak usage or else on the p95. -/
def memTarget (stats : ResourceStats) (util : ℚ) : Option ℤ :=
  memTargetMb (stats.memNearPeakPct.getD util) stats.memTotalMb

/-- The memory verdict. -/
def assessMemory (stats : ResourceStats) : ResourceAssessment :=
  let conf := baseConfidence stats false true
  match stats.memP95Pct with
  | none =>
    -- an OOM kill is evidence by itself, paging is not
    if stats.oomOccurred then
      { kind := .memory
        status := .under
        triggers := [.memOom]
        sizingFloor := stats.memTotalMb.map memHeadroomMb
        confidence := conf
        detail := "이용률 미측정, OOM 발생" }
    else
      { kind := .memory, status := .unmeasured, confidence := { conf with coverageGap := true },
        detail := "이용률 미측정" }
  | some util =>
    let triggers := memTriggers stats util
    let targetMb := memTarget stats util
    if triggers ≠ [] then
      let up := memUnderTarget targetMb stats
      { kind := .memory
        status := .under
        triggers := triggers
        sizingTarget := up
        sizingFloor := if up = none then stats.memTotalMb.map memHeadroomMb else none
        confidence := conf
        detail :=
          match truthy up with
          | some up => s!"목표 {up}MB"
          | none => "증설(현재 사양 기준 상향)" }
    else
      match truthy stats.memTotalMb, truthy targetMb with
      | some total, some target =>
        if target < total then
          { kind := .memory, status := .over, sizingTarget := some target, confidence := conf,
            detail := s!"목표 {target}MB" }
        else { kind := .memory, status := .optimal, sizingTarget := some total, confidence := conf }
      | _, _ =>
        { kind := .memory, status := .optimal, sizingTarget := stats.memTotalMb,
          confidence := conf }

/-! ### The targets -/

/-- The headroom size of a non-empty memory exceeds the present size. -/
lemma lt_memHeadroomMb {total : ℤ} (htotal : 0 < total) : total < memHeadroomMb total := by
  have htotalQ : (0 : ℚ) < total := by exact_mod_cast htotal
  rw [memHeadroomMb, Int.lt_ceil]
  rw [rsMemSaturationHeadroomPct]
  linarith

/-- The utilisation target of a non-empty memory is positive. -/
lemma memTargetMb_pos {nearPeakPct : ℚ} {total target : ℤ} (htotal : 0 < total)
    (htarget : memTargetMb nearPeakPct (some total) = some target) : 0 < target := by
  have htotalQ : (0 : ℚ) < total := by exact_mod_cast htotal
  by_cases hle : nearPeakPct ≤ 0
  · simp [memTargetMb, hle] at htarget
  · have hpos : 0 < nearPeakPct := not_le.mp hle
    have h : ⌈(total : ℚ) * nearPeakPct / rsMemSizingTargetPct⌉ = target := by
      simpa [memTargetMb, hle] using htarget
    rw [← h, Int.ceil_pos, rsMemSizingTargetPct]
    positivity

/-- An exact target of a short memory exceeds the present size. -/
lemma lt_of_memUnderTarget {utilTarget : Option ℤ} {stats : ResourceStats} {total up : ℤ}
    (htotal : stats.memTotalMb = some total) (hup : memUnderTarget utilTarget stats = some up) :
    total < up := by
  unfold memUnderTarget at hup
  simp only [htotal] at hup
  split at hup
  · simp at hup
  · split_ifs at hup with hlt
    rwa [Option.some.inj hup] at hlt

/-! ### The verdict -/

/-- The answers that `assessMemory` can give, with what each of them rests on. -/
inductive MemoryVerdict (stats : ResourceStats) : ResourceAssessment → Prop
  | unmeasured (hutil : stats.memP95Pct = none) (detail : String) :
      MemoryVerdict stats
        { kind := .memory, status := .unmeasured,
          confidence := { baseConfidence stats false true with coverageGap := true },
          detail := detail }
  | shortExact (triggers : List TriggerKind) (up : ℤ) (detail : String) (htriggers : triggers ≠ [])
      (hup : ∀ total, stats.memTotalMb = some total → total < up) :
      MemoryVerdict stats
        { kind := .memory, status := .under, triggers := triggers, sizingTarget := some up,
          confidence := baseConfidence stats false true, detail := detail }
  | shortFloor (triggers : List TriggerKind) (detail : String) (htriggers : triggers ≠ []) :
      MemoryVerdict stats
        { kind := .memory, status := .under, triggers := triggers,
          sizingFloor := stats.memTotalMb.map memHeadroomMb,
          confidence := baseConfidence stats false true, detail := detail }
  | surplus (util : ℚ) (total target : ℤ) (detail : String) (hutil : stats.memP95Pct = some util)
      (htotal : stats.memTotalMb = some total) (htarget : memTarget stats util = some target)
      (hdown : target < total) :
      MemoryVerdict stats
        { kind := .memory, status := .over, sizingTarget := some target,
          confidence := baseConfidence stats false true, detail := detail }
  | balanced (util : ℚ) (hutil : stats.memP95Pct = some util) :
      MemoryVerdict stats
        { kind := .memory, status := .optimal, sizingTarget := stats.memTotalMb,
          confidence := baseConfidence stats false true }

lemma assessMemory_verdict (stats : ResourceStats) :
    MemoryVerdict stats (assessMemory stats) := by
  unfold assessMemory
  cases hutil : stats.memP95Pct with
  | none =>
    by_cases hoom : stats.oomOccurred = true
    · simp only [if_pos hoom]
      exact .shortFloor _ _ (by simp)
    · simp only [if_neg hoom]
      exact .unmeasured hutil _
  | some util =>
    by_cases htriggers : memTriggers stats util = []
    · simp only [if_neg (not_not.mpr htriggers)]
      split
      · rename_i total target htotal htarget
        have htotal' := truthy_eq_some htotal
        by_cases hdown : target < total
        · rw [if_pos hdown]
          exact .surplus util total target _ hutil htotal' (truthy_eq_some htarget) hdown
        · rw [if_neg hdown, ← htotal']
          exact .balanced util hutil
      · exact .balanced util hutil
    · simp only [if_pos htriggers]
      cases hup : memUnderTarget (memTarget stats util) stats with
      | none => exact .shortFloor _ _ htriggers
      | some up =>
        exact .shortExact _ up _ htriggers fun _ htotal => lt_of_memUnderTarget htotal hup

/-- A memory verdict is sound for the present size of a non-empty memory. -/
lemma assessMemory_sound {stats : ResourceStats} {total : ℤ} (hpos : 0 < total)
    (htotal : stats.memTotalMb = some total) : SoundSizing total (assessMemory stats) := by
  have h := assessMemory_verdict stats
  generalize assessMemory stats = a at h ⊢
  cases h with
  | unmeasured => constructor <;> simp
  | shortExact _ up _ _ hup =>
    exact ⟨by simp, fun _ => Or.inl ⟨up, rfl, hup total htotal⟩, by simp⟩
  | shortFloor =>
    refine ⟨by simp, fun _ => Or.inr ⟨rfl, memHeadroomMb total, ?_, lt_memHeadroomMb hpos⟩, by simp⟩
    rw [htotal, Option.map_some]
  | surplus util total' target _ _ htotal' htarget hdown =>
    obtain rfl : total = total' := Option.some.inj (htotal.symm.trans htotal')
    rw [memTarget, htotal] at htarget
    exact ⟨by simp, by simp, fun _ => ⟨target, rfl, memTargetMb_pos hpos htarget, hdown⟩⟩
  | balanced => constructor <;> simp

/-- A short memory carries a trigger. -/
lemma assessMemory_triggers_ne_nil {stats : ResourceStats}
    (hunder : (assessMemory stats).status = .under) : (assessMemory stats).triggers ≠ [] := by
  have h := assessMemory_verdict stats
  generalize assessMemory stats = a at h hunder ⊢
  cases h with
  | shortExact _ _ _ htriggers => exact htriggers
  | shortFloor _ _ htriggers => exact htriggers
  | _ => simp at hunder

end AssessmentEngine
