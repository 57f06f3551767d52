import AssessmentEngine.Recommendation.Assessment
import Mathlib.Algebra.Order.Field.Basic
import Mathlib.Tactic.NormNum
import Mathlib.Tactic.Positivity
import Mathlib.Tactic.Linarith

/-!
# CPU verdict

A CPU is short when its utilisation reaches 70 % or its run queue is saturated; it has
a surplus when landing on 70 % takes fewer cores than it has.  The number of cores to
land on is rounded up, so a CPU below 70 % never asks for more cores than it has
(`cpuTargetCores_le_of_lt`): a short CPU always has a trigger.

The quotients are rounded by a parameter: `id` leaves them exact, `Double.nearest` rounds them as
the machine does.  `assessCpu` is the exact verdict.
-/

namespace AssessmentEngine

/-- The run queue used for sizing. -/
def runQueueValue (stats : ResourceStats) : Option ℚ :=
  if stats.osFamily = some "windows" then stats.cpuRunQueueP95 else stats.procsRunningP95

/-- The run queue per core at which a CPU is saturated. -/
def rsCpuSatLine (osFamily : Option String) : ℚ :=
  if osFamily = some "windows" then cpuRunQueuePerCoreSaturation else procsRunningPerCoreSaturation

/-- The number of cores on which a saturated run queue lands at 0.7 of the saturation line. -/
def cpuSatCores (round : ℚ → ℚ) (runQueue : Option ℚ) (osFamily : Option String)
    (saturated : Bool) : ℤ :=
  match runQueue with
  | some queue =>
    if saturated ∧ 0 < queue then
      ⌈round (queue / round (rsCpuSatLine osFamily * round rsCpuSatHeadroom))⌉
    else 0
  | none => 0

/-- The number of cores on which the load lands at 70 % and, when the CPU is saturated, the
run queue at 0.7 of the saturation line. -/
def cpuTargetCores (round : ℚ → ℚ) (utilPct : ℚ) (cores : ℤ) (runQueue : Option ℚ)
    (osFamily : Option String) (saturated : Bool) : ℤ :=
  let utilCores :=
    if 0 < utilPct then ⌈round (round (utilPct * round cores) / rsCpuSizingTargetPct)⌉ else 1
  max 1 (max utilCores (cpuSatCores round runQueue osFamily saturated))

/-- The confidence of the CPU verdict. -/
def cpuConfidence (stats : ResourceStats) : ConfidenceNote :=
  let stealBiased := stats.cpuStealP95Pct.any (rsCpuStealBiasPct ≤ ·)
  let conf := baseConfidence stats stealBiased true
  let conf := if cpuSaturated stats = none then { conf with coverageGap := true } else conf
  if stats.cpuP95Pct = none then { conf with coverageGap := true } else conf

/-- The reasons for which a CPU is short. -/
def cpuTriggers (stats : ResourceStats) : List TriggerKind :=
  (if stats.cpuP95Pct.any (rsCpuUnderPct ≤ ·) then [.cpuUtil] else []) ++
    if cpuSaturated stats = some true then [.cpuSaturation] else []

/-- The number of cores the CPU of `stats` should have. -/
def cpuTarget (round : ℚ → ℚ) (stats : ResourceStats) (cores : ℤ) : ℤ :=
  cpuTargetCores round (stats.cpuP95Pct.getD 0) cores (runQueueValue stats) stats.osFamily
    (cpuSaturated stats = some true)

/-- The busiest core forbids a smaller CPU. -/
def percoreBusy (stats : ResourceStats) : Bool :=
  stats.cpuPercoreP95Max.any (rsCpuPercoreHoldPct ≤ ·)

/-- The CPU verdict, with quotients that are rounded by `round`. -/
def assessCpuWith (round : ℚ → ℚ) (stats : ResourceStats) : ResourceAssessment :=
  let conf := cpuConfidence stats
  if stats.cpuP95Pct = none ∧ cpuSaturated stats ≠ some true then
    { kind := .cpu, status := .unmeasured, confidence := conf, detail := "이용률 미측정" }
  else
    match stats.cpuCores with
    | none => { kind := .cpu, status := .unmeasured, confidence := conf, detail := "코어 수 미상" }
    | some cores =>
      if cores ≤ 0 then
        { kind := .cpu, status := .unmeasured, confidence := conf, detail := "코어 수 미상" }
      else
        let target := cpuTarget round stats cores
        let triggers := cpuTriggers stats
        if triggers ≠ [] ∨ cores < target then
          let up := if cores < target then some target else none
          { kind := .cpu
            status := .under
            triggers := triggers
            sizingTarget := up
            sizingFloor := if up.isSome then none else some (cores + 1)
            confidence := conf
            detail :=
              match truthy up with
              | some up => s!"목표 {up}코어"
              | none => s!"포화 주도 — 증설(최소 {cores + 1}코어)" }
        else if target < cores ∧ percoreBusy stats = false then
          { kind := .cpu, status := .over, sizingTarget := some target, confidence := conf,
            detail := s!"목표 {target}코어" }
        else
          { kind := .cpu, status := .optimal, sizingTarget := some cores, confidence := conf }

/-- The CPU verdict. -/
def assessCpu (stats : ResourceStats) : ResourceAssessment := assessCpuWith id stats

/-! ### The target -/

lemma one_le_cpuTargetCores (round : ℚ → ℚ) (utilPct : ℚ) (cores : ℤ) (runQueue : Option ℚ)
    (osFamily : Option String) (saturated : Bool) :
    1 ≤ cpuTargetCores round utilPct cores runQueue osFamily saturated :=
  le_max_left _ _

@[simp]
lemma cpuSatCores_false (round : ℚ → ℚ) (runQueue : Option ℚ) (osFamily : Option String) :
    cpuSatCores round runQueue osFamily false = 0 := by
  cases runQueue <;> simp [cpuSatCores]

/-- Without saturation, a utilisation below 70 % lands on at most the present cores. -/
lemma cpuTargetCores_le_of_lt {utilPct : ℚ} {cores : ℤ} (hcores : 0 < cores)
    (hutil : utilPct < rsCpuUnderPct) (runQueue : Option ℚ) (osFamily : Option String) :
    cpuTargetCores id utilPct cores runQueue osFamily false ≤ cores := by
  have hcoresQ : (0 : ℚ) < cores := by exact_mod_cast hcores
  have hceil : ⌈utilPct * cores / rsCpuSizingTargetPct⌉ ≤ cores := by
    rw [Int.ceil_le, div_le_iff₀ (by norm_num [rsCpuSizingTargetPct]), mul_comm]
    exact mul_le_mul_of_nonneg_left (by rw [rsCpuUnderPct] at hutil; exact hutil.le) hcoresQ.le
  simp only [cpuTargetCores, id_eq]
  rw [cpuSatCores_false]
  refine max_le hcores (max_le ?_ hcores.le)
  split_ifs
  · exact hceil
  · exact hcores

/-- A CPU without triggers that was not dismissed as unmeasured asks for no further core. -/
lemma cpuTarget_le_of_no_triggers {stats : ResourceStats} {cores : ℤ} (hcores : 0 < cores)
    (hutil : ¬(stats.cpuP95Pct = none ∧ cpuSaturated stats ≠ some true))
    (htriggers : cpuTriggers stats = []) : cpuTarget id stats cores ≤ cores := by
  have hsat : cpuSaturated stats ≠ some true := by
    intro h
    simp [cpuTriggers, h] at htriggers
  obtain ⟨util, hu⟩ := Option.ne_none_iff_exists'.mp fun h => hutil ⟨h, hsat⟩
  have hlt : util < rsCpuUnderPct := by
    by_contra hge
    simp [cpuTriggers, hu, not_lt.mp hge] at htriggers
  rw [cpuTarget, hu, decide_eq_false hsat]
  exact cpuTargetCores_le_of_lt hcores hlt _ _

/-! ### The verdict -/

/-- The answers that `assessCpu` can give, with what each of them rests on. -/
inductive CpuVerdict (stats : ResourceStats) : ResourceAssessment → Prop
  | unmeasured (detail : String) :
      CpuVerdict stats
        { kind := .cpu, status := .unmeasured, confidence := cpuConfidence stats, detail := detail }
  | shortExact (cores : ℤ) (detail : String) (hcores : stats.cpuCores = some cores)
      (hpos : 0 < cores) (htriggers : cpuTriggers stats ≠ [])
      (hup : cores < cpuTarget id stats cores) :
      CpuVerdict stats
        { kind := .cpu, status := .under, triggers := cpuTriggers stats,
          sizingTarget := some (cpuTarget id stats cores), confidence := cpuConfidence stats,
          detail := detail }
  | shortFloor (cores : ℤ) (detail : String) (hcores : stats.cpuCores = some cores)
      (hpos : 0 < cores) (htriggers : cpuTriggers stats ≠ [])
      (hup : cpuTarget id stats cores ≤ cores) :
      CpuVerdict stats
        { kind := .cpu, status := .under, triggers := cpuTriggers stats,
          sizingFloor := some (cores + 1), confidence := cpuConfidence stats, detail := detail }
  | surplus (cores : ℤ) (detail : String) (hcores : stats.cpuCores = some cores) (hpos : 0 < cores)
      (htriggers : cpuTriggers stats = []) (hdown : cpuTarget id stats cores < cores)
      (hpercore : percoreBusy stats = false) :
      CpuVerdict stats
        { kind := .cpu, status := .over, sizingTarget := some (cpuTarget id stats cores),
          confidence := cpuConfidence stats, detail := detail }
  | balanced (cores : ℤ) (hcores : stats.cpuCores = some cores) (hpos : 0 < cores)
      (htriggers : cpuTriggers stats = []) :
      CpuVerdict stats
        { kind := .cpu, status := .optimal, sizingTarget := some cores,
          confidence := cpuConfidence stats }

lemma assessCpu_verdict (stats : ResourceStats) : CpuVerdict stats (assessCpu stats) := by
  unfold assessCpu assessCpuWith
  by_cases hmissing : stats.cpuP95Pct = none ∧ cpuSaturated stats ≠ some true
  · rw [if_pos hmissing]
    exact .unmeasured _
  rw [if_neg hmissing]
  cases hcores : stats.cpuCores with
  | none => exact .unmeasured _
  | some cores =>
    by_cases hle : cores ≤ 0
    · simp only [if_pos hle]
      exact .unmeasured _
    simp only [if_neg hle]
    have hpos : 0 < cores := not_le.mp hle
    by_cases htriggers : cpuTriggers stats = []
    · -- without a trigger the target is at most the present number of cores
      have hup := cpuTarget_le_of_no_triggers hpos hmissing htriggers
      rw [if_neg (by simp [htriggers, hup])]
      by_cases hover : cpuTarget id stats cores < cores ∧ percoreBusy stats = false
      · rw [if_pos hover]
        exact .surplus cores _ hcores hpos htriggers hover.1 hover.2
      · rw [if_neg hover]
        exact .balanced cores hcores hpos htriggers
    · rw [if_pos (Or.inl htriggers)]
      by_cases hup : cores < cpuTarget id stats cores
      · simp only [if_pos hup]
        exact .shortExact cores _ hcores hpos htriggers hup
      · simp only [if_neg hup]
        exact .shortFloor cores _ hcores hpos htriggers (not_lt.mp hup)

/-- A CPU verdict is sound for the present number of cores. -/
lemma assessCpu_sound {stats : ResourceStats} {cores : ℤ} (hcores : stats.cpuCores = some cores) :
    SoundSizing cores (assessCpu stats) := by
  have h := assessCpu_verdict stats
  generalize assessCpu stats = a at h ⊢
  cases h with
  | unmeasured => constructor <;> simp
  | shortExact cores' _ hcores' _ _ hup =>
    obtain rfl : cores = cores' := Option.some.inj (hcores.symm.trans hcores')
    exact ⟨by simp, fun _ => Or.inl ⟨_, rfl, hup⟩, by simp⟩
  | shortFloor cores' _ hcores' _ _ _ =>
    obtain rfl : cores = cores' := Option.some.inj (hcores.symm.trans hcores')
    exact ⟨by simp, fun _ => Or.inr ⟨rfl, _, rfl, by omega⟩, by simp⟩
  | surplus cores' _ hcores' _ _ hdown _ =>
    obtain rfl : cores = cores' := Option.some.inj (hcores.symm.trans hcores')
    exact ⟨by simp, by simp, fun _ => ⟨_, rfl, one_le_cpuTargetCores _ _ _ _ _ _, hdown⟩⟩
  | balanced => constructor <;> simp

/-- A short CPU carries a trigger. -/
lemma assessCpu_triggers_ne_nil {stats : ResourceStats}
    (hunder : (assessCpu stats).status = .under) : (assessCpu stats).triggers ≠ [] := by
  have h := assessCpu_verdict stats
  generalize assessCpu stats = a at h hunder ⊢
  cases h with
  | shortExact _ _ _ _ htriggers => exact htriggers
  | shortFloor _ _ _ _ htriggers => exact htriggers
  | _ => simp at hunder

end AssessmentEngine
