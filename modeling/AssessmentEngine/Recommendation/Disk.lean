import AssessmentEngine.Recommendation.Assessment
import Mathlib.Algebra.Order.Field.Basic
import Mathlib.Tactic.NormNum
import Mathlib.Tactic.Linarith

/-!
# Disk capacity verdicts

Disk space is judged twice: once for the host, on figures folded over its mounts
(`assessDiskCapacity`), and once for every mount (`assessMountCapacity`).  Both look at
two axes, bytes and inodes, each with a runway (days until full, absent when the axis is
not filling up) and a used share.  An axis is filling when its runway is short, or when
it has no runway and its used share has reached the static guard.
-/

namespace AssessmentEngine

/-! ### One capacity axis -/

/-- The runway is known and short. -/
def runwayImminent (runwayDays : Option ℚ) : Bool := runwayDays.any (· < rsDiskRunwayDays)

/-- The used share has reached the static guard. -/
def overStaticGuard (usedPct : Option ℚ) : Bool := usedPct.any (rsDiskStaticGuardPct ≤ ·)

/-- The static guard, which speaks only where there is no trend. -/
def staticallyFilling (runwayDays usedPct : Option ℚ) : Bool :=
  runwayDays.isNone && overStaticGuard usedPct

def axisFilling (runwayDays usedPct : Option ℚ) : Bool :=
  runwayImminent runwayDays || staticallyFilling runwayDays usedPct

/-! ### The host -/

/-- The shortest of the runways that are known. -/
def minRunway (runways : List (Option ℚ)) : Option ℚ := Nullable.minSome runways

/-- The extension target (GB) as a positive integer. -/
def diskTargetGb (stats : ResourceStats) : Option ℤ :=
  match stats.diskCapacityTargetGb with
  | some gb => if 1 ≤ gb then some ⌈gb⌉ else none
  | none => none

/-- The part of a detail text that names the extension target. -/
def targetSuffix (targetGb : Option ℤ) : String :=
  match truthy targetGb with
  | some gb => s!", 목표 {FixedPoint.formatFixed 0 gb}GB"
  | none => ""

/-- The disk capacity verdict of a host. -/
def assessDiskCapacity (stats : ResourceStats) : ResourceAssessment :=
  let conf := baseConfidence stats false false
  let runway := minRunway [stats.diskCapacityRunwayDays, stats.diskInodeRunwayDays]
  let used := stats.diskUsedPct
  let inodeUsed := stats.diskInodeUsedPct
  let target := diskTargetGb stats
  if runwayImminent runway then
    -- an extension does not help when the inodes run out first
    let runwayTarget := if runway = stats.diskCapacityRunwayDays then target else none
    { kind := .diskCapacity, status := .filling, triggers := [.diskCapacity],
      sizingTarget := runwayTarget, confidence := conf,
      detail := s!"{FixedPoint.formatFixed 0 (runway.getD 0)}일 후 소진" ++ targetSuffix runwayTarget }
  else if staticallyFilling stats.diskCapacityRunwayDays used then
    { kind := .diskCapacity, status := .filling, triggers := [.diskCapacity],
      sizingTarget := target, confidence := conf,
      detail := s!"used {FixedPoint.formatFixed 0 (used.getD 0)}% (정적 가드)" ++ targetSuffix target }
  else if staticallyFilling stats.diskInodeRunwayDays inodeUsed then
    { kind := .diskCapacity, status := .filling, triggers := [.diskCapacity], confidence := conf,
      detail := s!"inode used {FixedPoint.formatFixed 0 (inodeUsed.getD 0)}% (정적 가드)" }
  else
    match runway, used, inodeUsed with
    | none, none, none =>
      { kind := .diskCapacity, status := .unmeasured,
        confidence := { conf with coverageGap := true },
        detail := "용량 미측정" }
    | some runway, _, _ =>
      { kind := .diskCapacity, status := .capacityOk, confidence := conf,
        detail := s!"{FixedPoint.formatFixed 0 runway}일 여유" }
    | none, some used, _ =>
      { kind := .diskCapacity, status := .capacityOk, confidence := conf,
        detail := s!"used {FixedPoint.formatFixed 0 used}%" }
    | none, none, some _ =>
      { kind := .diskCapacity, status := .capacityOk, confidence := conf, detail := "여유" }

/-- The shortest runway is short when some runway is. -/
lemma runwayImminent_minSome {runways : List (Option ℚ)} :
    runwayImminent (Nullable.minSome runways) = true ↔
      ∃ runway ∈ runways, runwayImminent runway = true := by
  have hdown : ∀ x y : ℚ, x ≤ y →
      decide (y < rsDiskRunwayDays) = true → decide (x < rsDiskRunwayDays) = true := by
    intro x y hxy hy
    exact decide_eq_true (lt_of_le_of_lt hxy (of_decide_eq_true hy))
  exact Nullable.minSome_any_iff hdown

/-- The short runway of a host is the short runway of one of its axes. -/
lemma runwayImminent_minRunway (byteRunway inodeRunway : Option ℚ) :
    runwayImminent (minRunway [byteRunway, inodeRunway]) =
      (runwayImminent byteRunway || runwayImminent inodeRunway) := by
  rw [Bool.eq_iff_iff, Bool.or_eq_true, minRunway, runwayImminent_minSome]
  simp

/-- The answers that `assessDiskCapacity` can give, with what each of them rests on. -/
inductive DiskVerdict (stats : ResourceStats) : ResourceAssessment → Prop
  | filling (target : Option ℤ) (detail : String)
      (haxis : (axisFilling stats.diskCapacityRunwayDays stats.diskUsedPct ||
        axisFilling stats.diskInodeRunwayDays stats.diskInodeUsedPct) = true) :
      DiskVerdict stats
        { kind := .diskCapacity, status := .filling, triggers := [.diskCapacity],
          sizingTarget := target, confidence := baseConfidence stats false false,
          detail := detail }
  | capacityOk (detail : String)
      (haxis : (axisFilling stats.diskCapacityRunwayDays stats.diskUsedPct ||
        axisFilling stats.diskInodeRunwayDays stats.diskInodeUsedPct) = false) :
      DiskVerdict stats
        { kind := .diskCapacity, status := .capacityOk,
          confidence := baseConfidence stats false false,
          detail := detail }
  | unmeasured (detail : String)
      (haxis : (axisFilling stats.diskCapacityRunwayDays stats.diskUsedPct ||
        axisFilling stats.diskInodeRunwayDays stats.diskInodeUsedPct) = false) :
      DiskVerdict stats
        { kind := .diskCapacity, status := .unmeasured,
          confidence := { baseConfidence stats false false with coverageGap := true },
          detail := detail }

lemma assessDiskCapacity_verdict (stats : ResourceStats) :
    DiskVerdict stats (assessDiskCapacity stats) := by
  unfold assessDiskCapacity
  simp only [runwayImminent_minRunway]
  by_cases hrunway : (runwayImminent stats.diskCapacityRunwayDays ||
      runwayImminent stats.diskInodeRunwayDays) = true
  · rw [if_pos hrunway]
    refine .filling _ _ ?_
    rcases Bool.or_eq_true _ _ ▸ hrunway with h | h <;> simp [axisFilling, h]
  rw [if_neg hrunway]
  by_cases hbyte : staticallyFilling stats.diskCapacityRunwayDays stats.diskUsedPct = true
  · rw [if_pos hbyte]
    exact .filling _ _ (by simp [axisFilling, hbyte])
  rw [if_neg hbyte]
  by_cases hinode : staticallyFilling stats.diskInodeRunwayDays stats.diskInodeUsedPct = true
  · rw [if_pos hinode]
    exact .filling none _ (by simp [axisFilling, hinode])
  rw [if_neg hinode]
  have haxis : (axisFilling stats.diskCapacityRunwayDays stats.diskUsedPct ||
      axisFilling stats.diskInodeRunwayDays stats.diskInodeUsedPct) = false := by
    rw [Bool.not_eq_true, Bool.or_eq_false_iff] at hrunway
    rw [Bool.not_eq_true] at hbyte hinode
    simp [axisFilling, hrunway, hbyte, hinode]
  split
  · exact .unmeasured _ haxis
  · exact .capacityOk _ haxis
  · exact .capacityOk _ haxis
  · exact .capacityOk _ haxis

/-- A host is filling when one of its two axes is. -/
lemma assessDiskCapacity_filling_iff (stats : ResourceStats) :
    (assessDiskCapacity stats).status = .filling ↔
      axisFilling stats.diskCapacityRunwayDays stats.diskUsedPct = true ∨
        axisFilling stats.diskInodeRunwayDays stats.diskInodeUsedPct = true := by
  rw [← Bool.or_eq_true]
  have h := assessDiskCapacity_verdict stats
  generalize assessDiskCapacity stats = a at h ⊢
  cases h with
  | filling _ _ haxis => simp [haxis]
  | capacityOk _ haxis => simp [haxis]
  | unmeasured _ haxis => simp [haxis]

/-- A filling disk carries a trigger. -/
lemma assessDiskCapacity_triggers_ne_nil {stats : ResourceStats}
    (hfilling : (assessDiskCapacity stats).status = .filling) :
    (assessDiskCapacity stats).triggers ≠ [] := by
  have h := assessDiskCapacity_verdict stats
  generalize assessDiskCapacity stats = a at h hfilling ⊢
  cases h <;> simp at hfilling ⊢

/-! ### One mount -/

/-- What to do with a size. -/
inductive SizingAction where
  | increase | keep | decrease
  deriving DecidableEq, Repr

/-- How well a recommended size is founded. -/
inductive EstimateQuality where
  | exact | floor | uncertain
  deriving DecidableEq, Repr

/-- The sizing of one mount, in GiB rounded up. -/
structure MountSizing where
  currentGib : ℤ
  recommendedGib : ℤ
  action : SizingAction
  estimateQuality : EstimateQuality
  note : String := ""
  deriving DecidableEq, Repr

def gib : ℚ := 1024 ^ 3

/-- The capacity verdict of a mount; absent when its size is unknown. -/
def assessMountCapacity (totalBytes : Option ℤ) (targetBytes : Option ℚ)
    (byteRunwayDays usedPct inodeRunwayDays inodeUsedPct : Option ℚ) : Option MountSizing :=
  match truthy totalBytes with
  | none => none
  | some total =>
    let current := ⌈(total : ℚ) / gib⌉
    let byteFilling := axisFilling byteRunwayDays usedPct
    let inodeFilling := axisFilling inodeRunwayDays inodeUsedPct
    match byteFilling, targetBytes with
    | true, some target =>
      let recommended := max current ⌈target / gib⌉
      some ⟨current, recommended, if current < recommended then .increase else .keep, .exact, ""⟩
    | true, none =>
      -- no target could be computed: a size that brings the present one down to 70 %
      some ⟨current, max current ⌈(current : ℚ) / (rsDiskHeadroomTargetPct / 100)⌉, .increase,
        .floor, ""⟩
    | false, _ =>
      if inodeFilling then
        some ⟨current, current, .keep, .exact, "inode 소진 — 파일 정리/재포맷(용량 확장 무관)"⟩
      else some ⟨current, current, .keep, .exact, ""⟩

/-- Dividing a positive size by the headroom share makes it strictly larger. -/
lemma lt_ceil_div_headroom {current : ℤ} (hpos : 0 < current) :
    current < ⌈(current : ℚ) / (rsDiskHeadroomTargetPct / 100)⌉ := by
  have hposQ : (0 : ℚ) < current := by exact_mod_cast hpos
  rw [Int.lt_ceil, rsDiskHeadroomTargetPct, lt_div_iff₀ (by norm_num)]
  linarith

/-- The sizing of a mount of positive present size either extends it, exactly or to a
floor, or keeps it. -/
lemma assessMountCapacity_sound {totalBytes : Option ℤ} {targetBytes byteRunwayDays usedPct
    inodeRunwayDays inodeUsedPct : Option ℚ} {s : MountSizing}
    (hs : assessMountCapacity totalBytes targetBytes byteRunwayDays usedPct inodeRunwayDays
      inodeUsedPct = some s) (hpos : 0 < s.currentGib) :
    (s.action = .increase ∧ s.currentGib < s.recommendedGib ∧
        (s.estimateQuality = .exact ∨ s.estimateQuality = .floor)) ∨
      (s.action = .keep ∧ s.recommendedGib = s.currentGib ∧ s.estimateQuality = .exact) := by
  unfold assessMountCapacity at hs
  cases htotal : truthy totalBytes with
  | none => simp [htotal] at hs
  | some total =>
    simp only [htotal] at hs
    cases hbyte : axisFilling byteRunwayDays usedPct with
    | true =>
      simp only [hbyte] at hs
      cases targetBytes with
      | some target =>
        -- an exact target: it extends the mount or is already met
        obtain rfl := Option.some.inj hs
        by_cases hlt : ⌈(total : ℚ) / gib⌉ < max ⌈(total : ℚ) / gib⌉ ⌈target / gib⌉
        · exact Or.inl ⟨by simp only [if_pos hlt], hlt, Or.inl rfl⟩
        · refine Or.inr ⟨by simp only [if_neg hlt], ?_, rfl⟩
          exact le_antisymm (not_lt.mp hlt) (le_max_left _ _)
      | none =>
        obtain rfl := Option.some.inj hs
        exact Or.inl ⟨rfl, lt_max_of_lt_right (lt_ceil_div_headroom hpos), Or.inr rfl⟩
    | false =>
      simp only [hbyte] at hs
      split_ifs at hs
      · obtain rfl := Option.some.inj hs
        exact Or.inr ⟨rfl, rfl, rfl⟩
      · obtain rfl := Option.some.inj hs
        exact Or.inr ⟨rfl, rfl, rfl⟩

end AssessmentEngine
