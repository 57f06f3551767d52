import AssessmentEngine.Mappers.ReportRow
import AssessmentEngine.Recommendation.Prescription

/-!
# Sizing axes of the assessment API

For every server the assessment API lists one sizing axis for the CPU, one for memory and
one for each mount.  An axis says what to do with a quantity, how well that is founded,
and which quantity to move to.

`SizingDecision` is what such an axis has to amount to: its constructors carry the proofs
that a larger size is larger, that a smaller size is smaller and positive, and that the
gate of smaller sizes is open.  Every axis of `sizing` is the rendering of a decision
(`axisSize_renders`, `mountAxis_renders`), so the contract of the API is read off the
decision and not off the cascade of rules behind it.
-/

namespace AssessmentEngine

/-! ## Decisions -/

/-- A decision about a quantity whose present value is `current`, where `gate` has to hold
before a smaller value may be prescribed. -/
inductive SizingDecision (current : ℤ) (gate : Prop) where
  | growExact (target : ℤ) (larger : current < target)
  | growFloor (target : ℤ) (larger : current < target)
  | hold
  | holdUncertain
  | shrink (target : ℤ) (positive : 0 < target) (smaller : target < current) (allowed : gate)

namespace SizingDecision

variable {current : ℤ} {gate : Prop}

/-- The value, the action and the quality that a decision is published as. -/
def render : SizingDecision current gate → Option ℤ × SizingAction × EstimateQuality
  | growExact target _ => (some target, .increase, .exact)
  | growFloor target _ => (some target, .increase, .floor)
  | hold => (some current, .keep, .exact)
  | holdUncertain => (some current, .keep, .uncertain)
  | shrink target _ _ _ => (some target, .decrease, .exact)

/-- What a published decision promises. -/
structure Contract (current : ℤ) (gate : Prop) (recommended : Option ℤ) (action : SizingAction)
    (quality : EstimateQuality) : Prop where
  value : ∃ n, recommended = some n ∧
    (action = .increase → current < n) ∧ (action = .keep → n = current) ∧
      (action = .decrease → 0 < n ∧ n < current)
  allowed : action = .decrease → gate
  pair : (action, quality) ∈ [(.increase, .exact), (.increase, .floor), (.decrease, .exact),
    (.keep, .exact), (.keep, .uncertain)]

/-- Every decision keeps the promise of its rendering. -/
lemma render_contract (d : SizingDecision current gate) :
    Contract current gate d.render.1 d.render.2.1 d.render.2.2 := by
  cases d with
  | growExact target larger =>
    exact ⟨⟨target, rfl, by simp [larger, render]⟩, by simp [render], by simp [render]⟩
  | growFloor target larger =>
    exact ⟨⟨target, rfl, by simp [larger, render]⟩, by simp [render], by simp [render]⟩
  | hold => exact ⟨⟨current, rfl, by simp [render]⟩, by simp [render], by simp [render]⟩
  | holdUncertain => exact ⟨⟨current, rfl, by simp [render]⟩, by simp [render], by simp [render]⟩
  | shrink target positive smaller allowed =>
    exact ⟨⟨target, rfl, by simp [positive, smaller, render]⟩, fun _ => allowed, by simp [render]⟩

end SizingDecision

/-! ## The axes -/

inductive AxisName where
  | cpu | memory | disk
  deriving DecidableEq, Repr

/-- The resource whose verdict an axis rests on. -/
def AxisName.kind : AxisName → ResourceKind
  | .cpu => .cpu
  | .memory => .memory
  | .disk => .diskCapacity

/-- One entry of the list of sizing axes. -/
structure SizingAxis where
  axis : AxisName
  mountpoint : Option String := none
  deviceRef : Option String := none
  current : ℤ
  recommended : Option ℤ
  unit : String
  action : SizingAction
  estimateQuality : EstimateQuality
  usedPct : Option ℚ := none
  runwayDays : Option ℤ := none
  note : Option String := none
  deriving DecidableEq, Repr

/-- The sizeable resources of a host. -/
inductive HostAxis where
  | cpu | memory
  deriving DecidableEq, Repr

namespace HostAxis

def name : HostAxis → AxisName
  | cpu => .cpu
  | memory => .memory

def kind (axis : HostAxis) : ResourceKind := axis.name.kind

def unit : HostAxis → String
  | cpu => "vcpus"
  | memory => "mib"

/-- The present quantity. -/
def current (stats : ResourceStats) : HostAxis → Option ℤ
  | cpu => stats.cpuCores
  | memory => stats.memTotalMb

end HostAxis

/-- The recommended value, the action and the quality for a CPU or memory verdict. -/
def axisSize (current : ℤ) (ra : ResourceAssessment) (stats : ResourceStats) :
    Option ℤ × SizingAction × EstimateQuality :=
  match ra.status with
  | .under =>
    if ra.sizingTarget.isSome then (ra.sizingTarget, .increase, .exact)
    else if ra.sizingFloor.isSome then (ra.sizingFloor, .increase, .floor)
    else (some current, .keep, .uncertain)
  | .over =>
    if downsizePrescribable ra stats && ra.sizingTarget.isSome then
      (ra.sizingTarget, .decrease, .exact)
    else (some current, .keep, .exact)
  | .unmeasured | .insufficient => (some current, .keep, .uncertain)
  | _ => (some current, .keep, .exact)

/-- The block device that carries a mount. -/
def deviceRef (raw : ReportRowRaw) (mountpoint : String) : Option String :=
  ((raw.blockDevices.getD []).find? fun d => d.mountpoint = some mountpoint).bind (·.id)

/-- The axis of a sizeable resource, absent when the present quantity is unknown. -/
def hostAxis (stats : ResourceStats) (host : HostAssessment) (axis : HostAxis) :
    Option SizingAxis :=
  (axis.current stats).map fun current =>
    let size := axisSize current (host.resources.get axis.kind) stats
    { axis := axis.name, current := current, recommended := size.1, unit := axis.unit,
      action := size.2.1, estimateQuality := size.2.2 }

/-- The axis of a mount, absent when its size is unknown. -/
def mountAxis (raw : ReportRowRaw) (m : MountCapacityRaw) : Option SizingAxis :=
  (assessMountCapacity m.totalBytes (m.targetBytes.map fun bytes => (bytes : ℚ)) m.byteRunwayDays
      m.usedPct m.inodeRunwayDays m.inodeUsedPct).map fun s =>
    { axis := .disk
      mountpoint := some m.mountpoint
      deviceRef := deviceRef raw m.mountpoint
      current := s.currentGib
      recommended := some s.recommendedGib
      unit := "gib"
      action := s.action
      estimateQuality := s.estimateQuality
      usedPct := m.usedPct.map (FixedPoint.roundTo 1)
      runwayDays := m.byteRunwayDays.map FixedPoint.truncate
      note := if s.note = "" then none else some s.note }

/-- The sizing axes of a server. -/
def sizing (raw : ReportRowRaw) (stats : ResourceStats) (host : HostAssessment)
    (mounts : List MountCapacityRaw) : List SizingAxis :=
  [HostAxis.cpu, HostAxis.memory].filterMap (hostAxis stats host) ++
    mounts.filterMap (mountAxis raw)

/-- The part of an assessment entry that decides what is to be done. -/
structure AssessmentEntry where
  publicId : String
  hostname : String
  osFamily : Option String
  sizing : List SizingAxis
  classification : Recommendation
  deriving DecidableEq, Repr

def buildAssessmentEntry (raw : ReportRowRaw) (mounts : List MountCapacityRaw) : AssessmentEntry :=
  let stats := buildResourceStats raw none
  let host := rollupHost stats
  { publicId := raw.publicId
    hostname := raw.hostname
    osFamily := raw.osFamily
    sizing := sizing raw stats host mounts
    classification := hostStatusToRecommendation host.hostStatus }

/-! ## The axes are decisions -/

/-- What has to hold before a smaller size of a resource may be prescribed. -/
structure DownsizeGate (ra : ResourceAssessment) (stats : ResourceStats) : Prop where
  precise : ra.confidence.lowPrecision = false
  covered : ra.confidence.coverageGap = false
  unbiased : ra.confidence.biased = false
  stationary : ra.confidence.nonstationary = false
  observed : ∃ s, stats.sampleSufficiency = some s ∧ rsDownsizeMinSufficiency ≤ s

lemma downsizeGate_of_prescribable {ra : ResourceAssessment} {stats : ResourceStats}
    (h : downsizePrescribable ra stats = true) : DownsizeGate ra stats := by
  simp only [downsizePrescribable, ConfidenceNote.high, Bool.and_eq_true, Bool.not_eq_true',
    Bool.or_eq_false_iff] at h
  obtain ⟨⟨⟨-, ⟨hprecise, hcovered⟩, hunbiased⟩, hstationary⟩, hobserved⟩ := h
  obtain ⟨s, hs, hle⟩ := (Option.any_eq_true _ _).mp hobserved
  exact ⟨hprecise, hcovered, hunbiased, hstationary, s, hs, of_decide_eq_true hle⟩

/-- The size read off a sound verdict is the rendering of a decision. -/
lemma axisSize_renders {current : ℤ} {ra : ResourceAssessment} {stats : ResourceStats}
    (hsound : SoundSizing current ra) :
    ∃ d : SizingDecision current (DownsizeGate ra stats), axisSize current ra stats = d.render := by
  have hmem := hsound.status_mem
  simp only [List.mem_cons, List.not_mem_nil, or_false] at hmem
  unfold axisSize
  rcases hmem with hs | hs | hs | hs
  · rw [hs]
    rcases hsound.under_larger hs with ⟨t, ht, hlt⟩ | ⟨hnone, f, hf, hlt⟩
    · exact ⟨.growExact t hlt, by simp [ht, SizingDecision.render]⟩
    · exact ⟨.growFloor f hlt, by simp [hnone, hf, SizingDecision.render]⟩
  · rw [hs]
    exact ⟨.hold, rfl⟩
  · rw [hs]
    obtain ⟨t, ht, hpos, hlt⟩ := hsound.over_smaller hs
    by_cases hgate : downsizePrescribable ra stats = true
    · exact ⟨.shrink t hpos hlt (downsizeGate_of_prescribable hgate),
        by simp [hgate, ht, SizingDecision.render]⟩
    · exact ⟨.hold, by simp [hgate, SizingDecision.render]⟩
  · rw [hs]
    exact ⟨.holdUncertain, rfl⟩

/-- The axis of a sizeable resource of positive size is the rendering of a decision. -/
lemma hostAxis_renders {stats : ResourceStats} {axis : HostAxis} {e : SizingAxis}
    (he : hostAxis stats (rollupHost stats) axis = some e) (hpos : 0 < e.current) :
    e.axis = axis.name ∧
      ∃ d : SizingDecision e.current (DownsizeGate ((assessResources stats).get axis.kind) stats),
        (e.recommended, e.action, e.estimateQuality) = d.render := by
  unfold hostAxis at he
  obtain ⟨current, hcurrent, rfl⟩ := Option.map_eq_some_iff.mp he
  refine ⟨rfl, axisSize_renders ?_⟩
  cases axis with
  | cpu => exact assessCpu_sound hcurrent
  | memory => exact assessMemory_sound hpos hcurrent

/-- The axis of a mount of positive size is the rendering of a decision that is never to
shrink. -/
lemma mountAxis_renders {raw : ReportRowRaw} {m : MountCapacityRaw} {e : SizingAxis}
    (he : mountAxis raw m = some e) (hpos : 0 < e.current) :
    e.axis = .disk ∧ ∃ d : SizingDecision e.current False,
      (e.recommended, e.action, e.estimateQuality) = d.render := by
  unfold mountAxis at he
  obtain ⟨s, hs, rfl⟩ := Option.map_eq_some_iff.mp he
  refine ⟨rfl, ?_⟩
  rcases assessMountCapacity_sound hs hpos with ⟨hact, hlt, hq | hq⟩ | ⟨hact, heq, hq⟩
  · exact ⟨.growExact s.recommendedGib hlt, by simp [hact, hq, SizingDecision.render]⟩
  · exact ⟨.growFloor s.recommendedGib hlt, by simp [hact, hq, SizingDecision.render]⟩
  · exact ⟨.hold, by simp [hact, hq, heq, SizingDecision.render]⟩

/-! ## The contract of the API -/

/-- Every axis with a present value of at least one keeps the decision contract: a value is
always recommended and agrees with the action, a smaller value is prescribed only behind the
gate and never for a disk, and only five pairs of action and quality occur. -/
theorem sizing_contract (raw : ReportRowRaw) (diskBaseline : Option ℤ)
    (mounts : List MountCapacityRaw) (e : SizingAxis)
    (he : e ∈ sizing raw (buildResourceStats raw diskBaseline)
      (rollupHost (buildResourceStats raw diskBaseline)) mounts)
    (hcurrent : 1 ≤ e.current) :
    let stats := buildResourceStats raw diskBaseline
    let ra := (rollupHost stats).resources.get e.axis.kind
    (∃ n, e.recommended = some n ∧ (e.action = .increase → e.current < n) ∧
        (e.action = .keep → n = e.current) ∧ (e.action = .decrease → 0 < n ∧ n < e.current)) ∧
      (e.action = .decrease →
        ra.confidence.lowPrecision = false ∧ ra.confidence.coverageGap = false ∧
          ra.confidence.biased = false ∧ ra.confidence.nonstationary = false ∧
          ∃ s, stats.sampleSufficiency = some s ∧ 7 / 10 ≤ s) ∧
      (e.axis = .disk → e.action ≠ .decrease) ∧
      (e.action, e.estimateQuality) ∈ [(.increase, .exact), (.increase, .floor),
        (.decrease, .exact), (.keep, .exact), (.keep, .uncertain)] := by
  intro stats ra
  rw [sizing, List.mem_append, List.mem_filterMap, List.mem_filterMap] at he
  rcases he with ⟨axis, -, he⟩ | ⟨m, -, he⟩
  · obtain ⟨hname, d, hd⟩ := hostAxis_renders he (by omega)
    have hcontract := d.render_contract
    rw [← hd] at hcontract
    refine ⟨hcontract.value, fun hdec => ?_, fun hdisk => ?_, hcontract.pair⟩
    · obtain ⟨h₁, h₂, h₃, h₄, h₅⟩ := hcontract.allowed hdec
      have hra : ra = (assessResources stats).get axis.kind := by
        change (assessResources stats).get e.axis.kind = _
        rw [hname]
        rfl
      rw [hra]
      exact ⟨h₁, h₂, h₃, h₄, h₅⟩
    · rw [hname] at hdisk
      cases axis <;> simp [HostAxis.name] at hdisk
  · obtain ⟨-, d, hd⟩ := mountAxis_renders he (by omega)
    have hcontract := d.render_contract
    rw [← hd] at hcontract
    exact ⟨hcontract.value, fun hdec => (hcontract.allowed hdec).elim, fun _ => hcontract.allowed,
      hcontract.pair⟩

/-- A well-observed quiet server whose four cores can shrink to one. -/
def quietRow : ReportRowRaw :=
  { publicId := "s1", hostname := "db-1", osFamily := some "linux", cpuP95Pct := some 10,
    cpuPeakPct := some 20, memP95Pct := some 50, cpuCores := some 4,
    memTotalBytes := some (8 * 1024 ^ 3), procsRunningP95 := some 1, historyHours := some 336,
    cpuSufficiency := some 1, memSufficiency := some 1 }

theorem sizing_contract_quietRow :
    let stats := buildResourceStats quietRow none
    let e : SizingAxis :=
      { axis := .cpu, current := 4, recommended := some 1, unit := "vcpus", action := .decrease,
        estimateQuality := .exact }
    e ∈ sizing quietRow stats (rollupHost stats) [] ∧
      ((rollupHost stats).resources.get .cpu).confidence.lowPrecision = false :=
  have he : _ ∈ sizing quietRow (buildResourceStats quietRow none)
      (rollupHost (buildResourceStats quietRow none)) [] := by decide +kernel
  ⟨he, ((sizing_contract quietRow none [] _ he (by decide)).2.1 rfl).1⟩

end AssessmentEngine
