import AssessmentEngine.Mappers.Sizing

/-!
# Right-sizing API

The right-sizing API publishes, for every server, one recommendation with a list of
actions.  It goes through the class of the host and its class-specific action lists,
whereas the assessment API goes axis by axis through `sizing`.  `apis_prescribe_same`
states that for CPU and memory the two prescribe the same changes.
-/

namespace AssessmentEngine

/-- What an action does with a resource. -/
inductive ActionOp where
  | increase | decrease | tierUp
  deriving DecidableEq, Repr

/-- One action.  At most one of the three targets is present, chosen by the resource. -/
structure RsAction where
  resource : ResourceKind
  op : ActionOp
  targetDisplay : Option String
  targetCores : Option ℤ := none
  targetMb : Option ℤ := none
  targetGb : Option ℤ := none
  deriving DecidableEq, Repr

inductive RsKind where
  | provision | downsize | decommission | insufficient | maintain
  deriving DecidableEq, Repr

/-- The recommendation for one server. -/
structure RsRecommendation where
  summary : String
  kind : RsKind
  actions : List RsAction
  suppressed : List RsAction := []
  deriving DecidableEq, Repr

/-- One action on a resource with the verdict `ra`. -/
def action (kind : ResourceKind) (ra : ResourceAssessment) (op : ActionOp) : RsAction :=
  let text := resourcePrescription kind ra
  let base : RsAction :=
    { resource := kind, op := op, targetDisplay := if text = "" then none else some text }
  match ra.sizingTarget with
  | none => base
  | some target =>
    match kind with
    | .cpu => { base with targetCores := some target }
    | .memory => { base with targetMb := some target }
    | .diskCapacity => { base with targetGb := some target }
    | _ => base

/-- The hint for a faster disk, given whatever the class of the host. -/
def ioAdvisory (host : HostAssessment) : List RsAction :=
  if host.resources.diskIo.status = .ioBound then [action .diskIo host.resources.diskIo .tierUp]
  else []

/-- The actions on a host with a surplus: only those that pass the gate. -/
def downsizeActions (host : HostAssessment) (stats : ResourceStats) : List RsAction :=
  (([ResourceKind.cpu, .memory].filter fun k =>
      (host.resources.get k).status = .over && downsizePrescribable (host.resources.get k) stats &&
        (host.resources.get k).sizingTarget.isSome).map fun k =>
    action k (host.resources.get k) .decrease)

/-- The recommendation for a host of class `rec`. -/
def recommendation (host : HostAssessment) (stats : ResourceStats) (rec : Recommendation) :
    RsRecommendation :=
  match rec with
  | .underProvisioned =>
    { summary := underPrescription host
      kind := .provision
      actions := ((prescribedUnderKinds host).map fun k =>
        action k (host.resources.get k) .increase) ++ ioAdvisory host }
  | .overProvisioned =>
    { summary := recommendAction rec stats
      kind := .downsize
      actions := downsizeActions host stats ++ ioAdvisory host }
  | .idle =>
    { summary := recommendAction rec stats, kind := .decommission, actions := ioAdvisory host }
  | .insufficientData =>
    { summary := recommendAction rec stats, kind := .insufficient, actions := ioAdvisory host }
  | .optimal =>
    { summary := recommendAction rec stats, kind := .maintain, actions := ioAdvisory host }

/-- The part of a right-sizing entry that decides what is to be done. -/
structure RightSizingEntry where
  hostname : String
  publicId : String
  osFamily : Option String
  classification : Recommendation
  rootCause : Option String
  recommendation : RsRecommendation
  deriving DecidableEq, Repr

def buildRightSizingEntry (raw : ReportRowRaw) : RightSizingEntry :=
  let stats := buildResourceStats raw none
  let host := rollupHost stats
  let rec' := hostStatusToRecommendation host.hostStatus
  let cause := rootCauseDisplay host
  { hostname := raw.hostname
    publicId := raw.publicId
    osFamily := raw.osFamily
    classification := rec'
    rootCause := if cause = "" then none else some cause
    recommendation := recommendation host stats rec' }

/-! ## What the actions are -/

/-- The target of an action in the unit of a sizeable resource. -/
def HostAxis.target (axis : HostAxis) (a : RsAction) : Option ℤ :=
  match axis with
  | .cpu => a.targetCores
  | .memory => a.targetMb

@[simp]
lemma action_resource (kind : ResourceKind) (ra : ResourceAssessment) (op : ActionOp) :
    (action kind ra op).resource = kind := by
  unfold action
  cases ra.sizingTarget <;> cases kind <;> rfl

@[simp]
lemma action_op (kind : ResourceKind) (ra : ResourceAssessment) (op : ActionOp) :
    (action kind ra op).op = op := by
  unfold action
  cases ra.sizingTarget <;> cases kind <;> rfl

/-- An action on a sizeable resource publishes the exact target of the verdict. -/
@[simp]
lemma target_action (axis : HostAxis) (ra : ResourceAssessment) (op : ActionOp) :
    axis.target (action axis.kind ra op) = ra.sizingTarget := by
  unfold action
  cases axis <;> cases ra.sizingTarget <;> rfl

lemma op_of_mem_ioAdvisory {host : HostAssessment} {a : RsAction} (ha : a ∈ ioAdvisory host) :
    a.op = .tierUp := by
  unfold ioAdvisory at ha
  split_ifs at ha
  · rw [List.mem_singleton] at ha
    rw [ha, action_op]
  · exact absurd ha List.not_mem_nil

lemma mem_downsizeActions_iff {host : HostAssessment} {stats : ResourceStats} {a : RsAction} :
    a ∈ downsizeActions host stats ↔
      ∃ axis : HostAxis, downsizePrescribable (host.resources.get axis.kind) stats = true ∧
        (host.resources.get axis.kind).sizingTarget.isSome = true ∧
        a = action axis.kind (host.resources.get axis.kind) .decrease := by
  have hover {ra : ResourceAssessment} (h : downsizePrescribable ra stats = true) :
      ra.status = .over := by
    simp only [downsizePrescribable, Bool.and_eq_true, decide_eq_true_eq] at h
    exact h.1.1.1
  unfold downsizeActions
  rw [List.mem_map]
  simp only [List.mem_filter, Bool.and_eq_true, decide_eq_true_eq]
  constructor
  · rintro ⟨k, ⟨hk, ⟨-, hgate⟩, htarget⟩, rfl⟩
    simp only [List.mem_cons, List.not_mem_nil, or_false] at hk
    rcases hk with rfl | rfl
    · exact ⟨.cpu, hgate, htarget, rfl⟩
    · exact ⟨.memory, hgate, htarget, rfl⟩
  · rintro ⟨axis, hgate, htarget, rfl⟩
    refine ⟨axis.kind, ⟨?_, ⟨hover hgate, hgate⟩, htarget⟩, rfl⟩
    cases axis <;> simp [HostAxis.kind, HostAxis.name, AxisName.kind]

/-- An increase is listed exactly for a prescribed resource of a short host. -/
lemma mem_actions_increase_iff {host : HostAssessment} {stats : ResourceStats}
    {rec : Recommendation} {a : RsAction} :
    (a ∈ (recommendation host stats rec).actions ∧ a.op = .increase) ↔
      rec = .underProvisioned ∧ ∃ k ∈ prescribedUnderKinds host,
        a = action k (host.resources.get k) .increase := by
  have hio (h : a ∈ ioAdvisory host) : a.op ≠ .increase := by
    rw [op_of_mem_ioAdvisory h]
    simp
  constructor
  · rintro ⟨ha, hop⟩
    cases rec with
    | underProvisioned =>
      refine ⟨rfl, ?_⟩
      rw [recommendation, List.mem_append, List.mem_map] at ha
      rcases ha with ⟨k, hk, rfl⟩ | ha
      · exact ⟨k, hk, rfl⟩
      · exact absurd hop (hio ha)
    | overProvisioned =>
      rw [recommendation, List.mem_append, mem_downsizeActions_iff] at ha
      rcases ha with ⟨axis, -, -, rfl⟩ | ha
      · simp at hop
      · exact absurd hop (hio ha)
    | idle => exact absurd hop (hio ha)
    | insufficientData => exact absurd hop (hio ha)
    | optimal => exact absurd hop (hio ha)
  · rintro ⟨rfl, k, hk, rfl⟩
    refine ⟨?_, action_op _ _ _⟩
    rw [recommendation, List.mem_append, List.mem_map]
    exact Or.inl ⟨k, hk, rfl⟩

/-- A decrease is listed exactly for a host with a surplus, on a resource that passes the
gate. -/
lemma mem_actions_decrease_iff {host : HostAssessment} {stats : ResourceStats}
    {rec : Recommendation} {a : RsAction} :
    (a ∈ (recommendation host stats rec).actions ∧ a.op = .decrease) ↔
      rec = .overProvisioned ∧ ∃ axis : HostAxis,
        downsizePrescribable (host.resources.get axis.kind) stats = true ∧
        (host.resources.get axis.kind).sizingTarget.isSome = true ∧
        a = action axis.kind (host.resources.get axis.kind) .decrease := by
  have hio (h : a ∈ ioAdvisory host) : a.op ≠ .decrease := by
    rw [op_of_mem_ioAdvisory h]
    simp
  constructor
  · rintro ⟨ha, hop⟩
    cases rec with
    | underProvisioned =>
      rw [recommendation, List.mem_append, List.mem_map] at ha
      rcases ha with ⟨k, -, rfl⟩ | ha
      · simp at hop
      · exact absurd hop (hio ha)
    | overProvisioned =>
      refine ⟨rfl, ?_⟩
      rw [recommendation, List.mem_append, mem_downsizeActions_iff] at ha
      rcases ha with ha | ha
      · exact ha
      · exact absurd hop (hio ha)
    | idle => exact absurd hop (hio ha)
    | insufficientData => exact absurd hop (hio ha)
    | optimal => exact absurd hop (hio ha)
  · rintro ⟨rfl, h⟩
    have hmem : a ∈ downsizeActions host stats := mem_downsizeActions_iff.mpr h
    obtain ⟨axis, -, -, rfl⟩ := h
    refine ⟨?_, action_op _ _ _⟩
    rw [recommendation, List.mem_append]
    exact Or.inl hmem

/-! ## What the axes are -/

section AxisSize

variable {current : ℤ} {ra : ResourceAssessment} {stats : ResourceStats}

/-- An axis is to grow exactly when the resource is short. -/
lemma axisSize_increase_iff (hsound : SoundSizing current ra) :
    (axisSize current ra stats).2.1 = .increase ↔ ra.status = .under := by
  have hmem := hsound.status_mem
  simp only [List.mem_cons, List.not_mem_nil, or_false] at hmem
  unfold axisSize
  rcases hmem with hs | hs | hs | hs
  · rw [hs]
    rcases hsound.under_larger hs with ⟨t, ht, -⟩ | ⟨hnone, f, hf, -⟩
    · simp [ht]
    · simp [hnone, hf]
  · simp [hs]
  · rw [hs]
    simp only
    split_ifs <;> simp
  · simp [hs]

/-- The axis of a short resource is exact when the verdict has a target, and then recommends
it. -/
lemma axisSize_of_under (hsound : SoundSizing current ra) (hs : ra.status = .under) :
    (ra.sizingTarget.isSome = true ↔ (axisSize current ra stats).2.2 = .exact) ∧
      ∀ n, ra.sizingTarget = some n → (axisSize current ra stats).1 = some n := by
  unfold axisSize
  rw [hs]
  rcases hsound.under_larger hs with ⟨t, ht, -⟩ | ⟨hnone, f, hf, -⟩
  · simp [ht]
  · simp [hnone, hf]

/-- An axis is to shrink exactly when the gate is open and the verdict has a target, and then
recommends it. -/
lemma axisSize_decrease_iff (hsound : SoundSizing current ra) :
    ((axisSize current ra stats).2.1 = .decrease ↔
        downsizePrescribable ra stats = true ∧ ra.sizingTarget.isSome = true) ∧
      (downsizePrescribable ra stats = true → (axisSize current ra stats).1 = ra.sizingTarget) := by
  have hmem := hsound.status_mem
  simp only [List.mem_cons, List.not_mem_nil, or_false] at hmem
  have hclosed (hs : ra.status ≠ .over) : downsizePrescribable ra stats = false := by
    simp [downsizePrescribable, hs]
  unfold axisSize
  rcases hmem with hs | hs | hs | hs
  · rw [hclosed (by simp [hs]), hs]
    simp only
    split_ifs <;> simp
  · simp [hs, hclosed]
  · rw [hs]
    obtain ⟨t, ht, -⟩ := hsound.over_smaller hs
    cases hgate : downsizePrescribable ra stats <;> simp [ht]
  · simp [hs, hclosed]

end AxisSize

/-! ## The two APIs -/

/-- The assessment entry has one axis for a sizeable resource of known quantity. -/
lemma mem_sizing_iff {raw : ReportRowRaw} {stats : ResourceStats} {host : HostAssessment}
    {mounts : List MountCapacityRaw} {axis : HostAxis} {e : SizingAxis} :
    (e ∈ sizing raw stats host mounts ∧ e.axis = axis.name) ↔
      hostAxis stats host axis = some e := by
  have hname {axis' : HostAxis} {e : SizingAxis} (h : hostAxis stats host axis' = some e) :
      e.axis = axis'.name := by
    obtain ⟨current, -, rfl⟩ := Option.map_eq_some_iff.mp h
    rfl
  rw [sizing, List.mem_append, List.mem_filterMap, List.mem_filterMap]
  constructor
  · rintro ⟨⟨axis', -, he⟩ | ⟨m, -, he⟩, hax⟩
    · rw [hname he] at hax
      cases axis <;> cases axis' <;> simp [HostAxis.name] at hax <;> exact he
    · -- a mount never publishes a CPU or memory axis
      obtain ⟨s, -, rfl⟩ := Option.map_eq_some_iff.mp he
      cases axis <;> simp [HostAxis.name] at hax
  · intro he
    refine ⟨Or.inl ⟨axis, ?_, he⟩, hname he⟩
    cases axis <;> simp

lemma HostAxis.kind_injective {axis axis' : HostAxis} (h : axis.kind = axis'.kind) :
    axis = axis' := by
  cases axis <;> cases axis' <;> simp [HostAxis.kind, HostAxis.name, AxisName.kind] at h <;> rfl

/-- The right-sizing entry lists an increase of a sizeable resource exactly when that resource
is short. -/
lemma mem_entry_increase_iff {raw : ReportRowRaw} {axis : HostAxis} {a : RsAction} :
    (a ∈ (buildRightSizingEntry raw).recommendation.actions ∧ a.resource = axis.kind ∧
        a.op = .increase) ↔
      ((rollupHost (buildResourceStats raw none)).resources.get axis.kind).status = .under ∧
        a = action axis.kind ((rollupHost (buildResourceStats raw none)).resources.get axis.kind)
          .increase := by
  have hrootable : axis.kind ∈ prescribedUnderKinds (rollupHost (buildResourceStats raw none)) ↔
      ((rollupHost (buildResourceStats raw none)).resources.get axis.kind).status = .under := by
    rw [mem_prescribedUnderKinds_iff, rollupHost_resources, rootableUnder_get_iff]
    cases axis <;>
      simp [HostAxis.kind, HostAxis.name, AxisName.kind, Resources.get, assessResources]
  constructor
  · rintro ⟨ha, hres, hop⟩
    obtain ⟨-, k, hk, rfl⟩ := mem_actions_increase_iff.mp ⟨ha, hop⟩
    rw [action_resource] at hres
    subst hres
    exact ⟨hrootable.mp hk, rfl⟩
  · rintro ⟨hs, rfl⟩
    have hshort : HostShort (buildResourceStats raw none) := by
      cases axis with
      | cpu => exact Or.inl hs
      | memory => exact Or.inr (Or.inl hs)
    have hclass := (classifyHost_underProvisioned_iff _).mpr hshort
    obtain ⟨hmem, hop⟩ := mem_actions_increase_iff.mpr ⟨hclass, axis.kind, hrootable.mpr hs, rfl⟩
    exact ⟨hmem, action_resource _ _ _, hop⟩

/-- The right-sizing entry lists a decrease of a sizeable resource exactly when the host has a
surplus and the resource passes the gate. -/
lemma mem_entry_decrease_iff {raw : ReportRowRaw} {axis : HostAxis} {a : RsAction} :
    (a ∈ (buildRightSizingEntry raw).recommendation.actions ∧ a.resource = axis.kind ∧
        a.op = .decrease) ↔
      (buildRightSizingEntry raw).classification = .overProvisioned ∧
        (downsizePrescribable ((rollupHost (buildResourceStats raw none)).resources.get axis.kind)
            (buildResourceStats raw none) = true ∧
          ((rollupHost (buildResourceStats raw none)).resources.get
            axis.kind).sizingTarget.isSome = true) ∧
        a = action axis.kind ((rollupHost (buildResourceStats raw none)).resources.get axis.kind)
          .decrease := by
  constructor
  · rintro ⟨ha, hres, hop⟩
    obtain ⟨hclass, axis', hgate, htarget, rfl⟩ := mem_actions_decrease_iff.mp ⟨ha, hop⟩
    rw [action_resource] at hres
    obtain rfl := HostAxis.kind_injective hres
    exact ⟨hclass, ⟨hgate, htarget⟩, rfl⟩
  · rintro ⟨hclass, ⟨hgate, htarget⟩, rfl⟩
    obtain ⟨hmem, hop⟩ := mem_actions_decrease_iff.mpr ⟨hclass, axis, hgate, htarget, rfl⟩
    exact ⟨hmem, action_resource _ _ _, hop⟩

/-- For CPU and memory of known quantity the two APIs prescribe the same: one lists an
increase exactly when the other has a growing axis, with a target exactly when that axis is
exact, and the same target; on a host with a surplus one lists a decrease exactly when the
other has a shrinking axis; and whenever one lists a decrease the other has a shrinking axis
with the same target. -/
theorem apis_prescribe_same (raw : ReportRowRaw) (mounts : List MountCapacityRaw)
    (axis : HostAxis) (current : ℤ)
    (hcurrent : axis.current (buildResourceStats raw none) = some current) (hpos : 1 ≤ current) :
    let entry := buildRightSizingEntry raw
    let actions := entry.recommendation.actions
    let axes := (buildAssessmentEntry raw mounts).sizing
    ∃ e ∈ axes, e.axis = axis.name ∧ e.current = current ∧
      (∀ e' ∈ axes, e'.axis = axis.name → e' = e) ∧
      ((∃ a ∈ actions, a.resource = axis.kind ∧ a.op = .increase) ↔ e.action = .increase) ∧
      (∀ a ∈ actions, a.resource = axis.kind → a.op = .increase →
        ((axis.target a).isSome = true ↔ e.estimateQuality = .exact) ∧
          ∀ n, axis.target a = some n → e.recommended = some n) ∧
      (entry.classification = .overProvisioned →
        ((∃ a ∈ actions, a.resource = axis.kind ∧ a.op = .decrease) ↔ e.action = .decrease)) ∧
      ∀ a ∈ actions, a.resource = axis.kind → a.op = .decrease →
        e.action = .decrease ∧ axis.target a = e.recommended := by
  intro entry actions axes
  set stats := buildResourceStats raw none with hstats
  set host := rollupHost stats with hhost
  set ra := host.resources.get axis.kind with hra
  have hsound : SoundSizing current ra := by
    cases axis with
    | cpu => exact assessCpu_sound hcurrent
    | memory => exact assessMemory_sound hpos hcurrent
  let e : SizingAxis :=
    { axis := axis.name, current := current, recommended := (axisSize current ra stats).1,
      unit := axis.unit, action := (axisSize current ra stats).2.1,
      estimateQuality := (axisSize current ra stats).2.2 }
  have he : hostAxis stats host axis = some e := by
    rw [hostAxis, hcurrent]
    rfl
  have hentry : e ∈ sizing raw stats host mounts ∧ e.axis = axis.name := mem_sizing_iff.mpr he
  obtain ⟨hmem, hname⟩ := hentry
  refine ⟨e, hmem, hname, rfl, ?_, ?_, ?_, ?_, ?_⟩
  · intro e' he' hname'
    have he'' := mem_sizing_iff.mp ⟨he', hname'⟩
    exact Option.some.inj (he''.symm.trans he)
  · rw [axisSize_increase_iff hsound]
    constructor
    · rintro ⟨a, ha⟩
      exact (mem_entry_increase_iff.mp ha).1
    · intro hs
      exact ⟨_, mem_entry_increase_iff.mpr ⟨hs, rfl⟩⟩
  · intro a ha hres hop
    obtain ⟨hs, rfl⟩ := mem_entry_increase_iff.mp ⟨ha, hres, hop⟩
    rw [target_action]
    exact axisSize_of_under hsound hs
  · intro hclass
    rw [(axisSize_decrease_iff hsound).1]
    constructor
    · rintro ⟨a, ha⟩
      exact (mem_entry_decrease_iff.mp ha).2.1
    · intro hgate
      exact ⟨_, mem_entry_decrease_iff.mpr ⟨hclass, hgate, rfl⟩⟩
  · intro a ha hres hop
    obtain ⟨-, hgate, rfl⟩ := mem_entry_decrease_iff.mp ⟨ha, hres, hop⟩
    rw [target_action]
    obtain ⟨haction, htarget⟩ := axisSize_decrease_iff hsound
    exact ⟨haction.mpr hgate, (htarget hgate.1).symm⟩

/-- On the quiet server both APIs take the CPU down to one core. -/
theorem apis_prescribe_same_quietRow :
    ∃ e ∈ (buildAssessmentEntry quietRow []).sizing, e.axis = .cpu ∧ e.action = .decrease ∧
      e.recommended = some 1 := by
  obtain ⟨e, he, hname, -, -, -, -, -, hdecrease⟩ :=
    apis_prescribe_same quietRow [] .cpu 4 (by decide +kernel) (by decide)
  obtain ⟨hact, htarget⟩ := hdecrease
    { resource := .cpu, op := .decrease, targetDisplay := some "CPU: 1코어", targetCores := some 1 }
    (by decide +kernel) rfl rfl
  exact ⟨e, he, hname, hact, htarget.symm⟩

end AssessmentEngine
