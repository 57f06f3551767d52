import AssessmentEngine.Recommendation.Rollup

/-!
# Prescriptions and their wording

What a verdict on a host is turned into: the list of resources to extend, the sentence
that says what to do, the label that says why, and the gate that a smaller size has to
pass.  `rollupHost_in_step` states that for one host these all agree on whether it is
short.
-/

namespace AssessmentEngine

/-! ### Labels -/

def rsResourceKindLabelKo : ResourceKind → String
  | .cpu => "CPU"
  | .memory => "메모리"
  | .diskCapacity => "디스크 용량"
  | .diskIo => "디스크 I/O"
  | .network => "네트워크"

/-- What to do about a short resource when no size is known. -/
def underActionBase : ResourceKind → String
  | .cpu => "CPU 증설"
  | .memory => "메모리 증설"
  | .diskCapacity => "스토리지 확장"
  | .diskIo => "디스크 티어 상향"
  | .network => "네트워크 점검"

/-- The resources whose size is a number of cores or megabytes. -/
def sizeableLabel : ResourceKind → Option String
  | .cpu => some "CPU"
  | .memory => some "메모리"
  | _ => none

def recommendationActionKo : Recommendation → String
  | .underProvisioned => "증설 검토"
  | .overProvisioned => "축소 검토"
  | .idle => "종료·통합 검토"
  | .optimal => "적정 — 유지"
  | .insufficientData => "표본 부족 — 관측 지속"

/-- What to do about a host that is not short. -/
def recommendAction (rec : Recommendation) (stats : ResourceStats) : String :=
  if rec = .idle then if isIdleStrong stats then "즉시 종료 검토" else "통합·재배치 검토"
  else recommendationActionKo rec

/-- A size with its unit; megabytes from 1024 on are shown in gigabytes. -/
def fmtSizingTarget (kind : ResourceKind) (target : ℤ) : String :=
  if kind = .cpu then s!"{target}코어"
  else if 1024 ≤ target then
    (FixedPoint.formatFixed 1 ((target : ℚ) / 1024) ++ "GB").replace ".0GB" "GB"
  else s!"{target}MB"

/-- What to do about one resource. -/
def resourcePrescription (kind : ResourceKind) (ra : ResourceAssessment) : String :=
  match kind, sizeableLabel kind, ra.sizingTarget with
  | .diskCapacity, _, some target => "스토리지: " ++ FixedPoint.formatFixed 0 target ++ "GB"
  | kind, some label, some target => label ++ ": " ++ fmtSizingTarget kind target
  | kind, _, _ => underActionBase kind

/-! ### What to extend, and why -/

/-- The order in which short resources are listed. -/
def underOrder : List ResourceKind := [.memory, .cpu, .diskIo, .diskCapacity, .network]

def underKinds (host : HostAssessment) : List ResourceKind :=
  underOrder.filter fun k => rootableUnder (host.resources.get k).status

/-- The resources to extend: all that are short, symptoms of the root included. -/
def prescribedUnderKinds (host : HostAssessment) : List ResourceKind := underKinds host

/-- What to do about a short host. -/
def underPrescription (host : HostAssessment) : String :=
  " | ".intercalate
    ((prescribedUnderKinds host).map fun k => resourcePrescription k (host.resources.get k))

/-- Why a host is short. -/
def rootCauseDisplay (host : HostAssessment) : String :=
  match underKinds host with
  | [] => ""
  | first :: rest =>
    match host.symptomOfRoot, host.rootCause with
    | symptom :: symptoms, some root =>
      let sym := "·".intercalate ((symptom :: symptoms).map rsResourceKindLabelKo)
      rsResourceKindLabelKo root ++ " (" ++ sym ++ " 유발)"
    | _, _ => "·".intercalate ((first :: rest).map rsResourceKindLabelKo)

/-- A smaller size may be prescribed: the surplus is certain, the load is not rising and
enough of the window was observed. -/
def downsizePrescribable (assessment : ResourceAssessment) (stats : ResourceStats) : Bool :=
  assessment.status = .over && assessment.confidence.high &&
    !assessment.confidence.nonstationary &&
    stats.sampleSufficiency.any (rsDownsizeMinSufficiency ≤ ·)

/-! ### The texts are not empty -/

/-- Joining strings of which the first is not empty gives a string that is not empty. -/
lemma intercalate_ne_empty {sep a : String} {l : List String} (ha : a ≠ "") :
    sep.intercalate (a :: l) ≠ "" := by
  cases l with
  | nil => rwa [String.intercalate_singleton]
  | cons b l =>
    rw [String.intercalate_cons_cons]
    simp [ha]

lemma rsResourceKindLabelKo_ne_empty (k : ResourceKind) : rsResourceKindLabelKo k ≠ "" := by
  cases k <;> simp [rsResourceKindLabelKo]

lemma resourcePrescription_ne_empty (k : ResourceKind) (ra : ResourceAssessment) :
    resourcePrescription k ra ≠ "" := by
  cases k <;> cases h : ra.sizingTarget <;>
    simp [resourcePrescription, sizeableLabel, underActionBase, h]

/-- A host has a prescription text exactly when there is a resource to extend. -/
lemma underPrescription_ne_empty_iff (host : HostAssessment) :
    underPrescription host ≠ "" ↔ prescribedUnderKinds host ≠ [] := by
  unfold underPrescription
  cases prescribedUnderKinds host with
  | nil => simp
  | cons k ks =>
    refine iff_of_true ?_ (List.cons_ne_nil k ks)
    exact intercalate_ne_empty (resourcePrescription_ne_empty k _)

/-- A host has a cause text exactly when there is a resource to extend. -/
lemma rootCauseDisplay_ne_empty_iff (host : HostAssessment) :
    rootCauseDisplay host ≠ "" ↔ prescribedUnderKinds host ≠ [] := by
  unfold rootCauseDisplay prescribedUnderKinds
  cases underKinds host with
  | nil => simp
  | cons first rest =>
    refine iff_of_true ?_ (List.cons_ne_nil first rest)
    simp only
    split
    · simp [rsResourceKindLabelKo_ne_empty]
    · exact intercalate_ne_empty (rsResourceKindLabelKo_ne_empty first)

/-! ### The verdict on a host in step with its prescription -/

/-- The order of listing loses no resource. -/
lemma mem_prescribedUnderKinds_iff {host : HostAssessment} {k : ResourceKind} :
    k ∈ prescribedUnderKinds host ↔ rootableUnder (host.resources.get k).status = true := by
  unfold prescribedUnderKinds underKinds underOrder
  rw [List.mem_filter]
  refine and_iff_right ?_
  cases k <;> simp

/-- There is a resource to extend exactly when the host is short. -/
lemma prescribedUnderKinds_ne_nil_iff (stats : ResourceStats) :
    prescribedUnderKinds (rollupHost stats) ≠ [] ↔ HostShort stats := by
  have hmem {k : ResourceKind} : k ∈ prescribedUnderKinds (rollupHost stats) ↔
      k ∈ shortKinds (assessResources stats) := by
    rw [mem_prescribedUnderKinds_iff, mem_shortKinds_iff, rollupHost_resources]
  rw [← shortKinds_ne_nil_iff]
  constructor
  · intro hne
    obtain ⟨k, hk⟩ := List.exists_mem_of_ne_nil _ hne
    exact List.ne_nil_of_mem (hmem.mp hk)
  · intro hne
    obtain ⟨k, hk⟩ := List.exists_mem_of_ne_nil _ hne
    exact List.ne_nil_of_mem (hmem.mpr hk)

/-- Classification, root cause and prescription of a host agree on whether it is short, every
short resource is prescribed with a reason, and the symptoms of the root are genuine. -/
theorem rollupHost_in_step (stats : ResourceStats) :
    let host := rollupHost stats
    let short := host.resources.cpu.status = .under ∨ host.resources.memory.status = .under ∨
      host.resources.diskCapacity.status = .filling
    (host.hostStatus = .under ↔ short) ∧
      (classifyHost stats = .underProvisioned ↔ short) ∧
      (host.rootCause ≠ none ↔ short) ∧
      (prescribedUnderKinds host ≠ [] ↔ short) ∧
      (rootCauseDisplay host ≠ "" ↔ short) ∧
      (underPrescription host ≠ "" ↔ short) ∧
      (∀ k, (host.resources.get k).status = .under ∨ (host.resources.get k).status = .filling →
        k ∈ prescribedUnderKinds host ∧ (host.resources.get k).triggers ≠ []) ∧
      (∀ k, host.rootCause = some k → k ∉ host.symptomOfRoot) ∧
      ∀ k ∈ host.symptomOfRoot,
        (host.resources.get k).status = .under ∨ (host.resources.get k).status = .ioBound := by
  intro host short
  refine ⟨rollupHost_hostStatus_under_iff stats, classifyHost_underProvisioned_iff stats, ?_,
    prescribedUnderKinds_ne_nil_iff stats, ?_, ?_, ?_, ?_, ?_⟩
  · rw [← Option.isSome_iff_ne_none]
    exact rollupHost_rootCause_isSome_iff stats
  · rw [rootCauseDisplay_ne_empty_iff]
    exact prescribedUnderKinds_ne_nil_iff stats
  · rw [underPrescription_ne_empty_iff]
    exact prescribedUnderKinds_ne_nil_iff stats
  · intro k hk
    have hrootable : rootableUnder (host.resources.get k).status = true := by
      simpa [rootableUnder] using hk
    exact ⟨mem_prescribedUnderKinds_iff.mpr hrootable,
      triggers_ne_nil_of_mem_shortKinds (mem_shortKinds_iff.mpr hrootable)⟩
  · intro k hroot hk
    exact (rollupHost_symptom hk).1 hroot
  · intro k hk
    exact (rollupHost_symptom hk).2

end AssessmentEngine
