import AssessmentEngine.Recommendation.Cpu
import AssessmentEngine.Recommendation.Memory
import AssessmentEngine.Recommendation.Disk
import AssessmentEngine.Recommendation.Advisory

/-!
# Host roll-up

`rollupHost` judges the five resources, looks for a causal root among those under
pressure (memory, then disk I/O, then CPU), and summarises the host in one status.  Only
CPU, memory and disk capacity can make a host short; a disk I/O bottleneck can be the
root of a shortage without being one.
-/

namespace AssessmentEngine

/-- The status of a host. -/
inductive HostStatus where
  | under | idle | over | optimal | insufficient
  deriving DecidableEq, Repr

/-- The class under which a host is shown. -/
inductive Recommendation where
  | idle | overProvisioned | underProvisioned | optimal | insufficientData
  deriving DecidableEq, Repr

/-- The verdicts on the resources of a host. -/
structure Resources where
  cpu : ResourceAssessment
  memory : ResourceAssessment
  diskCapacity : ResourceAssessment
  diskIo : ResourceAssessment
  network : ResourceAssessment
  deriving DecidableEq, Repr

def Resources.get (res : Resources) : ResourceKind → ResourceAssessment
  | .cpu => res.cpu
  | .memory => res.memory
  | .diskCapacity => res.diskCapacity
  | .diskIo => res.diskIo
  | .network => res.network

/-- The verdict on a host. -/
structure HostAssessment where
  resources : Resources
  rootCause : Option ResourceKind := none
  /-- Resources whose shortage is presumed to follow from the root; a label only. -/
  symptomOfRoot : List ResourceKind := []
  hostStatus : HostStatus := .optimal
  networkCongested : Bool := false
  sampleSufficiency : Option ℚ := none
  deriving DecidableEq, Repr

/-- The statuses that make a host short. -/
def rootableUnder (status : ResourceStatus) : Bool := status = .under || status = .filling

/-- The resources that make a host short, in the order in which they are judged. -/
def shortKinds (res : Resources) : List ResourceKind :=
  [.cpu, .memory, .diskCapacity, .diskIo, .network].filter fun k => rootableUnder (res.get k).status

/-- The host is unused: CPU, network and disk are all quiet. -/
def idleActivity (stats : ResourceStats) : Bool :=
  let netMbps := stats.netAvgKbytesPerS.map fun net => net * 8 / 1000
  let diskIoActive := stats.diskIopsBaseline.any (idleDiskIops < ·)
  stats.cpuP95Pct.any (· ≤ idleCpuP95Pct) && netMbps.any (· ≤ idleNetMbps) && !diskIoActive

def unmeasuredOrInsufficient (status : ResourceStatus) : Bool :=
  status = .unmeasured || status = .insufficient

/-- The summary status, in the order under, insufficient, idle, over, optimal. -/
def hostStatus (stats : ResourceStats) (res : Resources) (underKinds : List ResourceKind) :
    HostStatus :=
  if underKinds ≠ [] then .under
  else if unmeasuredOrInsufficient res.cpu.status && unmeasuredOrInsufficient res.memory.status then
    .insufficient
  else if idleActivity stats then .idle
  else if res.cpu.status = .over ∨ res.memory.status = .over then .over
  else .optimal

/-- The causal root of a host together with the symptoms it explains. -/
def causalRoot (stats : ResourceStats) (res : Resources) (underKinds : List ResourceKind) :
    Option ResourceKind × List ResourceKind :=
  let memPressure : Bool := res.memory.status = .under
  let diskIoPressure : Bool := res.diskIo.status = .ioBound
  let cpuPressure : Bool := res.cpu.status = .under
  let procsBlockedHigh := stats.procsBlockedP95.any (procsBlockedDstateSaturation ≤ ·)
  if memPressure && memPagingActive stats && (diskIoPressure || cpuPressure) then
    -- paging memory causes disk traffic and waiting processes
    (some .memory,
      [.diskIo, .cpu].filter fun k => k ∈ underKinds || (k = .diskIo && diskIoPressure))
  else if diskIoPressure && cpuPressure && procsBlockedHigh then
    -- processes blocked on the disk load the CPU
    (some .diskIo, if ResourceKind.cpu ∈ underKinds then [.cpu] else [])
  else
    -- no causal link: the most upstream short resource
    ([ResourceKind.memory, .diskIo, .cpu, .diskCapacity].find? (· ∈ underKinds), [])

def assessResources (stats : ResourceStats) : Resources :=
  { cpu := assessCpu stats
    memory := assessMemory stats
    diskCapacity := assessDiskCapacity stats
    diskIo := assessDiskIo stats
    network := assessNetwork stats }

/-- The verdict on a host from its statistics. -/
def rollupHost (stats : ResourceStats) : HostAssessment :=
  let res := assessResources stats
  let underKinds := shortKinds res
  let root := causalRoot stats res underKinds
  { resources := res
    rootCause := root.1
    symptomOfRoot := root.2
    hostStatus := hostStatus stats res underKinds
    networkCongested := res.network.status = .congested
    sampleSufficiency := stats.sampleSufficiency }

/-- The class of a host status. -/
def hostStatusToRecommendation : HostStatus → Recommendation
  | .under => .underProvisioned
  | .idle => .idle
  | .over => .overProvisioned
  | .optimal => .optimal
  | .insufficient => .insufficientData

/-- The class of a host. -/
def classifyHost (stats : ResourceStats) : Recommendation :=
  hostStatusToRecommendation (rollupHost stats).hostStatus

/-! ### Which resources make a host short -/

section Short

variable (stats : ResourceStats)

/-- Some sizeable resource of the host is short. -/
def HostShort : Prop :=
  (assessCpu stats).status = .under ∨ (assessMemory stats).status = .under ∨
    (assessDiskCapacity stats).status = .filling

lemma assessCpu_status_mem : (assessCpu stats).status ∈ [.under, .optimal, .over, .unmeasured] := by
  have h := assessCpu_verdict stats
  generalize assessCpu stats = a at h ⊢
  cases h <;> simp

lemma assessMemory_status_mem :
    (assessMemory stats).status ∈ [.under, .optimal, .over, .unmeasured] := by
  have h := assessMemory_verdict stats
  generalize assessMemory stats = a at h ⊢
  cases h <;> simp

lemma assessDiskCapacity_status_mem :
    (assessDiskCapacity stats).status ∈ [.filling, .capacityOk, .unmeasured] := by
  have h := assessDiskCapacity_verdict stats
  generalize assessDiskCapacity stats = a at h ⊢
  cases h <;> simp

/-- A resource makes the host short exactly when it is a CPU or memory that is under, or a
disk that is filling. -/
lemma rootableUnder_get_iff (k : ResourceKind) :
    rootableUnder ((assessResources stats).get k).status = true ↔
      (k = .cpu ∧ (assessCpu stats).status = .under) ∨
        (k = .memory ∧ (assessMemory stats).status = .under) ∨
          (k = .diskCapacity ∧ (assessDiskCapacity stats).status = .filling) := by
  have hcpu := assessCpu_status_mem stats
  have hmem := assessMemory_status_mem stats
  have hdisk := assessDiskCapacity_status_mem stats
  have hio := assessDiskIo_status_mem stats
  have hnet := assessNetwork_status_mem stats
  simp only [List.mem_cons, List.not_mem_nil, or_false] at hcpu hmem hdisk hio hnet
  cases k with
  | cpu =>
    rcases hcpu with h | h | h | h <;> simp [Resources.get, assessResources, rootableUnder, h]
  | memory =>
    rcases hmem with h | h | h | h <;> simp [Resources.get, assessResources, rootableUnder, h]
  | diskCapacity =>
    rcases hdisk with h | h | h <;> simp [Resources.get, assessResources, rootableUnder, h]
  | diskIo =>
    rcases hio with h | h | h <;> simp [Resources.get, assessResources, rootableUnder, h]
  | network =>
    rcases hnet with h | h | h <;> simp [Resources.get, assessResources, rootableUnder, h]

variable {stats}

lemma mem_shortKinds_iff {k : ResourceKind} :
    k ∈ shortKinds (assessResources stats) ↔
      rootableUnder ((assessResources stats).get k).status = true := by
  unfold shortKinds
  rw [List.mem_filter]
  refine and_iff_right ?_
  cases k <;> simp

/-- The host is short exactly when the list of its short resources is not empty. -/
lemma shortKinds_ne_nil_iff : shortKinds (assessResources stats) ≠ [] ↔ HostShort stats := by
  constructor
  · intro hne
    obtain ⟨k, hk⟩ := List.exists_mem_of_ne_nil _ hne
    rw [mem_shortKinds_iff, rootableUnder_get_iff] at hk
    rcases hk with ⟨-, h⟩ | ⟨-, h⟩ | ⟨-, h⟩
    · exact Or.inl h
    · exact Or.inr (Or.inl h)
    · exact Or.inr (Or.inr h)
  · intro hshort
    have hmem : ∃ k, k ∈ shortKinds (assessResources stats) := by
      simp only [mem_shortKinds_iff, rootableUnder_get_iff]
      rcases hshort with h | h | h
      · exact ⟨.cpu, by simp [h]⟩
      · exact ⟨.memory, by simp [h]⟩
      · exact ⟨.diskCapacity, by simp [h]⟩
    obtain ⟨k, hk⟩ := hmem
    exact List.ne_nil_of_mem hk

/-- A resource that makes the host short carries a trigger. -/
lemma triggers_ne_nil_of_mem_shortKinds {k : ResourceKind}
    (hk : k ∈ shortKinds (assessResources stats)) :
    ((assessResources stats).get k).triggers ≠ [] := by
  rw [mem_shortKinds_iff, rootableUnder_get_iff] at hk
  rcases hk with ⟨rfl, h⟩ | ⟨rfl, h⟩ | ⟨rfl, h⟩
  · exact assessCpu_triggers_ne_nil h
  · exact assessMemory_triggers_ne_nil h
  · exact assessDiskCapacity_triggers_ne_nil h

end Short

/-! ### The fields of the verdict -/

@[simp]
lemma rollupHost_resources (stats : ResourceStats) :
    (rollupHost stats).resources = assessResources stats := rfl

/-- A host has the status under exactly when one of its sizeable resources is short. -/
lemma rollupHost_hostStatus_under_iff (stats : ResourceStats) :
    (rollupHost stats).hostStatus = .under ↔ HostShort stats := by
  rw [← shortKinds_ne_nil_iff]
  change hostStatus stats (assessResources stats) (shortKinds (assessResources stats)) = .under ↔ _
  unfold hostStatus
  constructor
  · intro h
    by_contra hnil
    rw [if_neg (not_not.mpr hnil)] at h
    split_ifs at h
  · intro hne
    rw [if_pos hne]

/-- The causal root of a short memory or a short CPU with the symptoms it explains, or the
most upstream short resource without symptoms. -/
lemma causalRoot_cases (stats : ResourceStats) (res : Resources) (underKinds : List ResourceKind) :
    (res.memory.status = .under ∧ (causalRoot stats res underKinds).1 = some .memory ∧
      ∀ k ∈ (causalRoot stats res underKinds).2,
        k = .diskIo ∧ (k ∈ underKinds ∨ res.diskIo.status = .ioBound) ∨ k = .cpu ∧ k ∈ underKinds) ∨
    (res.cpu.status = .under ∧ (causalRoot stats res underKinds).1 = some .diskIo ∧
      ∀ k ∈ (causalRoot stats res underKinds).2, k = .cpu ∧ k ∈ underKinds) ∨
    causalRoot stats res underKinds =
      ([ResourceKind.memory, .diskIo, .cpu, .diskCapacity].find? (· ∈ underKinds), []) := by
  unfold causalRoot
  simp only
  by_cases hmemory : (decide (res.memory.status = .under) && memPagingActive stats &&
      (decide (res.diskIo.status = .ioBound) || decide (res.cpu.status = .under))) = true
  · rw [if_pos hmemory]
    rw [Bool.and_eq_true, Bool.and_eq_true, decide_eq_true_eq] at hmemory
    refine Or.inl ⟨hmemory.1.1, rfl, fun k hk => ?_⟩
    rw [List.mem_filter, List.mem_cons, List.mem_singleton] at hk
    rcases hk with ⟨rfl | rfl, hk⟩
    · exact Or.inl ⟨rfl, by simpa using hk⟩
    · exact Or.inr ⟨rfl, by simpa using hk⟩
  rw [if_neg hmemory]
  by_cases hdisk : (decide (res.diskIo.status = .ioBound) && decide (res.cpu.status = .under) &&
      stats.procsBlockedP95.any (procsBlockedDstateSaturation ≤ ·)) = true
  · rw [if_pos hdisk]
    rw [Bool.and_eq_true, Bool.and_eq_true, decide_eq_true_eq, decide_eq_true_eq] at hdisk
    refine Or.inr (Or.inl ⟨hdisk.1.2, rfl, fun k hk => ?_⟩)
    by_cases hcpu : ResourceKind.cpu ∈ underKinds
    · rw [if_pos hcpu, List.mem_singleton] at hk
      exact ⟨hk, hk ▸ hcpu⟩
    · rw [if_neg hcpu] at hk
      exact absurd hk List.not_mem_nil
  rw [if_neg hdisk]
  exact Or.inr (Or.inr rfl)

/-- A host has a root cause exactly when one of its sizeable resources is short. -/
lemma rollupHost_rootCause_isSome_iff (stats : ResourceStats) :
    (rollupHost stats).rootCause.isSome = true ↔ HostShort stats := by
  change
    (causalRoot stats (assessResources stats) (shortKinds (assessResources stats))).1.isSome = true
      ↔ _
  rcases causalRoot_cases stats (assessResources stats) (shortKinds (assessResources stats)) with
    ⟨hmem, hroot, -⟩ | ⟨hcpu, hroot, -⟩ | hroot
  · rw [hroot]
    exact iff_of_true rfl (Or.inr (Or.inl hmem))
  · rw [hroot]
    exact iff_of_true rfl (Or.inl hcpu)
  · -- the fallback finds a kind because its order lists every kind that can be short
    rw [hroot, List.find?_isSome, ← shortKinds_ne_nil_iff]
    constructor
    · rintro ⟨k, -, hk⟩
      exact List.ne_nil_of_mem (of_decide_eq_true hk)
    · intro hne
      obtain ⟨k, hk⟩ := List.exists_mem_of_ne_nil _ hne
      refine ⟨k, ?_, decide_eq_true hk⟩
      rw [mem_shortKinds_iff, rootableUnder_get_iff] at hk
      rcases hk with ⟨rfl, -⟩ | ⟨rfl, -⟩ | ⟨rfl, -⟩ <;> simp

/-- Every symptom is itself under or an I/O bottleneck, and none is the root. -/
lemma rollupHost_symptom {stats : ResourceStats} {k : ResourceKind}
    (hk : k ∈ (rollupHost stats).symptomOfRoot) :
    (rollupHost stats).rootCause ≠ some k ∧
      (((assessResources stats).get k).status = .under ∨
        ((assessResources stats).get k).status = .ioBound) := by
  change k ∈ (causalRoot stats (assessResources stats) (shortKinds (assessResources stats))).2 at hk
  change
    (causalRoot stats (assessResources stats) (shortKinds (assessResources stats))).1 ≠ some k ∧ _
  have hcpu : ResourceKind.cpu ∈ shortKinds (assessResources stats) →
      ((assessResources stats).get .cpu).status = .under := by
    intro h
    rw [mem_shortKinds_iff, rootableUnder_get_iff] at h
    have hunder : (assessCpu stats).status = .under := by simpa using h
    exact hunder
  have hio : ResourceKind.diskIo ∉ shortKinds (assessResources stats) := by
    intro h
    rw [mem_shortKinds_iff, rootableUnder_get_iff] at h
    simp at h
  rcases causalRoot_cases stats (assessResources stats) (shortKinds (assessResources stats)) with
    ⟨-, hroot, hsymptoms⟩ | ⟨-, hroot, hsymptoms⟩ | hroot
  · rw [hroot]
    rcases hsymptoms k hk with ⟨rfl, hpressure⟩ | ⟨rfl, hmem⟩
    · exact ⟨by simp, Or.inr (hpressure.resolve_left hio)⟩
    · exact ⟨by simp, Or.inl (hcpu hmem)⟩
  · rw [hroot]
    obtain ⟨rfl, hmem⟩ := hsymptoms k hk
    exact ⟨by simp, Or.inl (hcpu hmem)⟩
  · rw [hroot] at hk
    exact absurd hk List.not_mem_nil

/-- The class is the image of the status, and tells short hosts from the others. -/
lemma classifyHost_underProvisioned_iff (stats : ResourceStats) :
    classifyHost stats = .underProvisioned ↔ HostShort stats := by
  rw [← rollupHost_hostStatus_under_iff, classifyHost]
  cases (rollupHost stats).hostStatus <;> simp [hostStatusToRecommendation]

end AssessmentEngine
