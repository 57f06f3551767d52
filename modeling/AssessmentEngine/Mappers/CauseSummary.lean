import AssessmentEngine.Mappers.Overview
import AssessmentEngine.Sizing.Recommended

/-!
# The causes of a shortage, as shown

A row of the table of actions names the causes of a shortage, and the environment report
counts the short hosts by cause (`shownCauses`, of `_under_cause_summary`).  Both go through one
table of labels, in which the trigger of an OOM kill is missing.  So a host shows a cause for each
of its short resources unless an OOM kill is all that its memory is short for (`OomOnly`).
-/

namespace AssessmentEngine

/-! ### The summary -/

/-- One more host for a cause. -/
def addCause (counts : String → ℕ) (cause : String) : String → ℕ :=
  Function.update counts cause (counts cause + 1)

/-- The number of hosts for each cause; a cause that was never counted is missing. -/
def countCauses (hosts : List CapacityWarningItem) : String → ℕ :=
  hosts.foldl (fun counts h => h.activeCauses.foldl addCause counts) fun _ => 0

/-- The order in which the causes are summarised. -/
def underCauseOrder : List String := causeLabelByTrigger.map (·.2)

/-- The causes that are shown, with their numbers of hosts. -/
def shownCauses (hosts : List CapacityWarningItem) : List (String × ℕ) :=
  (underCauseOrder.filter fun label => countCauses hosts label ≠ 0).map fun label =>
    (label, countCauses hosts label)

lemma foldl_addCause (causes : List String) (counts : String → ℕ) (label : String) :
    causes.foldl addCause counts label = counts label + causes.count label := by
  induction causes generalizing counts with
  | nil => rfl
  | cons cause causes ih =>
    rw [List.foldl_cons, ih, addCause]
    by_cases heq : cause = label
    · subst heq
      rw [Function.update_self, List.count_cons_self]
      omega
    · rw [Function.update_of_ne (Ne.symm heq), List.count_cons_of_ne heq]

/-- A cause is counted once for each host that names it. -/
lemma countCauses_eq_count (hosts : List CapacityWarningItem) (label : String) :
    countCauses hosts label = (hosts.flatMap (·.activeCauses)).count label := by
  have hfold : ∀ counts : String → ℕ,
      hosts.foldl (fun counts h => h.activeCauses.foldl addCause counts) counts label =
        counts label + (hosts.flatMap (·.activeCauses)).count label := by
    induction hosts with
    | nil => exact fun counts => rfl
    | cons h hosts ih =>
      intro counts
      rw [List.foldl_cons, ih, foldl_addCause, List.flatMap_cons, List.count_append, add_assoc]
  rw [countCauses, hfold, Nat.zero_add]

/-- A host that names a cause of the table is counted under it. -/
lemma mem_shownCauses {hosts : List CapacityWarningItem} {h : CapacityWarningItem} {label : String}
    (hh : h ∈ hosts) (hlabel : label ∈ h.activeCauses) (horder : label ∈ underCauseOrder) :
    (label, countCauses hosts label) ∈ shownCauses hosts ∧ 0 < countCauses hosts label := by
  have hcount : 0 < countCauses hosts label := by
    rw [countCauses_eq_count, List.count_pos_iff]
    exact List.mem_flatMap.mpr ⟨h, hh, hlabel⟩
  refine ⟨?_, hcount⟩
  unfold shownCauses
  rw [List.mem_map]
  exact ⟨label, List.mem_filter.mpr ⟨horder, by simpa using hcount.ne'⟩, rfl⟩

/-! ### Triggers and their resources -/

/-- The resource that a trigger speaks about. -/
def TriggerKind.resource : TriggerKind → ResourceKind
  | .cpuUtil | .cpuSaturation => .cpu
  | .memUtil | .memSaturation | .memOom => .memory
  | .diskCapacity => .diskCapacity
  | .diskIo => .diskIo
  | .netRetrans | .netDrop | .netConntrack => .network

section Triggers

variable {stats : ResourceStats} {t : TriggerKind}

lemma mem_cpuTriggers (ht : t ∈ cpuTriggers stats) : t = .cpuUtil ∨ t = .cpuSaturation := by
  unfold cpuTriggers at ht
  rw [List.mem_append] at ht
  rcases ht with ht | ht <;> split_ifs at ht <;> simp_all

/-- The triggers of a short CPU are those of the CPU. -/
lemma assessCpu_triggers :
    (assessCpu stats).triggers = [] ∨ (assessCpu stats).triggers = cpuTriggers stats := by
  have h := assessCpu_verdict stats
  generalize assessCpu stats = a at h ⊢
  cases h with
  | shortExact => exact Or.inr rfl
  | shortFloor => exact Or.inr rfl
  | unmeasured => exact Or.inl rfl
  | surplus => exact Or.inl rfl
  | balanced => exact Or.inl rfl

lemma assessMemory_triggers :
    (assessMemory stats).triggers =
      match stats.memP95Pct with
      | none => if stats.oomOccurred then [.memOom] else []
      | some util => memTriggers stats util := by
  unfold assessMemory
  cases stats.memP95Pct with
  | none =>
    simp only
    split_ifs <;> rfl
  | some util =>
    by_cases htriggers : memTriggers stats util = []
    · simp only [htriggers, ne_eq, not_true_eq_false, if_false]
      split
      · split_ifs <;> rfl
      · rfl
    · simp only [if_pos htriggers]

lemma mem_assessMemory_triggers (ht : t ∈ (assessMemory stats).triggers) :
    t = .memUtil ∨ t = .memSaturation ∨ t = .memOom := by
  rw [assessMemory_triggers] at ht
  split at ht
  · split_ifs at ht <;> simp_all
  · unfold memTriggers at ht
    rw [List.mem_append, List.mem_append] at ht
    rcases ht with (ht | ht) | ht <;> split_ifs at ht <;> simp_all

lemma mem_assessDiskCapacity_triggers (ht : t ∈ (assessDiskCapacity stats).triggers) :
    t = .diskCapacity := by
  have h := assessDiskCapacity_verdict stats
  generalize assessDiskCapacity stats = a at h ht
  cases h <;> simp_all

lemma mem_assessDiskIo_triggers (ht : t ∈ (assessDiskIo stats).triggers) : t = .diskIo := by
  unfold assessDiskIo at ht
  cases hsat : diskIoSaturated stats with
  | none =>
    simp only [hsat] at ht
    split_ifs at ht <;> simp at ht
  | some saturated =>
    simp only [hsat] at ht
    split_ifs at ht <;> simp_all

lemma mem_assessNetwork_triggers (ht : t ∈ (assessNetwork stats).triggers) :
    t.resource = .network := by
  have hnet : ∀ t ∈ netTriggers stats, t.resource = .network := by
    intro t ht
    unfold netTriggers at ht
    rw [List.mem_append, List.mem_append] at ht
    rcases ht with (ht | ht) | ht <;> split_ifs at ht <;> simp_all [TriggerKind.resource]
  unfold assessNetwork at ht
  simp only at ht
  split_ifs at ht
  · exact hnet t ht
  · simp at ht
  · simp at ht

/-- Every trigger of a verdict speaks about the resource of the verdict. -/
lemma trigger_resource {k : ResourceKind} (ht : t ∈ ((assessResources stats).get k).triggers) :
    t.resource = k := by
  cases k with
  | cpu =>
    rcases assessCpu_triggers with h | h
    · exact absurd (h ▸ ht : t ∈ []) List.not_mem_nil
    · rcases mem_cpuTriggers (h ▸ ht : t ∈ cpuTriggers stats) with rfl | rfl <;> rfl
  | memory => rcases mem_assessMemory_triggers ht with rfl | rfl | rfl <;> rfl
  | diskCapacity =>
    obtain rfl := mem_assessDiskCapacity_triggers ht
    rfl
  | diskIo =>
    obtain rfl := mem_assessDiskIo_triggers ht
    rfl
  | network => exact mem_assessNetwork_triggers ht

end Triggers

/-! ### Which hosts show why -/

/-- The verdict on a row of the table. -/
def tableHost (raw : ReportRowRaw) : HostAssessment := rollupHost (buildResourceStats raw none)

/-- The row shows a cause for each resource that is to be extended. -/
structure ShowsWhy (raw : ReportRowRaw) : Prop where
  someCause : (toCapacityWarningItem raw).activeCauses ≠ []
  eachResource : ∀ k ∈ prescribedUnderKinds (tableHost raw), ∃ p ∈ causeLabelByTrigger,
    p.1.resource = k ∧ p.2 ∈ (toCapacityWarningItem raw).activeCauses

/-- An OOM kill was seen, and the utilisation of the memory is not measured from 90 % on. -/
def OomOnly (raw : ReportRowRaw) : Prop :=
  raw.oomOccurred = true ∧ ∀ util ∈ raw.memP95Pct, util < rsMemUnderPct

section Causes

variable {raw : ReportRowRaw} {k : ResourceKind} {t : TriggerKind} {label : String}

lemma mem_hostTriggers (ht : t ∈ ((tableHost raw).resources.get k).triggers) :
    t ∈ hostTriggers (tableHost raw) := by
  unfold hostTriggers
  cases k <;> simp only [Resources.get] at ht <;> simp [ht]

/-- A trigger of a host is a trigger of the resource that it speaks about. -/
lemma mem_get_triggers (ht : t ∈ hostTriggers (tableHost raw)) :
    t ∈ ((tableHost raw).resources.get t.resource).triggers := by
  have hget : ∃ k, t ∈ ((tableHost raw).resources.get k).triggers := by
    unfold hostTriggers at ht
    simp only [List.flatMap_cons, List.flatMap_nil, List.append_nil, List.mem_append] at ht
    rcases ht with ht | ht | ht | ht | ht
    · exact ⟨.cpu, ht⟩
    · exact ⟨.memory, ht⟩
    · exact ⟨.diskCapacity, ht⟩
    · exact ⟨.diskIo, ht⟩
    · exact ⟨.network, ht⟩
  obtain ⟨k, hk⟩ := hget
  rw [trigger_resource hk]
  exact hk

lemma mem_activeCauses_iff :
    label ∈ (toCapacityWarningItem raw).activeCauses ↔
      ∃ t ∈ hostTriggers (tableHost raw), (t, label) ∈ causeLabelByTrigger := by
  change label ∈ (causeLabelByTrigger.filter fun p => p.1 ∈ hostTriggers (tableHost raw)).map (·.2)
    ↔ _
  rw [List.mem_map]
  constructor
  · rintro ⟨⟨t, label⟩, hp, rfl⟩
    rw [List.mem_filter, decide_eq_true_eq] at hp
    exact ⟨t, hp.2, hp.1⟩
  · rintro ⟨t, ht, hp⟩
    exact ⟨(t, label), List.mem_filter.mpr ⟨hp, decide_eq_true ht⟩, rfl⟩

/-- Every trigger of a short resource has a label, except the OOM kill. -/
lemma exists_label (hresource : t.resource ∈ [.cpu, .memory, .diskCapacity]) (ht : t ≠ .memOom) :
    ∃ label, (t, label) ∈ causeLabelByTrigger := by
  cases t <;> simp_all [TriggerKind.resource, causeLabelByTrigger]

/-- No two triggers of the table share a label. -/
lemma label_injective {t' : TriggerKind} (h : (t, label) ∈ causeLabelByTrigger)
    (h' : (t', label) ∈ causeLabelByTrigger) : t = t' := by
  have hnodup : (causeLabelByTrigger.map (·.2)).Nodup := by decide
  exact congrArg Prod.fst (List.inj_on_of_nodup_map hnodup h h' rfl)

/-- The triggers of a memory that is short for an OOM kill only. -/
lemma memory_triggers_of_oomOnly (hoom : OomOnly raw) :
    (tableHost raw).resources.memory.triggers = [.memOom] := by
  have hflag : (buildResourceStats raw none).oomOccurred = true := hoom.1
  change (assessMemory (buildResourceStats raw none)).triggers = _
  rw [assessMemory_triggers]
  cases hutil : raw.memP95Pct with
  | none =>
    have hutil' : (buildResourceStats raw none).memP95Pct = none := hutil
    simp only [hutil', hflag, if_true]
  | some util =>
    have hutil' : (buildResourceStats raw none).memP95Pct = some util := hutil
    have hlt := hoom.2 util hutil
    simp only [hutil', memTriggers, memPagingActive_eq_false hutil' hlt, hflag, not_le.mpr hlt]
    simp

/-- A resource that is to be extended has a trigger with a label, unless it is the memory
that is short for an OOM kill only. -/
lemma exists_labelled_trigger (hoom : ¬OomOnly raw)
    (hk : k ∈ prescribedUnderKinds (tableHost raw)) :
    ∃ t ∈ ((tableHost raw).resources.get k).triggers, t ≠ .memOom ∧
      t.resource ∈ [ResourceKind.cpu, .memory, .diskCapacity] := by
  have hrootable := mem_prescribedUnderKinds_iff.mp hk
  have hshort := mem_shortKinds_iff.mpr hrootable
  obtain ⟨t, ht⟩ := List.exists_mem_of_ne_nil _ (triggers_ne_nil_of_mem_shortKinds hshort)
  have hresource := trigger_resource ht
  rcases (rootableUnder_get_iff _ k).mp hrootable with ⟨rfl, -⟩ | ⟨rfl, -⟩ | ⟨rfl, -⟩
  · exact ⟨t, ht, by rintro rfl; simp [TriggerKind.resource] at hresource, by simp [hresource]⟩
  · by_cases htoom : t = .memOom
    · -- next to the OOM kill there is a high utilisation
      have hflag : raw.oomOccurred = true := by
        by_contra hno
        have hno' : (buildResourceStats raw none).oomOccurred = false :=
          Bool.eq_false_iff.mpr hno
        change t ∈ (assessMemory (buildResourceStats raw none)).triggers at ht
        rw [assessMemory_triggers, htoom] at ht
        split at ht
        · simp [hno'] at ht
        · simp [memTriggers, hno'] at ht
      obtain ⟨util, hutil, hhigh⟩ : ∃ util ∈ raw.memP95Pct, rsMemUnderPct ≤ util := by
        by_contra hno
        exact hoom ⟨hflag, fun util hutil => not_le.mp fun hge => hno ⟨util, hutil, hge⟩⟩
      have hutil' : (buildResourceStats raw none).memP95Pct = some util := hutil
      refine ⟨.memUtil, ?_, by simp, by simp [TriggerKind.resource]⟩
      change TriggerKind.memUtil ∈ (assessMemory (buildResourceStats raw none)).triggers
      rw [assessMemory_triggers]
      simp [hutil', memTriggers, hhigh]
    · exact ⟨t, ht, htoom, by simp [hresource]⟩
  · exact ⟨t, ht, by rintro rfl; simp [TriggerKind.resource] at hresource, by simp [hresource]⟩

/-- A short host shows why exactly when an OOM kill is not all that its memory is short for. -/
lemma showsWhy_iff (hclass : (toCapacityWarningItem raw).classification = .underProvisioned) :
    ShowsWhy raw ↔ ¬OomOnly raw := by
  constructor
  · intro hshows hoom
    have hmemory := memory_triggers_of_oomOnly hoom
    -- the memory is short, and nothing but the OOM kill speaks about it
    have hshort : ResourceKind.memory ∈ prescribedUnderKinds (tableHost raw) := by
      rw [mem_prescribedUnderKinds_iff]
      refine (rootableUnder_get_iff _ .memory).mpr (Or.inr (Or.inl ⟨rfl, ?_⟩))
      have h := assessMemory_verdict (buildResourceStats raw none)
      change (assessMemory (buildResourceStats raw none)).triggers = _ at hmemory
      generalize assessMemory (buildResourceStats raw none) = a at h hmemory ⊢
      cases h <;> simp_all
    obtain ⟨⟨t, label⟩, hp, hresource, hlabel⟩ := hshows.eachResource .memory hshort
    obtain ⟨t', ht', hp'⟩ := mem_activeCauses_iff.mp hlabel
    obtain rfl := label_injective hp hp'
    have ht := mem_get_triggers ht'
    rw [hresource] at ht
    obtain rfl : t = .memOom := List.mem_singleton.mp (hmemory ▸ ht)
    simp [causeLabelByTrigger] at hp
  · intro hoom
    have heach : ∀ k ∈ prescribedUnderKinds (tableHost raw), ∃ p ∈ causeLabelByTrigger,
        p.1.resource = k ∧ p.2 ∈ (toCapacityWarningItem raw).activeCauses := by
      intro k hk
      obtain ⟨t, ht, htoom, hresource⟩ := exists_labelled_trigger hoom hk
      obtain ⟨label, hlabel⟩ := exists_label hresource htoom
      exact ⟨(t, label), hlabel, trigger_resource ht,
        mem_activeCauses_iff.mpr ⟨t, mem_hostTriggers ht, hlabel⟩⟩
    refine ⟨?_, heach⟩
    have hshort : HostShort (buildResourceStats raw none) :=
      (classifyHost_underProvisioned_iff _).mp hclass
    obtain ⟨k, hk⟩ :=
      List.exists_mem_of_ne_nil _ ((prescribedUnderKinds_ne_nil_iff _).mpr hshort)
    obtain ⟨p, -, -, hp⟩ := heach k hk
    exact List.ne_nil_of_mem hp

end Causes

/-- Every row shows why it is short, and is counted in the summary under a cause that it
shows. -/
structure CausesShown (raws : List ReportRowRaw) : Prop where
  showsWhy : ∀ raw ∈ raws, ShowsWhy raw
  counted : ∀ raw ∈ raws, ∃ p ∈ shownCauses (raws.map toCapacityWarningItem),
    0 < p.2 ∧ p.1 ∈ (toCapacityWarningItem raw).activeCauses

/-- The short hosts of any list of rows all show why, and are all counted, exactly when none of
them is short of memory for an OOM kill only. -/
theorem causesShown_iff (raws : List ReportRowRaw) :
    let short := raws.filter fun raw =>
      (toCapacityWarningItem raw).classification = .underProvisioned
    CausesShown short ↔ ∀ raw ∈ short, ¬OomOnly raw := by
  intro short
  have hclass : ∀ raw ∈ short, (toCapacityWarningItem raw).classification = .underProvisioned := by
    intro raw hraw
    exact of_decide_eq_true (List.mem_filter.mp hraw).2
  constructor
  · intro hshown raw hraw
    exact (showsWhy_iff (hclass raw hraw)).mp (hshown.showsWhy raw hraw)
  · intro hoom
    have hshows : ∀ raw ∈ short, ShowsWhy raw := fun raw hraw =>
      (showsWhy_iff (hclass raw hraw)).mpr (hoom raw hraw)
    refine ⟨hshows, fun raw hraw => ?_⟩
    obtain ⟨label, hlabel⟩ := List.exists_mem_of_ne_nil _ (hshows raw hraw).someCause
    obtain ⟨t, -, hp⟩ := mem_activeCauses_iff.mp hlabel
    have horder : label ∈ underCauseOrder := List.mem_map.mpr ⟨(t, label), hp, rfl⟩
    obtain ⟨hshown, hpos⟩ := mem_shownCauses (List.mem_map_of_mem hraw) hlabel horder
    exact ⟨_, hshown, hpos, hlabel⟩

/-- A host with some memory to spare that saw an OOM kill. -/
def killedRow : ReportRowRaw :=
  { publicId := "s1", hostname := "db-1", osFamily := some "linux", cpuP95Pct := some 30,
    cpuPeakPct := some 50, memP95Pct := some 60, cpuCores := some 4,
    memTotalBytes := some (8 * 1024 ^ 3), procsRunningP95 := some 1, historyHours := some 336,
    oomOccurred := true }

/-- It is short of memory, and shows no cause at all. -/
theorem killedRow_shows_no_cause :
    (toCapacityWarningItem killedRow).classification = .underProvisioned ∧
      prescribedUnderKinds (tableHost killedRow) = [.memory] ∧
      (toCapacityWarningItem killedRow).activeCauses = [] ∧
      shownCauses [toCapacityWarningItem killedRow] = [] := by
  decide +kernel

end AssessmentEngine
