import AssessmentEngine.Sizing.Recommended

/-!
# Signals that must not matter

Two statements about pairs of hosts.  On a quiet host the queues and the paging signals do
not reach any verdict: the double gates of CPU and memory stop them before triggers, sizes,
confidence and root cause (`quietHost_ignores_queues`).  And the measured disk activity, which
only some screens know, decides nothing but whether a host is idle (`diskActivity_only_idle`).
-/

namespace AssessmentEngine

/-! ### Queues and paging on a quiet host -/

/-- The host with other values of the run queue, the blocked processes and the paging
signals. -/
def withQueues (stats : ResourceStats) (runQueue running blocked pagesInput : Option ℚ)
    (paging : Bool) : ResourceStats :=
  { stats with
    cpuRunQueueP95 := runQueue
    procsRunningP95 := running
    procsBlockedP95 := blocked
    memPagesInputRateP95 := pagesInput
    memSwapPaging := paging }

section Quiet

variable {stats : ResourceStats} {util mem : ℚ} {runQueue running blocked pagesInput : Option ℚ}
  {paging : Bool}

/-- The saturation of a CPU is decided on the measured value of one run queue. -/
lemma cpuSaturated_withQueues_eq_none_iff
    (hrunQueue : runQueue.isSome = stats.cpuRunQueueP95.isSome)
    (hrunning : running.isSome = stats.procsRunningP95.isSome) :
    cpuSaturated (withQueues stats runQueue running blocked pagesInput paging) = none ↔
      cpuSaturated stats = none := by
  have hnone (s : ResourceStats) : cpuSaturated s = none ↔ ∀ cores, s.cpuCores = some cores →
      0 < cores → (if s.osFamily = some "windows" then s.cpuRunQueueP95.isSome
        else s.procsRunningP95.isSome) = false := by
    unfold cpuSaturated runQueueSaturated
    cases s.cpuCores with
    | none => simp
    | some cores =>
      by_cases hle : cores ≤ 0
      · simp [hle]
      · simp only [if_neg hle, Option.some_inj, forall_eq', not_le.mp hle, true_imp_iff]
        split_ifs
        · cases s.cpuRunQueueP95 with
          | none => simp
          | some queue =>
            cases hsat : decide (cpuRunQueuePerCoreSaturation ≤ queue / cores) <;>
              cases s.cpuP95Pct <;> simp [hsat]
        · cases s.procsRunningP95 with
          | none => simp
          | some queue =>
            cases hsat : decide (procsRunningPerCoreSaturation ≤ queue / cores) <;>
              cases s.cpuP95Pct <;> simp [hsat]
  rw [hnone, hnone]
  simp only [withQueues, hrunQueue, hrunning]

/-- Below 70 % no run queue changes the CPU verdict. -/
lemma assessCpu_withQueues (hutil : stats.cpuP95Pct = some util) (hlt : util < rsCpuUnderPct)
    (hrunQueue : runQueue.isSome = stats.cpuRunQueueP95.isSome)
    (hrunning : running.isSome = stats.procsRunningP95.isSome) :
    assessCpu (withQueues stats runQueue running blocked pagesInput paging) = assessCpu stats := by
  set noisy := withQueues stats runQueue running blocked pagesInput paging with hnoisy
  have hutil' : noisy.cpuP95Pct = some util := hutil
  have hsat := cpuSaturated_ne_of_lt hutil hlt
  have hsat' := cpuSaturated_ne_of_lt hutil' hlt
  have hconf : cpuConfidence noisy = cpuConfidence stats := by
    have hgap : cpuSaturated noisy = none ↔ cpuSaturated stats = none :=
      cpuSaturated_withQueues_eq_none_iff hrunQueue hrunning
    unfold cpuConfidence
    simp only [hgap, hutil, hutil']
    rfl
  have htriggers : cpuTriggers noisy = cpuTriggers stats := by
    unfold cpuTriggers
    rw [if_neg hsat, if_neg hsat', hutil, hutil']
  have htarget : ∀ cores, cpuTarget id noisy cores = cpuTarget id stats cores := by
    intro cores
    unfold cpuTarget cpuTargetCores
    rw [decide_eq_false hsat, decide_eq_false hsat', cpuSatCores_false, cpuSatCores_false, hutil,
      hutil']
  have hcores : noisy.cpuCores = stats.cpuCores := rfl
  have hbusy : percoreBusy noisy = percoreBusy stats := rfl
  unfold assessCpu assessCpuWith
  simp only [hconf, htriggers, htarget, hcores, hbusy, hutil, hutil', reduceCtorEq, false_and,
    if_false]

/-- Below 90 % no paging changes the memory verdict. -/
lemma assessMemory_withQueues (hmem : stats.memP95Pct = some mem) (hlt : mem < rsMemUnderPct) :
    assessMemory (withQueues stats runQueue running blocked pagesInput paging) =
      assessMemory stats := by
  set noisy := withQueues stats runQueue running blocked pagesInput paging with hnoisy
  have hmem' : noisy.memP95Pct = some mem := hmem
  have hpaging := memPagingActive_eq_false hmem hlt
  have hpaging' := memPagingActive_eq_false hmem' hlt
  have htriggers : memTriggers noisy mem = memTriggers stats mem := by
    unfold memTriggers
    rw [hpaging, hpaging']
    rfl
  have hup : ∀ target, memUnderTarget target noisy = memUnderTarget target stats := by
    intro target
    unfold memUnderTarget
    rw [hpaging, hpaging']
    rfl
  have htarget : memTarget noisy mem = memTarget stats mem := rfl
  have htotal : noisy.memTotalMb = stats.memTotalMb := rfl
  have hconf : baseConfidence noisy false true = baseConfidence stats false true := rfl
  unfold assessMemory
  simp only [hmem, hmem', htriggers, hup, htarget, htotal, hconf]

/-- Without pressure on the CPU and without paging there is no causal link to find. -/
lemma causalRoot_of_quiet {res : Resources} {kinds : List ResourceKind}
    (hpaging : memPagingActive stats = false) (hcpu : res.cpu.status ≠ .under) :
    causalRoot stats res kinds =
      ([ResourceKind.memory, .diskIo, .cpu, .diskCapacity].find? (· ∈ kinds), []) := by
  unfold causalRoot
  simp [hpaging, hcpu]

/-- On a quiet host the queues and paging signals change nothing about the host. -/
lemma rollupHost_withQueues (hutil : stats.cpuP95Pct = some util) (hlt : util < rsCpuUnderPct)
    (hmem : stats.memP95Pct = some mem) (hmlt : mem < rsMemUnderPct)
    (hrunQueue : runQueue.isSome = stats.cpuRunQueueP95.isSome)
    (hrunning : running.isSome = stats.procsRunningP95.isSome) :
    rollupHost (withQueues stats runQueue running blocked pagesInput paging) =
      rollupHost stats := by
  set noisy := withQueues stats runQueue running blocked pagesInput paging with hnoisy
  have hres : assessResources noisy = assessResources stats := by
    unfold assessResources
    rw [assessCpu_withQueues hutil hlt hrunQueue hrunning, assessMemory_withQueues hmem hmlt]
    rfl
  have hquiet : (assessResources stats).cpu.status ≠ .under := by
    have h := assessCpu_verdict stats
    have htriggers : cpuTriggers stats = [] := by
      by_contra hne
      exact absurd ((cpuTriggers_ne_nil_iff hutil).mp hne) (not_le.mpr hlt)
    change (assessCpu stats).status ≠ .under
    generalize assessCpu stats = a at h ⊢
    cases h with
    | shortExact _ _ _ _ hne => exact absurd htriggers hne
    | shortFloor _ _ _ _ hne => exact absurd htriggers hne
    | _ => simp
  have hmem' : noisy.memP95Pct = some mem := hmem
  have hroot : ∀ kinds, causalRoot noisy (assessResources stats) kinds =
      causalRoot stats (assessResources stats) kinds := by
    intro kinds
    rw [causalRoot_of_quiet (memPagingActive_eq_false hmem hmlt) hquiet,
      causalRoot_of_quiet (memPagingActive_eq_false hmem' hmlt) hquiet]
  unfold rollupHost
  simp only [hres, hroot]
  rfl

end Quiet

/-- Two hosts whose CPU is measured below 70 % and whose memory below 90 %, and that differ only
in run queue, blocked processes and paging, are classified, explained and sized alike. -/
theorem quietHost_ignores_queues (stats : ResourceStats) (util mem : ℚ)
    (runQueue running blocked pagesInput : Option ℚ) (paging : Bool)
    (hutil : stats.cpuP95Pct = some util) (hlt : util < 70)
    (hmem : stats.memP95Pct = some mem) (hmlt : mem < 90)
    (hrunQueue : runQueue.isSome = stats.cpuRunQueueP95.isSome)
    (hrunning : running.isSome = stats.procsRunningP95.isSome) :
    let noisy := withQueues stats runQueue running blocked pagesInput paging
    classifyHost noisy = classifyHost stats ∧
      (rollupHost noisy).rootCause = (rollupHost stats).rootCause ∧
      (rollupHost noisy).symptomOfRoot = (rollupHost stats).symptomOfRoot ∧
      prescribedUnderKinds (rollupHost noisy) = prescribedUnderKinds (rollupHost stats) ∧
      (∀ cores, axisSize cores (assessCpu noisy) noisy = axisSize cores (assessCpu stats) stats) ∧
      ∀ total, axisSize total (assessMemory noisy) noisy =
        axisSize total (assessMemory stats) stats := by
  intro noisy
  have hroll : rollupHost noisy = rollupHost stats :=
    rollupHost_withQueues hutil hlt hmem hmlt hrunQueue hrunning
  have hcpu : assessCpu noisy = assessCpu stats := assessCpu_withQueues hutil hlt hrunQueue hrunning
  have hmemory : assessMemory noisy = assessMemory stats := assessMemory_withQueues hmem hmlt
  refine ⟨?_, ?_, ?_, ?_, fun cores => ?_, fun total => ?_⟩
  · rw [classifyHost, classifyHost, hroll]
  · rw [hroll]
  · rw [hroll]
  · rw [hroll]
  · rw [hcpu]
    rfl
  · rw [hmemory]
    rfl

/-- A quiet host with a measured run queue. -/
def calmHost : ResourceStats :=
  { cpuP95Pct := some 12, cpuPeakPct := some 30, cpuCores := some 1, memP95Pct := some 60,
    diskUsedPct := some 40, netAvgKbytesPerS := some 500, osFamily := some "linux",
    sampleSufficiency := some 1, procsRunningP95 := some (1 / 2), historyHours := some 336,
    memTotalMb := some 4096 }

theorem quietHost_ignores_queues_calmHost :
    classifyHost (withQueues calmHost none (some 9) (some 4) (some 80) true) =
      classifyHost calmHost :=
  (quietHost_ignores_queues calmHost 12 60 none (some 9) (some 4) (some 80) true rfl (by norm_num)
    rfl (by norm_num) rfl rfl).1

/-! ### Disk activity -/

section DiskActivity

variable (raw : ReportRowRaw) (baseline baseline' : Option ℤ)

/-- The disk I/O verdict depends on the disk activity only between unmeasured and ok. -/
lemma assessDiskIo_baseline :
    let first := assessDiskIo (buildResourceStats raw baseline)
    let second := assessDiskIo (buildResourceStats raw baseline')
    first = second ∨ first.status = .unmeasured ∧ second.status = .ioOk ∨
      first.status = .ioOk ∧ second.status = .unmeasured := by
  have hsat : ∀ b, diskIoSaturated (buildResourceStats raw b) =
      diskIoSaturated (buildResourceStats raw none) := fun _ => rfl
  unfold assessDiskIo
  simp only [hsat]
  cases diskIoSaturated (buildResourceStats raw none) with
  | some saturated => exact Or.inl rfl
  | none =>
    cases baseline <;> cases baseline' <;>
      simp [buildResourceStats, baseConfidence, precisionLow]

/-- The statuses of a resource that the roll-up asks for do not depend on the disk activity. -/
lemma assessDiskIo_status_iff {status : ResourceStatus} (hok : status ≠ .ioOk)
    (hunmeasured : status ≠ .unmeasured) :
    (assessDiskIo (buildResourceStats raw baseline)).status = status ↔
      (assessDiskIo (buildResourceStats raw baseline')).status = status := by
  rcases assessDiskIo_baseline raw baseline baseline' with h | ⟨h, h'⟩ | ⟨h, h'⟩
  · rw [h]
  · rw [h, h']
    exact iff_of_false hunmeasured.symm hok.symm
  · rw [h, h']
    exact iff_of_false hok.symm hunmeasured.symm

lemma rootableUnder_assessDiskIo (stats : ResourceStats) :
    rootableUnder (assessDiskIo stats).status = false := by
  have hmem := assessDiskIo_status_mem stats
  simp only [List.mem_cons, List.not_mem_nil, or_false] at hmem
  rcases hmem with h | h | h <;> simp [rootableUnder, h]

/-- The verdicts other than that on disk I/O do not depend on the disk activity. -/
lemma assessResources_baseline :
    assessResources (buildResourceStats raw baseline') =
      { assessResources (buildResourceStats raw baseline) with
        diskIo := assessDiskIo (buildResourceStats raw baseline') } := rfl

/-- The resources that make a host short, and those to extend, do not depend on disk I/O. -/
lemma filter_rootable_congr {res res' : Resources} {io : ResourceAssessment}
    (hres : res' = { res with diskIo := io }) (hio : rootableUnder io.status = false)
    (hio' : rootableUnder res.diskIo.status = false) (kinds : List ResourceKind) :
    kinds.filter (fun k => rootableUnder (res'.get k).status) =
      kinds.filter fun k => rootableUnder (res.get k).status := by
  apply List.filter_congr
  intro k _
  rw [hres]
  cases k with
  | diskIo =>
    change rootableUnder io.status = rootableUnder res.diskIo.status
    rw [hio, hio']
  | _ => rfl

/-- The causal root depends on disk I/O only through the bottleneck. -/
lemma causalRoot_baseline (kinds : List ResourceKind) :
    causalRoot (buildResourceStats raw baseline')
        (assessResources (buildResourceStats raw baseline')) kinds =
      causalRoot (buildResourceStats raw baseline)
        (assessResources (buildResourceStats raw baseline)) kinds := by
  have hio : (assessResources (buildResourceStats raw baseline')).diskIo.status = .ioBound ↔
      (assessResources (buildResourceStats raw baseline)).diskIo.status = .ioBound :=
    assessDiskIo_status_iff raw baseline' baseline (by simp) (by simp)
  have hcpu : (assessResources (buildResourceStats raw baseline')).cpu =
      (assessResources (buildResourceStats raw baseline)).cpu := rfl
  have hmem : (assessResources (buildResourceStats raw baseline')).memory =
      (assessResources (buildResourceStats raw baseline)).memory := rfl
  have hpaging : memPagingActive (buildResourceStats raw baseline') =
      memPagingActive (buildResourceStats raw baseline) := rfl
  have hblocked : (buildResourceStats raw baseline').procsBlockedP95 =
      (buildResourceStats raw baseline).procsBlockedP95 := rfl
  unfold causalRoot
  simp only [hio, hcpu, hmem, hpaging, hblocked]

/-- The status of a host depends on the disk activity only through idleness. -/
lemma hostStatus_cases (stats stats' : ResourceStats) (res res' : Resources)
    (kinds : List ResourceKind) (hcpu : res'.cpu = res.cpu) (hmem : res'.memory = res.memory) :
    hostStatus stats res kinds = hostStatus stats' res' kinds ∨
      hostStatus stats res kinds = .idle ∧ hostStatus stats' res' kinds ∈ [.over, .optimal] ∨
        hostStatus stats' res' kinds = .idle ∧ hostStatus stats res kinds ∈ [.over, .optimal] := by
  unfold hostStatus
  rw [hcpu, hmem]
  by_cases hunder : kinds ≠ []
  · exact Or.inl (by rw [if_pos hunder, if_pos hunder])
  rw [if_neg hunder, if_neg hunder]
  by_cases hblind : (unmeasuredOrInsufficient res.cpu.status &&
      unmeasuredOrInsufficient res.memory.status) = true
  · exact Or.inl (by rw [if_pos hblind, if_pos hblind])
  rw [if_neg hblind, if_neg hblind]
  cases idleActivity stats <;> cases idleActivity stats' <;> split_ifs <;> simp

/-- Statuses that differ at most by idleness agree on whether the host is short and on whether
it was observed, and so do their classes. -/
lemma hostStatus_agree {s s' : HostStatus}
    (h : s = s' ∨ s = .idle ∧ s' ∈ [HostStatus.over, .optimal] ∨
      s' = .idle ∧ s ∈ [HostStatus.over, .optimal]) :
    (s = .under ↔ s' = .under) ∧ (s = .insufficient ↔ s' = .insufficient) ∧
      (hostStatusToRecommendation s = hostStatusToRecommendation s' ∨
        hostStatusToRecommendation s = .idle ∧
          hostStatusToRecommendation s' ∈ [.overProvisioned, .optimal] ∨
        hostStatusToRecommendation s' = .idle ∧
          hostStatusToRecommendation s ∈ [.overProvisioned, .optimal]) := by
  simp only [List.mem_cons, List.not_mem_nil, or_false] at h
  rcases h with rfl | ⟨rfl, rfl | rfl⟩ | ⟨rfl, rfl | rfl⟩ <;> simp [hostStatusToRecommendation]

end DiskActivity

/-- The value of the disk activity decides at most whether a host that is neither short nor
unobserved counts as idle, and whether its disk I/O counts as measured. -/
theorem diskActivity_only_idle (raw : ReportRowRaw) (baseline baseline' : Option ℤ) :
    let stats := buildResourceStats raw baseline
    let stats' := buildResourceStats raw baseline'
    let host := rollupHost stats
    let host' := rollupHost stats'
    ((host.hostStatus = .under ↔ host'.hostStatus = .under) ∧
      (host.hostStatus = .insufficient ↔ host'.hostStatus = .insufficient) ∧
      host.rootCause = host'.rootCause ∧ host.symptomOfRoot = host'.symptomOfRoot ∧
      prescribedUnderKinds host = prescribedUnderKinds host' ∧
      host.resources.cpu = host'.resources.cpu ∧ host.resources.memory = host'.resources.memory) ∧
    (classifyHost stats = classifyHost stats' ∨
      classifyHost stats = .idle ∧ classifyHost stats' ∈ [.overProvisioned, .optimal] ∨
      classifyHost stats' = .idle ∧ classifyHost stats ∈ [.overProvisioned, .optimal]) ∧
    host.resources.diskCapacity = host'.resources.diskCapacity ∧
    host.resources.network = host'.resources.network ∧
    (host.resources.diskIo = host'.resources.diskIo ∨
      host.resources.diskIo.status = .unmeasured ∧ host'.resources.diskIo.status = .ioOk ∨
      host.resources.diskIo.status = .ioOk ∧ host'.resources.diskIo.status = .unmeasured) := by
  intro stats stats' host host'
  have hfilter : ∀ kinds : List ResourceKind,
      kinds.filter (fun k => rootableUnder ((assessResources stats').get k).status) =
        kinds.filter fun k => rootableUnder ((assessResources stats).get k).status :=
    filter_rootable_congr (assessResources_baseline raw baseline baseline')
      (rootableUnder_assessDiskIo stats') (rootableUnder_assessDiskIo stats)
  have hkinds : shortKinds (assessResources stats') = shortKinds (assessResources stats) :=
    hfilter _
  have hroot : causalRoot stats' (assessResources stats') (shortKinds (assessResources stats')) =
      causalRoot stats (assessResources stats) (shortKinds (assessResources stats)) := by
    rw [hkinds]
    exact causalRoot_baseline raw baseline baseline' _
  have hstatus : host.hostStatus = host'.hostStatus ∨
      host.hostStatus = .idle ∧ host'.hostStatus ∈ [.over, .optimal] ∨
        host'.hostStatus = .idle ∧ host.hostStatus ∈ [.over, .optimal] := by
    have h := hostStatus_cases stats stats' (assessResources stats) (assessResources stats')
      (shortKinds (assessResources stats)) rfl rfl
    rw [show host'.hostStatus = hostStatus stats' (assessResources stats')
      (shortKinds (assessResources stats)) by rw [← hkinds]; rfl]
    exact h
  obtain ⟨hunder, hinsufficient, hclass⟩ := hostStatus_agree hstatus
  exact ⟨⟨hunder, hinsufficient, congrArg Prod.fst hroot.symm, congrArg Prod.snd hroot.symm,
      (hfilter underOrder).symm, rfl, rfl⟩,
    hclass, rfl, rfl, assessDiskIo_baseline raw baseline baseline'⟩

end AssessmentEngine
