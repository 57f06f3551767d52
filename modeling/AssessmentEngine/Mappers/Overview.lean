import AssessmentEngine.Mappers.ReportRow
import AssessmentEngine.Recommendation.Prescription

/-!
# Distribution, table and detail rows of one page

A page shows the same report rows three times: as a distribution over the five classes
(`assembleOverview`), as a table of actions (`buildActionTargets`), and, in reports, as
detail rows (`toReportRowItem`).  Each of the three classifies every row again.  The
distribution and the detail rows let the measured disk activity of the row take part; the
table treats it as unmeasured.

`pageCounts_shift` says by how much the three differ: a row whose disk activity is all
that keeps it from being idle is idle in the table, and over or optimal elsewhere.
-/

namespace AssessmentEngine

/-! ## Classes and their labels -/

def labelKo : Recommendation → String
  | .idle => "유휴"
  | .overProvisioned => "과다 할당"
  | .underProvisioned => "자원 부족"
  | .optimal => "정상"
  | .insufficientData => "표본 부족"

/-- The order of the classes in the table. -/
def classificationOrder : Recommendation → ℕ
  | .underProvisioned => 0
  | .overProvisioned => 1
  | .idle => 2
  | .optimal => 3
  | .insufficientData => 4

/-- The classes of the distribution with their descriptions. -/
def donutSegmentDefs : List (Recommendation × String) :=
  [(.underProvisioned, "자원 부족 — 사양 상향 검토"),
    (.overProvisioned, "자원 여유 — 사양 축소 검토"),
    (.idle, "미사용 — 종료·통합 검토"),
    (.optimal, "적정"),
    (.insufficientData, "평가 표본 부족")]

/-- The triggers that name a cause of a shortage, in the order in which they are shown. -/
def causeLabelByTrigger : List (TriggerKind × String) :=
  [(.cpuUtil, "CPU 이용률"), (.cpuSaturation, "CPU 포화"), (.memUtil, "메모리 이용률"),
    (.memSaturation, "메모리 포화"), (.diskCapacity, "디스크 용량"), (.diskIo, "디스크 I/O")]

/-! ## The table -/

/-- One row of the table of actions. -/
structure CapacityWarningItem where
  publicId : String
  hostname : String
  classification : Recommendation
  classificationLabel : String
  classificationRank : ℕ
  activeCauses : List String
  recommendationAction : String
  rootCauseLabel : String
  severityScore : ℚ
  deriving DecidableEq, Repr

/-- The triggers of all resources of a host. -/
def hostTriggers (host : HostAssessment) : List TriggerKind :=
  [host.resources.cpu, host.resources.memory, host.resources.diskCapacity, host.resources.diskIo,
    host.resources.network].flatMap (·.triggers)

/-- The table row of a report row; the disk activity counts as unmeasured. -/
def toCapacityWarningItem (raw : ReportRowRaw) : CapacityWarningItem :=
  let stats := buildResourceStats raw none
  let host := rollupHost stats
  let classification := hostStatusToRecommendation host.hostStatus
  let hit := hostTriggers host
  let activeCauses := (causeLabelByTrigger.filter fun p => p.1 ∈ hit).map (·.2)
  let peakUtil :=
    (Nullable.maxSome [raw.cpuP95Pct, raw.memP95Pct, raw.worstMountUsedPct]).getD 0
  { publicId := raw.publicId
    hostname := raw.hostname
    classification := classification
    classificationLabel := labelKo classification
    classificationRank := classificationOrder classification
    activeCauses := activeCauses
    recommendationAction :=
      if classification = .underProvisioned then underPrescription host
      else recommendAction classification stats
    rootCauseLabel := rootCauseDisplay host
    severityScore :=
      if classification = .underProvisioned then
        (if TriggerKind.memSaturation ∈ hit then 10000 else 0) + activeCauses.length * 100 +
          peakUtil
      else 100 - peakUtil }

/-- The order of the table: by class, then by falling severity, then by name. -/
def actionTargetLe (a b : CapacityWarningItem) : Bool :=
  let ra := classificationOrder a.classification
  let rb := classificationOrder b.classification
  ra < rb || (ra = rb && (b.severityScore < a.severityScore ||
    (a.severityScore = b.severityScore && a.hostname ≤ b.hostname)))

/-- The table of actions. -/
structure ActionTargets where
  hosts : List CapacityWarningItem
  total : ℕ
  underCount : ℕ
  efficiencyCount : ℕ
  efficiencyVcpus : ℤ
  efficiencyMemoryGb : ℚ
  deriving DecidableEq, Repr

def buildActionTargets (raws : List ReportRowRaw) : ActionTargets :=
  let items := raws.map toCapacityWarningItem
  let effRaws := raws.filter fun raw =>
    (toCapacityWarningItem raw).classification ∈ [Recommendation.overProvisioned, .idle]
  { hosts := items.mergeSort actionTargetLe
    total := items.length
    underCount := items.countP fun it => it.classification = .underProvisioned
    efficiencyCount := effRaws.length
    efficiencyVcpus := (effRaws.map fun r => r.cpuCores.getD 0).sum
    efficiencyMemoryGb :=
      FixedPoint.roundTo 1 (effRaws.map fun r => (r.memTotalBytes.getD 0 : ℚ) / 1024 ^ 3).sum }

/-! ## The distribution -/

structure RiskDonutSegment where
  key : Recommendation
  label : String
  count : ℕ
  pct : ℚ
  description : String
  deriving DecidableEq, Repr

/-- The share of a segment in percent, rounded to one decimal. -/
def donutPct (count total : ℕ) : ℚ :=
  if 0 < total then FixedPoint.roundTo 1 ((count : ℚ) / total * 100) else 0

/-- The segments, their total and the number of short hosts. -/
def buildRiskDonutSegments (riskCounts : Recommendation → ℕ) : List RiskDonutSegment × ℕ × ℕ :=
  let total := (donutSegmentDefs.map fun d => riskCounts d.1).sum
  (donutSegmentDefs.map fun d =>
      { key := d.1, label := labelKo d.1, count := riskCounts d.1,
        pct := donutPct (riskCounts d.1) total, description := d.2 },
    total, riskCounts .underProvisioned)

/-- The running counts of `assembleOverview`. -/
structure OverviewTally where
  riskCounts : Recommendation → ℕ := fun _ => 0
  underHosts : List CapacityWarningItem := []
  cpuSat : ℕ := 0
  memSat : ℕ := 0
  diskSat : ℕ := 0
  netCong : ℕ := 0

/-- The class of a row in the distribution: its disk activity takes part. -/
def overviewClass (raw : ReportRowRaw) : Recommendation :=
  classifyHost (buildResourceStats raw raw.diskIopsBaseline)

/-- One round of the loop over the rows. -/
def tallyRow (t : OverviewTally) (raw : ReportRowRaw) : OverviewTally :=
  let stats := buildResourceStats raw raw.diskIopsBaseline
  let rec' := classifyHost stats
  { riskCounts := Function.update t.riskCounts rec' (t.riskCounts rec' + 1)
    underHosts :=
      if rec' = .underProvisioned then t.underHosts ++ [toCapacityWarningItem raw] else t.underHosts
    cpuSat := if cpuSaturated stats = some true then t.cpuSat + 1 else t.cpuSat
    memSat := if memSaturated stats = some true then t.memSat + 1 else t.memSat
    diskSat := if diskIoSaturated stats = some true then t.diskSat + 1 else t.diskSat
    netCong := if (assessNetwork stats).status = .congested then t.netCong + 1 else t.netCong }

structure SaturationDonut where
  label : String
  count : ℕ
  total : ℕ
  deriving DecidableEq, Repr

/-- The part of the overview that is derived from the report rows. -/
structure EnvironmentOverview where
  riskDonut : List RiskDonutSegment
  riskDonutTotal : ℕ
  riskHighCount : ℕ
  underProvisionedHosts : List CapacityWarningItem
  underProvisionedHostsCount : ℕ
  saturationDonuts : List SaturationDonut
  deriving DecidableEq, Repr

/-- The order of the short hosts: by falling severity, then by name. -/
def underHostLe (a b : CapacityWarningItem) : Bool :=
  b.severityScore < a.severityScore ||
    (a.severityScore = b.severityScore && a.hostname.toLower ≤ b.hostname.toLower)

/-- The overview of the rows of a page; `sampleSize` is the number of hosts that published
metrics and `underLimit` caps the list of short hosts. -/
def assembleOverview (sampleSize : ℕ) (raws : List ReportRowRaw) (underLimit : Option ℕ) :
    EnvironmentOverview :=
  let t := raws.foldl tallyRow {}
  let satTotal := max sampleSize (max t.cpuSat (max t.memSat (max t.diskSat t.netCong)))
  let segments := buildRiskDonutSegments t.riskCounts
  let underAll := t.underHosts.mergeSort underHostLe
  { riskDonut := segments.1
    riskDonutTotal := segments.2.1
    riskHighCount := segments.2.2
    underProvisionedHosts := match underLimit with
      | none => underAll
      | some limit => underAll.take limit
    underProvisionedHostsCount := underAll.length
    saturationDonuts :=
      [⟨"CPU 포화", t.cpuSat, satTotal⟩, ⟨"메모리 압박", t.memSat, satTotal⟩,
        ⟨"디스크 I/O 포화", t.diskSat, satTotal⟩, ⟨"네트워크 혼잡", t.netCong, satTotal⟩] }

/-! ## The detail rows -/

/-- The part of a detail row that is derived from the verdict on the host. -/
structure ReportRowItem where
  publicId : String
  hostname : String
  osFamily : Option String
  rootCauseLabel : String
  netCongested : Bool
  recommendation : Recommendation
  recommendationLabel : String
  deriving DecidableEq, Repr

/-- The detail row of a report row; the disk activity takes part. -/
def toReportRowItem (raw : ReportRowRaw) : ReportRowItem :=
  let stats := buildResourceStats raw raw.diskIopsBaseline
  let host := rollupHost stats
  let rec' := hostStatusToRecommendation host.hostStatus
  { publicId := raw.publicId
    hostname := raw.hostname
    osFamily := raw.osFamily
    rootCauseLabel := rootCauseDisplay host
    netCongested := host.networkCongested
    recommendation := rec'
    recommendationLabel := labelKo rec' }

/-! ## The three counts of a class -/

/-- The count of a class in the distribution. -/
def donutCount (overview : EnvironmentOverview) (c : Recommendation) : ℕ :=
  ((overview.riskDonut.filter fun s => s.key = c).map (·.count)).sum

/-- The number of table rows of a class. -/
def tableCount (targets : ActionTargets) (c : Recommendation) : ℕ :=
  targets.hosts.countP fun it => it.classification = c

/-- The number of detail rows of a class. -/
def detailCount (items : List ReportRowItem) (c : Recommendation) : ℕ :=
  items.countP fun it => it.recommendation = c

/-- The loop counts every row under its class, on top of the counts it starts with. -/
lemma foldl_tallyRow_riskCounts (raws : List ReportRowRaw) (t : OverviewTally)
    (c : Recommendation) :
    (raws.foldl tallyRow t).riskCounts c =
      t.riskCounts c + raws.countP fun raw => overviewClass raw = c := by
  induction raws generalizing t with
  | nil => simp
  | cons raw raws ih =>
    rw [List.foldl_cons, ih, List.countP_cons]
    have hstep : (tallyRow t raw).riskCounts c =
        t.riskCounts c + if overviewClass raw = c then 1 else 0 := by
      change Function.update t.riskCounts (overviewClass raw)
        (t.riskCounts (overviewClass raw) + 1) c = _
      by_cases hc : overviewClass raw = c
      · subst hc
        simp
      · rw [Function.update_of_ne (Ne.symm hc), if_neg hc, Nat.add_zero]
    rw [hstep]
    simp only [decide_eq_true_eq]
    omega

lemma donutCount_eq (sampleSize : ℕ) (raws : List ReportRowRaw) (underLimit : Option ℕ)
    (c : Recommendation) :
    donutCount (assembleOverview sampleSize raws underLimit) c =
      raws.countP fun raw => overviewClass raw = c := by
  have hcount : donutCount (assembleOverview sampleSize raws underLimit) c =
      (raws.foldl tallyRow {}).riskCounts c := by
    cases c <;> simp [donutCount, assembleOverview, buildRiskDonutSegments, donutSegmentDefs]
  rw [hcount, foldl_tallyRow_riskCounts]
  exact Nat.zero_add _

/-- Sorting the table does not change how often a class occurs in it. -/
lemma tableCount_eq (raws : List ReportRowRaw) (c : Recommendation) :
    tableCount (buildActionTargets raws) c =
      raws.countP fun raw => classifyHost (buildResourceStats raw none) = c := by
  unfold tableCount buildActionTargets
  rw [(List.mergeSort_perm _ _).countP_eq, List.countP_map]
  rfl

lemma detailCount_eq (raws : List ReportRowRaw) (c : Recommendation) :
    detailCount (raws.map toReportRowItem) c = raws.countP fun raw => overviewClass raw = c := by
  unfold detailCount
  rw [List.countP_map]
  rfl

/-! ## The effect of the disk activity -/

/-- The disk activity of the row is all that keeps it from being idle. -/
def diskActivityDecides (raw : ReportRowRaw) : Bool :=
  classifyHost (buildResourceStats raw none) = .idle &&
    raw.diskIopsBaseline.any fun iops => idleDiskIops < (iops : ℚ)

/-- Two hosts that differ only in that a further activity `busy` bars the second from being
idle have the same status, unless the first one is idle and that activity is present. -/
lemma hostStatus_of_busy {stats stats' : ResourceStats} {res res' : Resources}
    {ks ks' : List ResourceKind} {busy : Bool} (hks : ks' ≠ [] ↔ ks ≠ [])
    (hcpu : res'.cpu = res.cpu) (hmem : res'.memory = res.memory)
    (hidle : idleActivity stats' = (idleActivity stats && !busy)) :
    (hostStatus stats res ks = .idle ∧ busy = true ∧
        (hostStatus stats' res' ks' = .over ∨ hostStatus stats' res' ks' = .optimal)) ∨
      ¬(hostStatus stats res ks = .idle ∧ busy = true) ∧
        hostStatus stats' res' ks' = hostStatus stats res ks := by
  unfold hostStatus
  rw [hcpu, hmem, hidle]
  by_cases hne : ks ≠ []
  · rw [if_pos (hks.mpr hne), if_pos hne]
    simp
  rw [if_neg fun h => hne (hks.mp h), if_neg hne]
  by_cases hunmeasured : (unmeasuredOrInsufficient res.cpu.status &&
      unmeasuredOrInsufficient res.memory.status) = true
  · simp only [if_pos hunmeasured]
    simp
  simp only [if_neg hunmeasured]
  cases idleActivity stats with
  | false =>
    simp only [Bool.false_and, Bool.false_eq_true, if_false]
    refine Or.inr ⟨?_, trivial⟩
    split_ifs <;> simp
  | true =>
    cases busy with
    | false => simp
    | true =>
      refine Or.inl ⟨rfl, rfl, ?_⟩
      simp only [Bool.not_true, Bool.and_false, Bool.false_eq_true, if_false]
      split_ifs <;> simp

/-- With its disk activity a row keeps its class, unless that activity decides; then it is
over or optimal instead of idle. -/
lemma overviewClass_cases (raw : ReportRowRaw) :
    (diskActivityDecides raw = true ∧ classifyHost (buildResourceStats raw none) = .idle ∧
        (overviewClass raw = .overProvisioned ∨ overviewClass raw = .optimal)) ∨
      diskActivityDecides raw = false ∧
        overviewClass raw = classifyHost (buildResourceStats raw none) := by
  have hshort : shortKinds (assessResources (buildResourceStats raw raw.diskIopsBaseline)) ≠ [] ↔
      shortKinds (assessResources (buildResourceStats raw none)) ≠ [] := by
    rw [shortKinds_ne_nil_iff, shortKinds_ne_nil_iff]
    exact Iff.rfl
  have hidle : idleActivity (buildResourceStats raw raw.diskIopsBaseline) =
      (idleActivity (buildResourceStats raw none) &&
        !raw.diskIopsBaseline.any fun iops => idleDiskIops < (iops : ℚ)) := by
    cases hbase : raw.diskIopsBaseline <;> simp [idleActivity, buildResourceStats]
  have hidleClass (status : HostStatus) :
      hostStatusToRecommendation status = .idle ↔ status = .idle := by
    cases status <;> simp [hostStatusToRecommendation]
  -- besides the idle test only the disk I/O verdict reads the disk activity
  rcases hostStatus_of_busy hshort rfl rfl hidle with ⟨hquiet, hbusy, hclass⟩ | ⟨hnot, hclass⟩
  · have hzero : classifyHost (buildResourceStats raw none) = .idle := (hidleClass _).mpr hquiet
    refine Or.inl ⟨?_, hzero, ?_⟩
    · rw [diskActivityDecides, hzero, hbusy]
      rfl
    · exact hclass.imp (congrArg hostStatusToRecommendation) (congrArg hostStatusToRecommendation)
  · refine Or.inr ⟨?_, congrArg hostStatusToRecommendation hclass⟩
    rw [Bool.eq_false_iff]
    intro hdecides
    rw [diskActivityDecides, Bool.and_eq_true, decide_eq_true_eq] at hdecides
    exact hnot ⟨(hidleClass _).mp hdecides.1, hdecides.2⟩

/-- A count splits when the indicator of every element splits. -/
lemma countP_eq_add {α : Type*} {p q r : α → Bool} (l : List α)
    (h : ∀ x, (p x).toNat = (q x).toNat + (r x).toNat) : l.countP p = l.countP q + l.countP r := by
  induction l with
  | nil => rfl
  | cons x l ih =>
    have hx := h x
    rw [List.countP_cons, List.countP_cons, List.countP_cons, ih]
    revert hx
    cases p x <;> cases q x <;> cases r x <;> simp <;> omega

/-- The number of rows that the disk activity moves out of idle into the class `c`. -/
def movedCount (raws : List ReportRowRaw) (c : Recommendation) : ℕ :=
  raws.countP fun raw => diskActivityDecides raw && decide (overviewClass raw = c)

section Shift

variable (sampleSize : ℕ) (raws : List ReportRowRaw) (underLimit : Option ℕ)

lemma donutCount_eq_tableCount_add {c : Recommendation} (hc : c ≠ .idle) :
    donutCount (assembleOverview sampleSize raws underLimit) c =
      tableCount (buildActionTargets raws) c + movedCount raws c := by
  rw [donutCount_eq, tableCount_eq]
  refine countP_eq_add raws fun raw => ?_
  rcases overviewClass_cases raw with ⟨hdecides, hquiet, -⟩ | ⟨hdecides, hclass⟩
  · simp [hdecides, hquiet, Ne.symm hc]
  · simp [hdecides, hclass]

lemma tableCount_idle_eq_donutCount_add :
    tableCount (buildActionTargets raws) .idle =
      donutCount (assembleOverview sampleSize raws underLimit) .idle +
        raws.countP diskActivityDecides := by
  rw [donutCount_eq, tableCount_eq]
  refine countP_eq_add raws fun raw => ?_
  rcases overviewClass_cases raw with ⟨hdecides, hquiet, hclass⟩ | ⟨hdecides, hclass⟩
  · rcases hclass with hclass | hclass <;> simp [hdecides, hquiet, hclass]
  · simp [hdecides, hclass]

lemma movedCount_add :
    movedCount raws .overProvisioned + movedCount raws .optimal =
      raws.countP diskActivityDecides := by
  symm
  refine countP_eq_add raws fun raw => ?_
  rcases overviewClass_cases raw with ⟨hdecides, -, hclass⟩ | ⟨hdecides, -⟩
  · rcases hclass with hclass | hclass <;> simp [hdecides, hclass]
  · simp [hdecides]

lemma movedCount_eq_zero {c : Recommendation} (hover : c ≠ .overProvisioned) (hopt : c ≠ .optimal) :
    movedCount raws c = 0 := by
  rw [movedCount, List.countP_eq_zero]
  intro raw _
  rcases overviewClass_cases raw with ⟨-, -, hclass⟩ | ⟨hdecides, -⟩
  · rcases hclass with hclass | hclass <;> simp [hclass, Ne.symm hover, Ne.symm hopt]
  · simp [hdecides]

/-- How the distribution, the table and the detail rows of one page count their hosts. -/
structure CountsShift (raws : List ReportRowRaw) (donut table detail : Recommendation → ℕ) :
    Prop where
  detail : ∀ c, donut c = detail c
  underProvisioned : donut .underProvisioned = table .underProvisioned
  insufficientData : donut .insufficientData = table .insufficientData
  overProvisioned : donut .overProvisioned =
    table .overProvisioned + movedCount raws .overProvisioned
  optimal : donut .optimal = table .optimal + movedCount raws .optimal
  idle : table .idle = donut .idle + movedCount raws .overProvisioned + movedCount raws .optimal
  agree_iff : (∀ c, donut c = table c) ↔ ∀ raw ∈ raws, diskActivityDecides raw = false

/-- The distribution and the detail rows of a page always agree.  The distribution and the
table agree on the short and the unmeasured hosts, and differ on the others by the hosts that
only their disk activity keeps from being idle; they agree on every class exactly when there
is no such host. -/
theorem pageCounts_shift :
    CountsShift raws (donutCount (assembleOverview sampleSize raws underLimit))
      (tableCount (buildActionTargets raws)) (detailCount (raws.map toReportRowItem)) := by
  set donut := donutCount (assembleOverview sampleSize raws underLimit) with hdonut
  set table := tableCount (buildActionTargets raws)
  have hother {c : Recommendation} (hc : c ≠ .idle) : donut c = table c + movedCount raws c :=
    donutCount_eq_tableCount_add sampleSize raws underLimit hc
  have hidle : table .idle = donut .idle + raws.countP diskActivityDecides :=
    tableCount_idle_eq_donutCount_add sampleSize raws underLimit
  have hmoved := movedCount_add raws
  refine ⟨?_, ?_, ?_, hother (by simp), hother (by simp), by omega, ?_⟩
  · intro c
    rw [hdonut, donutCount_eq, detailCount_eq]
  · rw [hother (by simp), movedCount_eq_zero raws (by simp) (by simp), Nat.add_zero]
  · rw [hother (by simp), movedCount_eq_zero raws (by simp) (by simp), Nat.add_zero]
  · have hzero : (∀ raw ∈ raws, diskActivityDecides raw = false) ↔
        raws.countP diskActivityDecides = 0 := by
      rw [List.countP_eq_zero]
      simp only [Bool.not_eq_true]
    rw [hzero]
    constructor
    · intro hagree
      have := hagree .idle
      omega
    · intro hnone c
      by_cases hc : c = .idle
      · subst hc
        omega
      · have hle : movedCount raws c ≤ raws.countP diskActivityDecides := by
          refine List.countP_mono_left fun raw _ h => ?_
          rw [Bool.and_eq_true] at h
          exact h.1
        rw [hother hc]
        omega

end Shift

/-- A server without load and traffic whose disk is busy. -/
def busyDiskRow : ReportRowRaw :=
  { publicId := "s1", hostname := "backup-1", osFamily := some "linux", cpuP95Pct := some 1,
    cpuPeakPct := some 2, memP95Pct := some 50, memNearPeakPct := some 80, cpuCores := some 1,
    memTotalBytes := some (8 * 1024 ^ 3), procsRunningP95 := some 0, netRxKbps := some 1,
    netTxKbps := some 1, diskIopsBaseline := some 200 }

/-- The table shows the server as idle, the distribution as optimal. -/
theorem busyDiskRow_counts_differ :
    ¬∀ c, donutCount (assembleOverview 1 [busyDiskRow] none) c =
      tableCount (buildActionTargets [busyDiskRow]) c := by
  intro hagree
  have hidle := hagree .idle
  rw [donutCount_eq, tableCount_eq] at hidle
  exact absurd hidle (by decide +kernel)

end AssessmentEngine
