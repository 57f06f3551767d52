import AssessmentEngine.Consumer.InventoryStorage
import AssessmentEngine.Consumer.MetricStorage

/-!
# Which messages can be stored

A message of the wire is stored when its mapper returns and each value fits the column that it is
written to.  The models of the wire do not see to that: each kind of message has its own condition,
and a message is stored exactly under it (`stored_iff`).
-/

namespace AssessmentEngine

open Sql

/-! ## Task results -/

/-- Numbers are in the range of their columns and what is written of the texts is clean: the status
and the reason only where the install signal does not replace them. -/
@[mk_iff]
structure AcceptedTaskResult.Storable (t : AcceptedTaskResult) : Prop where
  status : t.taskPolicy = none → CleanText t.status
  failureReason : t.taskPolicy ≠ some true → ∀ reason ∈ t.failureReason, CleanText reason
  exitCode : ∀ n ∈ t.exitCode, -2 ^ 15 ≤ n ∧ n < 2 ^ 15
  signalNo : ∀ n ∈ t.signalNo, -2 ^ 15 ≤ n ∧ n < 2 ^ 15
  durationMs : t.durationMs < 2 ^ 63
  stdoutTail : CleanText t.stdoutTail
  stderrTail : CleanText t.stderrTail
  completedAt : HasDate t.completedAt

section Rating

variable (cfg : ConsumerConfig) (t : AcceptedTaskResult)

lemma length_effective_status : (t.effective cfg).1.length ≤ 32 := by
  rcases effectiveTaskResult_status t.status t.failureReason t.exitCode (some t.osFamily)
    t.osVersion t.osId cfg.successExitCodes t.taskPolicy with heff | heff | heff
  · rw [TaskResultInput.effective, heff]
    decide
  · rw [TaskResultInput.effective, heff]
    decide
  · rw [TaskResultInput.effective, heff]
    exact t.status_length.2

/-- The rating keeps what is reported, or replaces it by texts of its own. -/
lemma effective_cases (hpolicy : t.taskPolicy = none) :
    t.effective cfg = (t.status, t.failureReason) ∨
      t.effective cfg = ("success", none) ∧ t.status = "failure" ∧
        t.failureReason = some "script_failed" := by
  unfold TaskResultInput.effective effectiveTaskResult
  rw [hpolicy]
  cases hcode : t.exitCode with
  | none => exact Or.inl rfl
  | some code =>
    by_cases hscript : t.status ≠ "failure" ∨ t.failureReason ≠ some "script_failed"
    · exact Or.inl (if_pos hscript)
    · simp only [if_neg hscript]
      rw [not_or, not_not, not_not] at hscript
      split_ifs
      · exact Or.inr ⟨rfl, hscript⟩
      · exact Or.inl rfl

/-- A reason that is not there, or empty, is replaced by one that fits. -/
lemma fits_install_unverified :
    FitsText 32 ((nonempty t.failureReason).getD "install_unverified") ↔
      ∀ reason ∈ t.failureReason, CleanText reason := by
  have hdefault : FitsText 32 "install_unverified" := ⟨by decide, by decide⟩
  cases hreason : t.failureReason with
  | none => exact iff_of_true hdefault nofun
  | some reason =>
    have hlength : reason.length ≤ 32 := t.failureReason_length reason hreason
    simp only [nonempty, Option.mem_def, Option.some.injEq, forall_eq']
    by_cases hempty : reason = ""
    · rw [hempty]
      exact iff_of_true hdefault (by decide)
    · have hkeep : (some reason).filter (fun s => !s.isEmpty) = some reason := by
        simp [hempty]
      rw [hkeep, Option.getD_some]
      exact and_iff_right hlength

/-- The status and the reason fit exactly when what is kept of the reported ones is clean. -/
lemma fits_effective_iff :
    FitsText 32 (t.effective cfg).1 ∧ (∀ r ∈ (t.effective cfg).2, FitsText 32 r) ↔
      (t.taskPolicy = none → CleanText t.status) ∧
        (t.taskPolicy ≠ some true → ∀ reason ∈ t.failureReason, CleanText reason) := by
  have hstatus : FitsText 32 (t.effective cfg).1 ↔ CleanText (t.effective cfg).1 :=
    and_iff_right (length_effective_status cfg t)
  have hreason : ∀ r ∈ t.failureReason, (FitsText 32 r ↔ CleanText r) :=
    fun r hr => and_iff_right (t.failureReason_length r hr)
  rw [hstatus]
  cases hpolicy : t.taskPolicy with
  | none =>
    rcases effective_cases cfg t hpolicy with heff | ⟨heff, hfailure, hscript⟩
    · rw [heff]
      simp only [forall_const, ne_eq, reduceCtorEq, not_false_eq_true]
      exact and_congr_right' (forall₂_congr hreason)
    · rw [heff, hfailure, hscript]
      simp +decide
  | some installed =>
    have heff : t.effective cfg =
        effectiveTaskResult t.status t.failureReason t.exitCode (some t.osFamily) t.osVersion t.osId
          cfg.successExitCodes (some installed) := by rw [TaskResultInput.effective, hpolicy]
    rw [heff]
    cases installed with
    | true => simp +decide [effectiveTaskResult]
    | false =>
      simp only [effectiveTaskResult, Option.mem_def, Option.some.injEq, forall_eq', reduceCtorEq,
        false_imp_iff, true_and, ne_eq, not_false_eq_true, forall_const, Bool.false_eq_true]
      rw [fits_install_unverified]
      exact and_iff_right (by decide)

end Rating

lemma fits_taskRow_iff (cfg : ConsumerConfig) (publicId : String) (t : AcceptedTaskResult) :
    (taskRow (t.toUpdate cfg publicId)).Fits ↔ t.Storable := by
  have heff := fits_effective_iff cfg t
  rw [AcceptedTaskResult.storable_iff]
  simp only [taskRow, TaskResultInput.toUpdate, Row.fits_cons, Row.fits_nil,
    fits_requiredCell_text, takes_string, fits_timeCell, fits_stringCell, fits_intCell,
    fits_textCell, fits_flagCell, Option.mem_def, Option.some.injEq, forall_eq', and_true]
  have hduration : SqlType.bigInteger.Takes (.int t.durationMs) ↔ t.durationMs < 2 ^ 63 := by
    simp only [SqlType.Takes]
    omega
  have hcode : ∀ n, SqlType.smallInteger.Takes (.int n) ↔ -2 ^ 15 ≤ n ∧ n < 2 ^ 15 :=
    fun n => Iff.rfl
  simp only [hduration, hcode]
  simp only [Option.mem_def] at heff
  tauto

/-! ## Messages -/

/-- A message that the wire schemas accept. -/
inductive WireMessage
  | metrics (data : MetricsInput)
  | inventory (data : InventoryInput)
  | taskResult (t : AcceptedTaskResult)

/-- The mapper returns and what it returns fits its columns.  A metrics message may also enter its
host; a task result is written only where its task id is a UUID. -/
def WireMessage.Stored (u : Unicode) (cfg : ConsumerConfig) : WireMessage → Prop
  | metrics data => Returns ServerMetricCreate.Fits (toMetricCreate u data) ∧
      (placeholderInventory data.toAgentMessageBase).Fits
  | inventory data => (toInventoryCreate u data).Fits
  | taskResult t => ∀ publicId ∈ cfg.canonicalUuid t.taskId,
      (taskRow (t.toUpdate cfg publicId)).Fits

/-- What is read of the message can be stored. -/
def WireMessage.Storable (u : Unicode) (cfg : ConsumerConfig) : WireMessage → Prop
  | metrics data => data.Storable u ∧ data.toAgentMessageBase.Storable
  | inventory data => data.Storable
  | taskResult t => (cfg.canonicalUuid t.taskId).isSome → t.Storable

/-- A message is stored exactly when what is read of it can be. -/
theorem stored_iff (u : Unicode) (cfg : ConsumerConfig) (msg : WireMessage) :
    msg.Stored u cfg ↔ msg.Storable u cfg := by
  cases msg with
  | metrics data =>
    exact and_congr (returns_toMetricCreate_iff u data)
      (fits_placeholderInventory_iff data.toAgentMessageBase)
  | inventory data => exact fits_toInventoryCreate_iff u data
  | taskResult t =>
    cases hid : cfg.canonicalUuid t.taskId with
    | none => simp [WireMessage.Stored, WireMessage.Storable, hid]
    | some publicId =>
      simp only [WireMessage.Stored, WireMessage.Storable, hid, Option.mem_def, Option.some.injEq,
        forall_eq', Option.isSome_some, forall_const]
      exact fits_taskRow_iff cfg publicId t

/-- The agent of the example below. -/
def agentUuid : String :=
  String.ofList (List.replicate 8 '1' ++ ['-'] ++ List.replicate 4 '1' ++ ['-'] ++
    List.replicate 4 '1' ++ ['-'] ++ List.replicate 4 '1' ++ ['-'] ++ List.replicate 12 '1')

lemma uuidText_agentUuid : agentUuid.length = 36 ∧ ∀ c ∈ agentUuid.toList, c ∈ uuidChars := by
  have hone : '1' ∈ uuidChars := by decide
  have hdash : '-' ∈ uuidChars := by decide
  unfold agentUuid
  rw [String.length_ofList, String.toList_ofList]
  simp only [List.forall_mem_append, List.mem_replicate, List.forall_mem_singleton]
  refine ⟨by simp, ?_⟩
  and_intros <;> first | exact hdash | exact fun c hc => hc.2 ▸ hone

/-- An install script that was interrupted on Windows, which reports the code `0xC000013A`. -/
def interruptedInstall : AcceptedTaskResult where
  messageId := "7b0e4c5e-3f0f-4b52-9a55-0d6f3c1f2a01"
  osFamily := "windows"
  osId := none
  osVersion := some "10.0.20348"
  taskId := "0b9a3a0e-98a3-4f0a-8ad7-64a3b0a4c1d2"
  status := "failure"
  failureReason := some "script_failed"
  exitCode := some 3221225786
  signalNo := none
  taskPolicy := none
  durationMs := 1200
  stdoutTail := ""
  stderrTail := ""
  completedAt := 1750000000000000
  osFamily_literal := Or.inr rfl
  status_length := ⟨by decide, by decide⟩
  failureReason_length := by
    intro reason h
    cases h
    decide

/-- A memory limit of `1e400`, which is read as an infinity. -/
def infiniteLimit : MetricsInput where
  agentId := ⟨agentUuid, uuidText_agentUuid⟩
  compositeId := none
  machineId := none
  agentVersion := none
  collectedAt := 1750000000000000
  bootTime := none
  agentStartedAt := none
  osFamily := .linux
  systemCpu := none
  systemMemory := some [("memory.limit", ⟨[⟨[], some (.infinite false)⟩]⟩)]
  systemDisk := none
  systemNetwork := none
  systemPaging := none
  systemFilesystem := none
  systemPressure := none

/-- The exit code is too large for its column, and the mapper raises on the limit. -/
theorem interruptedInstall_not_stored :
    (∀ (u : Unicode) (cfg : ConsumerConfig),
      cfg.canonicalUuid interruptedInstall.taskId = some interruptedInstall.taskId →
        ¬ (WireMessage.taskResult interruptedInstall).Stored u cfg) ∧
      (∀ u : Unicode, toMetricCreate u infiniteLimit = none) ∧
      ∀ (u : Unicode) (cfg : ConsumerConfig),
        ¬ (WireMessage.metrics infiniteLimit).Stored u cfg := by
  have hraises : ∀ u : Unicode, toMetricCreate u infiniteLimit = none := fun u => rfl
  refine ⟨fun u cfg hid hstored => ?_, hraises, fun u cfg hstored => ?_⟩
  · have hrow : (taskRow (interruptedInstall.toUpdate cfg interruptedInstall.taskId)).Fits :=
      hstored _ hid
    have hcode : (3221225786 : ℤ) < 2 ^ 15 :=
      (((fits_taskRow_iff cfg _ _).mp hrow).exitCode 3221225786 rfl).2
    exact absurd hcode (by decide)
  · obtain ⟨data, hdata, _⟩ := hstored.1
    rw [hraises u] at hdata
    cases hdata

end AssessmentEngine
