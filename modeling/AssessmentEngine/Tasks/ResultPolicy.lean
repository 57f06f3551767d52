import AssessmentEngine.Tasks.Task

/-!
# How a `task.result` message is rated

`TaskResultInput` with the bounds of its schema, and `effective_task_result`: the reported install
signal `task_policy` decides where it is present; without it a failed script may count as a success
by its exit code; everything else passes as reported.
-/

namespace AssessmentEngine

/-- `TaskResultInput`, as far as the handler reads it, with the lengths its schema enforces.
`message_id` is a UUID and `os_family` one of two literals. -/
structure TaskResultInput where
  messageId : String
  osFamily : String
  osId : Option String
  osVersion : Option String
  taskId : String
  status : String
  failureReason : Option String
  exitCode : Option ℤ
  signalNo : Option ℤ
  taskPolicy : Option Bool
  durationMs : ℕ
  stdoutTail : String
  stderrTail : String
  completedAt : ℤ
  osFamily_literal : osFamily = "linux" ∨ osFamily = "windows"
  status_length : 1 ≤ status.length ∧ status.length ≤ 32

/-- `ConsumerSettings.task_install_success_exit_codes`. -/
abbrev SuccessExitCodes := List (String × List ℤ)

/-- The default of `task_install_success_exit_codes`. -/
def taskInstallSuccessExitCodes : SuccessExitCodes :=
  [("windows", [2]), ("rocky:9", [3]), ("almalinux:9", [3]), ("ol:9", [3]), ("centos:9", [3])]

/-- The keys under which an exit code may be allowed, the most specific first. -/
def exitCodeKeys (osFamily osVersion osId : Option String) : List String :=
  if osFamily = some "windows" then
    (nonempty osVersion).toList ++ ["windows"]
  else if osFamily = some "linux" then
    match nonempty osId, nonempty osVersion with
    | some id, some version => [id ++ ":" ++ (version.splitOn ".").headD ""]
    | _, _ => []
  else []

/-- `effective_task_result`: the status and the failure reason to store. -/
def effectiveTaskResult (status : String) (failureReason : Option String) (exitCode : Option ℤ)
    (osFamily osVersion osId : Option String) (successExitCodes : SuccessExitCodes)
    (taskPolicy : Option Bool) : String × Option String :=
  match taskPolicy with
  | some true => ("success", none)
  | some false => ("failure", some ((nonempty failureReason).getD "install_unverified"))
  | none =>
    match exitCode with
    | none => (status, failureReason)
    | some code =>
      if status ≠ "failure" ∨ failureReason ≠ some "script_failed" then (status, failureReason)
      else if (exitCodeKeys osFamily osVersion osId).any fun key =>
          (successExitCodes.lookup key).any fun allowed => decide (code ∈ allowed) then
        ("success", none)
      else (status, failureReason)

/-- The rating changes a status to success or failure, or keeps it. -/
lemma effectiveTaskResult_status (status : String) (failureReason : Option String)
    (exitCode : Option ℤ) (osFamily osVersion osId : Option String)
    (successExitCodes : SuccessExitCodes) (taskPolicy : Option Bool) :
    let eff := (effectiveTaskResult status failureReason exitCode osFamily osVersion osId
      successExitCodes taskPolicy).1
    eff = "success" ∨ eff = "failure" ∨ eff = status := by
  unfold effectiveTaskResult
  rcases taskPolicy with _ | _ | _
  · cases exitCode with
    | none => exact Or.inr (Or.inr rfl)
    | some code =>
      by_cases hscript : status ≠ "failure" ∨ failureReason ≠ some "script_failed"
      · simp [hscript]
      · simp only [if_neg hscript]
        split_ifs
        · exact Or.inl rfl
        · simp
  · exact Or.inr (Or.inl rfl)
  · exact Or.inl rfl

/-- What the consumer is set up with: the allow-list, and `UUID(…)` on a task id. -/
structure ConsumerConfig where
  successExitCodes : SuccessExitCodes
  canonicalUuid : String → Option String

/-- The rating of a message. -/
def TaskResultInput.effective (cfg : ConsumerConfig) (msg : TaskResultInput) :
    String × Option String :=
  effectiveTaskResult msg.status msg.failureReason msg.exitCode (some msg.osFamily) msg.osVersion
    msg.osId cfg.successExitCodes msg.taskPolicy

/-- The update that the handler hands to `complete_task`: codes as reported, status and reason as
rated. -/
def TaskResultInput.toUpdate (cfg : ConsumerConfig) (publicId : String) (msg : TaskResultInput) :
    TaskResultUpdate where
  publicId := publicId
  status := (msg.effective cfg).1
  failureReason := (msg.effective cfg).2
  exitCode := msg.exitCode
  signalNo := msg.signalNo
  taskPolicy := msg.taskPolicy
  durationMs := msg.durationMs
  stdoutTail := msg.stdoutTail
  stderrTail := msg.stderrTail
  completedAt := msg.completedAt

/-- A message that reports success or failure is rated as one of the two. -/
lemma TaskResultInput.effective_status (cfg : ConsumerConfig) {msg : TaskResultInput}
    (h : msg.status = "success" ∨ msg.status = "failure") :
    (msg.effective cfg).1 = "success" ∨ (msg.effective cfg).1 = "failure" := by
  rcases effectiveTaskResult_status msg.status msg.failureReason msg.exitCode (some msg.osFamily)
    msg.osVersion msg.osId cfg.successExitCodes msg.taskPolicy with heff | heff | heff
  · exact Or.inl heff
  · exact Or.inr heff
  · rw [TaskResultInput.effective, heff]
    exact h

end AssessmentEngine
