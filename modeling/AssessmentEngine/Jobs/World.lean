import Mathlib.Data.List.Sort
import Mathlib.Logic.Function.Basic
import AssessmentEngine.Library.Runs
import AssessmentEngine.Jobs.Job

/-!
# Web processes and workers on the job table

`DiagnosticService` and the loop of `run_report_worker` as one transition system.  Every statement
of `enqueue_report` and `emit_report` is a step of its own, because between two of them any other
process may act; the transactions of a worker are single updates and one step each.  A worker may
be started, may stall for any time and may stop at any step, and a transaction may fail, or commit
without its client learning so.

`World.rows` is the committed table, which every statement reads (READ COMMITTED);
`World.uncommitted` holds the insertions of transactions still open, which only the unique index
sees.  An insertion that meets one with its own key waits for the end of that transaction, and is no
step until then; it gives up when it meets a committed row.
-/

namespace AssessmentEngine

open Table Runs

/-! ## Requests -/

/-- The arguments that `enqueue_report` and `emit_report` share. -/
structure ReportRequest where
  view : String
  scope : String
  serverPublicIds : List String
  timeRange : String
  anchorAt : String
  requestedBy : Option String
  deriving DecidableEq, Repr

/-- `json.dumps` with sorted keys and `hashlib.sha256(…).hexdigest()`. -/
structure Hashing where
  dumps : InputParams → String
  sha256Hex : String → String

/-- `_build_input_params`. -/
def buildInputParams (req : ReportRequest) : InputParams where
  view := req.view
  serverPublicIds := req.serverPublicIds.insertionSort (· ≤ ·)
  timeRange := req.timeRange
  anchorAt := req.anchorAt
  serverPublicId :=
    if req.scope = "server" ∧ req.serverPublicIds.length = 1 then req.serverPublicIds.head?
    else none

/-- `compute_hash`. -/
def computeHash (h : Hashing) (scope : String) (inputParams : InputParams) : String :=
  h.sha256Hex (scope ++ "|" ++ h.dumps inputParams)

/-- The job that both services hand to the repository. -/
def ReportRequest.create (h : Hashing) (req : ReportRequest) : DiagnosticJobCreate where
  key :=
    { scope := req.scope
      inputHash := computeHash h req.scope (buildInputParams req)
      jobType := req.view ++ "_report" }
  inputParams := buildInputParams req
  requestedBy := req.requestedBy

/-- `_ENQUEUE_MAX_ATTEMPTS`. -/
def enqueueMaxAttempts : ℕ := 2

/-- `enqueue_report`, or `emit_report` with the finished snapshot. -/
inductive CallKind
  | enqueueReport
  | emitReport (result : JsonObject)
  deriving DecidableEq, Repr

/-- A call of one of the two services. -/
structure Call where
  kind : CallKind
  job : DiagnosticJobCreate
  deriving DecidableEq, Repr

/-! ## States -/

/-- Where a web process (or a worker that emits a child report) stands in its call. -/
inductive ClientState
  | idle
  | attempting (call : Call) (attempt : ℕ)
  | inserted (call : Call) (id : ℕ)
  | conflicted (call : Call) (attempt : ℕ)
  | selected (call : Call) (attempt : ℕ) (active : Option ℕ)
  | returned (call : Call) (id : Option ℕ)
  | raised (call : Call)
  deriving DecidableEq, Repr

/-- Where a worker stands in its loop.  `generating` and `failing` hold the job it has claimed and
the `started_at` it was handed. -/
inductive WorkerState
  | off
  | starting
  | idle
  | generating (id claimedAt : ℕ)
  | failing (id claimedAt : ℕ) (errorMessage : String)
  deriving DecidableEq, Repr

/-- The job a worker is processing and the time of its claim. -/
def WorkerState.processing : WorkerState → Option (ℕ × ℕ)
  | .generating id claimedAt => some (id, claimedAt)
  | .failing id claimedAt _ => some (id, claimedAt)
  | _ => none

structure World where
  now : ℕ
  rows : List JobRow
  uncommitted : List (ℕ × JobRow)
  clients : ℕ → ClientState
  workers : ℕ → WorkerState

/-- An empty table, and nobody at work. -/
def World.init : World where
  now := 0
  rows := []
  uncommitted := []
  clients := fun _ => .idle
  workers := fun _ => .off

/-- The rows that the unique index covers. -/
def World.index (s : World) : List JobRow :=
  s.rows ++ s.uncommitted.map Prod.snd

/-- A transaction is open that has inserted an active job with the key. -/
def World.blocks (s : World) (key : JobKey) : Bool :=
  s.uncommitted.any fun e => e.2.active && decide (e.2.key = key)

/-- The committed row of a job. -/
def World.job (s : World) (id : ℕ) : Option JobRow :=
  findId JobRow.id id s.rows

/-! ## Steps -/

/-- How a transaction ends for its client. -/
inductive Outcome
  | committed
  | rolledBack
  | unacknowledged
  deriving DecidableEq, Repr

/-- The transaction has taken effect. -/
def Outcome.persists : Outcome → Bool
  | .rolledBack => false
  | _ => true

/-- The client sees an exception. -/
def Outcome.raises : Outcome → Bool
  | .committed => false
  | _ => true

inductive Action
  | tick (elapsed : ℕ)
  | call (c : ℕ) (kind : CallKind) (req : ReportRequest)
  | insert (c id : ℕ)
  | commit (c : ℕ)
  | select (c : ℕ)
  | rollback (c : ℕ)
  | abandon (c : ℕ)
  | startWorker (w : ℕ)
  | recoverStale (w staleSeconds : ℕ) (outcome : Outcome)
  | claimPending (w : ℕ) (locked : List ℕ) (outcome : Outcome)
  | finishSucceeded (w : ℕ) (result : JsonObject) (outcome : Outcome)
  | generationFails (w : ℕ) (errorMessage : String)
  | finishFailed (w : ℕ) (outcome : Outcome)
  | stopWorker (w : ℕ)
  deriving DecidableEq, Repr

/-- A client moves on. -/
def World.setClient (s : World) (c : ℕ) (state : ClientState) : World :=
  { s with clients := Function.update s.clients c state }

/-- A worker moves on. -/
def World.setWorker (s : World) (w : ℕ) (state : WorkerState) : World :=
  { s with workers := Function.update s.workers w state }

/-- A transaction on the table takes effect, or does not. -/
def World.transact (s : World) (outcome : Outcome) (f : List JobRow → List JobRow) : World :=
  if outcome.persists then { s with rows := f s.rows } else s

/-- The end of an open insertion: its rows leave `uncommitted`, and `f` of them is committed. -/
def World.closeInsert (s : World) (c : ℕ) (f : List JobRow → List JobRow) : World :=
  { s with
    rows := s.rows ++ f ((s.uncommitted.filter fun e => decide (e.1 = c)).map Prod.snd)
    uncommitted := s.uncommitted.filter fun e => !decide (e.1 = c) }

/-- The insertion of one attempt.  Ids come from `gen_random_uuid()`, so a used one is no step, and
neither is an insertion that has to wait. -/
def stepInsert (c id : ℕ) (s : World) : Option World :=
  match s.clients c with
  | .attempting call attempt =>
    if s.index.any fun r => decide (r.id = id) then none
    else if s.blocks call.job.key then none
    else match enqueue s.now id call.job s.rows with
      | none => some (s.setClient c (.conflicted call attempt))
      | some r =>
        some { s.setClient c (.inserted call id) with uncommitted := s.uncommitted ++ [(c, r)] }
  | _ => none

/-- The commit after a successful insertion; `emit_report` marks the job succeeded before it. -/
def stepCommit (c : ℕ) (s : World) : Option World :=
  match s.clients c with
  | .inserted call id =>
    let mark := match call.kind with
      | .enqueueReport => fun rows => rows
      | .emitReport result => markSucceeded s.now id result
    some ((s.closeInsert c mark).setClient c (.returned call (some id)))
  | _ => none

/-- The lookup after a conflict. -/
def stepSelect (c : ℕ) (s : World) : Option World :=
  match s.clients c with
  | .conflicted call attempt =>
    some (s.setClient c (.selected call attempt (getActiveByHash call.job.key s.rows)))
  | _ => none

/-- The rollback after the lookup, and what the service makes of it: `emit_report` returns what it
found, `enqueue_report` tries again when it found nothing and gives up after the last attempt. -/
def stepRollback (c : ℕ) (s : World) : Option World :=
  match s.clients c with
  | .selected call attempt active =>
    match call.kind, active with
    | .emitReport _, _ => some (s.setClient c (.returned call active))
    | .enqueueReport, some id => some (s.setClient c (.returned call (some id)))
    | .enqueueReport, none =>
      if attempt < enqueueMaxAttempts then some (s.setClient c (.attempting call (attempt + 1)))
      else some (s.setClient c (.raised call))
  | _ => none

/-- The client dies, or its session raises a database error: an open insertion is undone. -/
def stepAbandon (c : ℕ) (s : World) : World :=
  (s.closeInsert c fun _ => []).setClient c .idle

/-- `recover_stale`, once when the worker starts; an error is logged and the loop entered. -/
def stepRecover (w staleSeconds : ℕ) (outcome : Outcome) (s : World) : Option World :=
  match s.workers w with
  | .starting =>
    some ((s.transact outcome (recoverStaleRunning s.now staleSeconds)).setWorker w .idle)
  | _ => none

/-- `claim_pending`; an error leaves the worker polling. -/
def stepClaim (w : ℕ) (locked : List ℕ) (outcome : Outcome) (s : World) : Option World :=
  match s.workers w with
  | .idle =>
    match claimNextPending s.now locked s.rows with
    | (none, _) => some s
    | (some r, rows) =>
      let state := if outcome.raises then WorkerState.idle else .generating r.id s.now
      some ((s.transact outcome fun _ => rows).setWorker w state)
  | _ => none

/-- `finish_succeeded`; an exception in it is handled as an internal error of the generation. -/
def stepSucceed (w : ℕ) (result : JsonObject) (outcome : Outcome) (s : World) : Option World :=
  match s.workers w with
  | .generating id claimedAt =>
    let state := if outcome.raises then WorkerState.failing id claimedAt "internal error" else .idle
    some ((s.transact outcome (markSucceeded s.now id result)).setWorker w state)
  | _ => none

/-- The generation raises; the message is the one that `finish_failed` is called with. -/
def stepGenerationFails (w : ℕ) (errorMessage : String) (s : World) : Option World :=
  match s.workers w with
  | .generating id claimedAt => some (s.setWorker w (.failing id claimedAt errorMessage))
  | _ => none

/-- `finish_failed`; an error in it is caught by the loop. -/
def stepFail (w : ℕ) (outcome : Outcome) (s : World) : Option World :=
  match s.workers w with
  | .failing id _ errorMessage =>
    some ((s.transact outcome (markFailed s.now id errorMessage)).setWorker w .idle)
  | _ => none

/-- One step of the system. -/
def step (h : Hashing) : Action → World → Option World
  | .tick elapsed, s => some { s with now := s.now + elapsed }
  | .call c kind req, s =>
    match s.clients c with
    | .idle | .returned _ _ | .raised _ =>
      some (s.setClient c (.attempting ⟨kind, req.create h⟩ 1))
    | _ => none
  | .insert c id, s => stepInsert c id s
  | .commit c, s => stepCommit c s
  | .select c, s => stepSelect c s
  | .rollback c, s => stepRollback c s
  | .abandon c, s => some (stepAbandon c s)
  | .startWorker w, s => if s.workers w = .off then some (s.setWorker w .starting) else none
  | .recoverStale w staleSeconds outcome, s => stepRecover w staleSeconds outcome s
  | .claimPending w locked outcome, s => stepClaim w locked outcome s
  | .finishSucceeded w result outcome, s => stepSucceed w result outcome s
  | .generationFails w errorMessage, s => stepGenerationFails w errorMessage s
  | .finishFailed w outcome, s => stepFail w outcome s
  | .stopWorker w, s => some (s.setWorker w .off)

/-! ## A sample request -/

/-- Canonical text and digest of `environmentRequest`. -/
def environmentHashing : Hashing where
  dumps _ :=
    "\x7b\"anchor_at\":\"2026-01-01T00:00:00+00:00\",\"server_public_ids\":[]," ++
      "\"time_range\":\"7d\",\"view\":\"customer\"\x7d"
  sha256Hex _ := "e7129db5fbf2a576d8bdae07ef444417298af7dcc39b06d8b4ae5234a686c306"

def environmentRequest : ReportRequest where
  view := "customer"
  scope := "environment"
  serverPublicIds := []
  timeRange := "7d"
  anchorAt := "2026-01-01T00:00:00+00:00"
  requestedBy := none

end AssessmentEngine
