import Jiejian.Jobs.Targets

namespace Jiejian.Jobs.Queue
open Jiejian.Errors Jiejian.Library.Outcome
open Jiejian.Jobs.Records Jiejian.Jobs.Models Jiejian.Jobs.Repository Jiejian.Jobs.Control Jiejian.Jobs.Targets

variable {ρ ν : Type}

/-- What the services are built with. The secret scan and the recordings' claim condition are read
only through these two predicates. -/
structure Service (ρ ν : Type) where
  payloadSafe : List String → Payload → Bool
  recordingStartable : ρ → String → Bool
  targets : JobTargetRegistry (Targets ρ) ν
  retryPolicy : RetryPolicy

structure JobSubmissionResult where
  created : Bool
  job : JobRow
  run : RunRow

structure JobMutationResult (ν : Type) where
  job : JobRow
  view : TargetView ν

structure CancellationResult (ν : Type) extends JobMutationResult ν where
  firstRequestedAtUs : Nat
  completed : Bool

/-- Callbacks of a submission: they may refuse, and write rows that are neither jobs nor runs. -/
structure SubmissionHooks (ρ : Type) where
  precondition : Db ρ → Except JiejianError ρ
  onCreated : Db ρ → RunRow → Except JiejianError ρ

/-- The identifiers `uuid4` supplies when the request names none. -/
structure GeneratedIds where
  runId : String
  jobId : String

def existingSubmission (db : Db ρ) (job : JobRow) (request : SubmitJob) : Except JiejianError JobSubmissionResult := do
  require (job.requestHash = request.requestHash) ⟨.JOB_IDEMPOTENCY_CONFLICT, "幂等键对应的请求内容不一致"⟩
  match job.target with
  | .run runId =>
    let run ← orRaise (db.targets.run runId) ⟨.JOB_PERSISTENCE, "任务关联运行不存在"⟩
    return ⟨false, job, run⟩
  | _ => .error ⟨.JOB_PERSISTENCE, "任务关联运行不存在"⟩

def submittedRun (request : SubmitJob) (runId : String) : RunRow :=
  { runId, projectId := request.projectId, requestHash := request.requestHash,
    planFingerprint := request.planFingerprint, sourceFingerprint := request.sourceFingerprint,
    policyEpoch := request.policyEpoch, engineVersion := request.engineVersion, lifecycle := .queued,
    verdict := none, createdAtUs := request.nowUs, updatedAtUs := request.nowUs, finishedAtUs := none }

def submittedJob (request : SubmitJob) (runId jobId : String) : JobRow :=
  { jobId, projectId := request.projectId, target := .run runId, operationType := request.operationType,
    state := .pending, idempotencyKey := request.idempotencyKey, requestHash := request.requestHash, attempt := 0,
    maxAttempts := request.maxAttempts, availableAtUs := request.availableAtUs, leaseOwner := none,
    fencingToken := 0, leaseExpiresAtUs := none, cancelRequestedAtUs := none, createdAtUs := request.nowUs,
    updatedAtUs := request.nowUs }

/-- The body of `submit` once no earlier submission is found. -/
def createSubmission (service : Service ρ ν) (payloadSafe : Payload → Bool) (db : Db ρ) (request : SubmitJob)
    (hooks : SubmissionHooks ρ) (runId jobId : String) : Except JiejianError (JobSubmissionResult × Db ρ) := do
  require (request.projectId ∈ db.projects) ⟨.JOB_PERSISTENCE, "任务所属项目不存在"⟩
  let checked ← hooks.precondition db
  let db := { db with targets := { db.targets with other := checked } }
  let run := submittedRun request runId
  let job := submittedJob request runId jobId
  require (validateJobFields job = true) ⟨.VALIDATION_ERROR, "JobRecord"⟩
  let _ ← service.targets.resolve job
  let db ← addRun payloadSafe db run
  let db ← addJob payloadSafe db job
  let written ← hooks.onCreated db run
  let db := { db with targets := { db.targets with other := written } }
  let db ← appendJobEvent payloadSafe db job .JOB_SUBMITTED none (some .pending) request.nowUs [("attempt", .int 0)]
  return (⟨true, job, run⟩, db)

/-- `_resolve_submission_race`. -/
def resolveSubmissionRace (db : Db ρ) (request : SubmitJob) : Except JiejianError JobSubmissionResult := do
  let existing ← orRaise (getByIdempotency db request.projectId request.operationType request.idempotencyKey)
    ⟨.JOB_PERSISTENCE, "任务提交失败"⟩
  existingSubmission db existing request

/-- `JobQueue.submit`. A constraint violation sends the caller back to the stored submission. -/
def submit (service : Service ρ ν) (knownSecrets : List String) (db : Db ρ) (request : SubmitJob)
    (hooks : SubmissionHooks ρ) (generated : GeneratedIds) : Except JiejianError (JobSubmissionResult × Db ρ) := do
  let payloadSafe := service.payloadSafe knownSecrets
  validateControlRequest payloadSafe (.submitJob request)
  let existing := getByIdempotency db request.projectId request.operationType request.idempotencyKey
  match existing with
  | some job =>
    let result ← existingSubmission db job request
    return (result, db)
  | none =>
    match createSubmission service payloadSafe db request hooks (request.runId.getD generated.runId)
        (request.jobId.getD generated.jobId) with
    | .ok created => return created
    | .error error =>
      if error.code = .STORAGE_CONSTRAINT then
        let result ← resolveSubmissionRace db request
        return (result, db)
      else .error error

/-- `_cancel_waiting`. -/
def cancelWaitingJob (service : Service ρ ν) (payloadSafe : Payload → Bool) (db : Db ρ) (job : JobRow)
    (nowUs : Nat) : Except JiejianError (JobMutationResult ν × Db ρ) := do
  match cancelWaiting db job.jobId nowUs with
  | (none, _) => .error ⟨.JOB_CANCEL_CONFLICT, "任务取消请求冲突"⟩
  | (some cancelled, db) =>
    let finished ← service.targets.finish db.targets cancelled nowUs .cancelled
    let db ← appendJobEvent payloadSafe { db with targets := finished.2 } cancelled .JOB_CANCELLED
      (some job.state) (some .cancelled) nowUs [("attempt", .int cancelled.attempt)]
    return (⟨cancelled, finished.1⟩, db)

/-- `CancellationResult` refuses a job whose request time is missing. -/
def cancellationResult (job : JobRow) (view : TargetView ν) (completed : Bool) :
    Except JiejianError (CancellationResult ν) := do
  let first ← orRaise job.cancelRequestedAtUs ⟨.VALIDATION_ERROR, "CancellationResult"⟩
  return { job, view, firstRequestedAtUs := first, completed }

/-- Only the first request of a cancellation is an event. -/
def recordFirstRequest (payloadSafe : Payload → Bool) (db : Db ρ) (job : JobRow) (nowUs : Nat) (firstRequest : Bool) :
    Except JiejianError (Db ρ) :=
  if firstRequest then
    appendJobEvent payloadSafe db job .JOB_CANCEL_REQUESTED (some job.state) (some job.state) nowUs
      [("attempt", .int job.attempt)]
  else .ok db

/-- The second half of `request_cancellation`: a waiting job ends now, a running one is left to its worker. -/
def settleCancellation (service : Service ρ ν) (payloadSafe : Payload → Bool) (db : Db ρ) (job : JobRow) (nowUs : Nat)
    (firstRequest : Bool) : Except JiejianError (CancellationResult ν × Db ρ) :=
  if job.state = .cancelled ∧ job.cancelRequestedAtUs.isSome = true then do
    let view ← service.targets.load db.targets job
    let result ← cancellationResult job view true
    return (result, db)
  else do
    let db ← recordFirstRequest payloadSafe db job nowUs firstRequest
    if job.state.isWaiting then
      let cancelled ← cancelWaitingJob service payloadSafe db job nowUs
      let result ← cancellationResult cancelled.1.job cancelled.1.view true
      return (result, cancelled.2)
    else
      require (job.state = .running) ⟨.JOB_CANCEL_CONFLICT, "任务取消请求冲突"⟩
      let view ← service.targets.load db.targets job
      let result ← cancellationResult job view false
      return (result, db)

/-- `JobQueue.request_cancellation`. -/
def requestCancellation (service : Service ρ ν) (knownSecrets : List String) (db : Db ρ)
    (request : RequestCancellation) : Except JiejianError (CancellationResult ν × Db ρ) := do
  let payloadSafe := service.payloadSafe knownSecrets
  validateControlRequest payloadSafe (.requestCancellation request)
  let initial ← requireJob db request.jobId
  let _ ← service.targets.resolve initial
  if initial.state.isTerminal then
    require (initial.state = .cancelled ∧ initial.cancelRequestedAtUs.isSome = true)
      ⟨.JOB_TERMINAL_CONFLICT, "终态任务不能取消"⟩
    let view ← service.targets.load db.targets initial
    let result ← cancellationResult initial view true
    return (result, db)
  else
    match setCancelRequestedAtIfAbsent db request.jobId request.nowUs with
    | ((none, _), _) => .error ⟨.JOB_CANCEL_CONFLICT, "任务取消请求冲突"⟩
    | ((some job, firstRequest), db) =>
      settleCancellation service payloadSafe db job request.nowUs firstRequest

end Jiejian.Jobs.Queue
