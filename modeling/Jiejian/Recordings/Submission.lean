import Jiejian.Recordings.Targets

namespace Jiejian.Recordings.Submission

open Errors Library Library.Outcome Models Captures Repository Targets
open Jobs.Records Jobs.Models Jobs.Repository Jobs.Control Jobs.Targets Jobs.Queue Jobs.Attempts Jobs.Completion

variable {γ : Type}

/-- The command with the request it carries, as far as rows are made from it. -/
structure SubmitRecording where
  request : RecordingSource
  requestCreatedAtUs : Nat
  flowId : String
  idempotencyKey : String
  maxAttempts : Nat := 3
  availableAtUs : Nat
  nowUs : Nat
  materialCandidate : Bool := false

structure RecordingSubmissionResult where
  created : Bool
  job : JobRow
  recording : RecordingRecord

/-- `_existing`. -/
def existingSubmission (tables : RecordingTables γ) (job : JobRow) (requestHash : String) :
    Except JiejianError RecordingSubmissionResult :=
  match job.target with
  | .recording recordingId => do
    require (job.requestHash = requestHash) ⟨.JOB_IDEMPOTENCY_CONFLICT, "幂等键对应的录制请求不一致"⟩
    let recording ← orRaise (tables.get recordingId) ⟨.JOB_PERSISTENCE, "录制对象不存在"⟩
    return ⟨false, job, recording⟩
  | _ => .error ⟨.JOB_IDEMPOTENCY_CONFLICT, "幂等键对应的录制请求不一致"⟩

/-- `candidate_recording(job.recording_id)`. -/
def candidateTarget (tables : RecordingTables γ) (job : JobRow) : Bool :=
  match job.target with
  | .recording recordingId => recordingId ∈ tables.candidates
  | _ => false

def submittedRecording (command : SubmitRecording) : Recording :=
  { command.request with
    createdAtUs := command.nowUs
    updatedAtUs := command.nowUs }

def jobOf (command : SubmitRecording) (jobId requestHash : String) : TargetSubmission :=
  recordingSubmission jobId command.request.projectId command.idempotencyKey requestHash command.request.recordingId
    command.maxAttempts command.availableAtUs command.nowUs

/-- The rows of a new recording; a candidate is marked before its job can be seen. -/
def storeSubmission (scans : Scans γ) (command : SubmitRecording) (record : RecordingRecord)
    (tables : RecordingTables γ) : Except JiejianError (RecordingTables γ) := do
  let tables ← addRecording scans tables record
  if command.materialCandidate then
    return { tables with candidates := tables.candidates ++ [record.recordingId] }
  else return tables

/-- `_submit_transaction_in_work`; `sourceAccepted` stands for the checks of the preparation the recording
is made from and of its target scope. -/
def submitInWork (wiring : Wiring γ) (knownSecrets : List String) (db : Db (RecordingTables γ))
    (command : SubmitRecording) (jobId requestHash : String)
    (sourceAccepted : Db (RecordingTables γ) → Except JiejianError Unit) :
    Except JiejianError (RecordingSubmissionResult × Db (RecordingTables γ)) := do
  match getByIdempotency db command.request.projectId "BROWSER_RECORDING" command.idempotencyKey with
  | some existing =>
    require (candidateTarget db.targets.other existing = command.materialCandidate)
      ⟨.STATE_PRECONDITION, "同一次录制的材料采用方式不能改变"⟩
    let accepted ← existingSubmission db.targets.other existing requestHash
    return (accepted, db)
  | none =>
    require (command.request.projectId ∈ db.projects) ⟨.JOB_PERSISTENCE, "录制所属项目不存在"⟩
    sourceAccepted db
    let domain := submittedRecording command
    domain.validateLifecycleTimes
    let record ← fromDomain domain command.flowId []
    let created ← enqueueTarget wiring.service knownSecrets db (jobOf command jobId requestHash)
      fun db => storeSubmission wiring.scans command record db.targets.other
    return (⟨true, created.1, record⟩, created.2)

/-- `submit`, once the request file is written. -/
def submit (wiring : Wiring γ) (knownSecrets : List String) (db : Db (RecordingTables γ)) (command : SubmitRecording)
    (jobId requestHash : String) (sourceAccepted : Db (RecordingTables γ) → Except JiejianError Unit) :
    Except JiejianError (RecordingSubmissionResult × Db (RecordingTables γ)) := do
  require (command.requestCreatedAtUs = command.nowUs) ⟨.JOB_TIME_INVALID, "录制请求创建时间不一致"⟩
  submitInWork wiring knownSecrets db command jobId requestHash sourceAccepted

def resultLeaseMismatch : JiejianError := ⟨.JOB_LEASE_MISMATCH, "录制结果租约不匹配"⟩

/-- The job is running for this recording under a lease that has not run out. -/
def leasedFor (result : RecordingRunnerResult) (fence : FencedJobMutation) (job : JobRow) : Bool :=
  job.target = .recording result.recordingId && job.projectId = result.projectId && job.state = .running &&
    job.leaseOwner = some fence.leaseOwner && job.fencingToken = fence.fencingToken &&
    job.leaseExpiresAtUs.any (fun expiry => fence.nowUs < expiry) && result.finishedAtUs ≤ fence.nowUs

/-- What the processor makes of the events of a capture, and the stored request it is made under. -/
structure Processing (γ : Type) where
  loaded : JobRow → Except JiejianError RecordingSource
  build : RecordingSource → List RecordingEvent → Except JiejianError γ

/-- The first draft of a captured recording, and the recording that then waits for its review. -/
def draftCapture (scans : Scans γ) (processing : Processing γ) (tables : RecordingTables γ) (job : JobRow)
    (existing persisted : RecordingRecord) (result : RecordingRunnerResult) (nowUs : Nat) :
    Except JiejianError (RecordingRecord × RecordingTables γ) := do
  let request ← processing.loaded job
  -- the ids of the request and of the recording were compared with those of the job and of the result
  require ({ request with
      recordingId := existing.recordingId
      projectId := existing.projectId } = existing.toRecordingSource)
    ⟨.RECORD_PROTOCOL_INVALID, "录制请求与持久来源不一致"⟩
  let content ← processing.build request result.events
  let pending ← transitionRecordingState persisted.toRecording .PENDING_REVIEW "RECORDING_SERVICE" nowUs
  let record ← fromDomain pending existing.flowId result.events
  let draft : FlowDraft γ :=
    { recordingId := result.recordingId
      flowId := existing.flowId
      revision := 1
      content := content }
  let tables ← addDraft scans tables
    { recordingId := draft.recordingId
      revision := draft.revision
      flowId := draft.flowId
      draft := draft
      createdAtUs := nowUs }
  return (record, tables)

/-- Only a capture comes with a draft; a safety stop is stored as it is. -/
def draftResult (scans : Scans γ) (processing : Processing γ) (tables : RecordingTables γ) (job : JobRow)
    (existing persisted : RecordingRecord) (result : RecordingRunnerResult) (nowUs : Nat) :
    Except JiejianError (RecordingRecord × RecordingTables γ) :=
  if result.resultType = .CAPTURED then draftCapture scans processing tables job existing persisted result nowUs
  else .ok (persisted, tables)

/-- `_persist_success_in_work`. -/
def persistSuccess (wiring : Wiring γ) (knownSecrets : List String) (processing : Processing γ)
    (db : Db (RecordingTables γ)) (fence : FencedJobMutation) (result : RecordingRunnerResult) :
    Except JiejianError (RecordingRecord × Db (RecordingTables γ)) := do
  let job ← orRaise ((db.job fence.jobId).filter (leasedFor result fence)) resultLeaseMismatch
  let existing ← orRaise (db.targets.other.get result.recordingId) ⟨.JOB_PERSISTENCE, "录制对象不存在"⟩
  let persisted ← recordFromResult existing result
  let drafted ← draftResult wiring.scans processing db.targets.other job existing persisted result fence.nowUs
  let tables ← replaceRecording wiring.scans drafted.2 drafted.1
  match completeTarget { db with targets := { db.targets with other := tables } }
      (completeRecordingResult job.jobId drafted.1.recordingId job.attempt fence.leaseOwner fence.fencingToken
        fence.nowUs) with
  | (none, _) => .error resultLeaseMismatch
  | (some completed, db) =>
    let db ← appendJobEvent (wiring.service.payloadSafe knownSecrets) db completed .JOB_SUCCEEDED (some .running)
      (some .succeeded) fence.nowUs
      [("attempt", .int completed.attempt), ("fencing_token", .int fence.fencingToken),
        ("result_type", .str (match result.resultType with
          | .CAPTURED => "CAPTURED"
          | .CANCELLED => "CANCELLED"
          | .SAFETY_STOPPED => "SAFETY_STOPPED"
          | .FAILED => "FAILED")),
        ("draft_revision", .int (if result.resultType = .CAPTURED then 1 else 0))]
    return (drafted.1, db)

def retryableFailure (fence : FencedJobMutation) : RetryableFailure :=
  { fence with
    reasonCode := .WORKER_INTERRUPTED
    errorCode := none
    phase := none
    causeCode := none
    cleanupIssueCodes := []
    issues_le := by decide }

def fatalFailure (fence : FencedJobMutation) (cleanupStatus : RecordingCleanupStatus) : FatalFailure :=
  { fence with
    reasonCode := if cleanupStatus = .FAILED then .CLEANUP_FAILED else .RUNNER_FATAL
    errorCode := none
    phase := none
    causeCode := none
    cleanupIssueCodes := []
    issues_le := by decide }

/-- `consume_result`: a capture and a safety stop are kept, a cancellation and a failure only end the job. -/
def consumeResult (wiring : Wiring γ) (knownSecrets : List String) (jitterSource : Nat → Option Int)
    (processing : Processing γ) (db : Db (RecordingTables γ)) (fence : FencedJobMutation) (result : AcceptedResult) :
    Except JiejianError (Db (RecordingTables γ)) := do
  require (wiring.scans.result result.val = true) ⟨.RECORD_PROTOCOL_INVALID, "录制协议无法规范序列化"⟩
  match result.val.resultType with
  | .CAPTURED | .SAFETY_STOPPED =>
    (persistSuccess wiring knownSecrets processing db fence result.val).map Prod.snd
  | .CANCELLED => (completeCancellation wiring.service knownSecrets db ⟨fence⟩).map Prod.snd
  | .FAILED =>
    if result.val.error.any (·.retryable) then
      (recordRetryableFailure wiring.service knownSecrets jitterSource db (retryableFailure fence)).map Prod.snd
    else
      (recordFatalFailure wiring.service knownSecrets db (fatalFailure fence result.val.cleanupStatus)).map Prod.snd

end Jiejian.Recordings.Submission
