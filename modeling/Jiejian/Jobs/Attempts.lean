import Jiejian.Jobs.Queue

namespace Jiejian.Jobs.Attempts
open Jiejian.Errors Jiejian.Library.Outcome
open Jiejian.Jobs.Records Jiejian.Jobs.Models Jiejian.Jobs.Repository Jiejian.Jobs.Control Jiejian.Jobs.Targets
open Jiejian.Jobs.Queue

variable {ρ ν : Type}

def terminalConflict (message : String) : JiejianError := ⟨.JOB_TERMINAL_CONFLICT, message⟩
def leaseMismatch : JiejianError := ⟨.JOB_LEASE_MISMATCH, "任务租约不匹配"⟩
def notClaimable : JiejianError := ⟨.JOB_NOT_CLAIMABLE, "任务当前不可领取"⟩
def recoveryRequired : JiejianError := ⟨.JOB_RECOVERY_REQUIRED, "过期租约需要恢复审计"⟩

/-- `_raise_claim_error`. -/
def claimError (db : Db ρ) (jobId : String) (nowUs : Nat) : JiejianError :=
  match requireJob db jobId with
  | .error error => error
  | .ok job =>
    if job.state.isTerminal then terminalConflict "终态任务不能领取"
    else if job.state = .running then
      if job.leaseExpiresAtUs.any (fun expiry => expiry ≤ nowUs) then recoveryRequired else notClaimable
    else if job.cancelRequestedAtUs.isSome then ⟨.JOB_CANCEL_CONFLICT, "任务已经请求取消"⟩
    else if job.attempt ≥ job.maxAttempts then ⟨.JOB_ATTEMPTS_EXHAUSTED, "任务尝试次数已经耗尽"⟩
    else notClaimable

/-- `_raise_fenced_error`. -/
def fencedError (db : Db ρ) (jobId leaseOwner : String) (fencingToken nowUs : Nat) (expiredCode : ErrorCode) :
    JiejianError :=
  match requireJob db jobId with
  | .error error => error
  | .ok job =>
    if job.state.isTerminal then terminalConflict "终态任务不能修改"
    else if job.state ≠ .running then leaseMismatch
    else if job.leaseOwner ≠ some leaseOwner ∨ job.fencingToken ≠ fencingToken then leaseMismatch
    else if job.leaseExpiresAtUs.all (fun expiry => expiry ≤ nowUs) then ⟨expiredCode, "任务租约已经过期"⟩
    else ⟨.JOB_NOT_CLAIMABLE, "任务更新条件不满足"⟩

/-- `ClaimedJob.validate_target`: exactly one target is handed back. -/
def exposesOneTarget (job : JobRow) (view : TargetView ν) : Bool :=
  match job.target with
  | .run _ | .recording _ => view.run.isSome != view.recording.isSome
  | _ => view.run.isNone && view.recording.isNone

/-- `JobAttempts.claim_in_work`. Whether the claim came from waiting or from a retry is read off the
attempt counter. -/
def claimInWork (service : Service ρ ν) (knownSecrets : List String) (db : Db ρ) (request : ClaimJob) :
    Except JiejianError (Option (JobMutationResult ν) × Db ρ) := do
  let payloadSafe := service.payloadSafe knownSecrets
  validateControlRequest payloadSafe (.claimJob request)
  let leaseExpiresAtUs ← checkedTimeAdd request.nowUs request.leaseDurationUs
  match claim db service.recordingStartable request.jobId request.leaseOwner request.nowUs leaseExpiresAtUs
      service.targets.targetTypes with
  | (none, _) =>
    match request.jobId with
    | none => return (none, db)
    | some jobId => .error (claimError db jobId request.nowUs)
  | (some job, db) =>
    let advanced ← service.targets.advanceAfterClaim db.targets job request.nowUs
    let db ← appendJobEvent payloadSafe { db with targets := advanced.2 } job .JOB_CLAIMED
      (some (if job.attempt = 1 then .pending else .retryWait)) (some .running) request.nowUs
      [("attempt", .int job.attempt), ("fencing_token", .int job.fencingToken)]
    require (exposesOneTarget job advanced.1 = true) ⟨.VALIDATION_ERROR, "ClaimedJob"⟩
    return (some ⟨job, advanced.1⟩, db)

/-- `JobAttempts.renew_lease`. -/
def renewLease (service : Service ρ ν) (knownSecrets : List String) (db : Db ρ) (request : RenewLease) :
    Except JiejianError (JobMutationResult ν × Db ρ) := do
  let payloadSafe := service.payloadSafe knownSecrets
  validateControlRequest payloadSafe (.renewLease request)
  match Control.renewLease db request.jobId request.leaseOwner request.fencingToken request.nowUs
      request.leaseExpiresAtUs with
  | (none, db) =>
    .error (fencedError db request.jobId request.leaseOwner request.fencingToken request.nowUs .JOB_LEASE_EXPIRED)
  | (some job, db) =>
    let view ← service.targets.load db.targets job
    let db ← appendJobEvent payloadSafe db job .JOB_LEASE_RENEWED (some .running) (some .running) request.nowUs
      [("attempt", .int job.attempt), ("fencing_token", .int job.fencingToken)]
    return (⟨job, view⟩, db)

/-- `_require_current_fence`. -/
def requireCurrentFence (db : Db ρ) (request : FencedJobMutation) : Except JiejianError JobRow := do
  let job ← requireJob db request.jobId
  require (job.state.isTerminal = false) (terminalConflict "终态任务不能修改")
  require (job.state = .running) leaseMismatch
  require (job.leaseOwner = some request.leaseOwner ∧ job.fencingToken = request.fencingToken) leaseMismatch
  require (job.leaseExpiresAtUs.any (fun expiry => request.nowUs < expiry) = true) recoveryRequired
  return job

/-- `JobAttempts.complete_cancellation`. -/
def completeCancellation (service : Service ρ ν) (knownSecrets : List String) (db : Db ρ)
    (request : CompleteCancellation) : Except JiejianError (CancellationResult ν × Db ρ) := do
  let payloadSafe := service.payloadSafe knownSecrets
  validateControlRequest payloadSafe (.completeCancellation request)
  let current ← requireCurrentFence db request.toFencedJobMutation
  require (current.cancelRequestedAtUs ≠ none) ⟨.JOB_CANCEL_CONFLICT, "任务尚未请求取消"⟩
  match completeRunningCancellation db request.jobId request.leaseOwner request.fencingToken request.nowUs with
  | (none, db) =>
    .error (fencedError db request.jobId request.leaseOwner request.fencingToken request.nowUs .JOB_RECOVERY_REQUIRED)
  | (some job, db) =>
    let finished ← service.targets.finish db.targets job request.nowUs .cancelled
    let db ← appendJobEvent payloadSafe { db with targets := finished.2 } job .JOB_CANCELLED (some .running)
      (some .cancelled) request.nowUs
      [("attempt", .int job.attempt), ("fencing_token", .int request.fencingToken)]
    let result ← cancellationResult job finished.1 true
    return (result, db)

/-- The failure fields that retryable and fatal failures share. -/
structure FailureReport where
  reasonCode : String
  errorCode : Option String
  phase : Option RunnerFailurePhase
  causeCode : Option String
  cleanupIssueCodes : List CleanupIssueCode

def RetryableFailure.report (request : RetryableFailure) : FailureReport :=
  ⟨request.reasonCode.value, request.errorCode, request.phase, request.causeCode, request.cleanupIssueCodes⟩

def FatalFailure.report (request : FatalFailure) : FailureReport :=
  ⟨request.reasonCode.value, request.errorCode, request.phase, request.causeCode, request.cleanupIssueCodes⟩

def optionalEntry (key : String) (value : Option MetadataValue) : EventMetadata :=
  value.toList.map fun item => (key, item)

/-- `_failure_metadata`. -/
def failureMetadata (job : JobRow) (fencingToken : Nat) (report : FailureReport) (availableAtUs : Option Nat) :
    EventMetadata :=
  [("attempt", .int job.attempt), ("fencing_token", .int fencingToken), ("reason_code", .str report.reasonCode)]
    ++ optionalEntry "error_code" (report.errorCode.map .str)
    ++ optionalEntry "phase" (report.phase.map fun phase => .str phase.value)
    ++ optionalEntry "cause_code" (report.causeCode.map .str)
    ++ optionalEntry "cleanup_issue_codes" (if report.cleanupIssueCodes.isEmpty then none
      else some (.str (",".intercalate (report.cleanupIssueCodes.map CleanupIssueCode.value))))
    ++ optionalEntry "available_at_us" (availableAtUs.map fun time => .int time)

/-- The target of a job that moved to `state`: it ends with a final job and is only read otherwise. -/
def settleTarget (service : Service ρ ν) (targets : Targets ρ) (job : JobRow) (nowUs : Nat) :
    Except JiejianError (TargetView ν × Targets ρ) :=
  match job.state with
  | .failed => service.targets.finish targets job nowUs .failed
  | .cancelled => service.targets.finish targets job nowUs .cancelled
  | _ => do
    let view ← service.targets.load targets job
    return (view, targets)

/-- `_persist_failure`. -/
def persistFailure (service : Service ρ ν) (payloadSafe : Payload → Bool) (db : Db ρ) (request : FencedJobMutation)
    (report : FailureReport) (target : JobState) (availableAtUs : Option Nat) :
    Except JiejianError (JobMutationResult ν × Db ρ) := do
  let recorded ← recordRunningFailure db request.jobId request.leaseOwner request.fencingToken request.nowUs target
    availableAtUs
  match recorded with
  | (none, db) =>
    .error (fencedError db request.jobId request.leaseOwner request.fencingToken request.nowUs .JOB_RECOVERY_REQUIRED)
  | (some job, db) =>
    let settled ← settleTarget service db.targets job request.nowUs
    let db ← appendJobEvent payloadSafe { db with targets := settled.2 } job
      (if target = .failed then .JOB_FAILED else .JOB_RETRY_SCHEDULED) (some .running) (some target) request.nowUs
      (failureMetadata job request.fencingToken report availableAtUs)
    return (⟨job, settled.1⟩, db)

/-- `JobAttempts.record_retryable_failure`. -/
def recordRetryableFailure (service : Service ρ ν) (knownSecrets : List String) (jitterSource : Nat → Option Int)
    (db : Db ρ) (request : RetryableFailure) : Except JiejianError (JobMutationResult ν × Db ρ) := do
  let payloadSafe := service.payloadSafe knownSecrets
  validateControlRequest payloadSafe (.retryableFailure request)
  let current ← requireCurrentFence db request.toFencedJobMutation
  require (current.cancelRequestedAtUs = none) ⟨.JOB_CANCEL_CONFLICT, "取消中的任务不能进入重试等待"⟩
  if current.attempt ≥ current.maxAttempts then
    persistFailure service payloadSafe db request.toFencedJobMutation (RetryableFailure.report request) .failed none
  else
    let availableAtUs ← computeRetryAvailableAt service.retryPolicy jitterSource request.nowUs current.attempt
    persistFailure service payloadSafe db request.toFencedJobMutation (RetryableFailure.report request) .retryWait
      (some availableAtUs)

/-- `JobAttempts.record_fatal_failure`. -/
def recordFatalFailure (service : Service ρ ν) (knownSecrets : List String) (db : Db ρ) (request : FatalFailure) :
    Except JiejianError (JobMutationResult ν × Db ρ) := do
  let payloadSafe := service.payloadSafe knownSecrets
  validateControlRequest payloadSafe (.fatalFailure request)
  let _ ← requireCurrentFence db request.toFencedJobMutation
  persistFailure service payloadSafe db request.toFencedJobMutation (FatalFailure.report request) .failed none

/-- `JobAttempts.record_waiting_fatal_failure`; a job that is no longer waiting yields `none`. -/
def recordWaitingFatalFailure (service : Service ρ ν) (knownSecrets : List String) (db : Db ρ)
    (request : WaitingFatalFailure) : Except JiejianError (Option (JobMutationResult ν) × Db ρ) := do
  let payloadSafe := service.payloadSafe knownSecrets
  validateControlRequest payloadSafe (.waitingFatalFailure request)
  let current := db.job request.jobId
  match recordWaitingFailure db request.jobId request.nowUs with
  | (none, _) => return (none, db)
  | (some job, db) =>
    -- the earlier read only supplies the source state of the event
    let source ← orRaise (current.filter fun row => row.state.isWaiting) ⟨.STORAGE_STATE, "等待态失败源状态无效"⟩
    let finished ← service.targets.finish db.targets job request.nowUs .failed
    let db ← appendJobEvent payloadSafe { db with targets := finished.2 } job .JOB_FAILED (some source.state)
      (some .failed) request.nowUs
      ([("attempt", .int job.attempt), ("reason_code", .str request.reasonCode.value)]
        ++ optionalEntry "error_code" (request.errorCode.map .str))
    return (some ⟨job, finished.1⟩, db)

/-- `_require_recovery_fence`. -/
def requireRecoveryFence (db : Db ρ) (request : FencedJobMutation) : Except JiejianError JobRow := do
  let current ← requireJob db request.jobId
  require (current.state.isTerminal = false) (terminalConflict "终态任务不能修改")
  require (current.state = .running) leaseMismatch
  require (current.leaseOwner = some request.leaseOwner ∧ current.fencingToken = request.fencingToken) leaseMismatch
  require (current.leaseExpiresAtUs.any (fun expiry => expiry ≤ request.nowUs) = true)
    ⟨.JOB_RECOVERY_REQUIRED, "任务尚不满足恢复审计条件"⟩
  return current

/-- `_recovery_metadata`. -/
def recoveryMetadata (job : JobRow) (request : ConfirmRecovery) (availableAtUs : Option Nat) : EventMetadata :=
  [("attempt", .int job.attempt), ("fencing_token", .int request.fencingToken),
    ("operator", .str request.operator.value), ("proof_type", .str request.proofType.value),
    ("reason_code", .str request.reasonCode.value)]
    ++ optionalEntry "available_at_us" (availableAtUs.map fun time => .int time)

/-- Where a recovered attempt goes: cancellation first, then the ordinary retry budget. -/
def recoveryTarget (current : JobRow) : JobState :=
  if current.cancelRequestedAtUs.isSome then .cancelled
  else if current.attempt ≥ current.maxAttempts then .failed
  else .retryWait

/-- Only a recovered attempt that will be retried gets a new start time. -/
def recoverySchedule (service : Service ρ ν) (jitterSource : Nat → Option Int) (nowUs : Nat) (current : JobRow) :
    Except JiejianError (Option Nat) :=
  match recoveryTarget current with
  | .retryWait => do
    let availableAtUs ← computeRetryAvailableAt service.retryPolicy jitterSource nowUs current.attempt
    return some availableAtUs
  | _ => .ok none

/-- `JobRecovery.confirm_recovery`. -/
def confirmRecovery (service : Service ρ ν) (knownSecrets : List String) (jitterSource : Nat → Option Int)
    (db : Db ρ) (request : ConfirmRecovery) : Except JiejianError (JobMutationResult ν × Db ρ) := do
  let payloadSafe := service.payloadSafe knownSecrets
  validateControlRequest payloadSafe (.confirmRecovery request)
  let current ← requireRecoveryFence db request.toFencedJobMutation
  let _ ← service.targets.resolve current
  let target := recoveryTarget current
  let availableAtUs ← recoverySchedule service jitterSource request.nowUs current
  let confirmed ← Control.confirmRecovery db request.jobId request.leaseOwner request.fencingToken request.nowUs
    target availableAtUs
  match confirmed with
  | (none, _) => .error leaseMismatch
  | (some job, db) =>
    let settled ← settleTarget service db.targets job request.nowUs
    let db ← appendJobEvent payloadSafe { db with targets := settled.2 } job .JOB_RECOVERY_CONFIRMED
      (some .running) (some target) request.nowUs (recoveryMetadata job request availableAtUs)
    return (⟨job, settled.1⟩, db)

end Jiejian.Jobs.Attempts
