import Jiejian.Jobs.Records
import Mathlib.Data.Nat.Size

namespace Jiejian.Jobs.Models
open Jiejian.Errors Jiejian.Library.Outcome Jiejian.Jobs.Records

def maxLeaseDurationUs : Nat := 300_000_000
def maxRetryDelayUs : Nat := 86_400_000_000
def maxSqliteInteger : Nat := 9_223_372_036_854_775_807

inductive RetryableFailureCode where
  | EXEC_REQUEST
  | EXEC_TIMEOUT
  | RUNNER_START_FAILED
  | WORKER_INTERRUPTED
  deriving DecidableEq, Repr

inductive FatalFailureCode where
  | PROTOCOL_INVALID
  | RUNNER_FATAL
  | CLEANUP_FAILED
  | WORKER_FATAL
  deriving DecidableEq, Repr

inductive RecoveryProofType where
  | EXECUTION_EXITED
  | CLEANUP_COMPLETED
  deriving DecidableEq, Repr

inductive RecoveryOperator where
  | WORKER_SUPERVISOR
  | RECOVERY_CONTROLLER
  deriving DecidableEq, Repr

inductive RecoveryReasonCode where
  | PROCESS_EXIT_CONFIRMED
  | CLEANUP_CONFIRMED
  deriving DecidableEq, Repr

inductive RunnerFailurePhase where
  | TARGET_VALIDATION
  | PREPARE_RECOVERY
  | IDENTITY_PREPARATION
  | SETUP
  | BASELINE
  | BEFORE
  | TARGET
  | AFTER
  | EVENTUAL
  | VERIFY
  | POST_CASE_RECOVERY
  | RUNTIME_CLOSE
  deriving DecidableEq, Repr

inductive CleanupIssueCode where
  | POST_CASE_RECOVERY_FAILED
  | IDENTITY_CLOSE_FAILED
  | RUNTIME_CLOSE_FAILED
  | PROCESS_TREE_CLEANUP_FAILED
  deriving DecidableEq, Repr

def RetryableFailureCode.value : RetryableFailureCode → String
  | .EXEC_REQUEST => "EXEC_REQUEST"
  | .EXEC_TIMEOUT => "EXEC_TIMEOUT"
  | .RUNNER_START_FAILED => "RUNNER_START_FAILED"
  | .WORKER_INTERRUPTED => "WORKER_INTERRUPTED"

def FatalFailureCode.value : FatalFailureCode → String
  | .PROTOCOL_INVALID => "PROTOCOL_INVALID"
  | .RUNNER_FATAL => "RUNNER_FATAL"
  | .CLEANUP_FAILED => "CLEANUP_FAILED"
  | .WORKER_FATAL => "WORKER_FATAL"

def RecoveryProofType.value : RecoveryProofType → String
  | .EXECUTION_EXITED => "EXECUTION_EXITED"
  | .CLEANUP_COMPLETED => "CLEANUP_COMPLETED"

def RecoveryOperator.value : RecoveryOperator → String
  | .WORKER_SUPERVISOR => "WORKER_SUPERVISOR"
  | .RECOVERY_CONTROLLER => "RECOVERY_CONTROLLER"

def RecoveryReasonCode.value : RecoveryReasonCode → String
  | .PROCESS_EXIT_CONFIRMED => "PROCESS_EXIT_CONFIRMED"
  | .CLEANUP_CONFIRMED => "CLEANUP_CONFIRMED"

def RunnerFailurePhase.value : RunnerFailurePhase → String
  | .TARGET_VALIDATION => "TARGET_VALIDATION"
  | .PREPARE_RECOVERY => "PREPARE_RECOVERY"
  | .IDENTITY_PREPARATION => "IDENTITY_PREPARATION"
  | .SETUP => "SETUP"
  | .BASELINE => "BASELINE"
  | .BEFORE => "BEFORE"
  | .TARGET => "TARGET"
  | .AFTER => "AFTER"
  | .EVENTUAL => "EVENTUAL"
  | .VERIFY => "VERIFY"
  | .POST_CASE_RECOVERY => "POST_CASE_RECOVERY"
  | .RUNTIME_CLOSE => "RUNTIME_CLOSE"

def CleanupIssueCode.value : CleanupIssueCode → String
  | .POST_CASE_RECOVERY_FAILED => "POST_CASE_RECOVERY_FAILED"
  | .IDENTITY_CLOSE_FAILED => "IDENTITY_CLOSE_FAILED"
  | .RUNTIME_CLOSE_FAILED => "RUNTIME_CLOSE_FAILED"
  | .PROCESS_TREE_CLEANUP_FAILED => "PROCESS_TREE_CLEANUP_FAILED"

/-- The retry back-off, with the bounds its fields and `validate_bounds` impose. -/
structure RetryPolicy where
  baseDelayUs : Nat := 1_000_000
  maxDelayUs : Nat := 300_000_000
  maxJitterUs : Nat := 250_000
  base_pos : 1 ≤ baseDelayUs := by decide
  max_le : maxDelayUs ≤ maxRetryDelayUs := by decide
  base_le_max : baseDelayUs ≤ maxDelayUs := by decide
  jitter_le_max : maxJitterUs ≤ maxDelayUs := by decide

structure SubmitJob where
  projectId : String
  operationType : String
  idempotencyKey : String
  requestHash : String
  planFingerprint : String
  sourceFingerprint : Option String
  policyEpoch : Nat
  engineVersion : String
  maxAttempts : Nat := 3
  availableAtUs : Nat
  nowUs : Nat
  runId : Option String
  jobId : Option String
  attempts_pos : 1 ≤ maxAttempts
  attempts_le : maxAttempts ≤ 1000

structure ClaimJob where
  leaseOwner : String
  nowUs : Nat
  leaseDurationUs : Nat
  jobId : Option String
  duration_pos : 1 ≤ leaseDurationUs
  duration_le : leaseDurationUs ≤ maxLeaseDurationUs

structure RenewLease where
  jobId : String
  leaseOwner : String
  fencingToken : Nat
  nowUs : Nat
  leaseExpiresAtUs : Nat
  token_pos : 1 ≤ fencingToken
  future : nowUs < leaseExpiresAtUs
  duration_le : leaseExpiresAtUs - nowUs ≤ maxLeaseDurationUs

structure RequestCancellation where
  jobId : String
  nowUs : Nat

/-- The reason code is the literal `WORKER_FATAL`. -/
structure WaitingFatalFailure where
  jobId : String
  nowUs : Nat
  errorCode : Option String

def WaitingFatalFailure.reasonCode (_ : WaitingFatalFailure) : FatalFailureCode := .WORKER_FATAL

structure FencedJobMutation where
  jobId : String
  leaseOwner : String
  fencingToken : Nat
  nowUs : Nat
  token_pos : 1 ≤ fencingToken

structure CompleteCancellation extends FencedJobMutation

structure RetryableFailure extends FencedJobMutation where
  reasonCode : RetryableFailureCode
  errorCode : Option String
  phase : Option RunnerFailurePhase
  causeCode : Option String
  cleanupIssueCodes : List CleanupIssueCode
  issues_le : cleanupIssueCodes.length ≤ 4

structure FatalFailure extends FencedJobMutation where
  reasonCode : FatalFailureCode
  errorCode : Option String
  phase : Option RunnerFailurePhase
  causeCode : Option String
  cleanupIssueCodes : List CleanupIssueCode
  issues_le : cleanupIssueCodes.length ≤ 4

def expectedRecoveryReason : RecoveryProofType → RecoveryReasonCode
  | .EXECUTION_EXITED => .PROCESS_EXIT_CONFIRMED
  | .CLEANUP_COMPLETED => .CLEANUP_CONFIRMED

structure ConfirmRecovery extends FencedJobMutation where
  proofType : RecoveryProofType
  operator : RecoveryOperator
  reasonCode : RecoveryReasonCode
  consistent : reasonCode = expectedRecoveryReason proofType

/-- Whatever is scanned for secrets before it is stored. -/
inductive Payload where
  | submitJob (request : SubmitJob)
  | claimJob (request : ClaimJob)
  | renewLease (request : RenewLease)
  | requestCancellation (request : RequestCancellation)
  | completeCancellation (request : CompleteCancellation)
  | retryableFailure (request : RetryableFailure)
  | fatalFailure (request : FatalFailure)
  | waitingFatalFailure (request : WaitingFatalFailure)
  | confirmRecovery (request : ConfirmRecovery)
  | job (record : JobRow)
  | run (record : RunRow)
  | event (record : JobEventRow)

/-- The `*_us` fields that `validate_control_request` bounds. -/
def Payload.times : Payload → List Nat
  | .submitJob request => [request.availableAtUs, request.nowUs]
  | .claimJob request => [request.nowUs, request.leaseDurationUs]
  | .renewLease request => [request.nowUs, request.leaseExpiresAtUs]
  | .requestCancellation request => [request.nowUs]
  | .completeCancellation request => [request.nowUs]
  | .retryableFailure request => [request.nowUs]
  | .fatalFailure request => [request.nowUs]
  | .waitingFatalFailure request => [request.nowUs]
  | .confirmRecovery request => [request.nowUs]
  | .job _ | .run _ | .event _ => []

/-- `validate_control_request`, with the secret scan as a parameter. -/
def validateControlRequest (payloadSafe : Payload → Bool) (request : Payload) : Except JiejianError Unit := do
  require (∀ time ∈ request.times, time ≤ maxSqliteInteger) ⟨.JOB_TIME_INVALID, "任务时间超过持久化整数边界"⟩
  require (payloadSafe request = true) ⟨.JOB_SECRET, "任务控制数据包含敏感内容"⟩

/-- `ensure_storage_payload_safe`. -/
def ensureStoragePayloadSafe (payloadSafe : Payload → Bool) (record : Payload) : Except JiejianError Unit :=
  require (payloadSafe record = true) ⟨.STORAGE_SECRET, "持久化数据包含敏感内容"⟩

def checkedTimeAdd (left right : Nat) : Except JiejianError Nat :=
  if left + right > maxSqliteInteger then .error ⟨.JOB_TIME_INVALID, "任务时间超过持久化整数边界"⟩
  else .ok (left + right)

/-- Bounded exponential back-off; the jitter source may fail or answer anything. -/
def computeRetryAvailableAt (policy : RetryPolicy) (jitterSource : Nat → Option Int) (nowUs attempt : Nat) :
    Except JiejianError Nat :=
  let exponent := attempt - 1
  let baseDelay :=
    if exponent ≥ policy.maxDelayUs.size then policy.maxDelayUs
    else min (policy.baseDelayUs * (1 <<< exponent)) policy.maxDelayUs
  let jitterLimit := min policy.maxJitterUs (policy.maxDelayUs - baseDelay)
  if jitterLimit = 0 then checkedTimeAdd nowUs baseDelay
  else
    match jitterSource (jitterLimit + 1) with
    | none => .error ⟨.JOB_RETRY_POLICY_INVALID, "重试抖动源失败"⟩
    | some jitter =>
      if 0 ≤ jitter ∧ jitter ≤ jitterLimit then checkedTimeAdd nowUs (baseDelay + jitter.toNat)
      else .error ⟨.JOB_RETRY_POLICY_INVALID, "重试抖动值无效"⟩

theorem checkedTimeAdd_ok {left right sum : Nat} (added : checkedTimeAdd left right = .ok sum) :
    sum = left + right ∧ sum ≤ maxSqliteInteger := by
  unfold checkedTimeAdd at added
  by_cases large : left + right > maxSqliteInteger
  · simp [large] at added
  · simp only [if_neg large, Except.ok.injEq] at added
    omega

/-- A retry is scheduled between now and the policy's maximal delay. -/
theorem computeRetryAvailableAt_bounds {policy : RetryPolicy} {jitterSource : Nat → Option Int}
    {nowUs attempt available : Nat}
    (computed : computeRetryAvailableAt policy jitterSource nowUs attempt = .ok available) :
    nowUs ≤ available ∧ available ≤ nowUs + policy.maxDelayUs ∧ available ≤ maxSqliteInteger := by
  simp only [computeRetryAvailableAt] at computed
  generalize hbase : (if attempt - 1 ≥ policy.maxDelayUs.size then policy.maxDelayUs
    else min (policy.baseDelayUs * (1 <<< (attempt - 1))) policy.maxDelayUs) = baseDelay at computed
  have base : baseDelay ≤ policy.maxDelayUs := by
    rw [← hbase]
    by_cases large : attempt - 1 ≥ policy.maxDelayUs.size
    · simp [large]
    · simp [large]
  by_cases zero : min policy.maxJitterUs (policy.maxDelayUs - baseDelay) = 0
  · rw [if_pos zero] at computed
    have sum := checkedTimeAdd_ok computed
    omega
  · rw [if_neg zero] at computed
    cases drawn : jitterSource (min policy.maxJitterUs (policy.maxDelayUs - baseDelay) + 1) with
    | none => simp [drawn] at computed
    | some jitter =>
      simp only [drawn] at computed
      by_cases valid : 0 ≤ jitter ∧ jitter ≤ ((min policy.maxJitterUs (policy.maxDelayUs - baseDelay) : Nat) : Int)
      · rw [if_pos valid] at computed
        have sum := checkedTimeAdd_ok computed
        omega
      · rw [if_neg valid] at computed
        cases computed

end Jiejian.Jobs.Models
