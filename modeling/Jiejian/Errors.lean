import Mathlib.Logic.Basic

namespace Jiejian.Errors

/-- The stable error codes raised by the modelled functions. `VALIDATION_ERROR` stands for a
rejected record constructor, which raises without a stable code. -/
inductive ErrorCode where
  | VALIDATION_ERROR
  | STORAGE_CONSTRAINT
  | STORAGE_SECRET
  | STORAGE_STATE
  | PROJECT_NOT_FOUND
  | JOB_NOT_FOUND
  | JOB_QUEUE_FULL
  | JOB_IDEMPOTENCY_CONFLICT
  | JOB_NOT_CLAIMABLE
  | JOB_LEASE_MISMATCH
  | JOB_LEASE_EXPIRED
  | JOB_RECOVERY_REQUIRED
  | JOB_CANCEL_CONFLICT
  | JOB_TERMINAL_CONFLICT
  | JOB_ATTEMPTS_EXHAUSTED
  | JOB_RETRY_POLICY_INVALID
  | JOB_SECRET
  | JOB_PERSISTENCE
  | JOB_TIME_INVALID
  | JOB_REQUEST_CONFLICT
  | ARTIFACT_FENCE
  | STATE_PRECONDITION
  | STATE_OPERATOR_REQUIRED
  | RECORD_NOT_FOUND
  | RECORD_PROTOCOL_INVALID
  | RECORD_STATE_INVALID
  | RECORD_STATE_PRECONDITION
  | RECORD_REVIEW_STATE
  | RECORD_DRAFT_INVALID
  | RECORD_DRAFT_REFERENCE
  | VALUE_EXTRACTION_FAILED
  | EXEC_REQUEST
  | EXEC_RESPONSE_TOO_LARGE
  | EXEC_CANCELLED
  | EXEC_BUDGET
  | EXEC_TIMEOUT
  | TARGET_UNREACHABLE
  | SCOPE_URL
  | SCOPE_HOST
  | SCOPE_PORT
  | SCOPE_REDIRECT
  | SCOPE_PRIVATE_NETWORK
  | SELF_TARGET_FORBIDDEN
  deriving DecidableEq, Repr

structure JiejianError where
  code : ErrorCode
  message : String
  deriving DecidableEq, Repr

/-- The exceptions of the language itself. -/
inductive Raised where
  | ValueError (text : String)
  | KeyError
  | TypeError
  | IndexError
  | RecursionError
  | StopIteration
  | AttributeError
  | AssertionError
  deriving DecidableEq, Repr

end Jiejian.Errors
