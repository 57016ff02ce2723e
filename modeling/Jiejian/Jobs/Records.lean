import Jiejian.Errors
import Jiejian.Library.Outcome
import Jiejian.Library.Table
import Mathlib.Data.List.Sort

namespace Jiejian.Jobs.Records
open Jiejian.Errors Jiejian.Library

inductive JobState where
  | pending
  | running
  | retryWait
  | succeeded
  | failed
  | cancelled
  deriving DecidableEq, Repr

inductive RunLifecycle where
  | queued
  | running
  | completed
  | failed
  | cancelled
  | safetyStopped
  deriving DecidableEq, Repr

inductive RunVerdict where
  | pass
  | block
  | inconclusive
  deriving DecidableEq, Repr

/-- `_TERMINAL_JOB_STATES`. -/
def JobState.isTerminal : JobState → Bool
  | .succeeded | .failed | .cancelled => true
  | .pending | .running | .retryWait => false

/-- The states without a lease that a worker can still claim. -/
def JobState.isWaiting : JobState → Bool
  | .pending | .retryWait => true
  | .running | .succeeded | .failed | .cancelled => false

/-- `_NONTERMINAL_RUNS`. -/
def RunLifecycle.isNonterminal : RunLifecycle → Bool
  | .queued | .running => true
  | .completed | .failed | .cancelled | .safetyStopped => false

/-- The execution target of a job. The seven nullable columns hold exactly one value
(`exactly_one_target`), so they are one sum. -/
inductive JobTarget where
  | run (runId : String)
  | recording (recordingId : String)
  | runtimeLoad (loadId : String)
  | preflight (preflightId : String)
  | referenceCapture (captureId : String)
  | flowTrial (trialId : String)
  | identityPreparation (preparationId : String)
  deriving DecidableEq, Repr

inductive JobTargetType where
  | RUN
  | RECORDING
  | RUNTIME_LOAD
  | PROOF_PREFLIGHT
  | REFERENCE_CAPTURE
  | IDENTITY_PREPARATION
  | FLOW_TRIAL
  deriving DecidableEq, Repr

structure JobRow where
  jobId : String
  projectId : String
  target : JobTarget
  operationType : String
  state : JobState
  idempotencyKey : String
  requestHash : String
  attempt : Nat
  maxAttempts : Nat
  availableAtUs : Nat
  leaseOwner : Option String
  fencingToken : Nat
  leaseExpiresAtUs : Option Nat
  cancelRequestedAtUs : Option Nat
  createdAtUs : Nat
  updatedAtUs : Nat
  deriving DecidableEq, Repr

structure RunRow where
  runId : String
  projectId : String
  requestHash : String
  planFingerprint : String
  sourceFingerprint : Option String
  policyEpoch : Nat
  engineVersion : String
  lifecycle : RunLifecycle
  verdict : Option RunVerdict
  createdAtUs : Nat
  updatedAtUs : Nat
  finishedAtUs : Option Nat
  deriving DecidableEq, Repr

inductive JobEventType where
  | JOB_SUBMITTED
  | JOB_CLAIMED
  | JOB_LEASE_RENEWED
  | JOB_CANCEL_REQUESTED
  | JOB_CANCELLED
  | JOB_RETRY_SCHEDULED
  | JOB_FAILED
  | JOB_RECOVERY_CONFIRMED
  | JOB_SUCCEEDED
  deriving DecidableEq, Repr

inductive MetadataValue where
  | str (value : String)
  | int (value : Int)
  | bool (value : Bool)
  | none
  deriving DecidableEq, Repr

abbrev EventMetadata := List (String × MetadataValue)

structure JobEventRow where
  jobId : String
  sequence : Nat
  eventType : JobEventType
  sourceState : Option JobState
  targetState : Option JobState
  occurredAtUs : Nat
  metadata : EventMetadata
  deriving DecidableEq, Repr

/-- `CheckConstraint`s on targets that fix the operation type or the number of attempts. -/
def targetOperationValid (target : JobTarget) (operationType : String) (maxAttempts : Nat) : Bool :=
  match target with
  | .run _ | .recording _ =>
    operationType ≠ "REFERENCE_CAPTURE" ∧ operationType ≠ "FLOW_TRIAL" ∧ operationType ≠ "IDENTITY_PREPARATION"
  | .runtimeLoad _ => operationType = "RUNTIME_LOAD"
  | .preflight _ => operationType = "PROOF_PREFLIGHT"
  | .referenceCapture _ => operationType = "REFERENCE_CAPTURE" ∧ maxAttempts = 1
  | .flowTrial _ => operationType = "FLOW_TRIAL" ∧ maxAttempts = 1
  | .identityPreparation _ => operationType = "IDENTITY_PREPARATION" ∧ maxAttempts = 1

/-- `JobRecord.validate_job_fields`; the columns' own checks repeat it on every write. -/
def validateJobFields (job : JobRow) : Bool :=
  targetOperationValid job.target job.operationType job.maxAttempts
    && decide (1 ≤ job.maxAttempts)
    && decide (job.attempt ≤ job.maxAttempts)
    && (job.attempt ≠ 0 || (job.fencingToken = 0 && job.leaseOwner.isNone && job.leaseExpiresAtUs.isNone))
    && (job.attempt = 0 || 0 < job.fencingToken)
    && job.leaseOwner.isNone == job.leaseExpiresAtUs.isNone
    && (job.state ≠ .running || (job.leaseOwner.isSome && 0 < job.fencingToken && job.leaseExpiresAtUs.isSome))
    && decide (job.createdAtUs ≤ job.updatedAtUs)
    && job.cancelRequestedAtUs.all (fun requested => job.createdAtUs ≤ requested)

/-- `RunRecord.validate_run_matrix` and the table's `lifecycle_verdict_matrix`. -/
def runMatrix (lifecycle : RunLifecycle) (verdict : Option RunVerdict) : Bool :=
  match lifecycle, verdict with
  | .completed, verdict => verdict.isSome
  | .safetyStopped, verdict => verdict ≠ some .pass
  | _, verdict => verdict.isNone

/-- The tables a job's target lives in: the runs, and those of the other targets. -/
structure Targets (ρ : Type) where
  runs : List RunRow
  other : ρ

/-- The part of the database the job control plane reads and writes. -/
structure Db (ρ : Type) where
  projects : List String
  jobs : List JobRow
  events : List JobEventRow
  targets : Targets ρ

variable {ρ : Type}

def Db.job (db : Db ρ) (jobId : String) : Option JobRow := Table.lookup JobRow.jobId db.jobs jobId

def Targets.run (targets : Targets ρ) (runId : String) : Option RunRow := Table.lookup RunRow.runId targets.runs runId

/-- The stored events of one job in sequence order. -/
def eventsOf (events : List JobEventRow) (jobId : String) : List JobEventRow :=
  (events.filter fun event => event.jobId = jobId).insertionSort fun a b => a.sequence ≤ b.sequence

/-- `JobEventRepository.list_for_job`. -/
def Db.listForJob (db : Db ρ) (jobId : String) : List JobEventRow := eventsOf db.events jobId

theorem eventsOf_length (events : List JobEventRow) (jobId : String) :
    (eventsOf events jobId).length = (events.filter fun event => event.jobId = jobId).length :=
  List.length_insertionSort _ _

/-- One more event of a job is one more event in its list. -/
theorem eventsOf_length_snoc {events : List JobEventRow} {event : JobEventRow} {jobId : String}
    (owner : event.jobId = jobId) :
    (eventsOf (events ++ [event]) jobId).length = (eventsOf events jobId).length + 1 := by
  simp [eventsOf_length, List.filter_append, owner]

end Jiejian.Jobs.Records
