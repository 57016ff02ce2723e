import Jiejian.Jobs.Attempts

namespace Jiejian.Jobs.Completion
open Jiejian.Errors Jiejian.Library.Outcome
open Jiejian.Jobs.Records Jiejian.Jobs.Models Jiejian.Jobs.Repository Jiejian.Jobs.Control Jiejian.Jobs.Targets
open Jiejian.Jobs.Queue Jiejian.Jobs.Attempts

variable {ρ ν : Type}

/-- The database part of `CheckPublisher._complete`. `record` writes the evidence, receipt and rule rows. -/
def completePublication (service : Service ρ ν) (knownSecrets : List String) (db : Db ρ) (result : PublishedResult)
    (record : Db ρ → Except JiejianError ρ) : Except JiejianError ((JobRow × RunRow) × Db ρ) := do
  let changed ← completePublishedResult db result
  match changed with
  | (none, _) => .error ⟨.ARTIFACT_FENCE, "Runner 结果关联信息不匹配"⟩
  | (some (job, run), db) =>
    let recorded ← record db
    let db ← appendJobEvent (service.payloadSafe knownSecrets)
      { db with targets := { db.targets with other := recorded } } job .JOB_SUCCEEDED
      (some .running) (some .succeeded) result.completedAtUs
      [("attempt", .int result.attempt), ("fencing_token", .int result.fencingToken)]
    return ((job, run), db)

/-- The conditions of one `complete_*` update of a target that is not a run. -/
structure TargetCompletion where
  jobId : String
  target : JobTarget
  operationType : Option String
  requestHash : Option String
  attempt : Nat
  leaseOwner : String
  fencingToken : Nat
  nowUs : Nat
  requireActiveLease : Bool
  requireNotCancelled : Bool
  notRun : ∀ runId, target ≠ .run runId

def completable (completion : TargetCompletion) (row : JobRow) : Bool :=
  fenced completion.jobId completion.leaseOwner completion.fencingToken row
    && row.target = completion.target
    && completion.operationType.all (fun operationType => row.operationType = operationType)
    && completion.requestHash.all (fun requestHash => row.requestHash = requestHash)
    && row.attempt = completion.attempt
    && row.leaseExpiresAtUs.any (fun expiry => !completion.requireActiveLease || completion.nowUs < expiry)
    && row.updatedAtUs ≤ completion.nowUs
    && (!completion.requireNotCancelled || row.cancelRequestedAtUs.isNone)

def completeTarget (db : Db ρ) (completion : TargetCompletion) : Option JobRow × Db ρ :=
  updateJob db (completable completion) (releasedRow .succeeded completion.nowUs none)

def completeRecordingResult (jobId recordingId : String) (attempt : Nat) (leaseOwner : String)
    (fencingToken completedAtUs : Nat) : TargetCompletion :=
  { jobId, target := .recording recordingId, operationType := none, requestHash := none, attempt, leaseOwner,
    fencingToken, nowUs := completedAtUs, requireActiveLease := true, requireNotCancelled := false,
    notRun := by simp }

def completeRuntimeLoad (jobId loadId requestHash : String) (attempt : Nat) (leaseOwner : String)
    (fencingToken nowUs : Nat) : TargetCompletion :=
  { jobId, target := .runtimeLoad loadId, operationType := some "RUNTIME_LOAD", requestHash := some requestHash,
    attempt, leaseOwner, fencingToken, nowUs, requireActiveLease := true, requireNotCancelled := true,
    notRun := by simp }

def completePreflight (jobId preflightId requestHash : String) (attempt : Nat) (leaseOwner : String)
    (fencingToken nowUs : Nat) : TargetCompletion :=
  { jobId, target := .preflight preflightId, operationType := some "PROOF_PREFLIGHT",
    requestHash := some requestHash, attempt, leaseOwner, fencingToken, nowUs, requireActiveLease := true,
    requireNotCancelled := true, notRun := by simp }

def completeIdentityPreparation (jobId preparationId requestHash : String) (attempt : Nat) (leaseOwner : String)
    (fencingToken nowUs : Nat) : TargetCompletion :=
  { jobId, target := .identityPreparation preparationId, operationType := some "IDENTITY_PREPARATION",
    requestHash := some requestHash, attempt, leaseOwner, fencingToken, nowUs, requireActiveLease := true,
    requireNotCancelled := true, notRun := by simp }

def completeReferenceCapture (jobId captureId requestHash : String) (attempt : Nat) (leaseOwner : String)
    (fencingToken nowUs : Nat) (requireActiveLease : Bool) : TargetCompletion :=
  { jobId, target := .referenceCapture captureId, operationType := some "REFERENCE_CAPTURE",
    requestHash := some requestHash, attempt, leaseOwner, fencingToken, nowUs, requireActiveLease,
    requireNotCancelled := true, notRun := by simp }

def completeFlowTrial (jobId trialId requestHash : String) (attempt : Nat) (leaseOwner : String)
    (fencingToken nowUs : Nat) (requireActiveLease : Bool) : TargetCompletion :=
  { jobId, target := .flowTrial trialId, operationType := some "FLOW_TRIAL", requestHash := some requestHash,
    attempt, leaseOwner, fencingToken, nowUs, requireActiveLease, requireNotCancelled := true,
    notRun := by simp }

/-- The transaction around a `complete_*` update: target rows, the update and its event. -/
def publishTarget (service : Service ρ ν) (knownSecrets : List String) (db : Db ρ) (completion : TargetCompletion)
    (record : Db ρ → Except JiejianError ρ) (metadata : EventMetadata) : Except JiejianError (JobRow × Db ρ) := do
  match completeTarget db completion with
  | (none, _) => .error leaseMismatch
  | (some job, db) =>
    let recorded ← record db
    let db ← appendJobEvent (service.payloadSafe knownSecrets)
      { db with targets := { db.targets with other := recorded } } job .JOB_SUCCEEDED
      (some .running) (some .succeeded) completion.nowUs metadata
    return (job, db)

/-- A job enqueued for a target that is not a run. -/
structure TargetSubmission where
  jobId : String
  projectId : String
  target : JobTarget
  operationType : String
  idempotencyKey : String
  requestHash : String
  maxAttempts : Nat
  availableAtUs : Nat
  nowUs : Nat
  metadata : EventMetadata
  notRun : ∀ runId, target ≠ .run runId

/-- `ProofPreflightJobs.submit`, `ReferenceCaptureJobs.submit`, `FlowTrialJobs.submit` and
`RuntimeLoadJobs.submit` differ in the target and its operation type only. -/
def singleAttempt (jobId projectId operationId requestHash : String) (createdAtUs : Nat) (target : JobTarget)
    (operationType : String) (notRun : ∀ runId, target ≠ .run runId) : TargetSubmission :=
  { jobId, projectId, target, operationType, idempotencyKey := operationId, requestHash, maxAttempts := 1,
    availableAtUs := createdAtUs, nowUs := createdAtUs, metadata := [("operation_type", .str operationType)], notRun }

def preflightSubmission (jobId projectId operationId requestHash preflightId : String) (createdAtUs : Nat) :=
  singleAttempt jobId projectId operationId requestHash createdAtUs (.preflight preflightId) "PROOF_PREFLIGHT" (by simp)

def captureSubmission (jobId projectId operationId requestHash captureId : String) (createdAtUs : Nat) :=
  singleAttempt jobId projectId operationId requestHash createdAtUs (.referenceCapture captureId)
    "REFERENCE_CAPTURE" (by simp)

def trialSubmission (jobId projectId operationId requestHash trialId : String) (createdAtUs : Nat) :=
  singleAttempt jobId projectId operationId requestHash createdAtUs (.flowTrial trialId) "FLOW_TRIAL" (by simp)

def runtimeLoadSubmission (jobId projectId operationId requestHash loadId : String) (createdAtUs : Nat) :=
  singleAttempt jobId projectId operationId requestHash createdAtUs (.runtimeLoad loadId) "RUNTIME_LOAD" (by simp)

def identityPreparationSubmission (jobId projectId operationId requestHash preparationId : String) (nowUs : Nat) :
    TargetSubmission :=
  { jobId, projectId, target := .identityPreparation preparationId, operationType := "IDENTITY_PREPARATION",
    idempotencyKey := operationId, requestHash, maxAttempts := 1, availableAtUs := nowUs, nowUs, metadata := [],
    notRun := by simp }

def recordingSubmission (jobId projectId idempotencyKey requestHash recordingId : String)
    (maxAttempts availableAtUs nowUs : Nat) : TargetSubmission :=
  { jobId, projectId, target := .recording recordingId, operationType := "BROWSER_RECORDING", idempotencyKey,
    requestHash, maxAttempts, availableAtUs, nowUs,
    metadata := [("attempt", .int 0), ("target_type", .str "RECORDING")], notRun := by simp }

def enqueuedJob (submission : TargetSubmission) : JobRow :=
  { jobId := submission.jobId, projectId := submission.projectId, target := submission.target,
    operationType := submission.operationType, state := .pending, idempotencyKey := submission.idempotencyKey,
    requestHash := submission.requestHash, attempt := 0, maxAttempts := submission.maxAttempts,
    availableAtUs := submission.availableAtUs, leaseOwner := none, fencingToken := 0, leaseExpiresAtUs := none,
    cancelRequestedAtUs := none, createdAtUs := submission.nowUs, updatedAtUs := submission.nowUs }

/-- The shared tail of the six submissions: the target's own rows, then the job and its event. -/
def enqueueTarget (service : Service ρ ν) (knownSecrets : List String) (db : Db ρ) (submission : TargetSubmission)
    (store : Db ρ → Except JiejianError ρ) : Except JiejianError (JobRow × Db ρ) := do
  let payloadSafe := service.payloadSafe knownSecrets
  let stored ← store db
  let job := enqueuedJob submission
  let db ← addJob payloadSafe { db with targets := { db.targets with other := stored } } job
  let db ← appendJobEvent payloadSafe db job .JOB_SUBMITTED none (some .pending) submission.nowUs submission.metadata
  return (job, db)

end Jiejian.Jobs.Completion
