import Jiejian.Jobs.Repository

namespace Jiejian.Jobs.Control
open Jiejian.Errors Jiejian.Library Jiejian.Library.Outcome Jiejian.Jobs.Records

variable {ρ : Type}

/-- `UPDATE jobs ... RETURNING job_id`, then the row read back by that id. -/
def updateJob (db : Db ρ) (condition : JobRow → Bool) (set : JobRow → JobRow) : Option JobRow × Db ρ :=
  let updated := Table.updateReturning JobRow.jobId db.jobs condition set
  let db' := { db with jobs := updated.2 }
  (updated.1.bind db'.job, db')

/-- The database after one job row is overwritten. -/
def storeJob (db : Db ρ) (row : JobRow) : Db ρ := { db with jobs := Table.replace JobRow.jobId db.jobs row }

/-- `UPDATE runs ... RETURNING run_id`, then the row read back by that id. -/
def updateRun (targets : Targets ρ) (condition : RunRow → Bool) (set : RunRow → RunRow) :
    Option RunRow × Targets ρ :=
  let updated := Table.updateReturning RunRow.runId targets.runs condition set
  let targets' := { targets with runs := updated.2 }
  (updated.1.bind targets'.run, targets')

/-- The joined target row lets the job be claimed. -/
def targetClaimable (targets : Targets ρ) (recordingStartable : ρ → String → Bool)
    (targetTypes : List JobTargetType) (job : JobRow) : Bool :=
  match job.target with
  | .run runId => .RUN ∈ targetTypes
      && (targets.run runId).any fun run => run.lifecycle.isNonterminal && run.verdict.isNone
  | .recording recordingId => .RECORDING ∈ targetTypes && recordingStartable targets.other recordingId
  | .runtimeLoad _ => .RUNTIME_LOAD ∈ targetTypes && job.operationType = "RUNTIME_LOAD"
  | .preflight _ => .PROOF_PREFLIGHT ∈ targetTypes && job.operationType = "PROOF_PREFLIGHT"
  | .flowTrial _ => .FLOW_TRIAL ∈ targetTypes && job.operationType = "FLOW_TRIAL"
  | .referenceCapture _ => .REFERENCE_CAPTURE ∈ targetTypes && job.operationType = "REFERENCE_CAPTURE"
  | .identityPreparation _ => .IDENTITY_PREPARATION ∈ targetTypes && job.operationType = "IDENTITY_PREPARATION"

/-- The conditions under which a job may be claimed at `nowUs`. -/
def claimable (targets : Targets ρ) (recordingStartable : ρ → String → Bool) (targetTypes : List JobTargetType)
    (nowUs : Nat) (job : JobRow) : Bool :=
  job.state.isWaiting
    && decide (job.availableAtUs ≤ nowUs)
    && job.cancelRequestedAtUs.isNone
    && decide (job.attempt < job.maxAttempts)
    && job.leaseOwner.isNone
    && job.leaseExpiresAtUs.isNone
    && decide (job.updatedAtUs ≤ nowUs)
    && targetClaimable targets recordingStartable targetTypes job

/-- `ORDER BY available_at_us, created_at_us, job_id`. -/
def claimBefore (a b : JobRow) : Bool :=
  a.availableAtUs < b.availableAtUs || (a.availableAtUs = b.availableAtUs &&
    (a.createdAtUs < b.createdAtUs || (a.createdAtUs = b.createdAtUs && a.jobId ≤ b.jobId)))

/-- The values a claim writes. -/
def claimedRow (leaseOwner : String) (nowUs leaseExpiresAtUs : Nat) (row : JobRow) : JobRow :=
  { row with state := .running, attempt := row.attempt + 1, fencingToken := row.fencingToken + 1,
             leaseOwner := some leaseOwner, leaseExpiresAtUs := some leaseExpiresAtUs, updatedAtUs := nowUs }

/-- Claim one runnable job, advancing its attempt and its fencing token together. -/
def claim (db : Db ρ) (recordingStartable : ρ → String → Bool) (jobId : Option String) (leaseOwner : String)
    (nowUs leaseExpiresAtUs : Nat) (targetTypes : List JobTargetType) : Option JobRow × Db ρ :=
  let eligible := db.jobs.filter fun row =>
    claimable db.targets recordingStartable targetTypes nowUs row && jobId.all fun wanted => row.jobId = wanted
  match Table.first claimBefore eligible with
  | none => (none, db)
  | some chosen => updateJob db (fun row => row.jobId = chosen.jobId) (claimedRow leaseOwner nowUs leaseExpiresAtUs)

def advancedRun (nowUs : Nat) (run : RunRow) : RunRow := { run with lifecycle := .running, updatedAtUs := nowUs }

def advanceRunAfterClaim (targets : Targets ρ) (runId : String) (nowUs : Nat) : Option RunRow × Targets ρ :=
  let targets' := (updateRun targets (fun run => run.runId = runId && run.lifecycle = .queued && run.verdict.isNone
    && run.updatedAtUs ≤ nowUs) (advancedRun nowUs)).2
  ((targets'.run runId).filter fun run => run.lifecycle = .running, targets')

/-- The row is running under exactly this owner and token. -/
def fenced (jobId leaseOwner : String) (fencingToken : Nat) (row : JobRow) : Bool :=
  row.jobId = jobId && row.state = .running && row.leaseOwner = some leaseOwner && row.fencingToken = fencingToken

def renewedRow (nowUs leaseExpiresAtUs : Nat) (row : JobRow) : JobRow :=
  { row with leaseExpiresAtUs := some leaseExpiresAtUs, updatedAtUs := nowUs }

def renewLease (db : Db ρ) (jobId leaseOwner : String) (fencingToken nowUs leaseExpiresAtUs : Nat) :
    Option JobRow × Db ρ :=
  updateJob db (fun row => fenced jobId leaseOwner fencingToken row
    && row.leaseExpiresAtUs.any (fun expiry => nowUs < expiry)
    && row.leaseExpiresAtUs.any (fun expiry => expiry < leaseExpiresAtUs)
    && row.updatedAtUs ≤ nowUs) (renewedRow nowUs leaseExpiresAtUs)

def cancelRequestedRow (nowUs : Nat) (row : JobRow) : JobRow :=
  { row with cancelRequestedAtUs := some nowUs, updatedAtUs := nowUs }

/-- The row afterwards and whether this call was the first request. -/
def setCancelRequestedAtIfAbsent (db : Db ρ) (jobId : String) (nowUs : Nat) : (Option JobRow × Bool) × Db ρ :=
  match updateJob db (fun row => row.jobId = jobId && (row.state.isWaiting || row.state = .running)
      && row.cancelRequestedAtUs.isNone && row.updatedAtUs ≤ nowUs) (cancelRequestedRow nowUs) with
  | (some changed, db') => ((some changed, true), db')
  | (none, db') => ((db'.job jobId, false), db')

/-- A job without a lease ends; only its state and update time are written. -/
def droppedRow (state : JobState) (nowUs : Nat) (row : JobRow) : JobRow :=
  { row with state := state, updatedAtUs := nowUs }

def cancelWaiting (db : Db ρ) (jobId : String) (nowUs : Nat) : Option JobRow × Db ρ :=
  updateJob db (fun row => row.jobId = jobId && row.state.isWaiting && row.cancelRequestedAtUs.isSome
    && row.updatedAtUs ≤ nowUs) (droppedRow .cancelled nowUs)

/-- End the waiting job only while it has neither lease nor cancellation. -/
def recordWaitingFailure (db : Db ρ) (jobId : String) (nowUs : Nat) : Option JobRow × Db ρ :=
  updateJob db (fun row => row.jobId = jobId && row.state.isWaiting && row.leaseOwner.isNone
    && row.leaseExpiresAtUs.isNone && row.cancelRequestedAtUs.isNone && row.updatedAtUs ≤ nowUs)
    (droppedRow .failed nowUs)

/-- The values written when a running job gives its lease back. -/
def releasedRow (state : JobState) (nowUs : Nat) (availableAtUs : Option Nat) (row : JobRow) : JobRow :=
  { row with state := state, leaseOwner := none, leaseExpiresAtUs := none, updatedAtUs := nowUs,
             availableAtUs := availableAtUs.getD row.availableAtUs }

/-- `_finish_running_job`. -/
def finishRunningJob (db : Db ρ) (jobId leaseOwner : String) (fencingToken nowUs : Nat) (targetState : JobState)
    (availableAtUs : Option Nat) (requireCancel requireExpired : Bool) : Option JobRow × Db ρ :=
  updateJob db (fun row => fenced jobId leaseOwner fencingToken row && row.updatedAtUs ≤ nowUs
    && row.leaseExpiresAtUs.any (fun expiry => if requireExpired then expiry ≤ nowUs else nowUs < expiry)
    && (!requireCancel || row.cancelRequestedAtUs.isSome)) (releasedRow targetState nowUs availableAtUs)

def completeRunningCancellation (db : Db ρ) (jobId leaseOwner : String) (fencingToken nowUs : Nat) :
    Option JobRow × Db ρ :=
  finishRunningJob db jobId leaseOwner fencingToken nowUs .cancelled none true false

def recordRunningFailure (db : Db ρ) (jobId leaseOwner : String) (fencingToken nowUs : Nat)
    (targetState : JobState) (availableAtUs : Option Nat) : Except JiejianError (Option JobRow × Db ρ) := do
  require (targetState = .retryWait ∨ targetState = .failed) ⟨.STORAGE_STATE, "任务失败目标状态无效"⟩
  return finishRunningJob db jobId leaseOwner fencingToken nowUs targetState availableAtUs false false

def confirmRecovery (db : Db ρ) (jobId leaseOwner : String) (fencingToken nowUs : Nat)
    (targetState : JobState) (availableAtUs : Option Nat) : Except JiejianError (Option JobRow × Db ρ) := do
  require (targetState = .retryWait ∨ targetState = .failed ∨ targetState = .cancelled)
    ⟨.STORAGE_STATE, "任务恢复目标状态无效"⟩
  return finishRunningJob db jobId leaseOwner fencingToken nowUs targetState availableAtUs
    (targetState = .cancelled) true

def finishedRun (lifecycle : RunLifecycle) (verdict : Option RunVerdict) (nowUs : Nat) (run : RunRow) : RunRow :=
  { run with lifecycle := lifecycle, verdict := verdict, updatedAtUs := nowUs, finishedAtUs := some nowUs }

/-- The conditional update shared by every write that ends a run. -/
def finishRun (targets : Targets ρ) (runId : String) (lifecycle : RunLifecycle) (verdict : Option RunVerdict)
    (nowUs : Nat) : Option RunRow × Targets ρ :=
  updateRun targets (fun run => run.runId = runId && run.lifecycle.isNonterminal && run.verdict.isNone
    && run.updatedAtUs ≤ nowUs) (finishedRun lifecycle verdict nowUs)

def transitionRunTerminal (targets : Targets ρ) (runId : String) (target : RunLifecycle) (nowUs : Nat) :
    Except JiejianError (Option RunRow × Targets ρ) := do
  require (target = .failed ∨ target = .cancelled) ⟨.STORAGE_STATE, "运行终态无效"⟩
  return finishRun targets runId target none nowUs

/-- The arguments of `complete_published_result`. -/
structure PublishedResult where
  jobId : String
  runId : String
  attempt : Nat
  leaseOwner : String
  fencingToken : Nat
  lifecycle : RunLifecycle
  verdict : Option RunVerdict
  completedAtUs : Nat
  requireActiveLease : Bool
  requestHash : Option String
  publishedAtUs : Option Int
  deriving DecidableEq, Repr

def verdictMatrixInvalid : JiejianError := ⟨.STORAGE_STATE, "发布结果结论矩阵无效"⟩

/-- `job_conditions` of the publishing update. -/
def publishable (result : PublishedResult) (row : JobRow) : Bool :=
  fenced result.jobId result.leaseOwner result.fencingToken row
    && row.target = .run result.runId
    && row.attempt = result.attempt
    && row.updatedAtUs ≤ result.completedAtUs
    && (match result.requestHash with
      | none => true
      | some requestHash => row.requestHash = requestHash && row.operationType = "CHECK"
          && row.cancelRequestedAtUs.isNone)
    && (match result.publishedAtUs with
      | none => true
      | some publishedAtUs => row.leaseExpiresAtUs.any fun expiry => publishedAtUs < (expiry : Int))
    && (!(result.requireActiveLease || (result.requestHash.isSome && result.publishedAtUs.isNone))
      || row.leaseExpiresAtUs.any fun expiry => result.completedAtUs < expiry)

/-- Fenced completion of a published result: job and run change together or not at all. -/
def completePublishedResult (db : Db ρ) (result : PublishedResult) :
    Except JiejianError (Option (JobRow × RunRow) × Db ρ) := do
  require (result.lifecycle = .completed ∨ result.lifecycle = .safetyStopped) ⟨.STORAGE_STATE, "发布结果运行终态无效"⟩
  require (¬ ((result.lifecycle = .completed ∧ result.verdict = none)
    ∨ (result.lifecycle = .safetyStopped ∧ result.verdict = some .pass))) verdictMatrixInvalid
  require (result.requestHash.isSome = true → result.verdict ≠ none) verdictMatrixInvalid
  require (∀ publishedAtUs ∈ result.publishedAtUs, result.requestHash.isSome = true ∧ 0 ≤ publishedAtUs
    ∧ publishedAtUs ≤ (result.completedAtUs : Int)) verdictMatrixInvalid
  match updateJob db (publishable result) (releasedRow .succeeded result.completedAtUs none) with
  | (none, db') => return (none, db')
  | (some job, db') =>
    match finishRun db'.targets result.runId result.lifecycle result.verdict result.completedAtUs with
    | (none, _) => .error ⟨.STORAGE_STATE, "运行完成态条件不匹配"⟩
    | (some run, targets') => return (some (job, run), { db' with targets := targets' })

theorem updateJob_cases {db : Db ρ} (keyed : Table.Keyed JobRow.jobId db.jobs) {condition : JobRow → Bool}
    {set : JobRow → JobRow} {jobId : String} (targeted : ∀ row, condition row = true → row.jobId = jobId)
    (keeps : ∀ row, (set row).jobId = row.jobId) :
    updateJob db condition set = (none, db) ∨
      ∃ row ∈ db.jobs, row.jobId = jobId ∧ condition row = true ∧
        updateJob db condition set = (some (set row), storeJob db (set row)) := by
  rcases Table.updateReturning_cases keyed targeted keeps with unchanged | ⟨row, stored, holds, changed⟩
  · left
    simp [updateJob, unchanged]
  · right
    have same := targeted row holds
    refine ⟨row, stored, same, holds, ?_⟩
    have present : (set row).jobId ∈ db.jobs.map JobRow.jobId := by
      rw [keeps]
      exact List.mem_map_of_mem stored
    have found := Table.lookup_replace_self keyed present
    rw [keeps, same] at found
    simp [updateJob, changed, Db.job, found, storeJob]

theorem updateRun_cases {targets : Targets ρ} (keyed : Table.Keyed RunRow.runId targets.runs)
    {condition : RunRow → Bool} {set : RunRow → RunRow} {runId : String}
    (targeted : ∀ run, condition run = true → run.runId = runId) (keeps : ∀ run, (set run).runId = run.runId) :
    updateRun targets condition set = (none, targets) ∨
      ∃ run ∈ targets.runs, run.runId = runId ∧ condition run = true ∧
        updateRun targets condition set =
          (some (set run), { targets with runs := Table.replace RunRow.runId targets.runs (set run) }) := by
  rcases Table.updateReturning_cases keyed targeted keeps with unchanged | ⟨run, stored, holds, changed⟩
  · left
    simp [updateRun, unchanged]
  · right
    have same := targeted run holds
    refine ⟨run, stored, same, holds, ?_⟩
    have present : (set run).runId ∈ targets.runs.map RunRow.runId := by
      rw [keeps]
      exact List.mem_map_of_mem stored
    have found := Table.lookup_replace_self keyed present
    rw [keeps, same] at found
    simp [updateRun, changed, Targets.run, found]

end Jiejian.Jobs.Control
