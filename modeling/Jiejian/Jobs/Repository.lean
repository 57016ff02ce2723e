import Jiejian.Jobs.Models

namespace Jiejian.Jobs.Repository
open Jiejian.Errors Jiejian.Library Jiejian.Library.Outcome Jiejian.Jobs.Records Jiejian.Jobs.Models

variable {ρ : Type}

def queueGlobalLimit : Nat := 128
def queueProjectLimit : Nat := 32

/-- `QUEUE_OPERATION_LIMITS.get(operation_type, 4)`. -/
def queueOperationLimit (operationType : String) : Nat :=
  if operationType = "CHECK" then 8
  else if operationType = "BROWSER_RECORDING" then 2
  else if operationType = "RUNTIME_LOAD" then 2
  else if operationType = "PROOF_PREFLIGHT" then 16
  else if operationType = "REFERENCE_CAPTURE" then 4
  else if operationType = "FLOW_TRIAL" then 8
  else if operationType = "IDENTITY_PREPARATION" then 2
  else 4

structure QueueCapacity where
  queued : Nat
  projectQueued : Nat
  operationQueued : Nat
  globalLimit : Nat
  projectLimit : Nat
  operationLimit : Nat
  canSubmit : Bool
  deriving DecidableEq, Repr

/-- Only waiting jobs count against the queue. -/
def capacity (db : Db ρ) (projectId operationType : String) : QueueCapacity :=
  let waiting := db.jobs.filter fun row => row.state.isWaiting
  let project := waiting.filter fun row => row.projectId = projectId
  let operation := project.filter fun row => row.operationType = operationType
  let limit := queueOperationLimit operationType
  { queued := waiting.length, projectQueued := project.length, operationQueued := operation.length,
    globalLimit := queueGlobalLimit, projectLimit := queueProjectLimit, operationLimit := limit,
    canSubmit := waiting.length < queueGlobalLimit && project.length < queueProjectLimit
      && operation.length < limit }

def queueFullMessage (capacity : QueueCapacity) : String :=
  "排队任务已达预算：全部 " ++ toString capacity.queued ++ "/" ++ toString capacity.globalLimit ++
    "，本应用 " ++ toString capacity.projectQueued ++ "/" ++ toString capacity.projectLimit ++
    "，此类 " ++ toString capacity.operationQueued ++ "/" ++ toString capacity.operationLimit ++
    "；请查询已有任务，等待或取消后再决定是否提交"

def constraintRefused : JiejianError := ⟨.STORAGE_CONSTRAINT, "数据库约束拒绝写入"⟩

def getByIdempotency (db : Db ρ) (projectId operationType idempotencyKey : String) : Option JobRow :=
  db.jobs.find? fun row =>
    row.projectId = projectId && row.operationType = operationType && row.idempotencyKey = idempotencyKey

def requireJob (db : Db ρ) (jobId : String) : Except JiejianError JobRow :=
  orRaise (db.job jobId) ⟨.JOB_NOT_FOUND, "任务不存在"⟩

/-- The foreign key of a run target. -/
def targetStored (targets : Targets ρ) : JobTarget → Bool
  | .run runId => (targets.run runId).isSome
  | _ => true

/-- The table's primary key, unique constraints, foreign keys and checks. -/
def jobConstraints (db : Db ρ) (record : JobRow) : Bool :=
  (db.job record.jobId).isNone
    && db.jobs.all (fun row => row.target ≠ record.target)
    && (getByIdempotency db record.projectId record.operationType record.idempotencyKey).isNone
    && record.projectId ∈ db.projects
    && targetStored db.targets record.target
    && validateJobFields record

/-- `JobRepository.add`. -/
def addJob (payloadSafe : Payload → Bool) (db : Db ρ) (record : JobRow) : Except JiejianError (Db ρ) := do
  ensureStoragePayloadSafe payloadSafe (.job record)
  let room := capacity db record.projectId record.operationType
  require (getByIdempotency db record.projectId record.operationType record.idempotencyKey ≠ none
    ∨ room.canSubmit = true) ⟨.JOB_QUEUE_FULL, queueFullMessage room⟩
  require (jobConstraints db record = true) constraintRefused
  return { db with jobs := db.jobs ++ [record] }

/-- `RunRepository.add`. -/
def addRun (payloadSafe : Payload → Bool) (db : Db ρ) (record : RunRow) : Except JiejianError (Db ρ) := do
  ensureStoragePayloadSafe payloadSafe (.run record)
  require (db.targets.run record.runId = none ∧ record.projectId ∈ db.projects
    ∧ runMatrix record.lifecycle record.verdict = true ∧ record.createdAtUs ≤ record.updatedAtUs) constraintRefused
  return { db with targets := { db.targets with runs := db.targets.runs ++ [record] } }

/-- `JobEventRepository.append`. -/
def appendEvent (payloadSafe : Payload → Bool) (db : Db ρ) (record : JobEventRow) : Except JiejianError (Db ρ) := do
  ensureStoragePayloadSafe payloadSafe (.event record)
  let latest := ((db.events.filter fun event => event.jobId = record.jobId).map JobEventRow.sequence).max?
  require (record.sequence = latest.getD 0 + 1) ⟨.STORAGE_CONSTRAINT, "任务事件必须按连续序号追加"⟩
  require ((db.job record.jobId).isSome = true) constraintRefused
  return { db with events := db.events ++ [record] }

/-- `append_job_event`: the next event of a job, numbered after those already stored. -/
def appendJobEvent (payloadSafe : Payload → Bool) (db : Db ρ) (job : JobRow) (eventType : JobEventType)
    (sourceState targetState : Option JobState) (occurredAtUs : Nat) (metadata : EventMetadata) :
    Except JiejianError (Db ρ) :=
  appendEvent payloadSafe db
    { jobId := job.jobId, sequence := (db.listForJob job.jobId).length + 1, eventType, sourceState, targetState,
      occurredAtUs, metadata }

/-- An accepted event is stored last, numbered one past the events the job already has. -/
theorem appendJobEvent_ok {payloadSafe : Payload → Bool} {db db' : Db ρ} {job : JobRow} {eventType : JobEventType}
    {sourceState targetState : Option JobState} {occurredAtUs : Nat} {metadata : EventMetadata}
    (appended : appendJobEvent payloadSafe db job eventType sourceState targetState occurredAtUs metadata = .ok db') :
    db' = { db with events := db.events ++
      [⟨job.jobId, (db.listForJob job.jobId).length + 1, eventType, sourceState, targetState, occurredAtUs,
        metadata⟩] } := by
  simp only [appendJobEvent, appendEvent, bind_eq_ok, require_eq_ok, ensureStoragePayloadSafe] at appended
  obtain ⟨_, _, _, _, _, _, stored⟩ := appended
  exact (Except.ok.inj stored).symm

/-- What later proofs need of an appended event. -/
theorem appendJobEvent_event {payloadSafe : Payload → Bool} {db db' : Db ρ} {job : JobRow} {eventType : JobEventType}
    {sourceState targetState : Option JobState} {occurredAtUs : Nat} {metadata : EventMetadata}
    (appended : appendJobEvent payloadSafe db job eventType sourceState targetState occurredAtUs metadata = .ok db') :
    ∃ event : JobEventRow, event.jobId = job.jobId ∧ event.sequence = (db.listForJob job.jobId).length + 1 ∧
      event.sourceState = sourceState ∧ event.targetState = targetState ∧
      db' = { db with events := db.events ++ [event] } :=
  ⟨_, rfl, rfl, rfl, rfl, appendJobEvent_ok appended⟩

theorem addJob_ok {payloadSafe : Payload → Bool} {db db' : Db ρ} {record : JobRow}
    (added : addJob payloadSafe db record = .ok db') :
    jobConstraints db record = true ∧ db' = { db with jobs := db.jobs ++ [record] } := by
  simp only [addJob, bind_eq_ok, require_eq_ok, ensureStoragePayloadSafe] at added
  obtain ⟨_, _, _, _, _, accepted, stored⟩ := added
  exact ⟨accepted, (Except.ok.inj stored).symm⟩

/-- The constraints of the job table that later proofs rely on. -/
theorem jobConstraints_facts {db : Db ρ} {record : JobRow} (accepted : jobConstraints db record = true) :
    db.job record.jobId = none ∧ (∀ row ∈ db.jobs, row.target ≠ record.target) ∧ validateJobFields record = true := by
  simp only [jobConstraints, Bool.and_eq_true, Option.isNone_iff_eq_none, List.all_eq_true,
    decide_eq_true_eq] at accepted
  exact ⟨accepted.1.1.1.1.1, accepted.1.1.1.1.2, accepted.2⟩

theorem addRun_ok {payloadSafe : Payload → Bool} {db db' : Db ρ} {record : RunRow}
    (added : addRun payloadSafe db record = .ok db') :
    db.targets.run record.runId = none ∧
      db' = { db with targets := { db.targets with runs := db.targets.runs ++ [record] } } := by
  simp only [addRun, bind_eq_ok, require_eq_ok, ensureStoragePayloadSafe] at added
  obtain ⟨_, _, _, accepted, stored⟩ := added
  exact ⟨accepted.1, (Except.ok.inj stored).symm⟩

end Jiejian.Jobs.Repository
