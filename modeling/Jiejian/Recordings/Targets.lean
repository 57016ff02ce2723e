import Jiejian.Jobs.Agreement
import Jiejian.Library.Table
import Jiejian.Recordings.Captures

namespace Jiejian.Recordings.Repository

open Errors Library Library.Outcome Models Captures

variable {γ : Type}

/-- A draft under review; the review edits its content. -/
structure FlowDraft (γ : Type) where
  recordingId : String
  flowId : String
  revision : Nat
  content : γ

structure FlowDraftRevisionRecord (γ : Type) where
  recordingId : String
  revision : Nat
  flowId : String
  draft : FlowDraft γ
  createdAtUs : Nat

/-- `validate_draft_identity`. -/
def FlowDraftRevisionRecord.valid (record : FlowDraftRevisionRecord γ) : Bool :=
  1 ≤ record.revision && record.draft.recordingId = record.recordingId && record.draft.revision = record.revision &&
    record.draft.flowId = record.flowId

/-- The rows of the recordings. `candidates` are the recordings marked as material candidates. -/
structure RecordingTables (γ : Type) where
  recordings : List RecordingRecord
  drafts : List (FlowDraftRevisionRecord γ)
  candidates : List String

def recordingKey (record : RecordingRecord) : String := record.recordingId

def draftKey (record : FlowDraftRevisionRecord γ) : String × Nat := (record.recordingId, record.revision)

def RecordingTables.get (tables : RecordingTables γ) (recordingId : String) : Option RecordingRecord :=
  Table.lookup recordingKey tables.recordings recordingId

/-- What the secret scans let through. -/
structure Scans (γ : Type) where
  recording : RecordingRecord → Bool
  draft : FlowDraft γ → Bool
  result : RecordingRunnerResult → Bool

def secretFound : JiejianError := ⟨.STORAGE_SECRET, "持久化数据包含敏感内容"⟩

def refused : JiejianError := ⟨.STORAGE_CONSTRAINT, "数据库约束拒绝写入"⟩

/-- `RecordingRepository.add`. -/
def addRecording (scans : Scans γ) (tables : RecordingTables γ) (record : RecordingRecord) :
    Except JiejianError (RecordingTables γ) := do
  require (scans.recording record = true) secretFound
  require (∀ parent ∈ record.parentRecordingId, (tables.get parent).isSome = true) refused
  let recordings ← orRaise (Table.insert recordingKey tables.recordings record) refused
  return { tables with recordings := recordings }

/-- `RecordingRepository.replace`. -/
def replaceRecording (scans : Scans γ) (tables : RecordingTables γ) (record : RecordingRecord) :
    Except JiejianError (RecordingTables γ) := do
  require (scans.recording record = true) secretFound
  let row ← orRaise (tables.get record.recordingId) ⟨.STORAGE_CONSTRAINT, "录制对象不存在"⟩
  require (row.toRecordingSource = record.toRecordingSource ∧ row.flowId = record.flowId)
    ⟨.STORAGE_CONSTRAINT, "录制来源不可更换"⟩
  return { tables with recordings := Table.replace recordingKey tables.recordings record }

/-- `FlowDraftRevisionRepository.add`, after the validator of the record. -/
def addDraft (scans : Scans γ) (tables : RecordingTables γ) (record : FlowDraftRevisionRecord γ) :
    Except JiejianError (RecordingTables γ) := do
  require (record.valid = true) (invalid "flow draft revision identity is inconsistent")
  require (scans.draft record.draft = true) secretFound
  require ((tables.get record.recordingId).isSome = true) refused
  let drafts ← orRaise (Table.insert draftKey tables.drafts record) refused
  return { tables with drafts := drafts }

/-- The drafts of one recording. -/
def RecordingTables.draftsOf (tables : RecordingTables γ) (recordingId : String) : List (FlowDraftRevisionRecord γ) :=
  tables.drafts.filter fun record => record.recordingId = recordingId

/-- `FlowDraftRevisionRepository.latest`. -/
def RecordingTables.latest (tables : RecordingTables γ) (recordingId : String) : Option (FlowDraftRevisionRecord γ) :=
  Table.first (fun one other => other.revision < one.revision) (tables.draftsOf recordingId)

/-- The claim's condition on the joined recording. -/
def recordingStartable (tables : RecordingTables γ) (recordingId : String) : Bool :=
  (tables.get recordingId).any fun record => record.state ∈ [RecordingState.CREATED, .STARTING]

/-- Write a recording that went through a transition, with the flow and the browser events it had. -/
def storeRecording (scans : Scans γ) (tables : RecordingTables γ) (existing : RecordingRecord) (recording : Recording) :
    Except JiejianError (RecordingRecord × RecordingTables γ) := do
  let record ← fromDomain recording existing.flowId existing.browserEvents
  let tables ← replaceRecording scans tables record
  return (record, tables)

section Facts

variable {scans : Scans γ} {tables tables' : RecordingTables γ}

theorem get_some {recordingId : String} {record : RecordingRecord} (found : tables.get recordingId = some record) :
    record ∈ tables.recordings ∧ record.recordingId = recordingId := Table.lookup_some found

theorem addRecording_ok {record : RecordingRecord} (added : addRecording scans tables record = .ok tables') :
    (∀ row ∈ tables.recordings, row.recordingId ≠ record.recordingId) ∧
      tables' = { tables with recordings := tables.recordings ++ [record] } := by
  unfold addRecording at added
  obtain ⟨_, _, rest⟩ := bind_eq_ok.mp added
  obtain ⟨_, _, rest⟩ := bind_eq_ok.mp rest
  obtain ⟨recordings, inserted, returned⟩ := bind_eq_ok.mp rest
  cases Except.ok.inj returned
  obtain ⟨fresh, rfl⟩ := Table.insert_eq_some.mp (orRaise_eq_ok.mp inserted)
  exact ⟨fresh, rfl⟩

theorem replaceRecording_ok {record : RecordingRecord} (replaced : replaceRecording scans tables record = .ok tables') :
    tables' = { tables with recordings := Table.replace recordingKey tables.recordings record } := by
  unfold replaceRecording at replaced
  obtain ⟨_, _, rest⟩ := bind_eq_ok.mp replaced
  obtain ⟨row, _, rest⟩ := bind_eq_ok.mp rest
  obtain ⟨_, _, returned⟩ := bind_eq_ok.mp rest
  exact (Except.ok.inj returned).symm

theorem addDraft_ok {record : FlowDraftRevisionRecord γ} (added : addDraft scans tables record = .ok tables') :
    record.valid = true ∧ tables' = { tables with drafts := tables.drafts ++ [record] } := by
  unfold addDraft at added
  obtain ⟨_, valid, rest⟩ := bind_eq_ok.mp added
  obtain ⟨_, _, rest⟩ := bind_eq_ok.mp rest
  obtain ⟨_, _, rest⟩ := bind_eq_ok.mp rest
  obtain ⟨drafts, inserted, returned⟩ := bind_eq_ok.mp rest
  cases Except.ok.inj returned
  obtain ⟨_, rfl⟩ := Table.insert_eq_some.mp (orRaise_eq_ok.mp inserted)
  exact ⟨require_eq_ok.mp valid, rfl⟩

theorem storeRecording_ok {existing record : RecordingRecord} {recording : Recording}
    (stored : storeRecording scans tables existing recording = .ok (record, tables')) :
    record.toRecording = recording ∧
      tables' = { tables with recordings := Table.replace recordingKey tables.recordings record } := by
  unfold storeRecording at stored
  obtain ⟨made, built, rest⟩ := bind_eq_ok.mp stored
  obtain ⟨written, replaced, returned⟩ := bind_eq_ok.mp rest
  cases Except.ok.inj returned
  exact ⟨(fromDomain_ok built).1, replaceRecording_ok replaced⟩

end Facts

end Jiejian.Recordings.Repository

namespace Jiejian.Recordings.Targets

open Errors Library Library.Outcome Models Captures Repository
open Jobs.Records Jobs.Models Jobs.Targets Jobs.Queue Jobs.Agreement

variable {γ : Type}

/-- `RecordingJobTargetHandler.load`. -/
def loadRecording (tables : RecordingTables γ) (job : JobRow) : Except JiejianError RecordingRecord :=
  match job.target with
  | .recording recordingId => orRaise (tables.get recordingId) ⟨.JOB_PERSISTENCE, "任务关联录制不存在"⟩
  | _ => .error ⟨.JOB_PERSISTENCE, "任务录制目标关联非法"⟩

/-- `RecordingJobTargetHandler.advance_after_claim`. -/
def startRecording (scans : Scans γ) (tables : RecordingTables γ) (job : JobRow) (nowUs : Nat) :
    Except JiejianError (RecordingRecord × RecordingTables γ) := do
  let recording ← loadRecording tables job
  if recording.state = .CREATED then
    let started ← transitionRecordingState recording.toRecording .STARTING "WORKER" nowUs
    storeRecording scans tables recording started
  else
    require (recording.state = .STARTING) ⟨.JOB_PERSISTENCE, "录制状态无法进入启动"⟩
    return (recording, tables)

def outcomeTerminal : JobTargetOutcome → RecordingTerminalState
  | .cancelled => .CANCELLED
  | .failed => .FAILED

def outcomeReason : JobTargetOutcome → String
  | .cancelled => "CANCEL_REQUESTED"
  | .failed => "PROCESSING_FAILED"

/-- The transitions that end a recording with its job: at once before it was started, else through the cleanup. -/
def endRecording (recording : Recording) (nowUs : Nat) (outcome : JobTargetOutcome) : Except JiejianError Recording := do
  let reason := some (outcomeReason outcome)
  let terminal := outcomeTerminal outcome
  if recording.state = .CREATED then
    transitionRecordingState recording terminal.state "WORKER" nowUs reason
  else if recording.state = .CLEANING then
    transitionRecordingState recording terminal.state "WORKER" nowUs reason
  else
    let cleaning ← transitionRecordingState recording .CLEANING "WORKER" nowUs reason (some terminal)
    transitionRecordingState cleaning terminal.state "WORKER" nowUs reason

/-- `RecordingJobTargetHandler.finish`. -/
def finishRecording (scans : Scans γ) (tables : RecordingTables γ) (job : JobRow) (nowUs : Nat)
    (outcome : JobTargetOutcome) : Except JiejianError (RecordingRecord × RecordingTables γ) := do
  let recording ← loadRecording tables job
  let ended ← endRecording recording.toRecording nowUs outcome
  storeRecording scans tables recording ended

/-- `RecordingJobTargetHandler`. -/
def recordingJobTargetHandler (scans : Scans γ) : JobTargetHandler (RecordingTables γ) RecordingRecord where
  load tables job := do
    let recording ← loadRecording tables job
    return ⟨none, some recording⟩
  advanceAfterClaim tables job nowUs := do
    let started ← startRecording scans tables job nowUs
    return (⟨none, some started.1⟩, started.2)
  finish tables job nowUs outcome := do
    let finished ← finishRecording scans tables job nowUs outcome
    return (⟨none, some finished.1⟩, finished.2)

/-- What the services are built with; the handlers of the other targets are not called for a recording. -/
structure Wiring (γ : Type) where
  payloadSafe : List String → Payload → Bool
  scans : Scans γ
  retryPolicy : RetryPolicy
  flowTrial : JobTargetHandler (RecordingTables γ) RecordingRecord
  preflight : JobTargetHandler (RecordingTables γ) RecordingRecord
  capture : JobTargetHandler (RecordingTables γ) RecordingRecord
  preparation : JobTargetHandler (RecordingTables γ) RecordingRecord

/-- The job services over the tables of the recordings. -/
def Wiring.service (wiring : Wiring γ) : Service (RecordingTables γ) RecordingRecord :=
  currentService wiring.payloadSafe recordingStartable wiring.retryPolicy wiring.flowTrial
    (recordingJobTargetHandler wiring.scans) wiring.preflight wiring.capture wiring.preparation

section Facts

variable {wiring : Wiring γ} {tables tables' : RecordingTables γ} {job : JobRow} {nowUs : Nat}

theorem loadRecording_ok {record : RecordingRecord} (loaded : loadRecording tables job = .ok record) :
    record ∈ tables.recordings ∧ job.target = .recording record.recordingId := by
  unfold loadRecording at loaded
  cases target : job.target with
  | recording recordingId =>
    rw [target] at loaded
    obtain ⟨member, same⟩ := get_some (orRaise_eq_ok.mp loaded)
    exact ⟨member, by rw [same]⟩
  | run runId => simp [target] at loaded
  | runtimeLoad loadId => simp [target] at loaded
  | preflight preflightId => simp [target] at loaded
  | referenceCapture captureId => simp [target] at loaded
  | flowTrial trialId => simp [target] at loaded
  | identityPreparation preparationId => simp [target] at loaded

/-- A recording job is settled by the handler of the recordings. -/
theorem resolve_recording {recordingId : String} (target : job.target = .recording recordingId) :
    wiring.service.targets.resolve job = .ok (recordingJobTargetHandler wiring.scans).onOther := by
  simp [Wiring.service, currentService, currentCheckAndRecordingTargets, JobTargetRegistry.resolve, target,
    targetTypeOf, List.find?, orRaise]

/-- A claim starts a new recording and leaves a started one. -/
theorem startRecording_ok {record : RecordingRecord}
    (started : startRecording wiring.scans tables job nowUs = .ok (record, tables')) :
    ∃ before ∈ tables.recordings, job.target = .recording before.recordingId ∧
      ((before.state = .CREATED ∧ Moved before.toRecording record.toRecording .STARTING ∧
          tables' = { tables with recordings := Table.replace recordingKey tables.recordings record }) ∨
        (before.state = .STARTING ∧ tables' = tables)) := by
  unfold startRecording at started
  obtain ⟨before, loaded, rest⟩ := bind_eq_ok.mp started
  obtain ⟨member, target⟩ := loadRecording_ok loaded
  refine ⟨before, member, target, ?_⟩
  by_cases created : before.state = .CREATED
  · rw [if_pos created] at rest
    obtain ⟨moved, transitioned, stored⟩ := bind_eq_ok.mp rest
    obtain ⟨same, written⟩ := storeRecording_ok stored
    rw [← same] at transitioned
    exact .inl ⟨created, transition_moved transitioned, written⟩
  · rw [if_neg created] at rest
    obtain ⟨_, starting, returned⟩ := bind_eq_ok.mp rest
    cases Except.ok.inj returned
    exact .inr ⟨require_eq_ok.mp starting, rfl⟩

/-- The end of a recording is its intended final state, one transition away or behind the cleanup. -/
theorem endRecording_ok {recording ended : Recording} {outcome : JobTargetOutcome}
    (performed : endRecording recording nowUs outcome = .ok ended) :
    Moved recording ended (outcomeTerminal outcome).state ∨
      ∃ cleaning, Moved recording cleaning .CLEANING ∧ Moved cleaning ended (outcomeTerminal outcome).state := by
  unfold endRecording at performed
  by_cases created : recording.state = .CREATED
  · rw [if_pos created] at performed
    exact .inl (transition_moved performed)
  · rw [if_neg created] at performed
    by_cases cleaning : recording.state = .CLEANING
    · rw [if_pos cleaning] at performed
      exact .inl (transition_moved performed)
    · rw [if_neg cleaning] at performed
      obtain ⟨middle, first, second⟩ := bind_eq_ok.mp performed
      exact .inr ⟨middle, transition_moved first, transition_moved second⟩

theorem finishRecording_ok {record : RecordingRecord} {outcome : JobTargetOutcome}
    (finished : finishRecording wiring.scans tables job nowUs outcome = .ok (record, tables')) :
    ∃ before ∈ tables.recordings, job.target = .recording before.recordingId ∧
      endRecording before.toRecording nowUs outcome = .ok record.toRecording ∧
      tables' = { tables with recordings := Table.replace recordingKey tables.recordings record } := by
  unfold finishRecording at finished
  obtain ⟨before, loaded, rest⟩ := bind_eq_ok.mp finished
  obtain ⟨ended, performed, stored⟩ := bind_eq_ok.mp rest
  obtain ⟨member, target⟩ := loadRecording_ok loaded
  obtain ⟨same, written⟩ := storeRecording_ok stored
  refine ⟨before, member, target, ?_, written⟩
  rw [same]
  exact performed

end Facts

end Jiejian.Recordings.Targets
