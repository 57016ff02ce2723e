import Jiejian.Recordings.Submission

namespace Jiejian.Recordings.Lifecycle

open Errors Library Library.Outcome Models Captures Repository
open Jobs.Records

variable {γ : Type}

def notFound : JiejianError := ⟨.RECORD_NOT_FOUND, "录制对象不存在"⟩

/-- `jobs.get_by_recording`. -/
def jobOfRecording (db : Db (RecordingTables γ)) (recordingId : String) : Option JobRow :=
  db.jobs.find? fun row => row.target = .recording recordingId

def withTables (db : Db (RecordingTables γ)) (tables : RecordingTables γ) : Db (RecordingTables γ) :=
  { db with targets := { db.targets with other := tables } }

/-- `discard_review`. -/
def discardReview (scans : Scans γ) (db : Db (RecordingTables γ)) (recordingId : String) (nowUs : Nat) :
    Except JiejianError (Db (RecordingTables γ)) := do
  let recording ← orRaise (db.targets.other.get recordingId) notFound
  if recording.state = .CANCELLED then
    return db
  else
    require (recording.state = .PENDING_REVIEW ∧
        (jobOfRecording db recordingId).any (fun job => job.state.isTerminal) = true)
      ⟨.RECORD_REVIEW_STATE, "只有执行已结束的待审录制可以放弃"⟩
    let cancelled ← transitionRecordingState recording.toRecording .CANCELLED "RECORDING_SERVICE" nowUs
      (some "CANCEL_REQUESTED")
    let stored ← storeRecording scans db.targets.other recording cancelled
    return withTables db stored.2

/-- `review`; `edit` is what the command makes of the content of the latest draft. -/
def review (scans : Scans γ) (db : Db (RecordingTables γ)) (recordingId : String) (expectedRevision : Option Nat)
    (edit : RecordingRecord → FlowDraft γ → Except JiejianError γ) :
    Except JiejianError (Db (RecordingTables γ)) := do
  let recording ← orRaise (db.targets.other.get recordingId) notFound
  require (recording.state = .PENDING_REVIEW) ⟨.RECORD_REVIEW_STATE, "录制当前状态不允许审阅"⟩
  let latest ← orRaise (db.targets.other.latest recordingId) ⟨.RECORD_DRAFT_INVALID, "录制缺少 Flow 草稿"⟩
  require (∀ expected ∈ expectedRevision, expected = latest.draft.revision)
    ⟨.RECORD_REVIEW_STATE, "录制已更新，请重新读取当前对象再确认"⟩
  let content ← edit recording latest.draft
  let draft : FlowDraft γ :=
    { latest.draft with
      revision := latest.draft.revision + 1
      content := content }
  let tables ← addDraft scans db.targets.other
    { recordingId := draft.recordingId
      revision := draft.revision
      flowId := draft.flowId
      draft := draft
      createdAtUs := latest.createdAtUs }
  return withTables db tables

/-- `finalize`; `accept` stands for the check of the source, the compiled flow and the technical bindings. -/
def finalize (scans : Scans γ) (db : Db (RecordingTables γ)) (recordingId : String) (nowUs : Nat)
    (accept : RecordingRecord → FlowDraftRevisionRecord γ → Except JiejianError Unit) :
    Except JiejianError (Db (RecordingTables γ)) := do
  let recording ← orRaise (db.targets.other.get recordingId) notFound
  let latest ← orRaise (db.targets.other.latest recordingId) ⟨.RECORD_DRAFT_INVALID, "录制缺少 Flow 草稿"⟩
  require (recording.state = .PENDING_REVIEW ∨ recording.state = .COMPLETED)
    ⟨.RECORD_REVIEW_STATE, "录制当前状态不允许最终化"⟩
  if recording.state = .COMPLETED then
    return db
  else
    accept recording latest
    let completed ← transitionRecordingState recording.toRecording .COMPLETED "RECORDING_SERVICE" nowUs
      (some "REVIEW_COMPLETED")
    let stored ← storeRecording scans db.targets.other recording completed
    return withTables db stored.2

end Jiejian.Recordings.Lifecycle

namespace Jiejian.Recordings.System

open Errors Library Library.Outcome Models Captures Repository Targets Submission Lifecycle
open Jobs.Records Jobs.Models

variable {γ : Type}

/-- The transactions of the job control: claim, renewal, cancellation, failure and recovery. -/
def controls : Jobs.System.Action (RecordingTables γ) → Bool
  | .claim .. | .renewLease .. | .requestCancellation .. | .completeCancellation .. | .recordRetryableFailure ..
  | .recordFatalFailure .. | .recordWaitingFatalFailure .. | .confirmRecovery .. => true
  | .submit .. | .enqueueTarget .. | .completePublication .. | .publishTarget .. => false

/-- One transaction on the recordings and their jobs. -/
inductive Action (γ : Type) where
  | submit (knownSecrets : List String) (command : SubmitRecording) (jobId requestHash : String)
      (sourceAccepted : Db (RecordingTables γ) → Except JiejianError Unit)
  | control (action : Jobs.System.Action (RecordingTables γ)) (controlled : controls action = true)
  | consumeResult (knownSecrets : List String) (jitterSource : Nat → Option Int) (processing : Processing γ)
      (fence : FencedJobMutation) (result : AcceptedResult)
  | review (recordingId : String) (expectedRevision : Option Nat)
      (edit : RecordingRecord → FlowDraft γ → Except JiejianError γ)
  | discard (recordingId : String) (nowUs : Nat)
  | finalize (recordingId : String) (nowUs : Nat)
      (accept : RecordingRecord → FlowDraftRevisionRecord γ → Except JiejianError Unit)

/-- The database a transaction commits, or the error that rolls it back. -/
def perform (wiring : Wiring γ) (db : Db (RecordingTables γ)) : Action γ → Except JiejianError (Db (RecordingTables γ))
  | .submit knownSecrets command jobId requestHash sourceAccepted =>
    (Submission.submit wiring knownSecrets db command jobId requestHash sourceAccepted).map Prod.snd
  | .control action _ => Jobs.System.perform wiring.service db action
  | .consumeResult knownSecrets jitterSource processing fence result =>
    Submission.consumeResult wiring knownSecrets jitterSource processing db fence result
  | .review recordingId expectedRevision edit => Lifecycle.review wiring.scans db recordingId expectedRevision edit
  | .discard recordingId nowUs => discardReview wiring.scans db recordingId nowUs
  | .finalize recordingId nowUs accept => Lifecycle.finalize wiring.scans db recordingId nowUs accept

/-- A refused transaction leaves the database as it was. -/
def step (wiring : Wiring γ) (db : Db (RecordingTables γ)) (action : Action γ) : Db (RecordingTables γ) :=
  match perform wiring db action with
  | .ok db' => db'
  | .error _ => db

/-- Runs of transactions in any order, by any parties, with any clock readings. -/
abbrev run (wiring : Wiring γ) (db : Db (RecordingTables γ)) (actions : List (Action γ)) : Db (RecordingTables γ) :=
  Transition.run (step wiring) db actions

def emptyTables : RecordingTables γ where
  recordings := []
  drafts := []
  candidates := []

/-- A database before the first recording. -/
def emptyDb (projects : List String) : Db (RecordingTables γ) := Jobs.System.emptyDb projects emptyTables

/-- The result that an action hands to `consume_result`, under its fence. -/
def Action.consumed : Action γ → Option (FencedJobMutation × RecordingRunnerResult)
  | .consumeResult _ _ _ fence result => some (fence, result.val)
  | _ => none

end Jiejian.Recordings.System
