import Jiejian.Errors
import Jiejian.Library.Outcome
import Jiejian.Library.History

namespace Jiejian.Recordings.Models

open Errors Library Library.Outcome

inductive RecordingState where
  | CREATED
  | STARTING
  | RECORDING
  | CLEANING
  | PROCESSING
  | PENDING_REVIEW
  | COMPLETED
  | FAILED
  | CANCELLED
  | SAFETY_STOPPED
  deriving DecidableEq, Repr

inductive RecordingPurpose where
  | TARGET
  | OBSERVATION
  | RECOVERY
  deriving DecidableEq, Repr

inductive RecordingTerminalState where
  | FAILED
  | CANCELLED
  | SAFETY_STOPPED
  deriving DecidableEq, Repr

/-- `RecordingState(terminal.value)`. -/
def RecordingTerminalState.state : RecordingTerminalState → RecordingState
  | .FAILED => .FAILED
  | .CANCELLED => .CANCELLED
  | .SAFETY_STOPPED => .SAFETY_STOPPED

def isCapital (char : Char) : Bool := 'A' ≤ char && char ≤ 'Z'

/-- `^[A-Z][A-Z0-9_]{0,127}$`. -/
def isReasonCode (code : String) : Bool :=
  match code.toList with
  | [] => false
  | first :: rest =>
    isCapital first && rest.length ≤ 127 && rest.all fun char => isCapital char || char.isDigit || char = '_'

structure RecordingStateEvent where
  sequence : Nat
  source : RecordingState
  target : RecordingState
  operator : String
  occurredAtUs : Nat
  reasonCode : Option String := none
  deriving DecidableEq, Repr

/-- The field bounds of an event. -/
def RecordingStateEvent.valid (event : RecordingStateEvent) : Bool :=
  1 ≤ event.sequence && 1 ≤ event.operator.length && event.operator.length ≤ 128 && event.reasonCode.all isReasonCode

/-- The fields of a recording that no transition changes. -/
structure RecordingSource where
  recordingId : String
  projectId : String
  businessActionId : String
  actionRevision : Nat
  subjectTestIdentityId : String
  resourceOwnerTestIdentityId : String
  preparationSourceFingerprint : String
  purpose : RecordingPurpose := .TARGET
  parentRecordingId : Option String := none
  effectId : Option String := none
  deriving DecidableEq, Repr

structure Recording extends RecordingSource where
  state : RecordingState := .CREATED
  createdAtUs : Nat
  updatedAtUs : Nat
  startedAtUs : Option Nat := none
  captureFinishedAtUs : Option Nat := none
  finishedAtUs : Option Nat := none
  pendingTerminalState : Option RecordingTerminalState := none
  reasonCodes : List String := []
  events : List RecordingStateEvent := []
  deriving DecidableEq, Repr

def invalid (text : String) : JiejianError := ⟨.VALIDATION_ERROR, text⟩

def terminalStates : List RecordingState := [.COMPLETED, .FAILED, .CANCELLED, .SAFETY_STOPPED]

def startedStates : List RecordingState :=
  [.STARTING, .RECORDING, .CLEANING, .PROCESSING, .PENDING_REVIEW, .COMPLETED, .SAFETY_STOPPED]

def processedStates : List RecordingState := [.PROCESSING, .PENDING_REVIEW, .COMPLETED]

/-- `validate_lifecycle_times`, after the limits on the two lists. -/
def Recording.validateLifecycleTimes (recording : Recording) : Except JiejianError Unit := do
  require (recording.reasonCodes.length ≤ 64 ∧ recording.events.length ≤ 128) (invalid "tuple length")
  require (recording.purpose = .TARGET ↔ recording.parentRecordingId = none)
    (invalid "only supplemental recordings reference a parent recording")
  require (recording.purpose = .OBSERVATION ↔ recording.effectId ≠ none)
    (invalid "only observation recordings bind a confirmed business effect")
  require (recording.parentRecordingId ≠ some recording.recordingId)
    (invalid "recording cannot reference itself as parent")
  require (recording.createdAtUs ≤ recording.updatedAtUs) (invalid "recording update time precedes creation")
  require (∀ started ∈ recording.startedAtUs, recording.createdAtUs ≤ started)
    (invalid "recording start time precedes creation")
  require (∀ finished ∈ recording.captureFinishedAtUs, ∀ started ∈ recording.startedAtUs, started ≤ finished)
    (invalid "recording capture finish precedes start")
  require (∀ finished ∈ recording.finishedAtUs, recording.updatedAtUs ≤ finished)
    (invalid "recording finish time precedes update")
  require (recording.reasonCodes.Nodup ∧ ∀ code ∈ recording.reasonCodes, isReasonCode code = true)
    (invalid "recording reason codes must be unique stable codes")
  require (recording.events.map (·.sequence) = List.range' 1 recording.events.length)
    (invalid "recording event sequence must be continuous")
  require (recording.state ∈ terminalStates ↔ recording.finishedAtUs ≠ none)
    (invalid "recording terminal state and finish time must agree")
  require (recording.pendingTerminalState ≠ none → recording.state = .CLEANING)
    (invalid "pending terminal state only belongs to cleanup")
  require (recording.state ∈ startedStates → recording.startedAtUs ≠ none)
    (invalid "started recording state requires start time")
  require (recording.state ∈ processedStates → recording.captureFinishedAtUs ≠ none)
    (invalid "processed recording state requires capture finish time")

/-- `_TRANSITIONS`. -/
def transitions : RecordingState → List RecordingState
  | .CREATED => [.STARTING, .FAILED, .CANCELLED]
  | .STARTING => [.RECORDING, .CLEANING]
  | .RECORDING => [.CLEANING]
  | .CLEANING => [.PROCESSING, .FAILED, .CANCELLED, .SAFETY_STOPPED]
  | .PROCESSING => [.PENDING_REVIEW, .CLEANING]
  | .PENDING_REVIEW => [.COMPLETED, .CANCELLED]
  | .COMPLETED | .FAILED | .CANCELLED | .SAFETY_STOPPED => []

/-- The pending final state and the end of the capture after a transition. -/
def cleanupFields (recording : Recording) (target : RecordingState) (occurredAtUs : Nat) (reasonCode : Option String)
    (pendingTerminalState : Option RecordingTerminalState) :
    Except JiejianError (Option RecordingTerminalState × Option Nat) := do
  if target = .CLEANING then
    require (pendingTerminalState ≠ none ∨ recording.state = .RECORDING)
      ⟨.RECORD_STATE_PRECONDITION, "非正常停止进入清理时必须声明终态"⟩
    return (pendingTerminalState, recording.captureFinishedAtUs)
  else if recording.state = .CLEANING then
    if target = .PROCESSING then
      require (recording.pendingTerminalState = none)
        ⟨.RECORD_STATE_PRECONDITION, "带终态意图的清理不能进入处理"⟩
      return (none, some occurredAtUs)
    else
      -- a failed cleanup may replace the intended final state
      require ((∀ expected ∈ recording.pendingTerminalState, target = expected.state) ∨
          (target = .FAILED ∧ reasonCode = some "CLEANUP_FAILED"))
        ⟨.RECORD_STATE_PRECONDITION, "清理完成状态与终态意图不一致"⟩
      return (none, recording.captureFinishedAtUs)
  else return (none, recording.captureFinishedAtUs)

/-- `transition_recording_state`, for a target that is a recording state. -/
def transitionRecordingState (recording : Recording) (target : RecordingState) (operator : String)
    (occurredAtUs : Nat) (reasonCode : Option String := none)
    (pendingTerminalState : Option RecordingTerminalState := none) : Except JiejianError Recording := do
  require (operator.toList.all Char.isWhitespace = false) ⟨.STATE_OPERATOR_REQUIRED, "录制转换必须记录操作者"⟩
  require (recording.updatedAtUs ≤ occurredAtUs) ⟨.RECORD_STATE_PRECONDITION, "录制状态时间不得倒退"⟩
  require (target ∈ transitions recording.state) ⟨.RECORD_STATE_INVALID, "非法录制状态转换"⟩
  let cleanup ← cleanupFields recording target occurredAtUs reasonCode pendingTerminalState
  let event : RecordingStateEvent :=
    { sequence := recording.events.length + 1
      source := recording.state
      target := target
      operator := operator
      occurredAtUs := occurredAtUs
      reasonCode := reasonCode }
  require (event.valid = true) (invalid "RecordingStateEvent")
  let moved : Recording :=
    { recording with
      state := target
      updatedAtUs := occurredAtUs
      startedAtUs := if target = .STARTING then some occurredAtUs else recording.startedAtUs
      captureFinishedAtUs := cleanup.2
      finishedAtUs := if target ∈ terminalStates then some occurredAtUs else recording.finishedAtUs
      pendingTerminalState := cleanup.1
      reasonCodes := recording.reasonCodes ++ reasonCode.toList.filter fun code => code ∉ recording.reasonCodes
      events := recording.events ++ [event] }
  moved.validateLifecycleTimes
  return moved

/-- Everything later proofs need of a transition: where it leads and the one event it appends. -/
structure Moved (recording moved : Recording) (target : RecordingState) : Prop where
  allowed : target ∈ transitions recording.state
  state : moved.state = target
  source : moved.toRecordingSource = recording.toRecordingSource
  appended : ∃ event : RecordingStateEvent, event.sequence = recording.events.length + 1 ∧
    event.source = recording.state ∧ event.target = target ∧ moved.events = recording.events ++ [event]

theorem transition_moved {recording moved : Recording} {target : RecordingState} {operator : String}
    {occurredAtUs : Nat} {reasonCode : Option String} {pendingTerminalState : Option RecordingTerminalState}
    (transitioned : transitionRecordingState recording target operator occurredAtUs reasonCode pendingTerminalState =
      .ok moved) : Moved recording moved target := by
  unfold transitionRecordingState at transitioned
  obtain ⟨_, _, rest⟩ := bind_eq_ok.mp transitioned
  obtain ⟨_, _, rest⟩ := bind_eq_ok.mp rest
  obtain ⟨_, allowed, rest⟩ := bind_eq_ok.mp rest
  obtain ⟨cleanup, _, rest⟩ := bind_eq_ok.mp rest
  obtain ⟨_, _, rest⟩ := bind_eq_ok.mp rest
  obtain ⟨_, _, returned⟩ := bind_eq_ok.mp rest
  cases Except.ok.inj returned
  exact ⟨require_eq_ok.mp allowed, rfl, rfl, _, rfl, rfl, rfl, rfl⟩

/-- A log of transitions that leads from one state to another. -/
structure Path (start : RecordingState) (events : List RecordingStateEvent) (finish : RecordingState) : Prop where
  numbered : History.Numbered (·.sequence) 1 events
  follows : History.Follows (·.source) (·.target) start events finish

/-- Every step of a log is in the transition table. -/
def Lawful (events : List RecordingStateEvent) : Prop :=
  ∀ event ∈ events, event.target ∈ transitions event.source

theorem path_nil (state : RecordingState) : Path state [] state := ⟨rfl, rfl⟩

theorem Moved.path {recording moved : Recording} {start target : RecordingState} (moves : Moved recording moved target)
    (path : Path start recording.events recording.state) : Path start moved.events moved.state := by
  obtain ⟨event, number, leaves, reaches, appended⟩ := moves.appended
  rw [appended, moves.state]
  constructor
  · apply path.numbered.append rfl
    exact History.numbered_one (number.trans (Nat.add_comm _ _))
  · exact History.follows_append.mpr ⟨_, path.follows, History.follows_one leaves reaches⟩

theorem Moved.lawful {recording moved : Recording} {target : RecordingState} (moves : Moved recording moved target)
    (lawful : Lawful recording.events) : Lawful moved.events := by
  obtain ⟨event, -, leaves, reaches, appended⟩ := moves.appended
  rw [appended]
  intro other member
  rcases List.mem_append.mp member with before | last
  · exact lawful other before
  · rw [List.mem_singleton.mp last, leaves, reaches]
    exact moves.allowed

end Jiejian.Recordings.Models
