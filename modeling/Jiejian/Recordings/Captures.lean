import Jiejian.Recordings.Models

namespace Jiejian.Recordings.Captures

open Errors Library Library.Outcome Models

/-- One event of the recorded browser; only its number is read here. -/
structure RecordingEvent where
  sequence : Nat
  content : String
  deriving DecidableEq, Repr

inductive RecordingRunnerResultType where
  | CAPTURED
  | CANCELLED
  | SAFETY_STOPPED
  | FAILED
  deriving DecidableEq, Repr

inductive RecordingCleanupStatus where
  | SUCCEEDED
  | FAILED
  deriving DecidableEq, Repr

structure RecordingRunnerError where
  code : String
  retryable : Bool
  deriving DecidableEq, Repr

structure RecordingRunnerResult where
  recordingId : String
  projectId : String
  finishedAtUs : Nat
  resultType : RecordingRunnerResultType
  recordingState : RecordingState
  cleanupStatus : RecordingCleanupStatus
  reasonCodes : List String := []
  stateEvents : List RecordingStateEvent := []
  events : List RecordingEvent := []
  error : Option RecordingRunnerError := none
  deriving DecidableEq, Repr

/-- The lifecycle and cleanup that go with a type of result. -/
def resultMatrix (result : RecordingRunnerResult) : Bool :=
  match result.resultType with
  | .CAPTURED => result.recordingState = .PROCESSING && result.cleanupStatus = .SUCCEEDED && result.error.isNone
  | .CANCELLED => result.recordingState = .CANCELLED && result.cleanupStatus = .SUCCEEDED && result.error.isNone
  | .SAFETY_STOPPED => result.recordingState = .SAFETY_STOPPED && result.cleanupStatus = .SUCCEEDED &&
      result.error.isNone && !result.reasonCodes.isEmpty
  | .FAILED => result.recordingState = .FAILED && result.error.isSome

/-- `validate_reason_codes` and `validate_result_matrix`, after the limits on the lists. -/
def RecordingRunnerResult.valid (result : RecordingRunnerResult) : Bool :=
  result.reasonCodes.length ≤ 64 && result.stateEvents.length ≤ 128 && result.events.length ≤ 10000 &&
    result.stateEvents.all (·.valid) &&
    decide result.reasonCodes.Nodup && result.reasonCodes.all isReasonCode &&
    result.events.map (·.sequence) = List.range' 1 result.events.length &&
    result.stateEvents.getLast?.all (fun event => event.occurredAtUs ≤ result.finishedAtUs) &&
    resultMatrix result

/-- A result that the protocol accepts. -/
abbrev AcceptedResult := { result : RecordingRunnerResult // result.valid = true }

/-- A stored recording: its lifecycle, its flow and what the browser did. -/
structure RecordingRecord extends Recording where
  flowId : String
  browserEvents : List RecordingEvent := []
  deriving DecidableEq, Repr

/-- `RecordingRecord.from_domain`, with the validator of the record. -/
def fromDomain (recording : Recording) (flowId : String) (browserEvents : List RecordingEvent) :
    Except JiejianError RecordingRecord := do
  require (browserEvents.length ≤ 10000 ∧
      browserEvents.map (·.sequence) = List.range' 1 browserEvents.length)
    (invalid "recording browser event sequence must be continuous")
  recording.validateLifecycleTimes
  return { recording with
    flowId := flowId
    browserEvents := browserEvents }

/-- The events of the runner, without the start that the claim has recorded already. -/
def runnerEvents (existing : Recording) (stateEvents : List RecordingStateEvent) : List RecordingStateEvent :=
  match stateEvents with
  | first :: rest =>
    if existing.state = .STARTING ∧ first.source = .CREATED ∧ first.target = .STARTING then rest else stateEvents
  | [] => []

/-- The walk of `_record_from_result` over the events of the runner. -/
def mergeEvents (merged : List RecordingStateEvent) (state : RecordingState) (time : Nat) :
    List RecordingStateEvent → Except JiejianError (List RecordingStateEvent × RecordingState)
  | [] => .ok (merged, state)
  | event :: rest => do
    require (event.source = state ∧ time ≤ event.occurredAtUs)
      ⟨.RECORD_PROTOCOL_INVALID, "录制结果生命周期与持久状态不一致"⟩
    mergeEvents (merged ++ [{ event with sequence := merged.length + 1 }]) event.target event.occurredAtUs rest

/-- `dict.fromkeys`: the first occurrences in their order. -/
def firstOccurrences (codes : List String) : List String :=
  codes.foldl (fun kept code => if code ∈ kept then kept else kept ++ [code]) []

/-- `_record_from_result`. -/
def recordFromResult (existing : RecordingRecord) (result : RecordingRunnerResult) :
    Except JiejianError RecordingRecord := do
  let merged ← mergeEvents existing.events existing.state existing.updatedAtUs
    (runnerEvents existing.toRecording result.stateEvents)
  require (merged.2 = result.recordingState) ⟨.RECORD_PROTOCOL_INVALID, "录制结果生命周期未到达声明状态"⟩
  let last ← orRaise merged.1.getLast? (invalid "IndexError")
  let domain : Recording :=
    { existing.toRecordingSource with
      state := result.recordingState
      createdAtUs := existing.createdAtUs
      updatedAtUs := last.occurredAtUs
      startedAtUs := existing.startedAtUs
      captureFinishedAtUs := (merged.1.find? fun event => event.target = .PROCESSING).map (·.occurredAtUs)
      finishedAtUs := if result.recordingState ∈ terminalStates then some last.occurredAtUs else none
      reasonCodes := firstOccurrences (existing.reasonCodes ++ result.reasonCodes)
      events := merged.1 }
  domain.validateLifecycleTimes
  fromDomain domain existing.flowId result.events

section Merging

variable {start : RecordingState} {merged merged' events : List RecordingStateEvent} {state state' : RecordingState}
  {time : Nat}

/-- What the walk accepts continues the stored log up to the state it reports. -/
theorem mergeEvents_path (walked : mergeEvents merged state time events = .ok (merged', state'))
    (path : Path start merged state) : Path start merged' state' := by
  induction events generalizing merged state time with
  | nil =>
    cases Except.ok.inj walked
    exact path
  | cons event rest ih =>
    obtain ⟨_, checked, walked⟩ := bind_eq_ok.mp walked
    obtain ⟨leaves, -⟩ := require_eq_ok.mp checked
    apply ih walked
    constructor
    · apply path.numbered.append rfl
      exact History.numbered_one (Nat.add_comm _ _)
    · exact History.follows_append.mpr ⟨_, path.follows, History.follows_one leaves rfl⟩

/-- The walk itself does not look at the transition table: it stores what the runner reports. -/
theorem mergeEvents_lawful (walked : mergeEvents merged state time events = .ok (merged', state')) :
    Lawful merged' ↔ Lawful merged ∧ Lawful events := by
  induction events generalizing merged state time with
  | nil =>
    cases Except.ok.inj walked
    simp [Lawful]
  | cons event rest ih =>
    obtain ⟨_, checked, walked⟩ := bind_eq_ok.mp walked
    rw [ih walked]
    simp only [Lawful, List.mem_append, List.mem_cons, or_imp, forall_and, forall_eq]
    tauto

theorem runnerEvents_lawful (existing : Recording) (stateEvents : List RecordingStateEvent) :
    Lawful (runnerEvents existing stateEvents) ↔ Lawful stateEvents := by
  cases stateEvents with
  | nil => rfl
  | cons first rest =>
    by_cases started : existing.state = .STARTING ∧ first.source = .CREATED ∧ first.target = .STARTING
    · have kept : runnerEvents existing (first :: rest) = rest := if_pos started
      have lawful : first.target ∈ transitions first.source := by
        rw [started.2.1, started.2.2]
        decide
      rw [kept]
      simp [Lawful, lawful]
    · have kept : runnerEvents existing (first :: rest) = first :: rest := if_neg started
      rw [kept]

end Merging

/-- What a recording built from a result keeps of the stored one, and what it takes from the result. -/
structure Built (existing persisted : RecordingRecord) (result : RecordingRunnerResult) : Prop where
  state : persisted.state = result.recordingState
  source : persisted.toRecordingSource = existing.toRecordingSource
  flow : persisted.flowId = existing.flowId
  path : ∀ start, Path start existing.events existing.state → Path start persisted.events persisted.state
  lawful : Lawful persisted.events ↔ Lawful existing.events ∧ Lawful result.stateEvents

theorem fromDomain_ok {recording : Recording} {flowId : String} {browserEvents : List RecordingEvent}
    {record : RecordingRecord} (stored : fromDomain recording flowId browserEvents = .ok record) :
    record.toRecording = recording ∧ record.flowId = flowId := by
  unfold fromDomain at stored
  obtain ⟨_, _, rest⟩ := bind_eq_ok.mp stored
  obtain ⟨_, _, returned⟩ := bind_eq_ok.mp rest
  cases Except.ok.inj returned
  exact ⟨rfl, rfl⟩

theorem recordFromResult_built {existing persisted : RecordingRecord} {result : RecordingRunnerResult}
    (made : recordFromResult existing result = .ok persisted) : Built existing persisted result := by
  unfold recordFromResult at made
  obtain ⟨⟨merged, state⟩, walked, rest⟩ := bind_eq_ok.mp made
  obtain ⟨_, reached, rest⟩ := bind_eq_ok.mp rest
  obtain ⟨last, _, rest⟩ := bind_eq_ok.mp rest
  obtain ⟨_, _, stored⟩ := bind_eq_ok.mp rest
  obtain ⟨domain, flow⟩ := fromDomain_ok stored
  have declared : state = result.recordingState := require_eq_ok.mp reached
  have events : persisted.events = merged := congrArg Recording.events domain
  have reports : persisted.state = result.recordingState := congrArg Recording.state domain
  have source : persisted.toRecordingSource = existing.toRecordingSource := by
    rw [domain]
  refine ⟨reports, source, flow, ?_, ?_⟩
  · intro start path
    rw [events, reports, ← declared]
    exact mergeEvents_path walked path
  · rw [events, mergeEvents_lawful walked, runnerEvents_lawful]

end Jiejian.Recordings.Captures
