import Jiejian.Execution.Journal
import Jiejian.Library.Transition

namespace Jiejian.Execution.Runs

open Library Journal

/-- A reading of the clock in microseconds. -/
abbrev Moment := { value : Nat // value < 2 ^ 64 }

/-- A run of a scenario, as far as its journal is concerned. `target` is the case whose TARGET step
has its intent saved and is not answered yet, with whether its request was handed to the adapter. -/
structure ScenarioRun where
  journal : ScenarioJournal
  directory : AttemptDir
  executed : List String := []
  sent : List String := []
  target : Option (String × Bool) := none
  recorded : List (Nat × String × JournalEvent) := []

/-- The run of an attempt whose journal was just opened in its new directory. -/
def begun (journal : ScenarioJournal) (operations : List FileOp) : ScenarioRun :=
  { journal := journal
    directory := applyAll {} operations }

structure RecordCall where
  caseId : String
  event : JournalEvent
  now : Moment
  failure : Option FileFailure := none

/-- The calls that can come next. `execute_steps` saves the intent of a TARGET it has not executed, and
then records whether its request was answered; recoveries are recorded between the steps. -/
def enabled (run : ScenarioRun) (call : RecordCall) : Bool :=
  match call.event with
  | .INTENT_SAVED => run.target = none ∧ call.caseId ∉ run.executed
  | .RECEIVED => run.target = some (call.caseId, true)
  | .UNCONFIRMED => run.target = some (call.caseId, true) ∨ run.target = some (call.caseId, false)
  | .RECOVERY_INTENT | .RECOVERED => run.target = none

def operationsOf (run : ScenarioRun) (call : RecordCall) : List FileOp :=
  (run.journal.record call.caseId call.event call.now call.failure).1

def outcomeOf (run : ScenarioRun) (call : RecordCall) : Except JournalError ScenarioJournal :=
  (run.journal.record call.caseId call.event call.now call.failure).2

/-- The TARGET step after a call: a saved intent begins it, an answer ends it. -/
def targetAfter (run : ScenarioRun) (call : RecordCall) (saved : Bool) : Option (String × Bool) :=
  match call.event with
  | .INTENT_SAVED => if saved then some (call.caseId, false) else run.target
  | .RECEIVED | .UNCONFIRMED => none
  | .RECOVERY_INTENT | .RECOVERED => run.target

def executedAfter (run : ScenarioRun) (call : RecordCall) : List String :=
  if call.event = .INTENT_SAVED then call.caseId :: run.executed else run.executed

/-- What the run has recorded of a node, when the call belongs to one. -/
def recordedAfter (run : ScenarioRun) (call : RecordCall) : List (Nat × String × JournalEvent) :=
  match run.journal.nodeIndex call.caseId with
  | none => run.recorded
  | some index => run.recorded ++ [(index, call.caseId, call.event)]

def after (run : ScenarioRun) (call : RecordCall) : ScenarioRun :=
  match outcomeOf run call with
  | .ok journal => { run with
      journal := journal
      directory := applyAll run.directory (operationsOf run call)
      executed := executedAfter run call
      target := targetAfter run call true
      recorded := recordedAfter run call }
  | .error _ => { run with
      directory := applyAll run.directory (operationsOf run call)
      target := targetAfter run call false }

inductive Action where
  | record (call : RecordCall)
  | send

/-- One step of a run; what is not possible now changes nothing. -/
def step (run : ScenarioRun) : Action → ScenarioRun
  | .record call => if enabled run call then after run call else run
  | .send =>
    match run.target with
    | some (caseId, false) => { run with
        target := some (caseId, true)
        sent := caseId :: run.sent }
    | _ => run

/-- The directory when the attempt ends inside a call, after some of its file operations. -/
def crash (run : ScenarioRun) (call : RecordCall) (done : Nat) : AttemptDir :=
  applyAll run.directory ((operationsOf run call).take done)

end Jiejian.Execution.Runs
