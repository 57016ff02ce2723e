import Jiejian.Jobs.Records
import Jiejian.Verification.Models

namespace Jiejian.Verification.Results

open Library.Outcome Errors Jobs.Records Models

structure CheckPrimaryError where
  code : String
  phase : String
  deriving DecidableEq, Repr

inductive Correspondence where
  | MATCHED
  | UNCONFIRMED
  deriving DecidableEq, Repr

structure CheckRuntimeCorrespondence where
  before : Correspondence
  after : Correspondence
  deriving DecidableEq, Repr

inductive ResultType where
  | SUCCESS
  | SAFETY_STOPPED
  | FAILED
  | CANCELLED
  deriving DecidableEq, Repr

/-- The lifecycle that a result type stands for. -/
def ResultType.lifecycle : ResultType → RunLifecycle
  | .SUCCESS => .completed
  | .SAFETY_STOPPED => .safetyStopped
  | .FAILED => .failed
  | .CANCELLED => .cancelled

structure CheckRunnerResult where
  runId : String
  resultType : ResultType
  lifecycle : RunLifecycle
  caseResults : List CheckCaseResult
  verdict : Option RunVerdict
  primaryError : Option CheckPrimaryError := none
  cleanupIssues : List String := []
  startedAtUs : Nat
  completedAtUs : Nat
  runtimeCorrespondence : Option CheckRuntimeCorrespondence := none
  deriving DecidableEq, Repr

def CheckRunnerResult.validateResult (result : CheckRunnerResult) : Except Raised Unit := do
  require (result.startedAtUs ≤ result.completedAtUs) (.ValueError "result completion precedes start")
  require (result.lifecycle = result.resultType.lifecycle) (.ValueError "result type and lifecycle differ")
  require (result.resultType = .SUCCESS → result.verdict ≠ none)
    (.ValueError "completed result requires a verdict")
  require (result.resultType = .SAFETY_STOPPED →
      result.verdict = some .block ∨ result.verdict = some .inconclusive)
    (.ValueError "safety stop cannot claim pass")
  require (result.resultType = .FAILED ∨ result.resultType = .CANCELLED → result.verdict = none)
    (.ValueError "unfinished result cannot carry a verdict")
  require (result.caseResults.map (·.caseId)).Nodup (.ValueError "duplicate case result")

/-- All planned cases must be safe for a pass; one vulnerable case blocks. -/
def aggregateCheckVerdict (verdicts : List CaseVerdict) (plannedCaseCount : Nat) (hasGaps : Bool) :
    Except Raised RunVerdict :=
  if plannedCaseCount < verdicts.length then .error (.ValueError "invalid planned case cardinality")
  else if .VULNERABLE ∈ verdicts then return .block
  else if hasGaps = true ∨ verdicts = [] ∨ verdicts.length ≠ plannedCaseCount ∨ ∃ verdict ∈ verdicts, verdict ≠ .SAFE then
    return .inconclusive
  else return .pass

end Jiejian.Verification.Results
