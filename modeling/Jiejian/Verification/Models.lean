import Jiejian.Protocol.Cases

namespace Jiejian.Verification.Models

open Library.Document Library.Outcome Errors Protocol.Codec Protocol.Conditions Protocol.Cases

inductive CaseVerdict where
  | SAFE
  | VULNERABLE
  | INCONCLUSIVE
  | SKIPPED
  | ERROR
  deriving DecidableEq, Repr

/-- The answer of one comparison with an observed fact. -/
inductive MatchStatus where
  | MATCH
  | MISMATCH
  | UNKNOWN
  deriving DecidableEq, Repr

def MatchStatus.value : MatchStatus → String
  | .MATCH => "MATCH"
  | .MISMATCH => "MISMATCH"
  | .UNKNOWN => "UNKNOWN"

structure ObservedRelationship where
  requirementFingerprint : String
  kind : RelationshipKind
  status : MatchStatus
  deriving DecidableEq, Repr

structure ObservedPermissionConditions where
  proofFingerprint : String
  sourceId : String
  sourceFingerprint : String
  principal : Principal
  subjectTenant : Option String := none
  ownerTenant : Option String := none
  resourceTenant : Option String := none
  resourceState : Option String := none
  relationships : List ObservedRelationship := []
  deriving DecidableEq, Repr

inductive ObservationPhase where
  | BASELINE
  | BEFORE
  | AFTER
  | EVENTUAL
  | RECOVERY
  deriving DecidableEq, Repr

inductive EffectState where
  | CONFIRMED
  | ABSENT
  | UNKNOWN
  deriving DecidableEq, Repr

inductive Closure where
  | CLOSED
  | OPEN
  | UNKNOWN
  deriving DecidableEq, Repr

structure CheckObservation where
  effectId : String
  proofFingerprint : String
  observerId : String
  level : ProofLevel
  phase : ObservationPhase
  state : EffectState
  closure : Closure
  complete : Bool
  reliable : Bool
  correlated : Bool
  authoritative : Bool
  windowStartUs : Nat
  windowEndUs : Nat
  correlationRefs : List String := []
  reasonCodes : List String := []
  deriving DecidableEq, Repr

/-- `complete and reliable and correlated and authoritative`. -/
def CheckObservation.trusted (observation : CheckObservation) : Bool :=
  observation.complete && observation.reliable && observation.correlated && observation.authoritative

structure CheckEffectFact where
  effectId : String
  proofFingerprint : String
  state : EffectState
  complete : Bool
  reliable : Bool
  correlated : Bool
  authoritative : Bool
  closure : Closure
  deriving DecidableEq, Repr

def CheckEffectFact.trusted (fact : CheckEffectFact) : Bool :=
  fact.complete && fact.reliable && fact.correlated && fact.authoritative

inductive ExecutionOutcome where
  | ACCEPTED
  | DENIED
  | FAILED
  | UNKNOWN
  deriving DecidableEq, Repr

def ExecutionOutcome.value : ExecutionOutcome → String
  | .ACCEPTED => "ACCEPTED"
  | .DENIED => "DENIED"
  | .FAILED => "FAILED"
  | .UNKNOWN => "UNKNOWN"

structure ScenarioResourceBinding where
  producerCaseId : String
  resourceId : String
  deriving DecidableEq, Repr

structure CheckCaseOutcome where
  executionOutcome : ExecutionOutcome
  httpStatus : Option Nat := none
  actualIdentityStatus : MatchStatus
  baselineTrusted : Bool
  recoveryVerified : Bool
  runCorrelated : Bool
  resourceCorrelated : Bool
  conditionObservations : List ObservedPermissionConditions := []
  deriving DecidableEq, Repr

/-- `_ actual_identity == "MATCH" and run_correlated and resource_correlated`. -/
def CheckCaseOutcome.attributed (outcome : CheckCaseOutcome) : Bool :=
  outcome.actualIdentityStatus = .MATCH && outcome.runCorrelated && outcome.resourceCorrelated

structure CheckEvidence where
  evidenceId : String
  actionId : String
  actionRevision : Nat
  case : ExecutionCase
  resourceBinding : Option ScenarioResourceBinding := none
  outcome : CheckCaseOutcome
  observations : List CheckObservation
  deriving DecidableEq, Repr

structure CheckCaseResult where
  caseId : String
  actionId : String
  verdict : CaseVerdict
  reasonCodes : List String
  evidenceIds : List String
  outcome : CheckCaseOutcome
  deriving DecidableEq, Repr

/-- The proof about another resource, under the fingerprint of its own facts. -/
def rebindProof (digest : Digest) (resourceId : String) (proof : EffectProofRequirement) : EffectProofRequirement :=
  let moved := { proof with resourceId := resourceId }
  { moved with proofFingerprint := contentHash digest "EffectProofRequirement" (.dict moved.facts) }

/-- `bind_resource`: the case about the resource of this run; its own id stays. -/
def bindResource (digest : Digest) (case : ExecutionCase) (resourceId producerCaseId : String) :
    Except Raised ExecutionCase := do
  let bound := { case with
    resourceId := resourceId
    proofRequirements := case.proofRequirements.map (rebindProof digest resourceId)
    resourceBindingFingerprint := contentHash digest "ScenarioResource"
      (.dict [("template", .str case.resourceBindingFingerprint), ("producer_case_id", .str producerCaseId),
        ("resource_id", .str resourceId)]) }
  bound.permission.validateSemantics
  bound.proofRequirements.forM (·.validateProof digest)
  bound.validateCase
  return bound

def CheckEvidence.effectiveCase (digest : Digest) (evidence : CheckEvidence) : Except Raised ExecutionCase :=
  match evidence.resourceBinding with
  | none => .ok evidence.case
  | some binding => bindResource digest evidence.case binding.resourceId binding.producerCaseId

end Jiejian.Verification.Models
