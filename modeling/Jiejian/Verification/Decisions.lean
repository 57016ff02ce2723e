import Jiejian.Library.Table
import Jiejian.Verification.Models

namespace Jiejian.Verification.Decisions

open Library Library.Document Library.Outcome Library.Sorting Errors
open Protocol.Codec Protocol.Conditions Protocol.Cases Models

def RelationshipRequirement.fingerprint (digest : Digest) (requirement : RelationshipRequirement) : String :=
  canonicalSha256 digest requirement.dump

/-- What the tenants say; `none` when one of them was not observed. -/
def tenantChecks (expected : PermissionConditions) (observed : ObservedPermissionConditions) : Option (List Bool) :=
  match expected.tenant with
  | none => some []
  | some tenant => do
    let subject ← observed.subjectTenant
    let owner ← observed.ownerTenant
    let resource ← observed.resourceTenant
    return [owner = resource, decide (subject = resource) = decide (tenant = .SAME)]

def stateChecks (expected : PermissionConditions) (observed : ObservedPermissionConditions) : Option (List Bool) :=
  if expected.resourceStates = [] then some []
  else observed.resourceState.map fun state => [state ∈ expected.resourceStates]

/-- A relationship is known only from exactly one observation of its own requirement. -/
def relationshipCheck (digest : Digest) (observed : ObservedPermissionConditions)
    (requirement : RelationshipRequirement) : Option Bool :=
  match observed.relationships.filter fun item =>
      item.requirementFingerprint = RelationshipRequirement.fingerprint digest requirement ∧
        item.kind = requirement.kind with
  | [item] => if item.status = .UNKNOWN then none else some (item.status = .MATCH)
  | _ => none

def conditionChecks (digest : Digest) (expected : PermissionConditions) (observed : ObservedPermissionConditions) :
    Option (List Bool) := do
  let tenant ← tenantChecks expected observed
  let state ← stateChecks expected observed
  let relationships ← expected.relationships.mapM (relationshipCheck digest observed)
  return decide (observed.principal = expected.principal) :: tenant ++ state ++ relationships

def matchPermissionConditions (digest : Digest) (expected : PermissionConditions)
    (observed : ObservedPermissionConditions) : MatchStatus :=
  match conditionChecks digest expected observed with
  | none => .UNKNOWN
  | some checks => if checks.all id then .MATCH else .MISMATCH

def collectedConditionsStatus (digest : Digest) (expected : Option PermissionConditions)
    (observations : List ObservedPermissionConditions) : MatchStatus :=
  match expected with
  | none => .MATCH
  | some expected =>
    let states := observations.map (matchPermissionConditions digest expected)
    if states = [] ∨ .UNKNOWN ∈ states then .UNKNOWN
    else if .MISMATCH ∈ states then .MISMATCH
    else .MATCH

/-- The observations of one proof after the request. -/
def observedAfter (proof : EffectProofRequirement) (observations : List CheckObservation) : List CheckObservation :=
  observations.filter fun item => item.proofFingerprint = proof.proofFingerprint ∧ item.level = proof.level ∧
    (item.phase = .AFTER ∨ item.phase = .EVENTUAL)

/-- The last word of each observer: a final observation replaces an earlier one. -/
def keepLatest (latest : List CheckObservation) (item : CheckObservation) : List CheckObservation :=
  if Table.lookup CheckObservation.observerId latest item.observerId = none ∨ item.phase = .EVENTUAL then
    Table.put CheckObservation.observerId latest item
  else latest

def confirmedObservation (item : CheckObservation) : Bool :=
  item.state = .CONFIRMED && item.trusted

/-- What the observations say about one proof. -/
def effectFact (observations : List CheckObservation) (proof : EffectProofRequirement) : CheckEffectFact :=
  let observed := observedAfter proof observations
  let values := observed.foldl keepLatest []
  let confirmed := observed.any confirmedObservation
  let reliable := values ≠ [] && values.all (·.trusted)
  let trusted := confirmed || reliable
  { effectId := proof.effectId
    proofFingerprint := proof.proofFingerprint
    state := if confirmed then .CONFIRMED
      else if reliable && values.all (fun item => item.state = .ABSENT) then .ABSENT else .UNKNOWN
    complete := trusted
    reliable := trusted
    correlated := trusted
    authoritative := trusted
    closure := if values ≠ [] && values.all (fun item => item.closure = .CLOSED) then .CLOSED else .OPEN }

def projectCheckEffectFacts (case : ExecutionCase) (observations : List CheckObservation) : List CheckEffectFact :=
  case.proofRequirements.map (effectFact observations)

structure CheckDecisionInput where
  case : ExecutionCase
  execution : ExecutionOutcome
  actualIdentity : MatchStatus
  runCorrelated : Bool
  resourceCorrelated : Bool
  baselineTrusted : Bool
  recoveryVerified : Bool
  allowControlVerdict : Option CaseVerdict
  effects : List CheckEffectFact
  conditionObservations : List ObservedPermissionConditions
  deriving DecidableEq, Repr

/-- One observed condition names a frozen independent source of the case. -/
def frozenCondition (case : ExecutionCase) (observation : ObservedPermissionConditions) : Bool :=
  match Table.latest EffectProofRequirement.proofFingerprint case.proofRequirements observation.proofFingerprint with
  | some { rule := .REGISTERED_EFFECT, reference := .REGISTERED_OBSERVER descriptorId descriptorFingerprint _, .. } =>
    observation.sourceId = descriptorId ∧ observation.sourceFingerprint = descriptorFingerprint
  | _ => false

def CheckDecisionInput.validateProofAssociations (facts : CheckDecisionInput) : Except Raised Unit := do
  let actual : List (String × String) := facts.effects.map fun fact => (fact.effectId, fact.proofFingerprint)
  let expected : List (String × String) := facts.case.proofRequirements.map fun proof => (proof.effectId, proof.proofFingerprint)
  require (actual.Nodup ∧ ∀ pair ∈ actual, pair ∈ expected)
    (.ValueError "check facts must reference unique frozen case proofs")
  require ((∀ observation ∈ facts.conditionObservations, frozenCondition facts.case observation = true) ∧
      (facts.conditionObservations.map (·.proofFingerprint)).Nodup)
    (.ValueError "condition facts must reference their frozen independent source")

structure CheckDecision where
  verdict : CaseVerdict
  reasonCodes : List String
  confirmedForbiddenEffectIds : List String
  deriving DecidableEq, Repr

/-- The facts of the decisive proofs; `none` for a proof without a fact. -/
def requiredFacts (facts : CheckDecisionInput) : List (Option CheckEffectFact) :=
  (facts.case.proofRequirements.filter fun proof => proof.level = .VERDICT_REQUIRED).map fun proof =>
    Table.latest CheckEffectFact.proofFingerprint facts.effects proof.proofFingerprint

def CheckDecisionInput.attributed (facts : CheckDecisionInput) : Bool :=
  facts.actualIdentity = .MATCH && facts.runCorrelated && facts.resourceCorrelated

def confirmedFact (fact : CheckEffectFact) : Bool :=
  fact.state = .CONFIRMED && fact.trusted

def confirmedEffects (facts : CheckDecisionInput) : List String :=
  if facts.attributed then
    sortedSet (((requiredFacts facts).filterMap id).filter confirmedFact |>.map (·.effectId))
  else []

def reason (condition : Bool) (code : String) : List String :=
  if condition then [code] else []

/-- Why the proofs of a case are not complete, whatever it expects. -/
def openReasons (facts : CheckDecisionInput) : List String :=
  let required := requiredFacts facts
  reason (facts.actualIdentity ≠ .MATCH) ("ACTUAL_IDENTITY_" ++ facts.actualIdentity.value) ++
  reason (!facts.runCorrelated) "RUN_CORRELATION_UNTRUSTED" ++
  reason (!facts.resourceCorrelated) "RESOURCE_CORRELATION_UNTRUSTED" ++
  reason (!facts.baselineTrusted) "BASELINE_INTEGRITY_INVALID" ++
  reason (!facts.recoveryVerified) "RECOVERY_UNVERIFIED" ++
  reason (facts.execution = .FAILED || facts.execution = .UNKNOWN) ("EXECUTION_" ++ facts.execution.value) ++
  reason (required.any fun
    | none => true
    | some fact => !fact.trusted || fact.state = .UNKNOWN) "REQUIRED_EFFECT_UNKNOWN" ++
  reason (required.any fun
    | none => true
    | some fact => fact.closure ≠ .CLOSED) "TEMPORAL_CLOSURE_INCOMPLETE"

def denyReasons (facts : CheckDecisionInput) : List String :=
  reason (facts.execution = .ACCEPTED && facts.case.invocationKind = none) "UNAUTHORIZED_EXECUTION_ACCEPTED" ++
  reason (facts.allowControlVerdict ≠ some .SAFE) "ALLOW_CONTROL_INVALID" ++
  reason ((requiredFacts facts).any fun
    | none => true
    | some fact => fact.state ≠ .ABSENT) "REQUIRED_EFFECT_NOT_ABSENT"

def allowReasons (facts : CheckDecisionInput) : List String :=
  reason (facts.execution = .DENIED) "ALLOW_EXECUTION_REJECTED" ++
  reason (¬ SameSet (confirmedEffects facts) facts.case.protectedEffectIds) "ALLOW_EFFECT_UNCONFIRMED"

def evaluateCheckCase (digest : Digest) (facts : CheckDecisionInput) : CheckDecision :=
  let conditionStatus := collectedConditionsStatus digest facts.case.permission.conditions facts.conditionObservations
  if conditionStatus ≠ .MATCH then
    { verdict := .INCONCLUSIVE
      reasonCodes := ["PERMISSION_CONDITION_" ++ conditionStatus.value]
      confirmedForbiddenEffectIds := [] }
  else if facts.case.expectsAbsence = true ∧ confirmedEffects facts ≠ [] then
    { verdict := .VULNERABLE
      reasonCodes := ["ORPHAN_EFFECT_CONFIRMED"]
      confirmedForbiddenEffectIds := confirmedEffects facts }
  else
    let reasons := openReasons facts ++ if facts.case.expectsAbsence then denyReasons facts else allowReasons facts
    { verdict := if reasons = [] then .SAFE else .INCONCLUSIVE
      reasonCodes := sortedSet reasons
      confirmedForbiddenEffectIds := [] }

/-- The decision about a case from its outcome and its observations. -/
def decideCase (digest : Digest) (case : ExecutionCase) (outcome : CheckCaseOutcome)
    (observations : List CheckObservation) (allowVerdict : Option CaseVerdict) : Except Raised CheckDecision := do
  let facts : CheckDecisionInput :=
    { case := case
      execution := outcome.executionOutcome
      actualIdentity := outcome.actualIdentityStatus
      runCorrelated := outcome.runCorrelated
      resourceCorrelated := outcome.resourceCorrelated
      baselineTrusted := outcome.baselineTrusted
      recoveryVerified := outcome.recoveryVerified
      allowControlVerdict := allowVerdict
      effects := projectCheckEffectFacts case observations
      conditionObservations := outcome.conditionObservations }
  facts.validateProofAssociations
  return evaluateCheckCase digest facts

end Jiejian.Verification.Decisions
