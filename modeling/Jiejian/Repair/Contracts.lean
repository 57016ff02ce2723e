import Jiejian.Protocol.Requests
import Jiejian.Repair.Standards
import Jiejian.Verification.Decisions
import Jiejian.Verification.Results

namespace Jiejian.Repair.Contracts

open Library Library.Document Library.Outcome Library.Sorting Errors
open Protocol.Codec Protocol.Cases Protocol.Actions Protocol.Runtime Protocol.Requests
open Verification.Models Verification.Decisions Verification.Results Standards

structure CurrentRepairReference where
  sourceRunId : String
  sourceCaseId : String
  repairFingerprint : String
  deriving DecidableEq, Repr

structure RepairCaseRequirement where
  sourceCaseId : String
  identity : RepairCaseIdentity
  evidenceStandardFingerprints : List String
  evidenceRefs : List String
  deriving DecidableEq, Repr

def RepairCaseRequirement.dump (requirement : RepairCaseRequirement) : Json :=
  .dict [("source_case_id", .str requirement.sourceCaseId), ("identity", requirement.identity.dump),
    ("evidence_standard_fingerprints", strings requirement.evidenceStandardFingerprints),
    ("evidence_refs", strings requirement.evidenceRefs)]

def RepairCaseRequirement.validateSets (requirement : RepairCaseRequirement) : Except Raised Unit := do
  require (sortedSet requirement.evidenceStandardFingerprints = requirement.evidenceStandardFingerprints)
    (.ValueError "repair standards must be sorted and unique")
  require requirement.evidenceRefs.Nodup (.ValueError "repair evidence refs must be unique")

structure CurrentRepairContract where
  projectId : String
  sourceRunId : String
  sourceCaseId : String
  originalPolicyEpoch : Nat
  originalIntents : List PermissionReference
  deny : RepairCaseRequirement
  selectedControl : RepairCaseRequirement
  regressions : List RepairCaseRequirement
  breakpoint : Option Json := none
  repairFingerprint : String

/-- Everything the contract's fingerprint covers. -/
def CurrentRepairContract.payload (contract : CurrentRepairContract) : List (String × Json) :=
  [("project_id", .str contract.projectId), ("source_run_id", .str contract.sourceRunId),
    ("source_case_id", .str contract.sourceCaseId), ("original_policy_epoch", natural contract.originalPolicyEpoch),
    ("original_intents", .list (contract.originalIntents.map (·.dump))), ("deny", contract.deny.dump),
    ("selected_control", contract.selectedControl.dump),
    ("regressions", .list (contract.regressions.map (·.dump))), ("breakpoint", nullable id contract.breakpoint)]

/-- `(intent_id, revision, intent_hash)` as a sort key. -/
def referenceOrder (reference : PermissionReference) : String ×ₗ Nat ×ₗ String :=
  toLex (reference.intentId, toLex (reference.revision, reference.intentHash))

/-- An atomic batch is expected to have no effect. -/
def batchDenial (identity : RepairCaseIdentity) : Bool :=
  identity.invocationKind = some .BATCH_ATOMIC ∧ identity.batchEffectExpectation = some .ABSENT ∧
    identity.occurrenceId.isSome

def CurrentRepairContract.validateContract (digest : Digest) (contract : CurrentRepairContract) :
    Except Raised Unit := do
  require (contract.sourceCaseId = contract.deny.sourceCaseId ∧
      (contract.deny.identity.permission.expectation = .DENY ∨ batchDenial contract.deny.identity = true))
    (.ValueError "repair source must be the frozen deny case")
  require (contract.selectedControl.identity.permission.expectation = .ALLOW ∧
      contract.selectedControl.identity.batchEffectExpectation ≠ some .ABSENT)
    (.ValueError "repair requires selected allow control")
  let keys := contract.regressions.map fun item => item.identity.fingerprint digest
  require (keys = sortedSet keys ∧ ∀ item ∈ contract.regressions, item.identity.permission.expectation = .ALLOW)
    (.ValueError "repair regression set")
  require (contract.originalIntents = sortedBy referenceOrder contract.originalIntents.dedup)
    (.ValueError "repair permission set")
  require (contract.repairFingerprint = contentHash digest "CurrentRepairContract" (.dict contract.payload))
    (.ValueError "repair contract identity")

def CurrentRepairContract.reference (contract : CurrentRepairContract) : CurrentRepairReference where
  sourceRunId := contract.sourceRunId
  sourceCaseId := contract.sourceCaseId
  repairFingerprint := contract.repairFingerprint

def repairContext (digest : Digest) (contract : CurrentRepairContract) : RepairContext where
  repairReference := contract.repairFingerprint
  sourceRunId := contract.sourceRunId
  originalPolicyEpoch := contract.originalPolicyEpoch
  originalIntents := contract.originalIntents
  selectedAllowPermission := contract.selectedControl.identity.permission.toPermissionReference
  resourceId := contract.deny.identity.resourceId
  resourceOwnerTestIdentityId := contract.deny.identity.resourceOwnerTestIdentityId
  ownerIdentityFingerprint := contract.deny.identity.ownerIdentityFingerprint
  mustDisappearEffectIds := contract.deny.identity.protectedEffectIds
  originalEvidenceStandardFingerprints := contract.deny.evidenceStandardFingerprints
  allowRegressionCaseFingerprints := contract.regressions.map fun item => item.identity.fingerprint digest

/-- The permissions of all cases, each once and in order. -/
def currentRequestPermissions (request : ExecutionRequest) : List PermissionReference :=
  sortedBy referenceOrder (request.cases.map (·.permissionKey)).dedup

inductive RepairStatus where
  | VERIFIED
  | NOT_VERIFIED
  | INCONCLUSIVE
  | STALE
  deriving DecidableEq, Repr

structure CurrentRepairVerification where
  repairReference : String
  sourceRunId : String
  runId : String
  status : RepairStatus
  reasonCodes : List String
  deriving DecidableEq, Repr

/-- A case of the request with its action, under the fingerprint of its identity. -/
structure RepairCandidate where
  fingerprint : String
  action : ExecutionAction
  case : ExecutionCase

def requestPairs (request : ExecutionRequest) : List (ExecutionAction × ExecutionCase) :=
  request.actions.flatMap fun action => action.cases.map fun case => (action, case)

def repairCandidates (digest : Digest) (request : ExecutionRequest) (bundle : CheckRuntimeBundle) :
    Except Raised (List RepairCandidate) :=
  (requestPairs request).mapM fun pair => do
    let identity ← repairCaseIdentity pair.1 pair.2 bundle
    return { fingerprint := identity.fingerprint digest, action := pair.1, case := pair.2 }

def matchesOf (candidates : List RepairCandidate) (fingerprint : String) : List RepairCandidate :=
  candidates.filter fun candidate => candidate.fingerprint = fingerprint

/-- The published documents of a case result, in the order of its references. -/
def caseDocuments (evidence : List CheckEvidence) (result : CheckCaseResult) : List CheckEvidence :=
  result.evidenceIds.filterMap (Table.latest CheckEvidence.evidenceId evidence)

def caseObservations (documents : List CheckEvidence) : List CheckObservation :=
  documents.flatMap (·.observations)

/-- The case that the first document was recorded for, or else the case of the request. -/
def effectiveCase (digest : Digest) (documents : List CheckEvidence) (case : ExecutionCase) :
    Except Raised ExecutionCase :=
  match documents with
  | [] => .ok case
  | document :: _ => document.effectiveCase digest

/-- A trusted observation still confirms a fact of the case. -/
def effectRemains (digest : Digest) (evidence : List CheckEvidence) (case : ExecutionCase)
    (result : CheckCaseResult) : Except Raised Bool := do
  let documents := caseDocuments evidence result
  let effective ← effectiveCase digest documents case
  let facts := projectCheckEffectFacts effective (caseObservations documents)
  return result.outcome.attributed && facts.any confirmedFact

/-- The check before all others: whether the forbidden effect still shows. -/
def forbiddenEffect (digest : Digest) (contract : CurrentRepairContract) (candidates : List RepairCandidate)
    (result : CheckRunnerResult) (evidence : List CheckEvidence) : Except Raised Bool :=
  match matchesOf candidates (contract.deny.identity.fingerprint digest) with
  | [candidate] =>
    match Table.latest CheckCaseResult.caseId result.caseResults candidate.case.caseId with
    | some caseResult => effectRemains digest evidence candidate.case caseResult
    | none => return false
  | _ => return false

def recovered (outcome : CheckCaseOutcome) : Bool :=
  outcome.actualIdentityStatus = .MATCH ∧ outcome.baselineTrusted ∧ outcome.recoveryVerified ∧
    outcome.runCorrelated ∧ outcome.resourceCorrelated

/-- Why one requirement of the contract is not met; `none` when it is. -/
def compareRequirement (digest : Digest) (candidates : List RepairCandidate) (bundle : CheckRuntimeBundle)
    (result : CheckRunnerResult) (evidence : List CheckEvidence) (requirement : RepairCaseRequirement) :
    Except Raised (Option String) :=
  match matchesOf candidates (requirement.identity.fingerprint digest) with
  | [candidate] =>
    match Table.latest CheckCaseResult.caseId result.caseResults candidate.case.caseId with
    | none => return some "REPAIR_REQUIRED_CASE_NOT_SAFE"
    | some current =>
      if current.verdict ≠ .SAFE then return some "REPAIR_REQUIRED_CASE_NOT_SAFE"
      else if current.evidenceIds = [] ∨ ∃ ref ∈ current.evidenceIds,
          (Table.latest CheckEvidence.evidenceId evidence ref).isNone = true then
        return some "REPAIR_EVIDENCE_UNAVAILABLE"
      else if recovered current.outcome = false then return some "REPAIR_ATTRIBUTION_INCOMPLETE"
      else
        match repairEvidenceStandards digest candidate.action candidate.case bundle with
        | .ok standards =>
          if standards ≠ requirement.evidenceStandardFingerprints then return some "REPAIR_STANDARD_CHANGED"
          else return none
        | .error .AttributeError => .error .AttributeError
        | .error .AssertionError => .error .AssertionError
        | .error _ => return some "REPAIR_STANDARD_UNAVAILABLE"
  | _ => return some "REPAIR_CASE_NOT_UNIQUELY_MATCHED"

/-- The first requirement that is not met. -/
def compareRequirements (digest : Digest) (candidates : List RepairCandidate) (bundle : CheckRuntimeBundle)
    (result : CheckRunnerResult) (evidence : List CheckEvidence) : List RepairCaseRequirement →
    Except Raised (Option String)
  | [] => return none
  | requirement :: rest => do
    match ← compareRequirement digest candidates bundle result evidence requirement with
    | some reason => return some reason
    | none => compareRequirements digest candidates bundle result evidence rest

def CurrentRepairContract.requirements (contract : CurrentRepairContract) : List RepairCaseRequirement :=
  contract.deny :: contract.selectedControl :: contract.regressions

def runtimeConfirmed (result : CheckRunnerResult) : Bool :=
  result.runtimeCorrespondence = some { before := .MATCHED, after := .MATCHED }

def compareRepairCases (digest : Digest) (contract : CurrentRepairContract) (request : ExecutionRequest)
    (bundle : CheckRuntimeBundle) (result : CheckRunnerResult) (evidence : List CheckEvidence)
    (requireRuntime : Bool) : Except Raised (RepairStatus × String) := do
  let candidates ← repairCandidates digest request bundle
  let remains ← forbiddenEffect digest contract candidates result evidence
  if remains then
    return (.NOT_VERIFIED, "REPAIR_FORBIDDEN_EFFECT_REMAINS")
  else if requireRuntime = true ∧ runtimeConfirmed result = false then
    return (.INCONCLUSIVE, "REPAIR_RUNTIME_NOT_CONFIRMED")
  else do
    match ← compareRequirements digest candidates bundle result evidence contract.requirements with
    | some reason => return (.INCONCLUSIVE, reason)
    | none => return (.VERIFIED, if requireRuntime then "REPAIR_ORIGINAL_REQUIREMENTS_VERIFIED"
        else "EXTERNAL_ORIGINAL_BEHAVIOR_VERIFIED")

/-- The request still asks what the contract asked. -/
def policyUnchanged (contract : CurrentRepairContract) (request : ExecutionRequest) : Bool :=
  request.policyEpoch = contract.originalPolicyEpoch ∧
    currentRequestPermissions request = contract.originalIntents

/-- The run is another one, of this project, and about this repair and this change. -/
def contextMatches (digest : Digest) (contract : CurrentRepairContract) (request : ExecutionRequest)
    (result : CheckRunnerResult) (expectedChangeContext : Option ChangeContext)
    (linkedRepairReferences : List CurrentRepairReference) : Bool :=
  result.runId ≠ contract.sourceRunId ∧ request.projectId = contract.projectId ∧
    (request.repairContext = some (repairContext digest contract) ∨
      contract.reference ∈ linkedRepairReferences) ∧
    expectedChangeContext ≠ none ∧ request.changeContext = expectedChangeContext

/-- The status and the one reason of a verification. -/
def currentRepairAnswer (digest : Digest) (contract : CurrentRepairContract) (request : ExecutionRequest)
    (bundle : CheckRuntimeBundle) (result : CheckRunnerResult) (evidence : List CheckEvidence)
    (expectedChangeContext : Option ChangeContext) (linkedRepairReferences : List CurrentRepairReference) :
    Except Raised (RepairStatus × String) :=
  if policyUnchanged contract request = false then return (.STALE, "REPAIR_POLICY_CHANGED")
  else if contextMatches digest contract request result expectedChangeContext linkedRepairReferences = false then
    return (.INCONCLUSIVE, "REPAIR_CONTEXT_MISMATCH")
  else compareRepairCases digest contract request bundle result evidence true

def verifyCurrentRepair (digest : Digest) (contract : CurrentRepairContract) (request : ExecutionRequest)
    (bundle : CheckRuntimeBundle) (result : CheckRunnerResult) (evidence : List CheckEvidence)
    (expectedChangeContext : Option ChangeContext) (linkedRepairReferences : List CurrentRepairReference) :
    Except Raised CurrentRepairVerification := do
  let (status, reason) ← currentRepairAnswer digest contract request bundle result evidence expectedChangeContext
    linkedRepairReferences
  return {
    repairReference := contract.repairFingerprint
    sourceRunId := contract.sourceRunId
    runId := result.runId
    status := status
    reasonCodes := [reason] }

end Jiejian.Repair.Contracts
