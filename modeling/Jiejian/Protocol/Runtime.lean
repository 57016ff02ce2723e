import Jiejian.Protocol.Cases
import Jiejian.Protocol.Sources

namespace Jiejian.Protocol.Runtime

open Library Library.Document Library.Outcome Errors Codec Cases Sources

structure CheckIdentityVerification where
  nameSpace : String
  expectedApplicationSubjectId : String
  expectedActorId : String
  expectedActorRevision : Nat
  request : Json
  subjectJsonPath : String
  roleJsonPath : Option String := none
  expectedRole : Option String := none

def CheckIdentityVerification.dump (verification : CheckIdentityVerification) : Json :=
  .dict ([("namespace", .str verification.nameSpace),
    ("expected_application_subject_id", .str verification.expectedApplicationSubjectId),
    ("expected_actor_id", .str verification.expectedActorId),
    ("expected_actor_revision", natural verification.expectedActorRevision), ("request", verification.request),
    ("subject_json_path", .str verification.subjectJsonPath)] ++
    optionalField "role_json_path" .str verification.roleJsonPath ++
    optionalField "expected_role" .str verification.expectedRole)

structure CheckIdentity where
  identityId : String
  actorId : String
  actorRevision : Nat
  identityFingerprint : String
  label : String
  actorLabel : String
  verification : Option CheckIdentityVerification := none

inductive MutationOperation where
  | CHANGE
  | ASSIGN
  | ADD
  | REMOVE
  deriving DecidableEq, Repr

def MutationOperation.value : MutationOperation → String
  | .CHANGE => "CHANGE"
  | .ASSIGN => "ASSIGN"
  | .ADD => "ADD"
  | .REMOVE => "REMOVE"

structure FieldMutationRequirement where
  path : List String
  operation : MutationOperation := .CHANGE
  expectedValue : Json := .null

def FieldMutationRequirement.dump (requirement : FieldMutationRequirement) : Json :=
  .dict [("path", strings requirement.path), ("operation", .str requirement.operation.value),
    ("expected_value", requirement.expectedValue)]

/-- A source of supporting material for a proof; it never decides one. -/
structure CheckAuxiliarySource where
  observerId : String
  descriptorFingerprint : String
  observationIdentityId : String
  level : ProofLevel
  deriving DecidableEq, Repr

structure CheckProofConfig where
  effectId : String
  businessLabel : String
  effectKind : String
  expectedState : Option String := none
  fieldMutation : Option FieldMutationRequirement := none
  protectedProjection : List String := []
  bindingFingerprint : String
  rule : ProofRule
  entityQuery : Option Json := none
  observationIdentityId : String
  request : Option Json := none
  observerId : Option String := none
  descriptorFingerprint : Option String := none
  sourceLabel : String
  exclusiveResourceWindow : Bool := false
  auxiliarySources : List CheckAuxiliarySource := []

/-- The part of `validate_source` that ties the fields of a proof to its rule. -/
def CheckProofConfig.validateSource (proof : CheckProofConfig) : Except Raised Unit := do
  require (proof.rule = .HTTP_ENTITY_QUERY ↔ proof.entityQuery.isSome)
    (.ValueError "entity query is only valid for HTTP entity evidence")
  require (proof.rule = .REGISTERED_EFFECT →
      proof.request.isNone ∧ proof.observerId.isSome ∧ proof.descriptorFingerprint.isSome)
    (.ValueError "registered proof requires a frozen observer")

structure ObserverSpec where
  observerId : String
  observerType : String
  target : Json
  phases : List String
  required : Bool
  budget : Json

def ObserverSpec.dump (spec : ObserverSpec) : Json :=
  .dict [("observer_id", .str spec.observerId), ("observer_type", .str spec.observerType),
    ("protocol_version", .str "2"), ("target", spec.target), ("phases", strings spec.phases),
    ("required", .bool spec.required), ("budget", spec.budget)]

inductive SubjectBinding where
  | SOURCE
  | RESOURCE_OWNER
  deriving DecidableEq, Repr

structure CheckRecoveryConfig where
  bindingFingerprint : String
  sourceSubjectIdentityId : String
  subjectBinding : SubjectBinding := .SOURCE
  deriving DecidableEq, Repr

/-- `identity_for`: a recovery recorded as the owner follows the case. -/
def CheckRecoveryConfig.identityFor (recovery : CheckRecoveryConfig) (case : ExecutionCase) : String :=
  match recovery.subjectBinding with
  | .RESOURCE_OWNER => case.resourceOwnerTestIdentityId
  | .SOURCE => recovery.sourceSubjectIdentityId

structure CheckActionConfig where
  actionId : String
  actionRevision : Nat
  actionSemanticFingerprint : String
  displayName : String
  stateChanging : Bool
  proofs : List CheckProofConfig
  recovery : Option CheckRecoveryConfig := none
  createdResource : Option Json := none

structure CheckRuntimeBundle where
  proofSources : List FrozenProofSource := []
  identities : List CheckIdentity
  actions : List CheckActionConfig
  observers : List ObserverSpec := []

/-- The observer that reads one adopted source: `'json_' + source_id[4:]`. -/
def sourceObserverId (sourceId : String) : String :=
  "json_" ++ String.ofList (sourceId.toList.drop 4)

def CheckRuntimeBundle.proofPairs (bundle : CheckRuntimeBundle) : List (CheckActionConfig × CheckProofConfig) :=
  bundle.actions.flatMap fun action => action.proofs.map fun proof => (action, proof)

/-- The proof that an adopted source belongs to. -/
def CheckRuntimeBundle.proofOf (bundle : CheckRuntimeBundle) (config : ProofSourceConfig) :
    Option (CheckActionConfig × CheckProofConfig) :=
  Table.latest (fun pair : CheckActionConfig × CheckProofConfig => (pair.1.actionId, pair.2.effectId))
    bundle.proofPairs (config.actionId, config.effectId)

/-- `proof_coverage` for one source. -/
def coversProof (bundle : CheckRuntimeBundle) (source : FrozenProofSource) : Bool :=
  match bundle.proofOf source.config with
  | none => false
  | some (action, proof) => action.actionRevision = source.config.actionRevision ∧ proof.rule = .REGISTERED_EFFECT ∧
      proof.descriptorFingerprint = some source.sourceFingerprint ∧
      proof.observerId = some (sourceObserverId source.sourceId) ∧
      proof.observationIdentityId = source.config.observationIdentityId ∧
      proof.effectKind = source.contract.approvedEffectKind ∧
      source.contract.contractId = source.config.sourceContractId

/-- The proof reads an adopted source of created objects. -/
def observesCreation (bundle : CheckRuntimeBundle) (proof : CheckProofConfig) : Bool :=
  match Table.latest (fun source : FrozenProofSource => some (sourceObserverId source.sourceId))
      bundle.proofSources proof.observerId with
  | some source => source.config.detail.observesCreation
  | none => false

/-- The checks of a bundle that its readers rely on. -/
def CheckRuntimeBundle.validate (bundle : CheckRuntimeBundle) : Except Raised Unit := do
  require (bundle.actions.map (·.actionId)).Nodup (.ValueError "duplicate runtime action")
  bundle.actions.forM fun action => action.proofs.forM (·.validateSource)
  require (bundle.proofSources.map (·.sourceId)).Nodup (.ValueError "duplicate proof source")
  require (∀ source ∈ bundle.proofSources, coversProof bundle source = true)
    (.ValueError "proof association mismatch")
  require (∀ action ∈ bundle.actions, ∀ proof ∈ action.proofs,
      action.createdResource.isSome = observesCreation bundle proof)
    (.ValueError "creation action requires adopted collection proof")

end Jiejian.Protocol.Runtime
