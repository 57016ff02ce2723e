import Jiejian.Protocol.Actions
import Jiejian.Protocol.Runtime

namespace Jiejian.Repair.Standards

open Library Library.Document Library.Outcome Library.Sorting Errors
open Protocol.Codec Protocol.Conditions Protocol.Cases Protocol.Actions Protocol.Sources Protocol.Runtime

structure RepairCaseIdentity where
  occurrenceId : Option String
  invocationKind : Option InvocationKind
  batchEffectExpectation : Option BatchEffectExpectation
  actionId : String
  actionRevision : Nat
  actionSemanticFingerprint : String
  permission : FrozenPermission
  subjectTestIdentityId : Option String
  subjectActorId : String
  subjectActorRevision : Nat
  subjectIdentityFingerprint : Option String
  resourceOwnerTestIdentityId : String
  resourceOwnerActorId : String
  resourceOwnerActorRevision : Nat
  ownerIdentityFingerprint : String
  resourceId : String
  protectedEffectIds : List String
  deriving DecidableEq, Repr

def RepairCaseIdentity.dump (identity : RepairCaseIdentity) : Json :=
  .dict (optionalField "occurrence_id" .str identity.occurrenceId ++
    optionalField "invocation_kind" (fun kind => .str kind.value) identity.invocationKind ++
    optionalField "batch_effect_expectation" (fun expectation => .str expectation.value)
      identity.batchEffectExpectation ++
    [("action_id", .str identity.actionId), ("action_revision", natural identity.actionRevision),
      ("action_semantic_fingerprint", .str identity.actionSemanticFingerprint),
      ("permission", identity.permission.dump),
      ("subject_test_identity_id", nullable .str identity.subjectTestIdentityId),
      ("subject_actor_id", .str identity.subjectActorId),
      ("subject_actor_revision", natural identity.subjectActorRevision),
      ("subject_identity_fingerprint", nullable .str identity.subjectIdentityFingerprint),
      ("resource_owner_test_identity_id", .str identity.resourceOwnerTestIdentityId),
      ("resource_owner_actor_id", .str identity.resourceOwnerActorId),
      ("resource_owner_actor_revision", natural identity.resourceOwnerActorRevision),
      ("owner_identity_fingerprint", .str identity.ownerIdentityFingerprint),
      ("resource_id", .str identity.resourceId), ("protected_effect_ids", strings identity.protectedEffectIds)])

def RepairCaseIdentity.validateEffectSet (identity : RepairCaseIdentity) : Except Raised Unit :=
  require (sortedSet identity.protectedEffectIds = identity.protectedEffectIds) (.ValueError "repair effect set")

def RepairCaseIdentity.fingerprint (digest : Digest) (identity : RepairCaseIdentity) : String :=
  contentHash digest "RepairCaseIdentity" identity.dump

def configuredAction (bundle : CheckRuntimeBundle) (action : ExecutionAction) : Option CheckActionConfig :=
  bundle.actions.find? fun item => item.actionId = action.actionId

/-- The name that stands for whatever object the action creates. -/
def runtimeCreatedObject : String := "runtime-created-object"

/-- The resource of a case, when it is there before the run. -/
def identityResource (bundle : CheckRuntimeBundle) (action : ExecutionAction) (case : ExecutionCase) : String :=
  if ((configuredAction bundle action).bind (·.createdResource)).isSome then runtimeCreatedObject
  else case.resourceId

def caseIdentity (action : ExecutionAction) (case : ExecutionCase) (bundle : CheckRuntimeBundle) :
    RepairCaseIdentity where
  occurrenceId := case.occurrenceId
  invocationKind := case.invocationKind
  batchEffectExpectation := case.batchEffectExpectation
  actionId := action.actionId
  actionRevision := action.actionRevision
  actionSemanticFingerprint := action.actionSemanticFingerprint
  permission := case.permission
  subjectTestIdentityId := case.subjectTestIdentityId
  subjectActorId := case.subjectActorId
  subjectActorRevision := case.subjectActorRevision
  subjectIdentityFingerprint := case.subjectIdentityFingerprint
  resourceOwnerTestIdentityId := case.resourceOwnerTestIdentityId
  resourceOwnerActorId := case.resourceOwnerActorId
  resourceOwnerActorRevision := case.resourceOwnerActorRevision
  ownerIdentityFingerprint := case.ownerIdentityFingerprint
  resourceId := identityResource bundle action case
  protectedEffectIds := case.protectedEffectIds

def repairCaseIdentity (action : ExecutionAction) (case : ExecutionCase) (bundle : CheckRuntimeBundle) :
    Except Raised RepairCaseIdentity := do
  (caseIdentity action case bundle).validateEffectSet
  return caseIdentity action case bundle

/-- The identity fields a proof is read with, for one claim; a claim of an absent identity says nothing. -/
def identityStandard (bundle : CheckRuntimeBundle) (source : FrozenProofSource) (claim : ManagedIdentityClaim) :
    Except Raised (Option Json) :=
  match Table.latest CheckIdentity.identityId bundle.identities claim.identityId with
  | none => .ok none
  | some actual => do
    let verification ← orRaise actual.verification (.ValueError "repair identity standard missing")
    let role ← orRaise (source.roleOf claim.identityId) .KeyError
    return some (.dict [("claim", claim.dump), ("verification", verification.dump), ("role", .str role)])

/-- The configuration without the fields of its preparation. -/
def standardConfig (config : ProofSourceConfig) : Json :=
  .dict ((config.methodFields.filter fun field => field.1 ≠ "reference_origin") ++
    [("protected_projection", strings (sortedBy id config.protectedProjection))])

def isReferenceFile : SourceDetail → Bool
  | .REFERENCE_FILE _ => true
  | _ => false

def missingReference : SourceDetail → Bool
  | .REFERENCE_FILE file => file.referenceArtifact.isNone
  | _ => false

/-- The fields in which a source of created records names its object. -/
def resourceFields (configured : CheckActionConfig) (case : ExecutionCase) (detail : SourceDetail) :
    Except Raised (List (String × Json)) :=
  match detail with
  | .CREATED_OBJECT_RECORDS => do
    let created ← orRaise configured.createdResource .AttributeError
    return [("resource_id", .str runtimeCreatedObject), ("resource_mode", .str "OUTPUT"), ("created_resource", created)]
  | _ => return [("resource_id", .str case.resourceId)]

def mutationField (proof : CheckProofConfig) : List (String × Json) :=
  optionalField "field_mutation" (·.dump) proof.fieldMutation

/-- The sources of one effect of an action. -/
def effectSources (bundle : CheckRuntimeBundle) (action : ExecutionAction) (effectId : String) :
    List FrozenProofSource :=
  bundle.proofSources.filter fun source =>
    source.config.actionId = action.actionId ∧ source.config.effectId = effectId

def sourcePayload (case : ExecutionCase) (requirement : EffectProofRequirement) (proof : CheckProofConfig)
    (source : FrozenProofSource) (identities : List Json) (resource : List (String × Json)) : Json :=
  .dict ([("effect_id", .str proof.effectId), ("effect_kind", .str proof.effectKind),
    ("level", .str requirement.level.value), ("rule", .str proof.rule.value),
    ("expected_state", nullable .str proof.expectedState),
    ("protected_projection", strings (sortedBy id proof.protectedProjection)),
    ("exclusive_resource_window", .bool proof.exclusiveResourceWindow), ("config", standardConfig source.config),
    ("identities", .list identities), ("contract", source.contract.dump),
    ("owner_identity_id", .str case.resourceOwnerTestIdentityId), ("owner_subject_id", .str source.ownerSubjectId),
    ("commit_semantics", .str "ATOMIC_COMMIT"), ("completeness", .str "ATTRIBUTED_COMPLETE_CLOSED"),
    ("file_comparison", if isReferenceFile source.config.detail then .str "FULL_ENTITY_SIZE_SHA256" else .null)] ++
    resource ++ mutationField proof)

def sourceStandard (digest : Digest) (action : ExecutionAction) (case : ExecutionCase) (bundle : CheckRuntimeBundle)
    (configured : CheckActionConfig) (requirement : EffectProofRequirement) (proof : CheckProofConfig) :
    Except Raised String :=
  match effectSources bundle action requirement.effectId with
  | [source] => do
    require (some source.sourceFingerprint = proof.descriptorFingerprint)
      (.ValueError "repair source differs from frozen proof")
    let identities ← (sortedBy ManagedIdentityClaim.identityId source.config.identityClaims).mapM
      (identityStandard bundle source)
    require (missingReference source.config.detail = false) (.ValueError "repair file reference missing")
    let resource ← resourceFields configured case source.config.detail
    return contentHash digest "CurrentProofRepairStandard"
      (sourcePayload case requirement proof source identities.reduceOption resource)
  | _ => .error (.ValueError "repair requires one frozen current source")

def entityFields (proof : CheckProofConfig) : Except Raised (List (String × Json)) :=
  if proof.rule = .HTTP_ENTITY_QUERY then do
    let query ← orRaise proof.entityQuery .AttributeError
    return [("entity_query", query), ("comparison_semantics", .str "EXACT_RESOURCE_OWNER_FIELD_ENTITY")]
  else return []

def observerDump (bundle : CheckRuntimeBundle) (proof : CheckProofConfig) : Except Raised Json :=
  match proof.observerId with
  | none => .ok .null
  | some observerId => do
    let spec ← orRaise (Table.latest ObserverSpec.observerId bundle.observers observerId) .KeyError
    return spec.dump

def plainPayload (proof : CheckProofConfig) (verification : CheckIdentityVerification)
    (entity : List (String × Json)) (observer : Json) : Json :=
  .dict ([("effect_id", .str proof.effectId), ("effect_kind", .str proof.effectKind),
    ("expected_state", nullable .str proof.expectedState),
    ("protected_projection", strings proof.protectedProjection), ("rule", .str proof.rule.value),
    ("observation_identity_id", .str proof.observationIdentityId),
    ("exclusive_resource_window", .bool proof.exclusiveResourceWindow),
    ("descriptor_fingerprint", nullable .str proof.descriptorFingerprint),
    ("identity_verification", verification.dump)] ++ mutationField proof ++
    [("request", nullable id proof.request)] ++ entity ++ [("observer", observer)])

/-- What one decisive proof of a case is read from and compared with. -/
def evidenceStandard (digest : Digest) (action : ExecutionAction) (case : ExecutionCase)
    (bundle : CheckRuntimeBundle) (configured : CheckActionConfig) (requirement : EffectProofRequirement) :
    Except Raised String := do
  let proof ← orRaise (Table.latest CheckProofConfig.bindingFingerprint configured.proofs
    requirement.bindingFingerprint) .KeyError
  let identity ← orRaise (Table.latest CheckIdentity.identityId bundle.identities proof.observationIdentityId) .KeyError
  let verification ← orRaise (if proof.rule = .RECORDED_SUPPORT then none else identity.verification)
    (.ValueError "repair requires independently verified decisive standard")
  if bundle.proofSources.isEmpty then do
    let entity ← entityFields proof
    let observer ← observerDump bundle proof
    return contentHash digest "RepairEvidenceStandard" (plainPayload proof verification entity observer)
  else sourceStandard digest action case bundle configured requirement proof

/-- The proofs whose facts decide a case. -/
def decisiveProofs (case : ExecutionCase) : List EffectProofRequirement :=
  case.proofRequirements.filter fun requirement => requirement.level = .VERDICT_REQUIRED

def repairEvidenceStandards (digest : Digest) (action : ExecutionAction) (case : ExecutionCase)
    (bundle : CheckRuntimeBundle) : Except Raised (List String) := do
  let configured ← orRaise (configuredAction bundle action) .StopIteration
  let standards ← (decisiveProofs case).mapM (evidenceStandard digest action case bundle configured)
  require (standards ≠ [] ∧ standards.Nodup) (.ValueError "repair decisive standards missing or duplicated")
  return sortedBy id standards

end Jiejian.Repair.Standards
