import Jiejian.Errors
import Jiejian.Library.Outcome
import Jiejian.Library.Sorting
import Jiejian.Protocol.Conditions
import Mathlib.Data.Prod.Lex

namespace Jiejian.Protocol.Cases

open Library.Document Library.Outcome Library.Sorting Errors Codec Conditions

inductive Expectation where
  | ALLOW
  | DENY
  deriving DecidableEq, Repr

def Expectation.value : Expectation → String
  | .ALLOW => "ALLOW"
  | .DENY => "DENY"

inductive Relation where
  | OWNS
  | SAME_ROLE_OTHER_ACCOUNT
  | OTHER_ROLE
  deriving DecidableEq, Repr

def Relation.value : Relation → String
  | .OWNS => "OWNS"
  | .SAME_ROLE_OTHER_ACCOUNT => "SAME_ROLE_OTHER_ACCOUNT"
  | .OTHER_ROLE => "OTHER_ROLE"

structure PermissionReference where
  intentId : String
  revision : Nat
  intentHash : String
  deriving DecidableEq, Repr

def PermissionReference.dump (reference : PermissionReference) : Json :=
  .dict [("intent_id", .str reference.intentId), ("revision", natural reference.revision),
    ("intent_hash", .str reference.intentHash)]

structure FrozenPermission extends PermissionReference where
  expectation : Expectation
  relation : Relation
  subjectActorId : String
  subjectActorRevision : Nat
  resourceOwnerActorId : String
  resourceOwnerActorRevision : Nat
  protectedEffectIds : List String
  conditions : Option PermissionConditions
  deriving DecidableEq, Repr

def FrozenPermission.dump (permission : FrozenPermission) : Json :=
  .dict ([("intent_id", .str permission.intentId), ("revision", natural permission.revision),
    ("intent_hash", .str permission.intentHash), ("expectation", .str permission.expectation.value),
    ("relation", .str permission.relation.value), ("subject_actor_id", .str permission.subjectActorId),
    ("subject_actor_revision", natural permission.subjectActorRevision),
    ("resource_owner_actor_id", .str permission.resourceOwnerActorId),
    ("resource_owner_actor_revision", natural permission.resourceOwnerActorRevision),
    ("protected_effect_ids", strings permission.protectedEffectIds)] ++
    optionalField "conditions" (·.dump) permission.conditions)

/-- The rule names the anonymous principal. -/
def anonymousCondition : Option PermissionConditions → Bool
  | some conditions => conditions.principal = .ANONYMOUS
  | none => false

def crossTenant : Option PermissionConditions → Bool
  | some conditions => conditions.tenant = some .DIFFERENT
  | none => false

def FrozenPermission.validateSemantics (permission : FrozenPermission) : Except Raised Unit := do
  require (anonymousCondition permission.conditions = true → permission.relation = .OTHER_ROLE)
    (.ValueError "anonymous permission actor relation")
  require (crossTenant permission.conditions = true → permission.relation ≠ .OWNS)
    (.ValueError "cross-tenant permission actor relation")
  require (permission.relation = .OWNS ∨ permission.relation = .SAME_ROLE_OTHER_ACCOUNT →
      (permission.subjectActorId, permission.subjectActorRevision) =
        (permission.resourceOwnerActorId, permission.resourceOwnerActorRevision))
    (.ValueError "permission actor relation")
  require (permission.relation = .OTHER_ROLE → permission.subjectActorId ≠ permission.resourceOwnerActorId)
    (.ValueError "permission actor relation")
  require (sortedSet permission.protectedEffectIds = permission.protectedEffectIds)
    (.ValueError "permission effects must be unique and sorted")

structure ExecutionAssetReference where
  flowId : String
  flowSha256 : String
  executionBindingFingerprint : String
  deriving DecidableEq, Repr

def ExecutionAssetReference.dump (asset : ExecutionAssetReference) : Json :=
  .dict [("flow_id", .str asset.flowId), ("flow_sha256", .str asset.flowSha256),
    ("execution_binding_fingerprint", .str asset.executionBindingFingerprint)]

inductive ProofReference where
  | RECORDED_OBSERVATION (recordingId : String) (draftRevision : Nat) (draftSha256 stepId : String)
      (requestTemplateFingerprint : String)
  | REGISTERED_OBSERVER (descriptorId descriptorFingerprint observerId : String)
  | OPERATION_HTTP_ENTITY (flowId : String) (revision : Nat) (queryFingerprint : String)
  deriving DecidableEq, Repr

def ProofReference.dump : ProofReference → Json
  | .RECORDED_OBSERVATION recordingId draftRevision draftSha256 stepId requestTemplateFingerprint =>
    .dict [("kind", .str "RECORDED_OBSERVATION"), ("recording_id", .str recordingId),
      ("draft_revision", natural draftRevision), ("draft_sha256", .str draftSha256), ("step_id", .str stepId),
      ("request_template_fingerprint", .str requestTemplateFingerprint)]
  | .REGISTERED_OBSERVER descriptorId descriptorFingerprint observerId =>
    .dict [("kind", .str "REGISTERED_OBSERVER"), ("descriptor_id", .str descriptorId),
      ("descriptor_fingerprint", .str descriptorFingerprint), ("observer_id", .str observerId)]
  | .OPERATION_HTTP_ENTITY flowId revision queryFingerprint =>
    .dict [("kind", .str "OPERATION_HTTP_ENTITY"), ("flow_id", .str flowId), ("revision", natural revision),
      ("query_fingerprint", .str queryFingerprint)]

inductive ProofLevel where
  | VERDICT_REQUIRED
  | DIAGNOSIS_REQUIRED
  | SUPPORTING
  deriving DecidableEq, Repr

def ProofLevel.value : ProofLevel → String
  | .VERDICT_REQUIRED => "VERDICT_REQUIRED"
  | .DIAGNOSIS_REQUIRED => "DIAGNOSIS_REQUIRED"
  | .SUPPORTING => "SUPPORTING"

inductive ProofRule where
  | HTTP_RESOURCE_PRESENCE
  | REGISTERED_EFFECT
  | RECORDED_SUPPORT
  | HTTP_ENTITY_QUERY
  deriving DecidableEq, Repr

def ProofRule.value : ProofRule → String
  | .HTTP_RESOURCE_PRESENCE => "HTTP_RESOURCE_PRESENCE"
  | .REGISTERED_EFFECT => "REGISTERED_EFFECT"
  | .RECORDED_SUPPORT => "RECORDED_SUPPORT"
  | .HTTP_ENTITY_QUERY => "HTTP_ENTITY_QUERY"

structure EffectProofRequirement where
  effectId : String
  level : ProofLevel
  rule : ProofRule
  bindingFingerprint : String
  resourceId : String
  reference : ProofReference
  proofFingerprint : String
  deriving DecidableEq, Repr

/-- The facts a proof fingerprint covers: every other field. -/
def EffectProofRequirement.facts (proof : EffectProofRequirement) : List (String × Json) :=
  [("effect_id", .str proof.effectId), ("level", .str proof.level.value), ("rule", .str proof.rule.value),
    ("binding_fingerprint", .str proof.bindingFingerprint), ("resource_id", .str proof.resourceId),
    ("reference", proof.reference.dump)]

def EffectProofRequirement.dump (proof : EffectProofRequirement) : Json :=
  .dict (proof.facts ++ [("proof_fingerprint", .str proof.proofFingerprint)])

def referenceKindMatches : ProofRule → ProofReference → Bool
  | .REGISTERED_EFFECT, .REGISTERED_OBSERVER .. => true
  | .HTTP_ENTITY_QUERY, .OPERATION_HTTP_ENTITY .. => true
  | .HTTP_RESOURCE_PRESENCE, .RECORDED_OBSERVATION .. => true
  | .RECORDED_SUPPORT, .RECORDED_OBSERVATION .. => true
  | _, _ => false

def EffectProofRequirement.validateProof (digest : Digest) (proof : EffectProofRequirement) :
    Except Raised Unit := do
  require (referenceKindMatches proof.rule proof.reference = true) (.ValueError "proof reference kind")
  require (proof.rule = .RECORDED_SUPPORT → proof.level = .SUPPORTING)
    (.ValueError "support cannot decide verdict")
  require (proof.proofFingerprint = contentHash digest "EffectProofRequirement" (.dict proof.facts))
    (.ValueError "proof fingerprint")

/-- The order in which readers list the proofs of a case. -/
def EffectProofRequirement.order (proof : EffectProofRequirement) : String ×ₗ String :=
  toLex (proof.effectId, proof.level.value)

/-- The effects the listed proofs can decide. -/
def verdictEffects (proofs : List EffectProofRequirement) : List String :=
  (proofs.filter fun proof => proof.level = .VERDICT_REQUIRED).map (·.effectId)

/-- One complete origin: captured material or a defined operation. -/
inductive MaterialOrigin where
  | recorded (recordingId : String) (draftRevision : Nat) (draftSha256 : String)
  | operation (flowId : String) (flowRevision : Nat)
  deriving DecidableEq, Repr

structure RecoveryReference where
  origin : MaterialOrigin
  stepId : String
  bindingFingerprint : String
  requestTemplateFingerprint : String
  deriving DecidableEq, Repr

def RecoveryReference.dump (recovery : RecoveryReference) : Json :=
  .dict ((match recovery.origin with
    | .recorded recordingId draftRevision draftSha256 => [("recording_id", .str recordingId),
        ("draft_revision", natural draftRevision), ("draft_sha256", .str draftSha256)]
    | .operation flowId flowRevision => [("operation_flow_id", .str flowId),
        ("operation_flow_revision", natural flowRevision)]) ++
    [("step_id", .str recovery.stepId), ("binding_fingerprint", .str recovery.bindingFingerprint),
      ("request_template_fingerprint", .str recovery.requestTemplateFingerprint)])

inductive CaseRole where
  | ALLOW_REGRESSION
  | ALLOW_CONTROL
  | DENY_CHALLENGE
  deriving DecidableEq, Repr

def CaseRole.value : CaseRole → String
  | .ALLOW_REGRESSION => "ALLOW_REGRESSION"
  | .ALLOW_CONTROL => "ALLOW_CONTROL"
  | .DENY_CHALLENGE => "DENY_CHALLENGE"

/-- `tuple(sorted(set(roles)))`. -/
def sortedRoles (roles : List CaseRole) : List CaseRole :=
  sortedBy CaseRole.value roles.dedup

inductive InvocationKind where
  | BATCH_ATOMIC
  | BATCH_PER_ITEM
  deriving DecidableEq, Repr

def InvocationKind.value : InvocationKind → String
  | .BATCH_ATOMIC => "BATCH_ATOMIC"
  | .BATCH_PER_ITEM => "BATCH_PER_ITEM"

inductive BatchEffectExpectation where
  | PRESENT
  | ABSENT
  deriving DecidableEq, Repr

def BatchEffectExpectation.value : BatchEffectExpectation → String
  | .PRESENT => "PRESENT"
  | .ABSENT => "ABSENT"

structure ExecutionCase where
  caseId : String
  roles : List CaseRole
  permission : FrozenPermission
  subjectTestIdentityId : Option String
  subjectActorId : String
  subjectActorRevision : Nat
  subjectIdentityFingerprint : Option String
  resourceOwnerTestIdentityId : String
  resourceOwnerActorId : String
  resourceOwnerActorRevision : Nat
  ownerIdentityFingerprint : String
  resourceId : String
  resourceBindingFingerprint : String
  execution : ExecutionAssetReference
  protectedEffectIds : List String
  proofRequirements : List EffectProofRequirement
  recovery : Option RecoveryReference
  sourceFingerprint : Option String
  configFingerprint : String
  occurrenceId : Option String := none
  invocationKind : Option InvocationKind := none
  batchEffectExpectation : Option BatchEffectExpectation := none
  deriving DecidableEq, Repr

/-- The case facts: every field but `case_id` and `roles`. -/
def ExecutionCase.facts (case : ExecutionCase) : List (String × Json) :=
  [("permission", case.permission.dump),
    ("subject_test_identity_id", nullable .str case.subjectTestIdentityId),
    ("subject_actor_id", .str case.subjectActorId), ("subject_actor_revision", natural case.subjectActorRevision),
    ("subject_identity_fingerprint", nullable .str case.subjectIdentityFingerprint),
    ("resource_owner_test_identity_id", .str case.resourceOwnerTestIdentityId),
    ("resource_owner_actor_id", .str case.resourceOwnerActorId),
    ("resource_owner_actor_revision", natural case.resourceOwnerActorRevision),
    ("owner_identity_fingerprint", .str case.ownerIdentityFingerprint),
    ("resource_id", .str case.resourceId),
    ("resource_binding_fingerprint", .str case.resourceBindingFingerprint),
    ("execution", case.execution.dump), ("protected_effect_ids", strings case.protectedEffectIds),
    ("proof_requirements", .list (case.proofRequirements.map (·.dump))),
    ("recovery", nullable (·.dump) case.recovery), ("source_fingerprint", nullable .str case.sourceFingerprint),
    ("config_fingerprint", .str case.configFingerprint)] ++
    optionalField "occurrence_id" .str case.occurrenceId ++
    optionalField "invocation_kind" (fun kind => .str kind.value) case.invocationKind ++
    optionalField "batch_effect_expectation" (fun expectation => .str expectation.value)
      case.batchEffectExpectation

def ExecutionCase.dump (case : ExecutionCase) : Json :=
  .dict ([("case_id", .str case.caseId), ("roles", .list (case.roles.map fun role => .str role.value))] ++
    case.facts)

/-- `(intent_id, revision, intent_hash)`. -/
def ExecutionCase.permissionKey (case : ExecutionCase) : PermissionReference :=
  case.permission.toPermissionReference

def ExecutionCase.expectsAbsence (case : ExecutionCase) : Bool :=
  match case.batchEffectExpectation with
  | some expectation => expectation = .ABSENT
  | none => case.permission.expectation = .DENY

def ExecutionCase.validateCase (case : ExecutionCase) : Except Raised Unit := do
  require ((case.invocationKind = none ↔ case.batchEffectExpectation = none) ∧
      (case.invocationKind ≠ none → case.occurrenceId ≠ none))
    (.ValueError "batch obligations require a distinct frozen invocation occurrence")
  let anonymous := anonymousCondition case.permission.conditions
  require (anonymous = true ↔ case.subjectTestIdentityId = none ∧ case.subjectIdentityFingerprint = none)
    (.ValueError "case principal requires either a real identity or an explicit anonymous condition")
  require (anonymous = true ∨ case.subjectTestIdentityId ≠ none ∧ case.subjectIdentityFingerprint ≠ none)
    (.ValueError "authenticated case identity missing")
  require (case.roles.Nodup ∧ sortedBy CaseRole.value case.roles = case.roles)
    (.ValueError "case roles must be unique and sorted")
  require (case.permission.expectation = .DENY ↔ case.roles = [.DENY_CHALLENGE])
    (.ValueError "case roles contradict permission")
  require (case.subjectActorId = case.permission.subjectActorId ∧
      case.subjectActorRevision = case.permission.subjectActorRevision ∧
      case.resourceOwnerActorId = case.permission.resourceOwnerActorId ∧
      case.resourceOwnerActorRevision = case.permission.resourceOwnerActorRevision)
    (.ValueError "case permission actor")
  require (case.subjectTestIdentityId = some case.resourceOwnerTestIdentityId ↔ case.permission.relation = .OWNS)
    (.ValueError "case identity relation")
  require (case.subjectTestIdentityId = some case.resourceOwnerTestIdentityId →
      case.subjectIdentityFingerprint = some case.ownerIdentityFingerprint)
    (.ValueError "same identity fingerprint")
  require (sortedSet case.protectedEffectIds = case.protectedEffectIds ∧
      case.protectedEffectIds ⊆ case.permission.protectedEffectIds)
    (.ValueError "case effect set")
  require (.ALLOW_REGRESSION ∈ case.roles → case.protectedEffectIds = case.permission.protectedEffectIds)
    (.ValueError "regression must protect all permission effects")
  require (∀ proof ∈ case.proofRequirements,
      proof.resourceId = case.resourceId ∧ proof.effectId ∈ case.protectedEffectIds)
    (.ValueError "proof case resource")
  require (case.proofRequirements.map fun proof => (proof.effectId, proof.level)).Nodup
    (.ValueError "duplicate case proof")
  require (SameSet (verdictEffects case.proofRequirements) case.protectedEffectIds) (.ValueError "case lacks verdict proof")

end Jiejian.Protocol.Cases
