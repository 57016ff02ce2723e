import Jiejian.Protocol.Actions

namespace Jiejian.Preparation.Models

open Library.Document Protocol.Codec Protocol.Conditions Protocol.Cases Protocol.Actions

inductive EffectiveState where
  | ACTIVE
  | RETIRED
  deriving DecidableEq, Repr

/-- A permission intent: the facts a case freezes, and where the rule belongs. -/
structure PermissionIntentRevision extends FrozenPermission where
  projectId : String
  businessActionId : String
  actionRevision : Nat
  effectiveState : EffectiveState
  deriving DecidableEq, Repr

inductive BusinessEffectKind where
  | STATE_MUTATION
  | DATA_DISCLOSURE
  | FILE_CONTENT_DELIVERY
  | OBJECT_CREATION
  | EXTERNAL_DISPATCH
  | RESTRICTED_FUNCTION_INVOCATION
  | CREDENTIAL_ACCESS
  deriving DecidableEq, Repr

structure BusinessEffectDefinition where
  effectId : String
  effectKind : BusinessEffectKind
  deriving DecidableEq, Repr

structure BusinessActionRevision where
  actionId : String
  projectId : String
  revision : Nat
  stateChanging : Bool
  effectCatalog : List BusinessEffectDefinition
  semanticFingerprint : String
  deriving DecidableEq, Repr

inductive ResourceInjectionKind where
  | PATH
  | QUERY
  | JSON_BODY
  | RESPONSE_JSON
  | RESPONSE_LOCATION
  deriving DecidableEq, Repr

def ResourceInjectionKind.value : ResourceInjectionKind → String
  | .PATH => "PATH"
  | .QUERY => "QUERY"
  | .JSON_BODY => "JSON_BODY"
  | .RESPONSE_JSON => "RESPONSE_JSON"
  | .RESPONSE_LOCATION => "RESPONSE_LOCATION"

structure ResourceInjection where
  consumer : ResourceInjectionKind
  location : String
  templateFingerprint : String
  deriving DecidableEq, Repr

def ResourceInjection.dump (injection : ResourceInjection) : Json :=
  .dict [("consumer", .str injection.consumer.value), ("location", .str injection.location),
    ("template_fingerprint", .str injection.templateFingerprint)]

/-- `consumer.value.startswith("RESPONSE_")`. -/
def ResourceInjection.fromResponse (injection : ResourceInjection) : Bool :=
  injection.consumer = .RESPONSE_JSON ∨ injection.consumer = .RESPONSE_LOCATION

structure RecordedRequestTemplate where
  method : String
  relativePath : String
  jsonBody : List (String × Json)

def RecordedRequestTemplate.dump (template : RecordedRequestTemplate) : Json :=
  .dict [("method", .str template.method), ("relative_path", .str template.relativePath),
    ("json_body", .dict template.jsonBody)]

structure RegisteredObserverReference where
  descriptorId : String
  descriptorFingerprint : String
  observerId : String
  deriving DecidableEq, Repr

/-- The fields every action binding starts with. -/
structure ActionBinding where
  projectId : String
  businessActionId : String
  actionRevision : Nat
  actionSemanticFingerprint : String
  implementationFingerprint : String
  sourceFingerprint : Option String
  endpointFingerprint : String
  subjectTestIdentityId : String
  subjectIdentityFingerprint : String
  resourceOwnerTestIdentityId : String
  ownerIdentityFingerprint : String
  confirmedAtUs : Nat
  bindingFingerprint : String
  deriving DecidableEq, Repr

/-- The base fields that the fingerprint of a binding covers: neither itself nor the confirmation time. -/
def ActionBinding.facts (binding : ActionBinding) : List (String × Json) :=
  [("project_id", .str binding.projectId), ("business_action_id", .str binding.businessActionId),
    ("action_revision", natural binding.actionRevision),
    ("action_semantic_fingerprint", .str binding.actionSemanticFingerprint),
    ("implementation_fingerprint", .str binding.implementationFingerprint),
    ("source_fingerprint", nullable .str binding.sourceFingerprint),
    ("endpoint_fingerprint", .str binding.endpointFingerprint),
    ("subject_test_identity_id", .str binding.subjectTestIdentityId),
    ("subject_identity_fingerprint", .str binding.subjectIdentityFingerprint),
    ("resource_owner_test_identity_id", .str binding.resourceOwnerTestIdentityId),
    ("owner_identity_fingerprint", .str binding.ownerIdentityFingerprint)]

/-- The fields of a binding that name its material. -/
def sourceFields : MaterialOrigin → List (String × Json)
  | .recorded recordingId draftRevision draftSha256 => [("source_recording_id", .str recordingId),
      ("source_draft_revision", natural draftRevision), ("source_draft_sha256", .str draftSha256)]
  | .operation flowId flowRevision => [("operation_flow_id", .str flowId),
      ("operation_flow_revision", natural flowRevision)]

structure ActionExecutionBinding where
  flowId : String
  flowSha256 : String
  resourceInjection : ResourceInjection
  bindingFingerprint : String
  deriving DecidableEq, Repr

structure ActionResourceBinding extends ActionBinding where
  origin : MaterialOrigin
  actualResourceId : String
  flowId : String
  flowSha256 : String
  resourceInjection : ResourceInjection
  deriving DecidableEq, Repr

/-- `seal_binding(ActionResourceBinding, …)`: the same binding under the fingerprint of its facts. -/
def sealResourceBinding (digest : Digest) (binding : ActionResourceBinding) : ActionResourceBinding :=
  { binding with bindingFingerprint := canonicalSha256 digest (.dict [("kind", .str "ActionResourceBinding"),
      ("facts", .dict (binding.toActionBinding.facts ++ sourceFields binding.origin ++
        [("actual_resource_id", .str binding.actualResourceId), ("flow_id", .str binding.flowId),
          ("flow_sha256", .str binding.flowSha256), ("resource_injection", binding.resourceInjection.dump)]))]) }

structure RuleCaseDataBinding where
  permission : PermissionReference
  resourceId : String
  ownerIdentityId : String
  baseBindingFingerprint : String
  deriving DecidableEq, Repr

/-- `rule_case_resource`; `none` is the `ValueError("RULE_CASE_DATA_STALE")`. -/
def ruleCaseResource (digest : Digest) (base : ActionResourceBinding) (permission : PermissionReference)
    (selection : RuleCaseDataBinding) : Option ActionResourceBinding :=
  if selection.permission ≠ permission ∨ selection.ownerIdentityId ≠ base.resourceOwnerTestIdentityId ∨
      selection.baseBindingFingerprint ≠ base.bindingFingerprint then none
  else some (sealResourceBinding digest { base with actualResourceId := selection.resourceId })

/-- Where an effect is observed; one complete source for each kind. -/
inductive EvidenceSource where
  | HTTP_ENTITY_QUERY (flowId : String) (flowRevision : Nat) (entityQuery : Json)
  | RECORDED_OBSERVATION (recordingId : String) (draftRevision : Nat) (draftSha256 stepId : String)
      (requestTemplate : RecordedRequestTemplate)
  | REGISTERED_OBSERVER (reference : RegisteredObserverReference)

structure ActionEvidenceBinding where
  effectId : String
  source : EvidenceSource
  bindingFingerprint : String

structure ActionRecoveryBinding where
  origin : MaterialOrigin
  stepId : String
  requestTemplate : RecordedRequestTemplate
  bindingFingerprint : String

end Jiejian.Preparation.Models
