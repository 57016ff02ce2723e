import Jiejian.Boundaries.Proposals
import Jiejian.Permissions.Contract

namespace Jiejian.Permissions.Plan

open Library Library.Document Library.Outcome Library.Sorting Errors
open Protocol.Codec Protocol.Cases Preparation.Models Models Contract
open Coverage.Contract (CoverageDimension EndpointType RelationEndpoint RelationType RelationFact PermissionContext
  WorkflowTransition BatchResourceExpectation)

def Severity.value : Severity → String
  | .low => "low"
  | .medium => "medium"
  | .high => "high"
  | .critical => "critical"

def dumpEffect (effect : SecurityEffectDefinition) : Json :=
  .dict [("effect_id", .str effect.effectId), ("kind", .str (Boundaries.Proposals.effectKindValue effect.kind)),
    ("resource_type", .str effect.resourceType), ("expected_state", nullable Json.str effect.expectedState),
    ("protected_fields", strings effect.protectedFields)]

def dumpSubject (subject : SubjectDefinition) : Json :=
  .dict [("subject_id", .str subject.subjectId), ("roles", strings subject.roles),
    ("tenant_id", nullable Json.str subject.tenantId), ("department_id", nullable Json.str subject.departmentId),
    ("admin_level", .int subject.adminLevel), ("parent_subject_id", nullable Json.str subject.parentSubjectId)]

def dumpTransition : Option WorkflowTransition → Json
  | some transition => .dict [("allowed_from_states", strings transition.allowedFromStates),
      ("target_state", .str transition.targetState)]
  | none => .null

def dumpAction (action : ActionDefinition) : Json :=
  .dict [("action_id", .str action.actionId), ("effect_ids", strings action.effectIds),
    ("is_batch", .bool action.isBatch), ("workflow_transition", dumpTransition action.workflowTransition)]

def dumpResource (resource : ResourceDefinition) : Json :=
  .dict [("resource_id", .str resource.resourceId), ("resource_type", .str resource.resourceType),
    ("tenant_id", nullable Json.str resource.tenantId), ("department_id", nullable Json.str resource.departmentId),
    ("owner_subject_id", nullable Json.str resource.ownerSubjectId),
    ("parent_resource_id", nullable Json.str resource.parentResourceId), ("workflow_state", .str resource.workflowState)]

def endpointTypeValue : EndpointType → String
  | .subject => "subject"
  | .resource => "resource"

def dumpEndpoint (endpoint : RelationEndpoint) : Json :=
  .dict [("endpoint_type", .str (endpointTypeValue endpoint.endpointType)), ("endpoint_id", .str endpoint.endpointId)]

def dumpRelation (relation : RelationFact) : Json :=
  .dict [("relation_id", .str relation.relationId), ("relation", .str relation.relation.value),
    ("source", dumpEndpoint relation.source), ("target", dumpEndpoint relation.target)]

def dumpDimensions (dimensions : List CoverageDimension) : Json := strings (dimensions.map (·.value))

def dumpRule (rule : PermissionRule) : Json :=
  .dict [("rule_id", .str rule.ruleId), ("subject_id", .str rule.subjectId), ("action_id", .str rule.actionId),
    ("resource_id", .str rule.resourceId), ("relation_path", strings rule.relationPath),
    ("context", rule.context.dump), ("expectation", .str rule.expectation.value),
    ("required_observations", strings rule.requiredObservations),
    ("coverage_dimensions", dumpDimensions rule.coverageDimensions), ("severity", .str (Severity.value rule.severity))]

def dumpExpectation (item : BatchResourceExpectation) : Json :=
  .dict [("resource_id", .str item.resourceId), ("expectation", .str item.expectation.value),
    ("relation_path", strings item.relationPath)]

def dumpBatchRule (rule : BatchPermissionRule) : Json :=
  .dict [("rule_id", .str rule.ruleId), ("subject_id", .str rule.subjectId), ("action_id", .str rule.actionId),
    ("resource_expectations", .list (rule.resourceExpectations.map dumpExpectation)),
    ("required_observations", strings rule.requiredObservations), ("context", rule.context.dump),
    ("atomic", .bool rule.atomic), ("coverage_dimensions", dumpDimensions rule.coverageDimensions),
    ("severity", .str (Severity.value rule.severity))]

/-- `contract.model_dump(mode="python")`, as `_jsonable` leaves it. -/
def dumpContract (contract : PermissionContract) : Json :=
  .dict [("schema_version", .str "1"), ("contract_id", .str contract.contractId), ("version", .int contract.version),
    ("role_ids", strings contract.roleIds), ("workflow_states", strings contract.workflowStates),
    ("subjects", .list (contract.subjects.map dumpSubject)), ("effects", .list (contract.effects.map dumpEffect)),
    ("actions", .list (contract.actions.map dumpAction)), ("resources", .list (contract.resources.map dumpResource)),
    ("relations", .list (contract.relations.map dumpRelation)), ("rules", .list (contract.rules.map dumpRule)),
    ("batch_rules", .list (contract.batchRules.map dumpBatchRule))]

structure NormalizedPermissionCase where
  caseId : String
  fingerprint : String
  sourceContractId : String
  sourceRuleId : String
  subjectId : String
  actionId : String
  resourceId : String
  relationPath : List String
  context : PermissionContext
  expected : Expectation
  requiredObservations : List String
  seed : Int
  engineVersion : String
  deriving DecidableEq, Repr

/-- A compiled case; the fields of a case that was derived from another are empty. -/
def dumpCase (case : NormalizedPermissionCase) : Json :=
  .dict [("case_id", .str case.caseId), ("fingerprint", .str case.fingerprint), ("source_kind", .str "permission"),
    ("source_contract_id", .str case.sourceContractId), ("source_rule_id", .str case.sourceRuleId),
    ("subject_id", .str case.subjectId), ("action_id", .str case.actionId), ("resource_id", .str case.resourceId),
    ("relation_path", strings case.relationPath), ("context", case.context.dump),
    ("expected", .str case.expected.value), ("required_observations", strings case.requiredObservations),
    ("seed", .int case.seed), ("engine_version", .str case.engineVersion), ("source_case_id", .null),
    ("source_step_id", .null), ("source_identity_id", .null), ("source_resource_id", .null),
    ("source_owner_identity_id", .null), ("source_mutation", .null)]

structure NormalizedPermissionPlan where
  planId : String
  sourceContractId : String
  seed : Int
  engineVersion : String
  cases : List NormalizedPermissionCase
  deriving DecidableEq, Repr

section Compilation

variable (digest : Digest)

def permissionModelSha256 (value : Json) : String := canonicalSha256 digest value

def modelFingerprint (contract : PermissionContract) : String := permissionModelSha256 digest (dumpContract contract)

variable (engineVersion : String) (seed : Int)

def ruleFingerprint (contractId : String) (rule : PermissionRule) : String :=
  permissionModelSha256 digest (.dict [("contract_id", .str contractId), ("rule", dumpRule rule),
    ("engine_version", .str engineVersion), ("seed", .int seed)])

def compileCase (contractId : String) (rule : PermissionRule) : Except Raised NormalizedPermissionCase := do
  let fingerprint := ruleFingerprint digest engineVersion seed contractId rule
  require (intentText engineVersion) (.ValueError "engine_version")
  return {
    caseId := "case-" ++ digest.short fingerprint
    fingerprint := fingerprint
    sourceContractId := contractId
    sourceRuleId := rule.ruleId
    subjectId := rule.subjectId
    actionId := rule.actionId
    resourceId := rule.resourceId
    relationPath := rule.relationPath
    context := rule.context
    expected := rule.expectation
    requiredObservations := rule.requiredObservations
    seed := seed
    engineVersion := engineVersion }

def compilePermissionPlan (contract : PermissionContract) : Except Raised NormalizedPermissionPlan := do
  let cases ← contract.rules.mapM (compileCase digest engineVersion seed contract.contractId)
  require (cases.map (·.caseId)).Nodup (.ValueError "normalized case IDs must be unique")
  return {
    planId := "plan-" ++ digest.short (permissionModelSha256 digest (.list (cases.map dumpCase)))
    sourceContractId := contract.contractId
    seed := seed
    engineVersion := engineVersion
    cases := sortedBy (·.fingerprint) cases }

end Compilation

end Jiejian.Permissions.Plan
