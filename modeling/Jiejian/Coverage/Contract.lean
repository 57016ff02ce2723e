import Jiejian.Library.Sorting
import Jiejian.Protocol.Cases

namespace Jiejian.Coverage.Contract

open Library.Document Library.Sorting Protocol.Codec Protocol.Cases

inductive CoverageDimension where
  | ROLE
  | TENANT
  | DEPARTMENT
  | RELATION
  | WORKFLOW
  | BULK
  deriving DecidableEq, Repr

def CoverageDimension.value : CoverageDimension → String
  | .ROLE => "ROLE"
  | .TENANT => "TENANT"
  | .DEPARTMENT => "DEPARTMENT"
  | .RELATION => "RELATION"
  | .WORKFLOW => "WORKFLOW"
  | .BULK => "BULK"

inductive BatchAuthorizationMode where
  | ALL_ALLOW
  | ALL_DENY
  | MIXED_AUTHORIZATION
  deriving DecidableEq, Repr

def BatchAuthorizationMode.value : BatchAuthorizationMode → String
  | .ALL_ALLOW => "ALL_ALLOW"
  | .ALL_DENY => "ALL_DENY"
  | .MIXED_AUTHORIZATION => "MIXED_AUTHORIZATION"

structure SubjectDefinition where
  subjectId : String
  roles : List String
  tenantId : Option String := none
  departmentId : Option String := none
  adminLevel : Nat := 0
  deriving DecidableEq, Repr

structure WorkflowTransition where
  allowedFromStates : List String
  targetState : String
  deriving DecidableEq, Repr

structure ActionDefinition where
  actionId : String
  isBatch : Bool := false
  workflowTransition : Option WorkflowTransition := none
  deriving DecidableEq, Repr

structure ResourceDefinition where
  resourceId : String
  resourceType : String
  tenantId : Option String := none
  departmentId : Option String := none
  parentResourceId : Option String := none
  workflowState : String
  deriving DecidableEq, Repr

inductive EndpointType where
  | subject
  | resource
  deriving DecidableEq, Repr

structure RelationEndpoint where
  endpointType : EndpointType
  endpointId : String
  deriving DecidableEq, Repr

inductive RelationType where
  | OWNS
  | MEMBER_OF
  | SAME_TENANT
  | SAME_DEPARTMENT
  | MANAGES
  | PARENT_OF
  | INHERITS
  deriving DecidableEq, Repr

def RelationType.value : RelationType → String
  | .OWNS => "OWNS"
  | .MEMBER_OF => "MEMBER_OF"
  | .SAME_TENANT => "SAME_TENANT"
  | .SAME_DEPARTMENT => "SAME_DEPARTMENT"
  | .MANAGES => "MANAGES"
  | .PARENT_OF => "PARENT_OF"
  | .INHERITS => "INHERITS"

structure RelationFact where
  relationId : String
  relation : RelationType
  source : RelationEndpoint
  target : RelationEndpoint
  deriving DecidableEq, Repr

structure PermissionContext where
  workflowStates : List String := []
  tenantIds : List String := []
  departmentIds : List String := []
  resourceIds : List String := []
  deriving DecidableEq, Repr

def PermissionContext.dump (context : PermissionContext) : Json :=
  .dict [("workflow_states", strings context.workflowStates), ("tenant_ids", strings context.tenantIds),
    ("department_ids", strings context.departmentIds), ("resource_ids", strings context.resourceIds)]

/-- A rule for one subject, action and resource; a single resource has no bulk coverage. -/
structure PermissionRule where
  ruleId : String
  subjectId : String
  actionId : String
  resourceId : String
  relationPath : List String
  context : PermissionContext := {}
  expectation : Expectation
  requiredObservations : List String
  coverageDimensions : List CoverageDimension := []
  distinct : coverageDimensions.Nodup := by decide
  single : CoverageDimension.BULK ∉ coverageDimensions := by decide

structure BatchResourceExpectation where
  resourceId : String
  expectation : Expectation
  relationPath : List String := []
  deriving DecidableEq, Repr

structure BatchPermissionRule where
  ruleId : String
  subjectId : String
  actionId : String
  resourceExpectations : List BatchResourceExpectation
  requiredObservations : List String
  context : PermissionContext := {}
  atomic : Bool := true
  coverageDimensions : List CoverageDimension
  several : 2 ≤ resourceExpectations.length := by decide
  bulk : CoverageDimension.BULK ∈ coverageDimensions := by decide

/-- What two rules must share to speak of the same permission. -/
def PermissionRule.semantics (rule : PermissionRule) : String × String × String × List String × PermissionContext :=
  (rule.subjectId, rule.actionId, rule.resourceId, rule.relationPath, rule.context)

/-- A contract whose rules have their own names, and never allow and deny the same permission. -/
structure PermissionContract where
  subjects : List SubjectDefinition
  actions : List ActionDefinition
  resources : List ResourceDefinition
  relations : List RelationFact := []
  rules : List PermissionRule
  batchRules : List BatchPermissionRule := []
  facts : Json
  named : (rules.map (·.ruleId) ++ batchRules.map (·.ruleId)).Nodup
  consistent : ∀ first ∈ rules, ∀ second ∈ rules, first.semantics = second.semantics →
    first.expectation = second.expectation

end Jiejian.Coverage.Contract
