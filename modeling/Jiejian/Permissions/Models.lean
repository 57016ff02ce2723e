import Jiejian.Coverage.Contract
import Jiejian.Errors
import Jiejian.Library.Arrangements
import Jiejian.Preparation.Models

namespace Jiejian.Permissions.Models

open Library.Document Library.Outcome Library.Sorting Errors Protocol.Codec Protocol.Cases Preparation.Models
open Coverage.Contract (CoverageDimension EndpointType RelationEndpoint RelationType RelationFact PermissionContext
  WorkflowTransition BatchResourceExpectation)

structure SecurityEffectDefinition where
  effectId : String
  kind : BusinessEffectKind
  resourceType : String
  expectedState : Option String := none
  protectedFields : List String := []
  deriving DecidableEq, Repr

structure SubjectDefinition where
  subjectId : String
  roles : List String
  tenantId : Option String := none
  departmentId : Option String := none
  adminLevel : Int := 0
  parentSubjectId : Option String := none
  deriving DecidableEq, Repr

structure ActionDefinition where
  actionId : String
  effectIds : List String
  isBatch : Bool := false
  workflowTransition : Option WorkflowTransition := none
  deriving DecidableEq, Repr

structure ResourceDefinition where
  resourceId : String
  resourceType : String
  tenantId : Option String := none
  departmentId : Option String := none
  ownerSubjectId : Option String := none
  parentResourceId : Option String := none
  workflowState : String
  deriving DecidableEq, Repr

inductive Severity where
  | low
  | medium
  | high
  | critical
  deriving DecidableEq, Repr

structure PermissionRule where
  ruleId : String
  subjectId : String
  actionId : String
  resourceId : String
  relationPath : List String
  context : PermissionContext := {}
  expectation : Expectation
  requiredObservations : List String
  coverageDimensions : List CoverageDimension := []
  severity : Severity := .high
  deriving DecidableEq, Repr

structure BatchPermissionRule where
  ruleId : String
  subjectId : String
  actionId : String
  resourceExpectations : List BatchResourceExpectation
  requiredObservations : List String
  context : PermissionContext := {}
  atomic : Bool := true
  coverageDimensions : List CoverageDimension
  severity : Severity := .high
  deriving DecidableEq, Repr

/-- A first character of one kind, and at most so many more of another. -/
def bounded (first rest : Char → Bool) (most : Nat) (value : String) : Bool :=
  match value.toList with
  | [] => false
  | head :: tail => first head && tail.all rest && tail.length ≤ most

def lower (char : Char) : Bool := 'a' ≤ char && char ≤ 'z'

def letter (char : Char) : Bool := lower char || ('A' ≤ char && char ≤ 'Z')

def digit (char : Char) : Bool := '0' ≤ char && char ≤ '9'

/-- `INTENT_ID_PATTERN`. -/
def intentId : String → Bool := bounded lower (fun char => lower char || digit char || char ∈ ['_', '-']) 63

/-- `INTENT_TEXT_PATTERN`. -/
def intentText : String → Bool :=
  bounded lower (fun char => lower char || digit char || char ∈ ['_', '.', ':', '-']) 127

/-- `WORKFLOW_STATE_PATTERN`. -/
def workflowStateName : String → Bool := bounded letter (fun char => letter char || digit char || char ∈ ['_', '-']) 63

def projectionPath : String → Bool :=
  bounded letter (fun char => letter char || digit char || char ∈ ['_', '.', '-']) 127

def sortedUniqueValues (values : List String) (fieldName : String) : Except Raised (List String) := do
  require values.Nodup (.ValueError (fieldName ++ " must be unique"))
  return sortedBy id values

/-- A tuple of so many values of one pattern, made unique and sorted. -/
def boundedValues (least most : Nat) (accepts : String → Bool) (message fieldName : String) (values : List String) :
    Except Raised (List String) := do
  require (least ≤ values.length ∧ values.length ≤ most) (.ValueError fieldName)
  require (∀ value ∈ values, accepts value) (.ValueError message)
  sortedUniqueValues values fieldName

def sortedDimensions (least : Nat) (values : List CoverageDimension) : Except Raised (List CoverageDimension) := do
  require (least ≤ values.length ∧ values.length ≤ 6) (.ValueError "coverage_dimensions")
  require values.Nodup (.ValueError "coverage_dimensions must be unique")
  return sortedBy CoverageDimension.value values

section Fields

variable (secretOrUrl : String → Bool)

def validateIntentText (value fieldName : String) : Except Raised Unit :=
  require (secretOrUrl value = false) (.ValueError (fieldName ++ " contains a forbidden secret, URL, or script"))

/-- A text field: its pattern, and no secret, URL or script in it. -/
def textField (accepts : String → Bool) (value fieldName : String) : Except Raised Unit := do
  require (accepts value) (.ValueError fieldName)
  validateIntentText secretOrUrl value fieldName

def optionalField (accepts : String → Bool) (value : Option String) (fieldName : String) : Except Raised Unit :=
  match value with
  | some value => textField secretOrUrl accepts value fieldName
  | none => .ok ()

def SecurityEffectDefinition.create (effect : SecurityEffectDefinition) : Except Raised SecurityEffectDefinition := do
  textField secretOrUrl intentId effect.effectId "effect_id"
  textField secretOrUrl intentText effect.resourceType "resource_type"
  optionalField secretOrUrl workflowStateName effect.expectedState "expected_state"
  let protectedFields ← boundedValues 0 64 projectionPath "protected_fields must contain bounded projection paths"
    "protected_fields" effect.protectedFields
  require (effect.kind = .DATA_DISCLOSURE → protectedFields ≠ [])
    (.ValueError "DATA_DISCLOSURE requires protected_fields")
  require (effect.kind ≠ .DATA_DISCLOSURE → protectedFields = [])
    (.ValueError "protected_fields are only valid for DATA_DISCLOSURE")
  return { effect with protectedFields := protectedFields }

def SubjectDefinition.create (subject : SubjectDefinition) : Except Raised SubjectDefinition := do
  textField secretOrUrl intentId subject.subjectId "subject_id"
  let roles ← boundedValues 1 64 intentText "roles must be bounded slugs" "roles" subject.roles
  optionalField secretOrUrl intentId subject.tenantId "tenant_id"
  optionalField secretOrUrl intentId subject.departmentId "department_id"
  require (0 ≤ subject.adminLevel ∧ subject.adminLevel ≤ 100) (.ValueError "admin_level")
  optionalField secretOrUrl intentId subject.parentSubjectId "parent_subject_id"
  return { subject with roles := roles }

def createTransition (transition : WorkflowTransition) : Except Raised WorkflowTransition := do
  let allowedFromStates ← boundedValues 1 32 workflowStateName "allowed_from_states must contain bounded IDs"
    "allowed_from_states" transition.allowedFromStates
  require (workflowStateName transition.targetState) (.ValueError "target_state")
  return { transition with allowedFromStates := allowedFromStates }

def createOptionalTransition : Option WorkflowTransition → Except Raised (Option WorkflowTransition)
  | some transition => do
    let created ← createTransition transition
    return some created
  | none => .ok none

def ActionDefinition.create (action : ActionDefinition) : Except Raised ActionDefinition := do
  textField secretOrUrl intentId action.actionId "action_id"
  let effectIds ← boundedValues 1 64 intentId "effect_ids must contain bounded IDs" "effect_ids" action.effectIds
  let workflowTransition ← createOptionalTransition action.workflowTransition
  return { action with effectIds := effectIds, workflowTransition := workflowTransition }

def ResourceDefinition.create (resource : ResourceDefinition) : Except Raised ResourceDefinition := do
  textField secretOrUrl intentId resource.resourceId "resource_id"
  textField secretOrUrl intentText resource.resourceType "resource_type"
  optionalField secretOrUrl intentId resource.tenantId "tenant_id"
  optionalField secretOrUrl intentId resource.departmentId "department_id"
  optionalField secretOrUrl intentId resource.ownerSubjectId "owner_subject_id"
  optionalField secretOrUrl intentId resource.parentResourceId "parent_resource_id"
  textField secretOrUrl workflowStateName resource.workflowState "workflow_state"
  return resource

def createRelation (relation : RelationFact) : Except Raised RelationFact := do
  textField secretOrUrl intentId relation.relationId "relation_id"
  textField secretOrUrl intentId relation.source.endpointId "endpoint_id"
  textField secretOrUrl intentId relation.target.endpointId "endpoint_id"
  return relation

def createContext (context : PermissionContext) : Except Raised PermissionContext := do
  let workflowStates ← boundedValues 0 64 workflowStateName "workflow_states must contain bounded IDs" "workflow_states"
    context.workflowStates
  let tenantIds ← boundedValues 0 64 intentId "tenant_ids must contain bounded IDs" "tenant_ids" context.tenantIds
  let departmentIds ← boundedValues 0 64 intentId "department_ids must contain bounded IDs" "department_ids"
    context.departmentIds
  let resourceIds ← boundedValues 0 256 intentId "resource_ids must contain bounded IDs" "resource_ids"
    context.resourceIds
  return ⟨workflowStates, tenantIds, departmentIds, resourceIds⟩

/-- `_required_observations`. -/
def requiredObservationValues (values : List String) : Except Raised (List String) :=
  boundedValues 1 16 intentText "required_observations must contain bounded requirement IDs" "required_observations" values

def PermissionRule.create (rule : PermissionRule) : Except Raised PermissionRule := do
  textField secretOrUrl intentId rule.ruleId "rule_id"
  textField secretOrUrl intentId rule.subjectId "subject_id"
  textField secretOrUrl intentId rule.actionId "action_id"
  textField secretOrUrl intentId rule.resourceId "resource_id"
  require (1 ≤ rule.relationPath.length ∧ rule.relationPath.length ≤ 64) (.ValueError "relation_path")
  require (∀ relationId ∈ rule.relationPath, intentId relationId)
    (.ValueError "relation_path must contain relation IDs")
  let context ← createContext rule.context
  let requiredObservations ← requiredObservationValues rule.requiredObservations
  let coverageDimensions ← sortedDimensions 0 rule.coverageDimensions
  require (.BULK ∉ coverageDimensions) (.ValueError "BULK coverage requires a batch rule")
  return { rule with
    context := context
    requiredObservations := requiredObservations
    coverageDimensions := coverageDimensions }

def createExpectation (item : BatchResourceExpectation) : Except Raised BatchResourceExpectation := do
  require (intentId item.resourceId) (.ValueError "resource_id")
  require (item.relationPath.length ≤ 64) (.ValueError "relation_path")
  require (∀ relationId ∈ item.relationPath, intentId relationId)
    (.ValueError "batch relation_path must contain relation IDs")
  require item.relationPath.Nodup (.ValueError "batch relation_path must not repeat relations")
  return item

def BatchPermissionRule.create (rule : BatchPermissionRule) : Except Raised BatchPermissionRule := do
  require (intentId rule.ruleId) (.ValueError "rule_id")
  require (intentId rule.subjectId) (.ValueError "subject_id")
  require (intentId rule.actionId) (.ValueError "action_id")
  require (2 ≤ rule.resourceExpectations.length ∧ rule.resourceExpectations.length ≤ 256)
    (.ValueError "resource_expectations")
  let resourceExpectations ← rule.resourceExpectations.mapM createExpectation
  let requiredObservations ← requiredObservationValues rule.requiredObservations
  let context ← createContext rule.context
  let coverageDimensions ← sortedDimensions 1 rule.coverageDimensions
  require (.BULK ∈ coverageDimensions) (.ValueError "batch rule coverage_dimensions must include BULK")
  return { rule with
    resourceExpectations := sortedBy (·.resourceId) resourceExpectations
    requiredObservations := requiredObservations
    context := context
    coverageDimensions := coverageDimensions }

end Fields

end Jiejian.Permissions.Models
