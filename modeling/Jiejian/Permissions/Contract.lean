import Jiejian.Library.DepthFirst
import Jiejian.Library.Table
import Jiejian.Permissions.Models

namespace Jiejian.Permissions.Contract

open Library Library.Document Library.Outcome Library.Sorting Library.DepthFirst Errors
open Protocol.Codec Protocol.Cases Preparation.Models Models
open Coverage.Contract (CoverageDimension EndpointType RelationEndpoint RelationType RelationFact PermissionContext
  WorkflowTransition BatchResourceExpectation)

/-- The fields of a permission contract; the schema version is a constant. -/
structure PermissionContract where
  contractId : String
  version : Int
  roleIds : List String
  workflowStates : List String
  subjects : List SubjectDefinition
  effects : List SecurityEffectDefinition
  actions : List ActionDefinition
  resources : List ResourceDefinition
  relations : List RelationFact := []
  rules : List PermissionRule
  batchRules : List BatchPermissionRule := []
  deriving DecidableEq, Repr

/-- The dictionaries by id that the validators look definitions up in. -/
structure Declared where
  subjects : String → Option SubjectDefinition
  effects : String → Option SecurityEffectDefinition
  actions : String → Option ActionDefinition
  resources : String → Option ResourceDefinition
  relations : String → Option RelationFact

def PermissionContract.declared (contract : PermissionContract) : Declared where
  subjects := Table.lookup (·.subjectId) contract.subjects
  effects := Table.lookup (·.effectId) contract.effects
  actions := Table.lookup (·.actionId) contract.actions
  resources := Table.lookup (·.resourceId) contract.resources
  relations := Table.lookup (·.relationId) contract.relations

/-- The keys of the dictionaries, and the workflow states. -/
def PermissionContract.allIds (contract : PermissionContract) : List String :=
  (contract.subjects.map (·.subjectId)).dedup ++ (contract.effects.map (·.effectId)).dedup ++
    (contract.actions.map (·.actionId)).dedup ++ (contract.resources.map (·.resourceId)).dedup ++
    (contract.relations.map (·.relationId)).dedup ++ (contract.rules.map (·.ruleId)).dedup ++
    (contract.batchRules.map (·.ruleId)).dedup ++ contract.workflowStates

def validateIds (contract : PermissionContract) : Except Raised Unit := do
  require contract.allIds.Nodup (.ValueError "all permission definition IDs must be globally unique")
  require (contract.subjects.map (·.subjectId)).Nodup (.ValueError "subject IDs must be unique")
  require (contract.effects.map (·.effectId)).Nodup (.ValueError "effect IDs must be unique")
  require (contract.actions.map (·.actionId)).Nodup (.ValueError "action IDs must be unique")
  require (∀ action ∈ contract.actions, ∀ effectId ∈ action.effectIds, (contract.declared.effects effectId).isSome)
    (.ValueError "action effect reference is invalid")
  require (contract.resources.map (·.resourceId)).Nodup (.ValueError "resource IDs must be unique")
  require (contract.relations.map (·.relationId)).Nodup (.ValueError "relation IDs must be unique")
  require (contract.rules.map (·.ruleId)).Nodup (.ValueError "rule IDs must be unique")
  require (contract.batchRules.map (·.ruleId)).Nodup (.ValueError "batch rule IDs must be unique")

def PermissionContract.declaredTenants (contract : PermissionContract) : List String :=
  contract.subjects.filterMap (·.tenantId) ++ contract.resources.filterMap (·.tenantId)

def PermissionContract.declaredDepartments (contract : PermissionContract) : List String :=
  contract.subjects.filterMap (·.departmentId) ++ contract.resources.filterMap (·.departmentId)

/-- The references of subjects and resources, and those of rules to the lists of a contract. -/
def validateDeclarations (contract : PermissionContract) : Except Raised Unit := do
  let declared := contract.declared
  require (∀ subject ∈ contract.subjects, ∀ role ∈ subject.roles, role ∈ contract.roleIds)
    (.ValueError "subject role must be declared by role_ids")
  require (∀ subject ∈ contract.subjects, ∀ parent ∈ subject.parentSubjectId, (declared.subjects parent).isSome)
    (.ValueError "parent_subject_id must reference a declared subject")
  require (∀ resource ∈ contract.resources, ∀ owner ∈ resource.ownerSubjectId, (declared.subjects owner).isSome)
    (.ValueError "owner_subject_id must reference a declared subject")
  require (∀ resource ∈ contract.resources, ∀ parent ∈ resource.parentResourceId, (declared.resources parent).isSome)
    (.ValueError "parent_resource_id must reference a declared resource")
  require (∀ rule ∈ contract.rules, ∀ state ∈ rule.context.workflowStates, state ∈ contract.workflowStates)
    (.ValueError "rule context references an undeclared workflow state")
  require (∀ resource ∈ contract.resources, resource.workflowState ∈ contract.workflowStates)
    (.ValueError "resource workflow_state must be declared")
  require (∀ rule ∈ contract.rules, ∀ tenant ∈ rule.context.tenantIds, tenant ∈ contract.declaredTenants)
    (.ValueError "rule context references an undeclared tenant")
  require (∀ rule ∈ contract.rules, ∀ department ∈ rule.context.departmentIds, department ∈ contract.declaredDepartments)
    (.ValueError "rule context references an undeclared department")
  require (∀ rule ∈ contract.rules, ∀ item ∈ rule.context.resourceIds, (declared.resources item).isSome)
    (.ValueError "rule context references an undeclared resource")
  require (∀ rule ∈ contract.rules, (declared.subjects rule.subjectId).isSome)
    (.ValueError "rule subject reference is invalid")
  require (∀ rule ∈ contract.rules, (declared.actions rule.actionId).isSome)
    (.ValueError "rule action reference is invalid")
  require (∀ rule ∈ contract.rules, (declared.resources rule.resourceId).isSome)
    (.ValueError "rule resource reference is invalid")

section References

variable (declared : Declared)

def effectKind (effectId : String) : Option BusinessEffectKind := (declared.effects effectId).map (·.kind)

def validateTransition (workflowStates : List String) (action : ActionDefinition) : Except Raised Unit :=
  match action.workflowTransition with
  | none => .ok ()
  | some transition => do
    require (∃ effectId ∈ action.effectIds, effectKind declared effectId = some .STATE_MUTATION)
      (.ValueError "workflow transition requires a STATE_MUTATION effect")
    require (∀ state ∈ transition.allowedFromStates, state ∈ workflowStates)
      (.ValueError "workflow transition references an undeclared source state")
    require (transition.targetState ∈ workflowStates)
      (.ValueError "workflow transition references an undeclared target state")

/-- The definition an endpoint names, as its tenant and department. -/
def endpointAttributes (endpoint : RelationEndpoint) : Option (Option String × Option String) :=
  match endpoint.endpointType with
  | .subject => (declared.subjects endpoint.endpointId).map fun subject => (subject.tenantId, subject.departmentId)
  | .resource => (declared.resources endpoint.endpointId).map fun resource => (resource.tenantId, resource.departmentId)

def expectedTypes : RelationType → List (EndpointType × EndpointType)
  | .OWNS => [(.subject, .resource)]
  | .MEMBER_OF => [(.subject, .resource)]
  | .SAME_TENANT => [(.subject, .subject), (.subject, .resource), (.resource, .subject), (.resource, .resource)]
  | .SAME_DEPARTMENT => [(.subject, .subject), (.subject, .resource), (.resource, .subject), (.resource, .resource)]
  | .MANAGES => [(.subject, .subject)]
  | .PARENT_OF => [(.resource, .resource)]
  | .INHERITS => [(.subject, .subject), (.resource, .resource)]

/-- Both sides declare a value, and not the same one. -/
def Crosses (left right : Option String) : Prop := left.isSome ∧ right.isSome ∧ left ≠ right

instance (left right : Option String) : Decidable (Crosses left right) :=
  inferInstanceAs (Decidable (left.isSome ∧ right.isSome ∧ left ≠ right))

def validateRelation (relation : RelationFact) : Except Raised Unit := do
  let source ← orRaise (endpointAttributes declared relation.source)
    (.ValueError "relation source reference is invalid")
  let target ← orRaise (endpointAttributes declared relation.target)
    (.ValueError "relation target reference is invalid")
  require ((relation.source.endpointType, relation.target.endpointType) ∈ expectedTypes relation.relation)
    (.ValueError "relation endpoint types are invalid")
  require (¬Crosses source.1 target.1) (.ValueError "relation crosses declared tenant boundary")
  require (¬Crosses source.2 target.2) (.ValueError "relation crosses declared department boundary")
  require (relation.relation = .SAME_TENANT → source.1.isSome ∧ source.1 = target.1)
    (.ValueError "SAME_TENANT must match declared tenant facts")
  require (relation.relation = .SAME_DEPARTMENT → source.2.isSome ∧ source.2 = target.2)
    (.ValueError "SAME_DEPARTMENT must match declared department facts")
  require (relation.relation = .OWNS →
      (declared.resources relation.target.endpointId).bind (·.ownerSubjectId) = some relation.source.endpointId)
    (.ValueError "OWNS must match resource owner_subject_id")

/-- One step of a path: the relation must start where the path stands. -/
def followRelation (current : RelationEndpoint) (relationId : String) : Except Raised RelationEndpoint := do
  let relation ← orRaise (declared.relations relationId) .KeyError
  require (relation.source = current) (.ValueError "rule relation_path must be a continuous directed path")
  return relation.target

/-- `_validate_relation_path_values`. -/
def validateRelationPath (subjectId resourceId : String) (relationPath : List String) : Except Raised Unit := do
  require relationPath.Nodup (.ValueError "rule relation_path must not repeat relations")
  let current ← relationPath.foldlM (followRelation declared) ⟨.subject, subjectId⟩
  require (current = ⟨.resource, resourceId⟩) (.ValueError "rule relation_path must end at the rule resource")

/-- The tenant or the department of both sides is among the values of the context, if it has any. -/
def validateScope (values : List String) (subject resource : Option String) (message : String) : Except Raised Unit :=
  require (values = [] ∨ ((∃ scope ∈ subject, scope ∈ values) ∧ ∃ scope ∈ resource, scope ∈ values)) (.ValueError message)

def validateWorkflowCoverage (rule : PermissionRule) (resource : ResourceDefinition) (action : ActionDefinition) :
    Except Raised Unit :=
  if .WORKFLOW ∈ rule.coverageDimensions then do
    let transition ← orRaise action.workflowTransition (.ValueError "WORKFLOW coverage requires a workflow transition")
    require (rule.expectation = .ALLOW → resource.workflowState ∈ transition.allowedFromStates ∧
        ∀ state ∈ rule.context.workflowStates, state ∈ transition.allowedFromStates)
      (.ValueError "ALLOW WORKFLOW coverage must use an allowed source state")
  else .ok ()

def validateRule (rule : PermissionRule) : Except Raised Unit := do
  require (∀ relationId ∈ rule.relationPath, (declared.relations relationId).isSome)
    (.ValueError "rule relation_path reference is invalid")
  let resource ← orRaise (declared.resources rule.resourceId) .KeyError
  let subject ← orRaise (declared.subjects rule.subjectId) .KeyError
  let action ← orRaise (declared.actions rule.actionId) .KeyError
  require (rule.coverageDimensions = [] → rule.expectation = .ALLOW ∧
      ∀ effectId ∈ action.effectIds, effectKind declared effectId = some .DATA_DISCLOSURE)
    (.ValueError "only ALLOW data disclosure rules may omit coverage mutations")
  validateWorkflowCoverage rule resource action
  validateRelationPath declared rule.subjectId rule.resourceId rule.relationPath
  require (rule.context.resourceIds = [] ∨ rule.resourceId ∈ rule.context.resourceIds)
    (.ValueError "rule resource must be included in its resource context")
  require (rule.context.workflowStates = [] ∨ resource.workflowState ∈ rule.context.workflowStates)
    (.ValueError "resource workflow_state must match the rule context")
  validateScope rule.context.tenantIds subject.tenantId resource.tenantId "rule tenant facts must match its context"
  validateScope rule.context.departmentIds subject.departmentId resource.departmentId
    "rule department facts must match its context"
  require (¬Crosses subject.tenantId resource.tenantId) (.ValueError "rule cannot implicitly cross tenant boundaries")
  require (¬Crosses subject.departmentId resource.departmentId)
    (.ValueError "rule cannot implicitly cross department boundaries")

def validateBatchItem (rule : BatchPermissionRule) (subject : SubjectDefinition) (item : BatchResourceExpectation) :
    Except Raised Unit := do
  let resource ← orRaise (declared.resources item.resourceId) .KeyError
  if item.relationPath ≠ [] then validateRelationPath declared rule.subjectId item.resourceId item.relationPath
  else require (item.expectation ≠ .ALLOW) (.ValueError "batch ALLOW expectation requires a relation path")
  require (rule.context.workflowStates = [] ∨ resource.workflowState ∈ rule.context.workflowStates)
    (.ValueError "batch resource workflow_state must match its context")
  validateScope rule.context.tenantIds subject.tenantId resource.tenantId
    "batch rule tenant facts must match its context"
  validateScope rule.context.departmentIds subject.departmentId resource.departmentId
    "batch rule department facts must match its context"

def validateBatchRule (rule : BatchPermissionRule) : Except Raised Unit := do
  let subject ← orRaise (declared.subjects rule.subjectId) (.ValueError "batch rule subject reference is invalid")
  require (∃ action ∈ declared.actions rule.actionId, action.isBatch)
    (.ValueError "batch rule action must be declared as batch")
  let resourceIds := rule.resourceExpectations.map (·.resourceId)
  require resourceIds.Nodup (.ValueError "batch resource IDs must be unique")
  require (∀ resourceId ∈ resourceIds, (declared.resources resourceId).isSome)
    (.ValueError "batch rule resource reference is invalid")
  require (rule.context.resourceIds = [] ∨ SameSet rule.context.resourceIds resourceIds)
    (.ValueError "batch context resources must match its resource expectations")
  rule.resourceExpectations.forM (validateBatchItem declared rule subject)

end References

section Graphs

variable (setOrder : List String → List String) (frames : Nat)

/-- A dictionary from nodes to the sets of their children. -/
structure Graph where
  label : String
  nodes : List String
  children : String → List String

/-- `reject_cycles`: a recursive walk of the graph; a set is iterated in an order of its own. -/
def rejectCycles (graph : Graph) : Except Raised Unit :=
  (search (fun node => setOrder (graph.children node)) frames graph.nodes).mapError fun
    | .cycle => .ValueError (graph.label ++ " must be acyclic")
    | .tooDeep => .RecursionError

def subjectParents (subjects : List SubjectDefinition) : List (String × String) :=
  subjects.filterMap fun subject => subject.parentSubjectId.map fun parent => (subject.subjectId, parent)

def resourceParents (resources : List ResourceDefinition) : List (String × String) :=
  resources.filterMap fun resource => resource.parentResourceId.map fun parent => (resource.resourceId, parent)

/-- The graph in which each node has one parent as its only child. -/
def parentGraph (label : String) (parents : List (String × String)) : Graph where
  label := label
  nodes := parents.map Prod.fst
  children := fun node => ((Table.lookup Prod.fst parents node).map Prod.snd).toList

/-- The graph of the relations of one type; sources stand in the order they are first met. -/
def relationGraph (relations : List RelationFact) (relation : RelationType) : Graph where
  label := relation.value ++ " graph"
  nodes := ((relations.filter (·.relation = relation)).map (·.source.endpointId)).eraseDups
  children := fun node =>
    ((relations.filter fun fact => fact.relation = relation ∧ fact.source.endpointId = node).map
      (·.target.endpointId)).eraseDups

/-- The types of relations that make graphs, in the order they are first met. -/
def graphTypes (relations : List RelationFact) : List RelationType :=
  ((relations.map (·.relation)).filter (· ∈ [.MANAGES, .INHERITS, .PARENT_OF])).eraseDups

def PermissionContract.graphs (contract : PermissionContract) : List Graph :=
  parentGraph "subject parent graph" (subjectParents contract.subjects) ::
    parentGraph "resource parent graph" (resourceParents contract.resources) ::
    (graphTypes contract.relations).map (relationGraph contract.relations)

def validateGraphs (contract : PermissionContract) : Except Raised Unit := do
  require (∀ relation ∈ contract.relations, relation.source.endpointId ≠ relation.target.endpointId)
    (.ValueError "relation graph must not contain self loops")
  contract.graphs.forM (rejectCycles setOrder frames)

end Graphs

section Conflicts

variable {α κ ν : Type} [DecidableEq κ] [DecidableEq ν]

/-- One round of a loop that notes the value of each key and refuses another one. -/
def noteValue (key : α → κ) (value : α → ν) (message : String) (seen : List (κ × ν)) (item : α) :
    Except Raised (List (κ × ν)) := do
  require (∀ previous ∈ Table.lookup Prod.fst seen (key item), previous.2 = value item) (.ValueError message)
  return Table.put Prod.fst seen (key item, value item)

def rejectConflicts (key : α → κ) (value : α → ν) (message : String) (items : List α) : Except Raised Unit := do
  let _ ← items.foldlM (noteValue key value message) []
  return ()

/-- What two rules must share to speak of the same permission; a context and its canonical bytes determine each other. -/
def ruleKey (rule : PermissionRule) : String × String × String × List String × PermissionContext :=
  (rule.subjectId, rule.actionId, rule.resourceId, rule.relationPath, rule.context)

def batchKey (rule : BatchPermissionRule) : String × String × List String × PermissionContext :=
  (rule.subjectId, rule.actionId, rule.resourceExpectations.map (·.resourceId), rule.context)

def validateConflicts (contract : PermissionContract) : Except Raised Unit := do
  rejectConflicts ruleKey (·.expectation) "same permission semantics cannot ALLOW and DENY" contract.rules
  rejectConflicts batchKey (fun rule => rule.resourceExpectations.map (·.expectation))
    "same batch permission semantics cannot conflict" contract.batchRules

end Conflicts

/-- The validator, before the lists are sorted. -/
def validateReferences (setOrder : List String → List String) (frames : Nat) (contract : PermissionContract) :
    Except Raised Unit := do
  validateIds contract
  validateDeclarations contract
  contract.actions.forM (validateTransition contract.declared contract.workflowStates)
  contract.relations.forM (validateRelation contract.declared)
  contract.rules.forM (validateRule contract.declared)
  contract.batchRules.forM (validateBatchRule contract.declared)
  validateGraphs setOrder frames contract
  validateConflicts contract

/-- The lists that the validator sorts at its end: all but the effects. -/
def PermissionContract.sorted (contract : PermissionContract) : PermissionContract :=
  { contract with
    subjects := sortedBy (·.subjectId) contract.subjects
    actions := sortedBy (·.actionId) contract.actions
    resources := sortedBy (·.resourceId) contract.resources
    relations := sortedBy (·.relationId) contract.relations
    rules := sortedBy (·.ruleId) contract.rules
    batchRules := sortedBy (·.ruleId) contract.batchRules }

section Construction

variable (secretOrUrl : String → Bool)

/-- The fields of a contract, each made by the validators of its own. -/
def createFields (contract : PermissionContract) : Except Raised PermissionContract := do
  textField secretOrUrl intentId contract.contractId "contract_id"
  require (1 ≤ contract.version ∧ contract.version ≤ 2147483647) (.ValueError "version")
  let roleIds ← boundedValues 1 128 intentId "role_ids must contain bounded IDs" "role_ids" contract.roleIds
  let workflowStates ← boundedValues 1 128 workflowStateName "workflow_states must contain bounded IDs" "workflow_states"
    contract.workflowStates
  require (1 ≤ contract.subjects.length ∧ contract.subjects.length ≤ 4096) (.ValueError "subjects")
  let subjects ← contract.subjects.mapM (SubjectDefinition.create secretOrUrl)
  require (1 ≤ contract.effects.length ∧ contract.effects.length ≤ 4096) (.ValueError "effects")
  let effects ← contract.effects.mapM (SecurityEffectDefinition.create secretOrUrl)
  require (1 ≤ contract.actions.length ∧ contract.actions.length ≤ 4096) (.ValueError "actions")
  let actions ← contract.actions.mapM (ActionDefinition.create secretOrUrl)
  require (1 ≤ contract.resources.length ∧ contract.resources.length ≤ 4096) (.ValueError "resources")
  let resources ← contract.resources.mapM (ResourceDefinition.create secretOrUrl)
  require (contract.relations.length ≤ 8192) (.ValueError "relations")
  let relations ← contract.relations.mapM (createRelation secretOrUrl)
  require (1 ≤ contract.rules.length ∧ contract.rules.length ≤ 8192) (.ValueError "rules")
  let rules ← contract.rules.mapM (PermissionRule.create secretOrUrl)
  require (contract.batchRules.length ≤ 2048) (.ValueError "batch_rules")
  let batchRules ← contract.batchRules.mapM BatchPermissionRule.create
  return { contract with
    roleIds, workflowStates, subjects, effects, actions, resources, relations, rules, batchRules }

/-- The constructor of a contract. -/
def PermissionContract.create (setOrder : List String → List String) (frames : Nat) (contract : PermissionContract) :
    Except Raised PermissionContract := do
  let fields ← createFields secretOrUrl contract
  validateReferences setOrder frames fields
  return fields.sorted

end Construction

end Jiejian.Permissions.Contract
