import Jiejian.Coverage.Contract
import Jiejian.Errors
import Jiejian.Library.Outcome

namespace Jiejian.Coverage.Candidates

open Library.Document Library.Outcome Library.Sorting Errors Protocol.Codec Protocol.Cases Contract

inductive CoverageGapCode where
  | MISSING_SUBJECT
  | MISSING_RESOURCE
  | MISSING_OBSERVER
  | RELATION_UNPROVABLE
  | BUDGET_EXCEEDED
  | RELATION_DEPTH_EXCEEDED
  deriving DecidableEq, Repr

def CoverageGapCode.value : CoverageGapCode → String
  | .MISSING_SUBJECT => "MISSING_SUBJECT"
  | .MISSING_RESOURCE => "MISSING_RESOURCE"
  | .MISSING_OBSERVER => "MISSING_OBSERVER"
  | .RELATION_UNPROVABLE => "RELATION_UNPROVABLE"
  | .BUDGET_EXCEEDED => "BUDGET_EXCEEDED"
  | .RELATION_DEPTH_EXCEEDED => "RELATION_DEPTH_EXCEEDED"

inductive RetentionReason where
  | EXPLICIT_ALLOW_BASELINE
  | EXPLICIT_DENY_RISK
  | RECENT_NEIGHBOR
  | BATCH_AUTHORIZATION
  deriving DecidableEq, Repr

def RetentionReason.value : RetentionReason → String
  | .EXPLICIT_ALLOW_BASELINE => "EXPLICIT_ALLOW_BASELINE"
  | .EXPLICIT_DENY_RISK => "EXPLICIT_DENY_RISK"
  | .RECENT_NEIGHBOR => "RECENT_NEIGHBOR"
  | .BATCH_AUTHORIZATION => "BATCH_AUTHORIZATION"

/-- One dimension or one expectation of a rule. -/
structure Target where
  ruleId : String
  dimension : Option CoverageDimension := none
  expectation : Option Expectation := none
  deriving DecidableEq, Repr

/-- `str` of the tuple. -/
def Target.text (target : Target) : String :=
  let dimension := match target.dimension with
    | none => "None"
    | some dimension => "<CoverageDimension." ++ dimension.value ++ ": '" ++ dimension.value ++ "'>"
  let expectation := match target.expectation with
    | none => "None"
    | some expectation => "<PermissionExpectation." ++ expectation.value ++ ": '" ++ expectation.value ++ "'>"
  "('" ++ target.ruleId ++ "', " ++ dimension ++ ", " ++ expectation ++ ")"

structure CoverageGap where
  target : Target
  code : CoverageGapCode
  detail : String
  deriving DecidableEq, Repr

/-- What a case asks of the application. -/
structure CaseContent where
  subjectId : String
  actionId : String
  resourceIds : List String
  expectations : List Expectation
  relationPaths : List (List String)
  context : PermissionContext
  requiredObservations : List String
  batchMode : Option BatchAuthorizationMode := none
  atomic : Bool := false
  deriving DecidableEq, Repr

def CaseContent.facts (content : CaseContent) : List (String × Json) :=
  [("subject_id", .str content.subjectId), ("action_id", .str content.actionId),
    ("resource_ids", strings content.resourceIds),
    ("expectations", .list (content.expectations.map fun item => .str item.value)),
    ("relation_paths", .list (content.relationPaths.map strings)), ("context", content.context.dump),
    ("required_observations", strings content.requiredObservations),
    ("batch_mode", nullable (fun mode => .str mode.value) content.batchMode), ("atomic", .bool content.atomic)]

def CaseContent.semantic (engineVersion : String) (content : CaseContent) : Json :=
  .dict (("engine_version", .str engineVersion) :: content.facts)

structure PermissionMutationCase extends CaseContent where
  caseId : String
  fingerprint : String
  findingPreIdentity : String
  sourceRuleIds : List String
  dimensions : List CoverageDimension
  retentionReason : RetentionReason
  deriving DecidableEq, Repr

def PermissionMutationCase.validateShape (case : PermissionMutationCase) : Except Raised Unit := do
  require (case.resourceIds.length = case.expectations.length ∧ case.resourceIds.length = case.relationPaths.length)
    (.ValueError "resource_ids, expectations, and relation_paths must align")
  require case.sourceRuleIds.Nodup (.ValueError "source_rule_ids must be unique")
  require case.dimensions.Nodup (.ValueError "dimensions must be unique")
  require (¬(1 < case.resourceIds.length ∧ case.batchMode = none)) (.ValueError "batch cases require batch_mode")
  require (¬(case.resourceIds.length ≤ 1 ∧ case.batchMode ≠ none))
    (.ValueError "ordinary cases must not declare batch_mode")
  require (¬(case.atomic ∧ case.resourceIds.length ≤ 1)) (.ValueError "atomic is only valid for batch cases")

structure Candidate where
  semantic : Json
  sourceRuleIds : List String
  dimensions : List CoverageDimension
  retentionReason : RetentionReason
  priority : Nat
  case : PermissionMutationCase
  targetKeys : List Target

section Paths

/-- `_path_index`: the relations that leave an endpoint. -/
def leaving (relations : List RelationFact) (endpoint : RelationEndpoint) : List RelationFact :=
  sortedBy (·.relationId) (relations.filter fun relation => relation.source = endpoint)

/-- The search of one endpoint: the endpoints it reaches for the first time, with their paths. -/
def expand (path : List String) (state : List RelationEndpoint × List (RelationEndpoint × List String))
    (relation : RelationFact) : List RelationEndpoint × List (RelationEndpoint × List String) :=
  if relation.target ∈ state.1 then state
  else (state.1 ++ [relation.target], state.2 ++ [(relation.target, path ++ [relation.relationId])])

def searchRelations (relations : List RelationFact) (goal : RelationEndpoint) (maxDepth : Nat) :
    Nat → List (RelationEndpoint × List String) → List RelationEndpoint → Option (List String)
  | 0, _, _ => none
  | _ + 1, [], _ => none
  | rounds + 1, (endpoint, path) :: queue, visited =>
    if endpoint = goal then some path
    else if maxDepth ≤ path.length then searchRelations relations goal maxDepth rounds queue visited
    else
      let (visited, found) := (leaving relations endpoint).foldl (expand path) (visited, [])
      searchRelations relations goal maxDepth rounds (queue ++ found) visited

/-- `_find_path`: every endpoint is visited once at most. -/
def findPath (relations : List RelationFact) (subjectId resourceId : String) (maxDepth : Nat) : Option (List String) :=
  if maxDepth < 1 then none
  else searchRelations relations ⟨.resource, resourceId⟩ maxDepth (relations.length + 1)
    [(⟨.subject, subjectId⟩, [])] [⟨.subject, subjectId⟩]

end Paths

def sameScope (left right : SubjectDefinition) : Bool :=
  left.tenantId ≠ none ∧ left.tenantId = right.tenantId ∧ left.departmentId ≠ none ∧
    left.departmentId = right.departmentId

def levelDistance (current candidate : SubjectDefinition) : Nat :=
  ((candidate.adminLevel : Int) - current.adminLevel).natAbs

def subjectOrder (current candidate : SubjectDefinition) : Nat ×ₗ List String ×ₗ String :=
  toLex (levelDistance current candidate, toLex (candidate.roles, candidate.subjectId))

def tenantOrder (current candidate : SubjectDefinition) : Nat ×ₗ Nat ×ₗ String :=
  toLex (if candidate.roles ≠ current.roles then 1 else 0, toLex (levelDistance current candidate, candidate.subjectId))

section Neighbors

variable (contract : PermissionContract)

def subjectOf (subjectId : String) : Except Raised SubjectDefinition :=
  orRaise (contract.subjects.find? fun subject => subject.subjectId = subjectId) .StopIteration

def resourceOf (resourceId : String) : Except Raised ResourceDefinition :=
  orRaise (contract.resources.find? fun resource => resource.resourceId = resourceId) .StopIteration

def actionOf (actionId : String) : Except Raised ActionDefinition :=
  orRaise (contract.actions.find? fun action => action.actionId = actionId) .StopIteration

def otherSubjects (subjectId : String) : List SubjectDefinition :=
  contract.subjects.filter fun subject => subject.subjectId ≠ subjectId

def nearestSubject (currentId : String) (dimension : CoverageDimension) : Except Raised (Option String) := do
  let current ← subjectOf contract currentId
  let candidates := otherSubjects contract currentId
  let nearest (chosen : List SubjectDefinition) : Option String :=
    (sortedBy (subjectOrder current) chosen).head?.map (·.subjectId)
  return match dimension with
  | .ROLE => nearest (candidates.filter fun subject => sameScope current subject ∧
      (subject.roles ≠ current.roles ∨ subject.adminLevel ≠ current.adminLevel))
  | .TENANT => (sortedBy (tenantOrder current)
      (candidates.filter fun subject => subject.tenantId ≠ current.tenantId)).head?.map (·.subjectId)
  | .DEPARTMENT => nearest (candidates.filter fun subject => subject.tenantId = current.tenantId ∧
      subject.departmentId ≠ current.departmentId)
  | .RELATION => nearest (candidates.filter fun subject => sameScope current subject)
  | .WORKFLOW | .BULK => none

def workflowOrder (resource : ResourceDefinition) : String ×ₗ String := toLex (resource.workflowState, resource.resourceId)

def nearestWorkflowResource (rule : PermissionRule) : Except Raised (Option String) := do
  let action ← actionOf contract rule.actionId
  match action.workflowTransition with
  | none => return none
  | some transition =>
    let resource ← resourceOf contract rule.resourceId
    let candidates := contract.resources.filter fun item => item.resourceId ≠ resource.resourceId ∧
      item.resourceType = resource.resourceType ∧ item.tenantId = resource.tenantId ∧
      item.departmentId = resource.departmentId ∧ item.workflowState ∉ transition.allowedFromStates
    return (sortedBy workflowOrder candidates).head?.map (·.resourceId)

/-- Why a target cannot be covered. -/
structure Obstacle where
  code : CoverageGapCode
  detail : String
  deriving DecidableEq, Repr

/-- The nearest subject in scope that no relation path leads to the resource from. -/
def unrelatedSubject (rule : PermissionRule) (maxDepth : Nat) : Except Raised (Option String) := do
  let subject ← subjectOf contract rule.subjectId
  let candidates := (otherSubjects contract rule.subjectId).filter fun item => sameScope subject item
  let unrelated := (sortedBy (subjectOrder subject) candidates).find? fun item =>
    findPath contract.relations item.subjectId rule.resourceId maxDepth = none
  return unrelated.map (·.subjectId)

/-- The subject and the resource of the neighbour case of one dimension. -/
def neighborOf (rule : PermissionRule) (maxDepth : Nat) (dimension : CoverageDimension) :
    Except Raised (Except Obstacle (String × String)) :=
  match dimension with
  | .WORKFLOW => do
    match ← nearestWorkflowResource contract rule with
    | none => return .error ⟨.MISSING_RESOURCE, "no adjacent workflow resource"⟩
    | some resourceId => return .ok (rule.subjectId, resourceId)
  | .RELATION => do
    match ← nearestSubject contract rule.subjectId .RELATION with
    | none => return .error ⟨.MISSING_SUBJECT, "no adjacent subject"⟩
    | some _ =>
      match ← unrelatedSubject contract rule maxDepth with
      | none => return .error ⟨.RELATION_UNPROVABLE, "all adjacent subjects have a valid relation"⟩
      | some subjectId => return .ok (subjectId, rule.resourceId)
  | dimension => do
    match ← nearestSubject contract rule.subjectId dimension with
    | none => return .error ⟨.MISSING_SUBJECT, "no adjacent subject"⟩
    | some subjectId => return .ok (subjectId, rule.resourceId)

end Neighbors

end Jiejian.Coverage.Candidates
