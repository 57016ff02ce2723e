import Jiejian.Coverage.Candidates
import Jiejian.Library.Table

namespace Jiejian.Coverage.Plan

open Library Library.Document Library.Outcome Library.Sorting Errors
open Protocol.Codec Protocol.Cases Contract Candidates

/-- The keyword arguments of a plan. -/
structure PlanRequest where
  engineVersion : String
  seed : Int
  caseBudget : Int
  availableSubjectIds : Option (List String) := none
  availableResourceIds : Option (List String) := none
  availableObservations : List String := ["resource_state"]
  maxRelationDepth : Int := 8
  deriving DecidableEq, Repr

section Cases

variable (digest : Digest) (contract : PermissionContract) (request : PlanRequest)

def availableSubjects : List String :=
  request.availableSubjectIds.getD (contract.subjects.map (·.subjectId))

def availableResources : List String :=
  request.availableResourceIds.getD (contract.resources.map (·.resourceId))

def maxDepth : Nat := request.maxRelationDepth.toNat

def missingObservations (required : List String) : Bool := ¬ required ⊆ request.availableObservations

def scopeClass (subject : SubjectDefinition) (resource : ResourceDefinition) : Json :=
  .dict [("same_tenant", .bool (subject.tenantId = resource.tenantId)),
    ("same_department", .bool (subject.departmentId = resource.departmentId))]

def resourceClass (resource : ResourceDefinition) : Json :=
  .dict [("resource_type", .str resource.resourceType), ("workflow_state", .str resource.workflowState),
    ("is_child", .bool resource.parentResourceId.isSome)]

def contextClass (context : PermissionContext) : Json :=
  .dict [("workflow_states", strings context.workflowStates), ("has_tenant_scope", .bool (context.tenantIds ≠ [])),
    ("has_department_scope", .bool (context.departmentIds ≠ []))]

/-- The identity of a finding, from the classes of what the case names. -/
def findingPreIdentity (content : CaseContent) : Except Raised String := do
  let subject ← orRaise (contract.subjects.find? fun item => item.subjectId = content.subjectId) .KeyError
  let resources ← content.resourceIds.mapM fun resourceId =>
    orRaise (contract.resources.find? fun item => item.resourceId = resourceId) .KeyError
  let relationTypes ← content.relationPaths.mapM fun path => path.mapM fun relationId =>
    orRaise (contract.relations.find? fun item => item.relationId = relationId) .KeyError
  return canonicalSha256 digest (.dict [
    ("subject_class", .dict [("roles", strings subject.roles), ("admin_level", natural subject.adminLevel),
      ("scope", .list (resources.map (scopeClass subject)))]),
    ("action_id", .str content.actionId), ("resource_classes", .list (resources.map resourceClass)),
    ("expectations", .list (content.expectations.map fun item => .str item.value)),
    ("relation_types", .list (relationTypes.map fun path => strings (path.map fun item => item.relation.value))),
    ("context", contextClass content.context),
    ("batch_mode", nullable (fun mode => .str mode.value) content.batchMode), ("atomic", .bool content.atomic)])

/-- `_candidate_case`. -/
def candidateCase (ruleId : String) (dimensions : List CoverageDimension) (retentionReason : RetentionReason)
    (priority : Nat) (content : CaseContent) (includeBaselineTarget : Bool) : Except Raised Candidate := do
  let fingerprint := canonicalSha256 digest (content.semantic request.engineVersion)
  let identity ← findingPreIdentity digest contract content
  let case : PermissionMutationCase := { content with
    caseId := "case-" ++ digest.short fingerprint
    fingerprint := fingerprint
    findingPreIdentity := identity
    sourceRuleIds := [ruleId]
    dimensions := dimensions
    retentionReason := retentionReason }
  case.validateShape
  let baseline : List Target := if includeBaselineTarget then [{ ruleId, expectation := content.expectations.head? }] else []
  return {
    semantic := content.semantic request.engineVersion
    sourceRuleIds := [ruleId]
    dimensions := dimensions
    retentionReason := retentionReason
    priority := priority
    case := case
    targetKeys := baseline ++ dimensions.map fun dimension => { ruleId, dimension := some dimension } }

/-- What becomes of one target: a gap, or a candidate that covers it. -/
abbrev Settlement := CoverageGap ⊕ Candidate

def gapAt (target : Target) (obstacle : Obstacle) : Settlement :=
  .inl ⟨target, obstacle.code, obstacle.detail⟩

section Rules

variable (rule : PermissionRule)

def openDimensions : List CoverageDimension := rule.coverageDimensions.filter (· ≠ .BULK)

def ruleContent : CaseContent where
  subjectId := rule.subjectId
  actionId := rule.actionId
  resourceIds := [rule.resourceId]
  expectations := [rule.expectation]
  relationPaths := [rule.relationPath]
  context := rule.context
  requiredObservations := rule.requiredObservations

/-- The case next to a rule: another subject or resource, to be refused. -/
def neighborContent (subjectId resourceId : String) : CaseContent where
  subjectId := subjectId
  actionId := rule.actionId
  resourceIds := [resourceId]
  expectations := [.DENY]
  relationPaths := [[]]
  context := rule.context
  requiredObservations := rule.requiredObservations

def ruleObstacle : Option Obstacle :=
  if rule.subjectId ∉ availableSubjects contract request then some ⟨.MISSING_SUBJECT, "rule subject unavailable"⟩
  else if rule.resourceId ∉ availableResources contract request then
    some ⟨.MISSING_RESOURCE, "rule resource unavailable"⟩
  else if missingObservations request rule.requiredObservations then
    some ⟨.MISSING_OBSERVER, "required observer unavailable"⟩
  else if maxDepth request < rule.relationPath.length then
    some ⟨.RELATION_DEPTH_EXCEEDED, "explicit relation path exceeds max depth"⟩
  else none

def neighborSettlement (dimension : CoverageDimension) : Except Raised Settlement := do
  let target : Target := { ruleId := rule.ruleId, dimension := some dimension }
  match ← neighborOf contract rule (maxDepth request) dimension with
  | .error obstacle => return gapAt target obstacle
  | .ok (subjectId, resourceId) =>
    if subjectId ∉ availableSubjects contract request then
      return gapAt target ⟨.MISSING_SUBJECT, "adjacent subject unavailable"⟩
    else if resourceId ∉ availableResources contract request then
      return gapAt target ⟨.MISSING_RESOURCE, "adjacent resource unavailable"⟩
    else
      let candidate ← candidateCase digest contract request rule.ruleId [dimension] .RECENT_NEIGHBOR 700
        (neighborContent rule subjectId resourceId) false
      return .inr candidate

def ruleCandidate : Except Raised Candidate :=
  candidateCase digest contract request rule.ruleId []
    (if rule.expectation = .ALLOW then .EXPLICIT_ALLOW_BASELINE else .EXPLICIT_DENY_RISK)
    (if rule.expectation = .DENY then 1000 else 900) (ruleContent rule) true

/-- `_ordinary_candidates`, with its gaps. -/
def ordinaryCandidates : Except Raised (List Settlement) := do
  let _ ← subjectOf contract rule.subjectId
  let _ ← resourceOf contract rule.resourceId
  match ruleObstacle contract request rule with
  | some obstacle =>
    let targets : List Target := { ruleId := rule.ruleId, expectation := some rule.expectation } ::
      (openDimensions rule).map fun dimension => { ruleId := rule.ruleId, dimension := some dimension }
    return targets.map fun target => gapAt target obstacle
  | none => do
    let baseline ← ruleCandidate digest contract request rule
    let neighbors ← (openDimensions rule).mapM (neighborSettlement digest contract request rule)
    return .inr baseline :: neighbors

end Rules

section Batches

variable (rule : BatchPermissionRule)

def batchMode (expectations : List Expectation) : BatchAuthorizationMode :=
  if ∀ item ∈ expectations, item = .ALLOW then .ALL_ALLOW
  else if ∀ item ∈ expectations, item = .DENY then .ALL_DENY
  else .MIXED_AUTHORIZATION

def batchContent : CaseContent where
  subjectId := rule.subjectId
  actionId := rule.actionId
  resourceIds := rule.resourceExpectations.map (·.resourceId)
  expectations := rule.resourceExpectations.map (·.expectation)
  relationPaths := rule.resourceExpectations.map (·.relationPath)
  context := rule.context
  requiredObservations := rule.requiredObservations
  batchMode := some (batchMode (rule.resourceExpectations.map (·.expectation)))
  atomic := rule.atomic

def batchObstacle : Option Obstacle :=
  if rule.subjectId ∉ availableSubjects contract request then some ⟨.MISSING_SUBJECT, "batch subject unavailable"⟩
  else if missingObservations request rule.requiredObservations then
    some ⟨.MISSING_OBSERVER, "required observer unavailable"⟩
  else if ∃ item ∈ rule.resourceExpectations, item.resourceId ∉ availableResources contract request then
    some ⟨.MISSING_RESOURCE, "batch resource unavailable"⟩
  else if ∃ item ∈ rule.resourceExpectations, maxDepth request < item.relationPath.length then
    some ⟨.RELATION_DEPTH_EXCEEDED, "batch relation path exceeds max depth"⟩
  else none

/-- `_batch_candidates`, with its gap. -/
def batchCandidates : Except Raised Settlement :=
  match batchObstacle contract request rule with
  | some obstacle => return gapAt { ruleId := rule.ruleId, dimension := some .BULK } obstacle
  | none => do
    let candidate ← candidateCase digest contract request rule.ruleId [.BULK] .BATCH_AUTHORIZATION 950
      (batchContent rule) false
    return .inr candidate

end Batches

end Cases

inductive EliminatedReason where
  | DUPLICATE_SEMANTICS
  | BUDGET_EXCEEDED
  deriving DecidableEq, Repr

def EliminatedReason.value : EliminatedReason → String
  | .DUPLICATE_SEMANTICS => "DUPLICATE_SEMANTICS"
  | .BUDGET_EXCEEDED => "BUDGET_EXCEEDED"

structure EliminatedCandidate where
  candidateFingerprint : String
  sourceRuleIds : List String
  reason : EliminatedReason
  deriving DecidableEq, Repr

/-- The constructor bounds the sources of a candidate. -/
def eliminate (fingerprint : String) (sourceRuleIds : List String) (reason : EliminatedReason) :
    Except Raised EliminatedCandidate := do
  require (1 ≤ sourceRuleIds.length ∧ sourceRuleIds.length ≤ 32) (.ValueError "source_rule_ids")
  return ⟨fingerprint, sourceRuleIds, reason⟩

section Merging

/-- `sort_key`: the priority, a draw by the seed, the fingerprint and the sources. -/
def sortKey (digest : Digest) (request : PlanRequest) (item : Candidate) :
    Int ×ₗ String ×ₗ String ×ₗ List String :=
  let draw := canonicalSha256 digest (.dict [("seed", .int request.seed),
    ("engine_version", .str request.engineVersion), ("candidate", .str item.case.fingerprint)])
  toLex (-(item.priority : Int), toLex (draw, toLex (item.case.fingerprint, item.sourceRuleIds)))

/-- Two candidates of one fingerprint become one; the case of the higher priority stays. -/
def merged (previous item : Candidate) : Candidate :=
  let winner := if previous.priority < item.priority then item else previous
  let sources := sortedSet (previous.sourceRuleIds ++ item.sourceRuleIds)
  let dimensions := sortedBy (·.value) (previous.dimensions ++ item.dimensions).dedup
  { semantic := winner.semantic
    sourceRuleIds := sources
    dimensions := dimensions
    retentionReason := winner.retentionReason
    priority := winner.priority
    case := { winner.case with
      sourceRuleIds := sources
      dimensions := dimensions }
    targetKeys := sortedBy Target.text (previous.targetKeys ++ item.targetKeys).dedup }

def loserOf (previous item : Candidate) : Candidate := if previous.priority < item.priority then previous else item

def fingerprintOf (item : Candidate) : String := item.case.fingerprint

/-- One turn of the loop that removes duplicates. -/
def mergeCandidate (state : List Candidate × List EliminatedCandidate) (item : Candidate) :
    Except Raised (List Candidate × List EliminatedCandidate) :=
  match Table.lookup fingerprintOf state.1 (fingerprintOf item) with
  | none => return (state.1 ++ [item], state.2)
  | some previous => do
    let duplicate ← eliminate item.case.fingerprint (loserOf previous item).sourceRuleIds .DUPLICATE_SEMANTICS
    return (Table.put fingerprintOf state.1 (merged previous item),
      state.2 ++ [duplicate])

end Merging

inductive CoverageStatus where
  | COVERED
  | GAP
  deriving DecidableEq, Repr

def CoverageStatus.value : CoverageStatus → String
  | .COVERED => "COVERED"
  | .GAP => "GAP"

structure CoverageRecord where
  target : Target
  status : CoverageStatus
  caseIds : List String
  gapCodes : List CoverageGapCode
  deriving DecidableEq, Repr

def ruleTargets (rule : PermissionRule) : List Target :=
  { ruleId := rule.ruleId, expectation := some rule.expectation } ::
    rule.coverageDimensions.map fun dimension => { ruleId := rule.ruleId, dimension := some dimension }

/-- A batch rule is one target, whatever else it declares. -/
def batchTargets (rule : BatchPermissionRule) : List Target :=
  [{ ruleId := rule.ruleId, dimension := some .BULK }]

def planTargets (contract : PermissionContract) : List Target :=
  contract.rules.flatMap ruleTargets ++ contract.batchRules.flatMap batchTargets

def coverageRecord (retained : List Candidate) (gaps : List CoverageGap) (target : Target) : CoverageRecord :=
  let caseIds := (retained.filter fun item => target ∈ item.targetKeys).map (·.case.caseId)
  let ruleGaps := (gaps.filter fun gap => gap.target = target).map (·.code)
  { target := target
    status := if caseIds ≠ [] ∧ ruleGaps = [] then .COVERED else .GAP
    caseIds := caseIds
    gapCodes := sortedBy (·.value) ruleGaps.dedup }

def targetOrder (target : Target) : String ×ₗ String ×ₗ String :=
  toLex (target.ruleId, toLex ((target.dimension.map (·.value)).getD "", (target.expectation.map (·.value)).getD ""))

def gapOrder (gap : CoverageGap) : (String ×ₗ String ×ₗ String) ×ₗ String ×ₗ String :=
  toLex (targetOrder gap.target, toLex (gap.code.value, gap.detail))

def eliminatedOrder (item : EliminatedCandidate) : String ×ₗ String ×ₗ List String :=
  toLex (item.candidateFingerprint, toLex (item.reason.value, item.sourceRuleIds))

structure PermissionMutationPlan where
  planId : String
  planFingerprint : String
  contractFingerprint : String
  seed : Int
  engineVersion : String
  caseBudget : Int
  candidateCount : Nat
  retainedCount : Nat
  cases : List PermissionMutationCase
  coverage : List CoverageRecord
  gaps : List CoverageGap
  eliminated : List EliminatedCandidate
  deriving DecidableEq, Repr

section Writing

def writeTarget (target : Target) : List (String × Json) :=
  [("rule_id", .str target.ruleId), ("dimension", nullable (fun dimension => .str dimension.value) target.dimension),
    ("expectation", nullable (fun expectation => .str expectation.value) target.expectation)]

def writeCase (case : PermissionMutationCase) : Json :=
  .dict ([("case_id", .str case.caseId), ("fingerprint", .str case.fingerprint),
    ("finding_pre_identity", .str case.findingPreIdentity), ("source_rule_ids", strings case.sourceRuleIds),
    ("dimensions", .list (case.dimensions.map fun dimension => .str dimension.value)),
    ("retention_reason", .str case.retentionReason.value)] ++ case.toCaseContent.facts)

def writeRecord (record : CoverageRecord) : Json :=
  .dict (writeTarget record.target ++ [("status", .str record.status.value), ("case_ids", strings record.caseIds),
    ("gap_codes", .list (record.gapCodes.map fun code => .str code.value))])

def writeGap (gap : CoverageGap) : Json :=
  .dict (writeTarget gap.target ++ [("code", .str gap.code.value), ("detail", .str gap.detail)])

def writeEliminated (item : EliminatedCandidate) : Json :=
  .dict [("candidate_fingerprint", .str item.candidateFingerprint), ("source_rule_ids", strings item.sourceRuleIds),
    ("reason", .str item.reason.value)]

/-- The plan over its parts, under the fingerprint of its body. -/
def sealPlan (digest : Digest) (contract : PermissionContract) (request : PlanRequest) (candidateCount : Nat)
    (cases : List PermissionMutationCase) (coverage : List CoverageRecord) (gaps : List CoverageGap)
    (eliminated : List EliminatedCandidate) : PermissionMutationPlan :=
  let contractFingerprint := canonicalSha256 digest contract.facts
  let planFingerprint := canonicalSha256 digest (.dict [("contract_fingerprint", .str contractFingerprint),
    ("seed", .int request.seed), ("engine_version", .str request.engineVersion),
    ("case_budget", .int request.caseBudget), ("cases", .list (cases.map writeCase)),
    ("coverage", .list (coverage.map writeRecord)), ("gaps", .list (gaps.map writeGap)),
    ("eliminated", .list (eliminated.map writeEliminated))])
  { planId := "plan-" ++ digest.short planFingerprint
    planFingerprint := planFingerprint
    contractFingerprint := contractFingerprint
    seed := request.seed
    engineVersion := request.engineVersion
    caseBudget := request.caseBudget
    candidateCount := candidateCount
    retainedCount := cases.length
    cases := cases
    coverage := coverage
    gaps := gaps
    eliminated := eliminated }

end Writing

def PermissionMutationPlan.validateCounts (plan : PermissionMutationPlan) : Except Raised Unit := do
  require (0 ≤ plan.caseBudget ∧ plan.caseBudget ≤ 8192) (.ValueError "case_budget")
  require (plan.candidateCount ≤ 8192 ∧ plan.retainedCount ≤ 8192) (.ValueError "candidate_count")
  require (plan.coverage.length ≤ 16384 ∧ plan.gaps.length ≤ 16384 ∧ plan.eliminated.length ≤ 16384)
    (.ValueError "coverage")
  require (plan.retainedCount ≤ plan.candidateCount) (.ValueError "retained_count cannot exceed candidate_count")
  require (plan.retainedCount = plan.cases.length) (.ValueError "retained_count must equal the case count")

def budgetGaps (dropped : List Candidate) : List CoverageGap :=
  dropped.flatMap fun item => item.targetKeys.map fun target => ⟨target, .BUDGET_EXCEEDED, "case budget exceeded"⟩

/-- What becomes of the targets of the contract, before duplicates are removed. -/
def settlements (digest : Digest) (contract : PermissionContract) (request : PlanRequest) :
    Except Raised (List Settlement) := do
  let ordinary ← contract.rules.mapM (ordinaryCandidates digest contract request)
  let batches ← contract.batchRules.mapM (batchCandidates digest contract request)
  return ordinary.flatten ++ batches

def buildPermissionCoveragePlan (digest : Digest) (contract : PermissionContract) (request : PlanRequest) :
    Except Raised PermissionMutationPlan := do
  require (0 ≤ request.caseBudget) (.ValueError "case_budget must be non-negative")
  require (1 ≤ request.maxRelationDepth) (.ValueError "max_relation_depth must be positive")
  let settled ← settlements digest contract request
  let raw := sortedBy (sortKey digest request) (settled.filterMap Sum.getRight?)
  let (unique, duplicates) ← raw.foldlM mergeCandidate ([], [])
  let ordered := sortedBy (sortKey digest request) unique
  let retained := ordered.take request.caseBudget.toNat
  let dropped := ordered.drop request.caseBudget.toNat
  let exceeded ← dropped.mapM fun item => eliminate item.case.fingerprint item.sourceRuleIds .BUDGET_EXCEEDED
  let gaps := settled.filterMap Sum.getLeft? ++ budgetGaps dropped
  let coverage := (planTargets contract).map (coverageRecord retained gaps)
  let plan := sealPlan digest contract request raw.length (retained.map (·.case))
    (sortedBy (fun record => targetOrder record.target) coverage) (sortedBy gapOrder gaps)
    (sortedBy eliminatedOrder (duplicates ++ exceeded))
  plan.validateCounts
  return plan

end Jiejian.Coverage.Plan
