import Jiejian.Coverage.Plan

namespace Jiejian.Coverage.Differential

open Library Library.Document Library.Outcome Library.Sorting Errors
open Protocol.Codec Protocol.Cases Contract Candidates Plan

inductive TwinPlanGapCode where
  | MISSING_ALLOW_CONTROL
  | AMBIGUOUS_ALLOW_CONTROL
  | MULTIPLE_VARIATIONS
  | MISSING_INVARIANT
  deriving DecidableEq, Repr

def TwinPlanGapCode.value : TwinPlanGapCode → String
  | .MISSING_ALLOW_CONTROL => "MISSING_ALLOW_CONTROL"
  | .AMBIGUOUS_ALLOW_CONTROL => "AMBIGUOUS_ALLOW_CONTROL"
  | .MULTIPLE_VARIATIONS => "MULTIPLE_VARIATIONS"
  | .MISSING_INVARIANT => "MISSING_INVARIANT"

structure PermissionMutationDescriptor where
  dimension : CoverageDimension
  changedFields : List String
  allowValueFingerprint : String
  denyValueFingerprint : String
  deriving DecidableEq, Repr

structure TwinInvariantSpecification where
  actionId : String
  resourceIds : List String
  workflowFingerprint : String
  effectFingerprint : String
  observerFingerprint : String
  baselineFingerprint : String
  normalizationVersion : String
  deriving DecidableEq, Repr

/-- What a twin is fingerprinted from. -/
structure TwinContent where
  sourceRuleId : String
  allowCase : PermissionMutationCase
  denyCase : PermissionMutationCase
  variedDimension : CoverageDimension
  mutation : PermissionMutationDescriptor
  invariant : TwinInvariantSpecification
  deriving DecidableEq, Repr

structure PermissionTwin extends TwinContent where
  twinId : String
  twinFingerprint : String
  deriving DecidableEq, Repr

structure TwinPlanGap where
  denyCaseId : String
  code : TwinPlanGapCode
  detail : String
  deriving DecidableEq, Repr

/-- The frozen invariants of the actions, and what is the same for all of them. -/
structure FrozenInvariants where
  workflowFingerprints : String → Option String
  effectFingerprints : String → Option String
  observerFingerprint : String
  baselineFingerprints : String → Option String
  normalizationVersion : String

structure DifferentialExperimentPlan where
  differentialPlanId : String
  differentialFingerprint : String
  coveragePlanFingerprint : String
  twins : List PermissionTwin
  gaps : List TwinPlanGap
  deriving DecidableEq, Repr

/-- `context_dimension`: the scope that a denied case declares. -/
def contextDimension (deny : PermissionMutationCase) : CoverageDimension :=
  ([.TENANT, .DEPARTMENT].find? (· ∈ deny.dimensions)).getD .RELATION

section Variation

variable (allow deny : PermissionMutationCase)

/-- `_variation_fields`. -/
def variationFields : List String :=
  (if allow.subjectId ≠ deny.subjectId then ["subject_id"] else []) ++
  (if allow.relationPaths ≠ deny.relationPaths then ["relation_paths"] else []) ++
  (if allow.context ≠ deny.context then ["context"] else [])

/-- The changed fields by the dimension that explains them; the dict keeps one entry a dimension. -/
def variationGroups : List (CoverageDimension × List String) :=
  let changed := variationFields allow deny
  let states := allow.context.workflowStates = deny.context.workflowStates
  let groups : List (CoverageDimension × List String) :=
    [(if "relation_paths" ∈ changed then .RELATION else .ROLE,
        changed.filter fun field => field = "subject_id" ∨ field = "relation_paths"),
      (.WORKFLOW, changed.filter fun field => field = "context" ∧ ¬ states)]
  if "context" ∈ changed ∧ states then Table.put Prod.fst groups (contextDimension deny, ["context"]) else groups

/-- `_variation`: the one dimension that explains the difference, and the fields it explains. -/
def variation : Option CoverageDimension × List String :=
  match (variationGroups allow deny).filter fun group => group.2 ≠ [] with
  | [(dimension, fields)] => (some dimension, sortedBy id fields)
  | _ => (none, variationFields allow deny)

end Variation

/-- `_variation_payload`. -/
def variationPayload (case : PermissionMutationCase) (fields : List String) : Json :=
  .dict (fields.filterMap fun field => (Document.fieldOf case.toCaseContent.facts field).map fun value => (field, value))

section Writing

def PermissionMutationDescriptor.dump (mutation : PermissionMutationDescriptor) : Json :=
  .dict [("dimension", .str mutation.dimension.value), ("changed_fields", strings mutation.changedFields),
    ("allow_value_fingerprint", .str mutation.allowValueFingerprint),
    ("deny_value_fingerprint", .str mutation.denyValueFingerprint)]

def TwinInvariantSpecification.dump (invariant : TwinInvariantSpecification) : Json :=
  .dict [("action_id", .str invariant.actionId), ("resource_ids", strings invariant.resourceIds),
    ("workflow_fingerprint", .str invariant.workflowFingerprint),
    ("effect_fingerprint", .str invariant.effectFingerprint),
    ("observer_fingerprint", .str invariant.observerFingerprint),
    ("baseline_fingerprint", .str invariant.baselineFingerprint),
    ("normalization_version", .str invariant.normalizationVersion)]

def TwinContent.facts (content : TwinContent) : List (String × Json) :=
  [("source_rule_id", .str content.sourceRuleId), ("allow_case", writeCase content.allowCase),
    ("deny_case", writeCase content.denyCase), ("varied_dimension", .str content.variedDimension.value),
    ("mutation", content.mutation.dump), ("invariant", content.invariant.dump)]

def PermissionTwin.dump (twin : PermissionTwin) : Json :=
  .dict ([("twin_id", .str twin.twinId), ("twin_fingerprint", .str twin.twinFingerprint)] ++ twin.facts)

def TwinPlanGap.dump (gap : TwinPlanGap) : Json :=
  .dict [("deny_case_id", .str gap.denyCaseId), ("code", .str gap.code.value), ("detail", .str gap.detail)]

end Writing

def PermissionTwin.validateTwin (digest : Digest) (twin : PermissionTwin) : Except Raised Unit := do
  require (∀ value ∈ twin.allowCase.expectations, value = .ALLOW)
    (.ValueError "twin allow case must contain only ALLOW expectations")
  require (∀ value ∈ twin.denyCase.expectations, value = .DENY)
    (.ValueError "twin deny case must contain only DENY expectations")
  require (twin.variedDimension = twin.mutation.dimension)
    (.ValueError "twin mutation dimension must match varied_dimension")
  require (twin.allowCase.actionId = twin.denyCase.actionId ∧ twin.allowCase.actionId = twin.invariant.actionId)
    (.ValueError "twin action invariant is inconsistent")
  require (twin.allowCase.resourceIds = twin.denyCase.resourceIds ∧
      twin.allowCase.resourceIds = twin.invariant.resourceIds)
    (.ValueError "twin resource invariant is inconsistent")
  let expected := canonicalSha256 digest (.dict twin.facts)
  require (twin.twinId = "twin-" ++ digest.short expected ∧ twin.twinFingerprint = expected)
    (.ValueError "twin fingerprint does not match its semantic payload")

def DifferentialExperimentPlan.validatePlan (digest : Digest) (plan : DifferentialExperimentPlan) :
    Except Raised Unit := do
  require (plan.twins.map (·.twinId)).Nodup (.ValueError "differential twin IDs must be unique")
  require (plan.twins.map (·.denyCase.caseId)).Nodup (.ValueError "each DENY case can belong to only one twin")
  require (plan.gaps.map (·.denyCaseId)).Nodup (.ValueError "differential gaps must be unique per DENY case")
  let expected := canonicalSha256 digest (.dict
    [("coverage_plan_fingerprint", .str plan.coveragePlanFingerprint),
      ("twins", .list (plan.twins.map (·.dump))), ("gaps", .list (plan.gaps.map (·.dump)))])
  require (plan.differentialPlanId = "dplan-" ++ digest.short expected ∧ plan.differentialFingerprint = expected)
    (.ValueError "differential plan fingerprint does not match its semantic payload")

section Building

variable (digest : Digest) (coverage : PermissionMutationPlan) (frozen : FrozenInvariants)

/-- The ordinary cases that expect the same of every resource. -/
def ordinaryCases (expectation : Expectation) : List PermissionMutationCase :=
  coverage.cases.filter fun case =>
    case.batchMode = none ∧ ∀ value ∈ case.expectations, value = expectation

/-- The controls of a denied case: what the same action on the same resources is observed by. -/
def controls (deny : PermissionMutationCase) : List PermissionMutationCase :=
  (ordinaryCases coverage .ALLOW).filter fun allow => allow.actionId = deny.actionId ∧
    allow.resourceIds = deny.resourceIds ∧ allow.requiredObservations = deny.requiredObservations

def distance (deny allow : PermissionMutationCase) : Nat := (variationFields allow deny).length

def controlOrder (deny allow : PermissionMutationCase) : Nat ×ₗ String :=
  toLex (distance deny allow, allow.fingerprint)

def twinGap (deny : PermissionMutationCase) (code : TwinPlanGapCode) (detail : String) : TwinPlanGap :=
  ⟨deny.caseId, code, detail⟩

/-- The invariants of the action, when all of them are frozen. -/
def invariantOf (deny : PermissionMutationCase) : Option TwinInvariantSpecification := do
  let workflow ← frozen.workflowFingerprints deny.actionId
  let effect ← frozen.effectFingerprints deny.actionId
  let baseline ← frozen.baselineFingerprints deny.actionId
  return {
    actionId := deny.actionId
    resourceIds := deny.resourceIds
    workflowFingerprint := workflow
    effectFingerprint := effect
    observerFingerprint := frozen.observerFingerprint
    baselineFingerprint := baseline
    normalizationVersion := frozen.normalizationVersion }

def mutationOf (allow deny : PermissionMutationCase) (dimension : CoverageDimension) (changedFields : List String) :
    PermissionMutationDescriptor where
  dimension := dimension
  changedFields := changedFields
  allowValueFingerprint := canonicalSha256 digest (variationPayload allow changedFields)
  denyValueFingerprint := canonicalSha256 digest (variationPayload deny changedFields)

def sealTwin (content : TwinContent) : PermissionTwin :=
  let fingerprint := canonicalSha256 digest (.dict content.facts)
  { content with
    twinId := "twin-" ++ digest.short fingerprint
    twinFingerprint := fingerprint }

/-- The twin of a denied case with its control; the constructor checks it. -/
def createTwin (allow deny : PermissionMutationCase) (dimension : CoverageDimension) (changedFields : List String)
    (invariant : TwinInvariantSpecification) : Except Raised PermissionTwin := do
  -- a case without a rule is refused before it gets here
  let sourceRuleId ← orRaise deny.sourceRuleIds.head? (.ValueError "source_rule_ids")
  let twin := sealTwin digest {
    sourceRuleId := sourceRuleId
    allowCase := allow
    denyCase := deny
    variedDimension := dimension
    mutation := mutationOf digest allow deny dimension changedFields
    invariant := invariant }
  twin.validateTwin digest
  return twin

/-- What becomes of one denied case. -/
def settleDenied (deny : PermissionMutationCase) : Except Raised (TwinPlanGap ⊕ PermissionTwin) :=
  match sortedBy (controlOrder deny) (controls coverage deny) with
  | [] => return .inl (twinGap deny .MISSING_ALLOW_CONTROL "没有同动作、同资源和同观察要求的 ALLOW 控制")
  | allow :: others =>
    if others.head?.any fun second => distance deny allow = distance deny second then
      return .inl (twinGap deny .AMBIGUOUS_ALLOW_CONTROL "存在多个同等接近的 ALLOW 控制")
    else match variation allow deny with
      | (none, _) => return .inl (twinGap deny .MULTIPLE_VARIATIONS "ALLOW 与 DENY 之间不是一个可解释的权限变化")
      | (some dimension, changedFields) =>
        match invariantOf frozen deny with
        | none => return .inl (twinGap deny .MISSING_INVARIANT "工作流、效果或基线不变量尚未冻结")
        | some invariant => do
          let twin ← createTwin digest allow deny dimension changedFields invariant
          return .inr twin

def sealDifferentialPlan (twins : List PermissionTwin) (gaps : List TwinPlanGap) : DifferentialExperimentPlan :=
  let fingerprint := canonicalSha256 digest (.dict
    [("coverage_plan_fingerprint", .str coverage.planFingerprint),
      ("twins", .list (twins.map (·.dump))), ("gaps", .list (gaps.map (·.dump)))])
  { differentialPlanId := "dplan-" ++ digest.short fingerprint
    differentialFingerprint := fingerprint
    coveragePlanFingerprint := coverage.planFingerprint
    twins := twins
    gaps := gaps }

def buildDifferentialExperimentPlan : Except Raised DifferentialExperimentPlan := do
  let settled ← (sortedBy (·.caseId) (ordinaryCases coverage .DENY)).mapM (settleDenied digest coverage frozen)
  let plan := sealDifferentialPlan digest coverage (sortedBy (·.twinId) (settled.filterMap Sum.getRight?))
    (sortedBy (·.denyCaseId) (settled.filterMap Sum.getLeft?))
  plan.validatePlan digest
  return plan

end Building

end Jiejian.Coverage.Differential
