import Jiejian.Checks.Plan
import Jiejian.Protocol.Requests

namespace Jiejian.Checks.ProjectPlan

open Library.Document Library.Sorting Errors Protocol.Codec Protocol.Actions Protocol.Scenarios Protocol.Requests Plan

structure ProjectCheckPlan where
  projectId : String
  sourceFingerprint : Option String
  policyEpoch : Nat
  engineVersion : String
  actions : List ActionCheckPlan
  gaps : List CheckPlanGap
  planFingerprint : String
  scenario : Option FrozenBusinessScenario := none
  deriving DecidableEq, Repr

/-- The document whose hash is the plan fingerprint. -/
def ProjectCheckPlan.facts (plan : ProjectCheckPlan) : Json :=
  .dict ([("project_id", .str plan.projectId), ("source_fingerprint", nullable .str plan.sourceFingerprint),
    ("policy_epoch", natural plan.policyEpoch), ("engine_version", .str plan.engineVersion),
    ("actions", .list (plan.actions.map (·.dump))), ("gaps", .list (plan.gaps.map (·.dump)))] ++
    optionalField "scenario" (·.dump) plan.scenario)

def sealPlan (digest : Digest) (plan : ProjectCheckPlan) : ProjectCheckPlan :=
  { plan with planFingerprint := contentHash digest "ProjectCheckPlan" plan.facts }

def inputOrder (input : PreparedActionInput) : String ×ₗ Nat :=
  toLex (input.action.actionId, input.action.revision)

def compileProjectCheckPlan (digest : Digest) (projectId : String) (sourceFingerprint : Option String)
    (policyEpoch : Nat) (engineVersion configFingerprint : String) (actions : List PreparedActionInput) :
    Except Raised ProjectCheckPlan := do
  let compiled ← (sortedBy inputOrder actions).mapM fun item =>
    compileAction digest item sourceFingerprint configFingerprint
  return sealPlan digest {
    projectId := projectId
    sourceFingerprint := sourceFingerprint
    policyEpoch := policyEpoch
    engineVersion := engineVersion
    actions := compiled
    gaps := compiled.flatMap (·.gaps)
    planFingerprint := "" }

def executionAction (action : ActionCheckPlan) : ExecutionAction where
  actionId := action.actionId
  actionRevision := action.actionRevision
  actionSemanticFingerprint := action.actionSemanticFingerprint
  cases := action.cases
  twins := action.twins

/-- A plan `build_execution_request` accepts: no gaps, and some case for each of its actions. -/
def ProjectCheckPlan.Complete (plan : ProjectCheckPlan) : Prop :=
  plan.gaps = [] ∧ plan.actions ≠ [] ∧ ∀ action ∈ plan.actions, action.cases ≠ []

/-- The request `build_execution_request` makes of a complete plan. -/
def executionRequest (plan : ProjectCheckPlan) (configFingerprint budgetFingerprint : String)
    (environment : Option FrozenEnvironment) (changeContext : Option ChangeContext)
    (repairContext : Option RepairContext) : ExecutionRequest where
  schemaVersion := if environment.isSome then .two else .one
  environment := environment
  projectId := plan.projectId
  sourceFingerprint := plan.sourceFingerprint
  policyEpoch := plan.policyEpoch
  engineVersion := plan.engineVersion
  planFingerprint := plan.planFingerprint
  actions := plan.actions.map executionAction
  configFingerprint := configFingerprint
  budgetFingerprint := budgetFingerprint
  changeContext := changeContext
  repairContext := repairContext
  scenario := plan.scenario

end Jiejian.Checks.ProjectPlan
