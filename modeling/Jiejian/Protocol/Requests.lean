import Jiejian.Protocol.Scenarios

namespace Jiejian.Protocol.Requests

open Library Library.Document Library.Outcome Library.Sorting Errors Codec Conditions Cases Actions Scenarios

structure ChangeContext where
  changeId : String
  impactFingerprint : String
  requiredIntentIds : List String
  deriving DecidableEq, Repr

structure RepairContext where
  repairReference : String
  sourceRunId : String
  originalPolicyEpoch : Nat
  originalIntents : List PermissionReference
  selectedAllowPermission : PermissionReference
  resourceId : String
  resourceOwnerTestIdentityId : String
  ownerIdentityFingerprint : String
  mustDisappearEffectIds : List String
  originalEvidenceStandardFingerprints : List String
  allowRegressionCaseFingerprints : List String
  deriving DecidableEq, Repr

structure ExternalRecheckContext where
  sourceEnvironmentFingerprint : String
  deploymentStatement : String
  deriving DecidableEq, Repr

inductive Disposition where
  | IN_SCOPE
  | PREPARATION
  | OUT_OF_SCOPE
  deriving DecidableEq, Repr

inductive TimeScope where
  | CHECK_WINDOW
  | HISTORY
  | NOT_APPLICABLE
  deriving DecidableEq, Repr

structure FrozenRequirement where
  requirementId : String
  requirement : String
  disposition : Disposition
  timeScope : TimeScope
  permissions : List PermissionReference
  deriving DecidableEq, Repr

structure FrozenRequirementScope where
  candidateId : String
  revision : Nat
  requirements : List FrozenRequirement
  deriving DecidableEq, Repr

structure FrozenCheckSelection where
  selected : List PermissionReference
  addedControls : List PermissionReference
  omitted : List PermissionReference
  uncoveredRequirements : List String
  pendingReviewIds : List String
  deriving DecidableEq, Repr

/-- The environment snapshot; only its presence decides anything here. -/
structure FrozenEnvironment where
  environmentId : String
  revision : Nat
  name : String
  deploymentLabel : Option String
  deriving DecidableEq, Repr

inductive SchemaVersion where
  | one
  | two
  deriving DecidableEq, Repr

structure ExecutionRequest where
  schemaVersion : SchemaVersion := .one
  environment : Option FrozenEnvironment := none
  requirementScope : List FrozenRequirementScope := []
  selection : Option FrozenCheckSelection := none
  projectId : String
  sourceFingerprint : Option String
  policyEpoch : Nat
  engineVersion : String
  planFingerprint : String
  actions : List ExecutionAction
  configFingerprint : String
  budgetFingerprint : String
  changeContext : Option ChangeContext := none
  repairContext : Option RepairContext := none
  externalRecheck : Option ExternalRecheckContext := none
  scenario : Option FrozenBusinessScenario := none
  deriving DecidableEq, Repr

def ExecutionRequest.cases (request : ExecutionRequest) : List ExecutionCase :=
  request.actions.flatMap (·.cases)

/-- Who an identity is: its actor, the actor's revision and the identity's fingerprint. -/
abbrev IdentityFacts := String × Nat × Option String

/-- The identities a case names, with what it says about each. -/
def identityFacts (case : ExecutionCase) : List (String × IdentityFacts) :=
  (match case.subjectTestIdentityId with
    | none => []
    | some id => [(id, case.subjectActorId, case.subjectActorRevision, case.subjectIdentityFingerprint)]) ++
  [(case.resourceOwnerTestIdentityId, case.resourceOwnerActorId, case.resourceOwnerActorRevision,
    some case.ownerIdentityFingerprint)]

/-- `identities.setdefault(identity_id, facts) != facts`. -/
def setDefault (identities : List (String × IdentityFacts)) (entry : String × IdentityFacts) :
    Except Raised (List (String × IdentityFacts)) :=
  match Table.lookup Prod.fst identities entry.1 with
  | some stored => if stored.2 = entry.2 then .ok identities else .error (.ValueError "cross case identity facts")
  | none => .ok (identities ++ [entry])

/-- The walk over the cases of a request; the state is what is known of each identity. -/
def validateCaseFacts (request : ExecutionRequest) (identities : List (String × IdentityFacts))
    (case : ExecutionCase) : Except Raised (List (String × IdentityFacts)) := do
  require (case.sourceFingerprint = request.sourceFingerprint ∧ case.configFingerprint = request.configFingerprint)
    (.ValueError "case source configuration")
  (identityFacts case).foldlM setDefault identities

/-- An action in the order of the plan document. -/
def planCase (case : ExecutionCase) : ExecutionCase :=
  { case with proofRequirements := sortedBy EffectProofRequirement.order case.proofRequirements }

def planAction (action : ExecutionAction) : Json :=
  .dict [("action_id", .str action.actionId), ("action_revision", natural action.actionRevision),
    ("action_semantic_fingerprint", .str action.actionSemanticFingerprint),
    ("cases", .list ((sortedBy ExecutionCase.caseId action.cases).map fun case => (planCase case).dump)),
    ("twins", .list ((sortedBy ExecutionTwin.twinId action.twins).map (·.dump))), ("gaps", .list [])]

/-- The document the plan fingerprint is recomputed from. -/
def planDocument (request : ExecutionRequest) : Json :=
  .dict ([("project_id", .str request.projectId),
    ("source_fingerprint", nullable .str request.sourceFingerprint),
    ("policy_epoch", natural request.policyEpoch), ("engine_version", .str request.engineVersion),
    ("actions", .list ((sortedBy ExecutionAction.actionId request.actions).map planAction)), ("gaps", .list [])] ++
    optionalField "scenario" (·.dump) request.scenario)

def ExecutionRequest.validateProject (digest : Digest) (request : ExecutionRequest) : Except Raised Unit := do
  require (request.schemaVersion = .two ↔ request.environment ≠ none)
    (.ValueError "environment snapshot requires execution request version 2")
  require (request.sourceFingerprint = none → request.environment ≠ none)
    (.ValueError "source-free execution requires a frozen environment")
  require (request.externalRecheck ≠ none → request.environment ≠ none ∧ request.sourceFingerprint = none ∧
      request.repairContext ≠ none ∧ request.changeContext = none)
    (.ValueError "external recheck requires its original contract and external environment")
  require (request.environment = none →
      ∀ case ∈ request.cases, ∀ proof ∈ case.proofRequirements, proof.rule ≠ .HTTP_ENTITY_QUERY)
    (.ValueError "entity proof requires a frozen environment")
  require (request.actions.map (·.actionId)).Nodup (.ValueError "duplicate action")
  require (request.cases.map (·.caseId)).Nodup (.ValueError "cross action case identity")
  let _ ← request.cases.foldlM (validateCaseFacts request) []
  match request.scenario with
  | some scenario => validateScenarioCases digest scenario request.actions
  | none => require (∀ case ∈ request.cases, case.occurrenceId = none) (.ValueError "orphan scenario occurrence")
  require (request.planFingerprint = contentHash digest "ProjectCheckPlan" (planDocument request))
    (.ValueError "plan content identity")

/-- An in-scope requirement that the cases of the request do not cover. -/
def uncoveredRequirement (covered : List PermissionReference) (item : FrozenRequirement) : Bool :=
  item.disposition = .IN_SCOPE ∧ (item.permissions = [] ∨ ¬ item.permissions ⊆ covered ∨ item.timeScope = .HISTORY)

def requirementLabel (scope : FrozenRequirementScope) (item : FrozenRequirement) : String :=
  scope.candidateId ++ "@" ++ toString scope.revision ++ "/" ++ item.requirementId

def uncoveredRequirements (covered : List PermissionReference) (scopes : List FrozenRequirementScope) : List String :=
  scopes.flatMap fun scope => (scope.requirements.filter (uncoveredRequirement covered)).map (requirementLabel scope)

def controlPermissions (request : ExecutionRequest) : List PermissionReference :=
  (request.cases.filter fun case => .ALLOW_CONTROL ∈ case.roles).map (·.permissionKey)

def validateSelection (request : ExecutionRequest) (covered : List PermissionReference) (uncovered : List String)
    (selection : FrozenCheckSelection) : Except Raised Unit := do
  require (request.changeContext ≠ none ∨ request.repairContext ≠ none →
      ∃ repair ∈ request.repairContext, SameSet repair.originalIntents covered)
    (.ValueError "original-case revalidation cannot narrow its scope")
  require (SameSet (selection.selected ++ selection.addedControls) covered)
    (.ValueError "selected scope does not match executed cases")
  require (selection.addedControls ⊆ controlPermissions request)
    (.ValueError "automatically added rules must be normal controls")
  require (sortedBy id uncovered = selection.uncoveredRequirements)
    (.ValueError "uncovered business requirements must remain explicit")

def ExecutionRequest.requirementsMatchCases (request : ExecutionRequest) : Except Raised Unit := do
  let covered := request.cases.map (·.permissionKey)
  require (∀ scope ∈ request.requirementScope, ∀ item ∈ scope.requirements,
      item.disposition ≠ .IN_SCOPE → item.permissions = [])
    (.ValueError "outside requirement must not claim checked rules")
  let uncovered := uncoveredRequirements covered request.requirementScope
  match request.selection with
  | none => require (uncovered = []) (.ValueError "frozen requirement is not covered by current cases")
  | some selection => validateSelection request covered uncovered selection

def validateActionCase (digest : Digest) (case : ExecutionCase) : Except Raised Unit := do
  case.permission.validateSemantics
  case.proofRequirements.forM (·.validateProof digest)
  case.validateCase

/-- Everything the reader of a request checks. -/
def ExecutionRequest.validate (digest : Digest) (request : ExecutionRequest) : Except Raised Unit := do
  request.actions.forM fun action => do
    action.cases.forM (validateActionCase digest)
    action.validateTwins digest
  request.validateProject digest
  request.requirementsMatchCases

end Jiejian.Protocol.Requests
