import Jiejian.Protocol.Actions

namespace Jiejian.Protocol.Scenarios

open Library Library.Document Library.Outcome Library.Sorting Errors Codec Conditions Cases Actions

inductive BatchStrategy where
  | ATOMIC
  | PER_ITEM
  deriving DecidableEq, Repr

def BatchStrategy.value : BatchStrategy → String
  | .ATOMIC => "ATOMIC"
  | .PER_ITEM => "PER_ITEM"

/-- `'BATCH_' + strategy`. -/
def BatchStrategy.kind : BatchStrategy → InvocationKind
  | .ATOMIC => .BATCH_ATOMIC
  | .PER_ITEM => .BATCH_PER_ITEM

inductive PathPart where
  | key (name : String)
  | index (position : Nat)
  deriving DecidableEq, Repr

def PathPart.dump : PathPart → Json
  | .key name => .str name
  | .index position => natural position

structure BatchInvocation where
  strategy : BatchStrategy
  arrayPath : List PathPart
  responseItemsPath : Option String
  responseResourceField : Option String
  deriving DecidableEq, Repr

def BatchInvocation.dump (batch : BatchInvocation) : Json :=
  .dict [("strategy", .str batch.strategy.value), ("array_path", .list (batch.arrayPath.map (·.dump))),
    ("response_items_path", nullable .str batch.responseItemsPath),
    ("response_resource_field", nullable .str batch.responseResourceField)]

structure ScenarioItem where
  id : String
  permission : PermissionReference
  subjectIdentityId : Option String
  resourceId : String
  resourceFrom : Option String
  deriving DecidableEq, Repr

def ScenarioItem.dump (item : ScenarioItem) : Json :=
  .dict ([("id", .str item.id), ("permission", item.permission.dump),
    ("subject_identity_id", nullable .str item.subjectIdentityId), ("resource_id", .str item.resourceId)] ++
    optionalField "resource_from" .str item.resourceFrom)

structure ScenarioInvocation where
  id : String
  label : String
  items : List ScenarioItem
  batch : Option BatchInvocation
  dependsOn : List String
  deriving DecidableEq, Repr

def ScenarioInvocation.dump (invocation : ScenarioInvocation) : Json :=
  .dict [("id", .str invocation.id), ("label", .str invocation.label),
    ("items", .list (invocation.items.map (·.dump))), ("batch", nullable (·.dump) invocation.batch),
    ("depends_on", strings invocation.dependsOn)]

def ScenarioInvocation.oneRequest (invocation : ScenarioInvocation) : Except Raised Unit := do
  require (invocation.batch = none → invocation.items.length = 1)
    (.ValueError "multiple items require one explicit batch invocation")
  require (invocation.batch ≠ none → ∀ item ∈ invocation.items, item.resourceFrom = none)
    (.ValueError "dynamic resources require individually correlated invocations")
  require ((invocation.items.map (·.id)).Nodup ∧ invocation.dependsOn.Nodup)
    (.ValueError "duplicate item or dependency")
  require ((invocation.items.map (·.subjectIdentityId)).dedup.length = 1)
    (.ValueError "one HTTP invocation has one actual principal")

inductive ExperimentKind where
  | NORMAL
  | OMIT
  | REORDER
  | REPEAT
  | CHANGE_SUBJECT
  | REVOKE
  deriving DecidableEq, Repr

def ExperimentKind.value : ExperimentKind → String
  | .NORMAL => "NORMAL"
  | .OMIT => "OMIT"
  | .REORDER => "REORDER"
  | .REPEAT => "REPEAT"
  | .CHANGE_SUBJECT => "CHANGE_SUBJECT"
  | .REVOKE => "REVOKE"

structure ScenarioExperiment where
  id : String
  label : String
  kind : ExperimentKind
  controlExperimentId : Option String
  invocations : List ScenarioInvocation
  deriving DecidableEq, Repr

def ScenarioExperiment.dump (experiment : ScenarioExperiment) : Json :=
  .dict [("id", .str experiment.id), ("label", .str experiment.label), ("kind", .str experiment.kind.value),
    ("control_experiment_id", nullable .str experiment.controlExperimentId),
    ("invocations", .list (experiment.invocations.map (·.dump)))]

/-- The walk over a normal sequence; `seen` are the invocations before the present one. -/
def normalOrder : List String → List ScenarioInvocation → Except Raised Unit
  | _, [] => .ok ()
  | seen, invocation :: rest => do
    require (invocation.dependsOn ⊆ seen)
      (.ValueError "normal business sequence must satisfy its declared dependencies")
    require (∀ item ∈ invocation.items, ∀ producer ∈ item.resourceFrom, producer ∈ seen)
      (.ValueError "normal resource consumers must follow their producer")
    normalOrder (seen ++ [invocation.id]) rest

def ScenarioExperiment.finiteOrder (experiment : ScenarioExperiment) : Except Raised Unit := do
  require (experiment.invocations.map (·.id)).Nodup
    (.ValueError "each occurrence needs a distinct invocation ID")
  match experiment.kind with
  | .NORMAL => normalOrder [] experiment.invocations
  | _ => require (experiment.controlExperimentId ≠ none) (.ValueError "a challenge requires an explicit normal experiment")

structure BusinessScenarioRevision where
  id : String
  projectId : String
  revision : Nat
  label : String
  description : String
  experiments : List ScenarioExperiment
  deriving DecidableEq, Repr

def BusinessScenarioRevision.dump (document : BusinessScenarioRevision) : Json :=
  .dict [("document_type", .str "jiejian.business-scenario"), ("schema_version", .str "1"), ("id", .str document.id),
    ("project_id", .str document.projectId), ("revision", natural document.revision),
    ("label", .str document.label), ("description", .str document.description),
    ("experiments", .list (document.experiments.map (·.dump)))]

/-- The experiment a challenge is compared with. -/
def controlOf (document : BusinessScenarioRevision) (experiment : ScenarioExperiment) :
    Option ScenarioExperiment :=
  experiment.controlExperimentId.bind fun wanted => document.experiments.find? fun item => item.id = wanted

def BusinessScenarioRevision.normalControls (document : BusinessScenarioRevision) : Except Raised Unit := do
  require ((document.experiments.map (·.id)).Nodup ∧ ∃ item ∈ document.experiments, item.kind = .NORMAL)
    (.ValueError "experiments need unique IDs and a normal control")
  document.experiments.forM fun item =>
    require (∀ wanted ∈ item.controlExperimentId, wanted ≠ item.id ∧
        ∃ control ∈ document.experiments, control.id = wanted ∧ control.kind = .NORMAL)
      (.ValueError "control must reference another complete normal experiment")

/-- What reading a scenario document checks. -/
def BusinessScenarioRevision.validate (document : BusinessScenarioRevision) : Except Raised Unit := do
  document.experiments.forM fun experiment => do
    experiment.invocations.forM (·.oneRequest)
    experiment.finiteOrder
  document.normalControls

structure FrozenScenarioInvocation where
  experimentId : String
  invocationId : String
  caseIds : List String
  deriving DecidableEq, Repr

def FrozenScenarioInvocation.dump (invocation : FrozenScenarioInvocation) : Json :=
  .dict [("experiment_id", .str invocation.experimentId), ("invocation_id", .str invocation.invocationId),
    ("case_ids", strings invocation.caseIds)]

def FrozenScenarioInvocation.key (invocation : FrozenScenarioInvocation) : String × String :=
  (invocation.experimentId, invocation.invocationId)

structure FrozenBusinessScenario where
  document : BusinessScenarioRevision
  fingerprint : String
  invocations : List FrozenScenarioInvocation
  deriving DecidableEq, Repr

def FrozenBusinessScenario.dump (scenario : FrozenBusinessScenario) : Json :=
  .dict [("document", scenario.document.dump), ("fingerprint", .str scenario.fingerprint),
    ("invocations", .list (scenario.invocations.map (·.dump)))]

/-- The cases of the control experiment of the invocation a case belongs to. -/
def scenarioControlCases (scenario : FrozenBusinessScenario) (caseId : String) : Except Raised (List String) :=
  match scenario.invocations.find? fun item => caseId ∈ item.caseIds with
  | none => .ok []
  | some invocation =>
    match scenario.document.experiments.find? fun item => item.id = invocation.experimentId with
    | none => .error .StopIteration
    | some experiment =>
      match experiment.controlExperimentId with
      | none => .ok []
      | some control =>
        .ok ((scenario.invocations.filter fun item => item.experimentId = control).flatMap (·.caseIds))

def occurrenceId (digest : Digest) (fingerprint experimentId invocationId : String) (index : Nat) : String :=
  contentId digest "occ_" "ScenarioOccurrence" (.dict [("scenario", .str fingerprint),
    ("experiment", .str experimentId), ("invocation", .str invocationId), ("index", natural index)])

/-- An item of an atomic batch that holds a forbidden item must have no effect. -/
def batchAbsent (batch : BatchInvocation) (mixed : Bool) (permission : FrozenPermission) : Bool :=
  (batch.strategy = .ATOMIC ∧ mixed = true) ∨ permission.expectation = .DENY

def batchExpectation (absent : Bool) : BatchEffectExpectation :=
  if absent then .ABSENT else .PRESENT

def anyDenied (cases : List ExecutionCase) : Bool :=
  cases.any fun case => case.permission.expectation = .DENY

def validateItem (digest : Digest) (scenario : FrozenBusinessScenario) (experimentId : String)
    (invocation : ScenarioInvocation) (mixed : Bool) (index : Nat) (item : ScenarioItem) (case : ExecutionCase) :
    Except Raised Unit := do
  require (case.permissionKey = item.permission) (.ValueError "scenario permission revision")
  require (case.occurrenceId = some (occurrenceId digest scenario.fingerprint experimentId invocation.id index) ∧
      case.subjectTestIdentityId = item.subjectIdentityId ∧ case.resourceId = item.resourceId)
    (.ValueError "scenario item identity")
  match invocation.batch with
  | none => require (case.invocationKind = none) (.ValueError "single invocation cannot use batch obligations")
  | some batch =>
    require (case.invocationKind = some batch.strategy.kind ∧
        case.batchEffectExpectation = some (batchExpectation (batchAbsent batch mixed case.permission)))
      (.ValueError "batch policy obligation")

def frozenCaseIds (scenario : FrozenBusinessScenario) (experimentId invocationId : String) :
    Except Raised (List String) :=
  (orRaise (Table.latest FrozenScenarioInvocation.key scenario.invocations (experimentId, invocationId))
    .KeyError).map (·.caseIds)

def casesOf (cases : List ExecutionCase) (ids : List String) : Except Raised (List ExecutionCase) :=
  ids.mapM fun id => orRaise (Table.latest ExecutionCase.caseId cases id) .KeyError

/-- One invocation of the coverage walk; the result is `seen` with the invocation's cases added. -/
def validateInvocation (digest : Digest) (scenario : FrozenBusinessScenario) (cases : List ExecutionCase)
    (experiment : ScenarioExperiment) (seen : List String) (invocation : ScenarioInvocation) :
    Except Raised (List String) := do
  let ids ← frozenCaseIds scenario experiment.id invocation.id
  require (ids.length = invocation.items.length ∧ ∀ id ∈ ids, id ∉ seen)
    (.ValueError "scenario item occurrence coverage")
  let selected ← casesOf cases ids
  let mixed := anyDenied selected
  require (¬(experiment.kind = .NORMAL ∧ mixed = true))
    (.ValueError "normal control contains a forbidden operation")
  ((invocation.items.zip selected).zipIdx).forM fun entry =>
    validateItem digest scenario experiment.id invocation mixed entry.2 entry.1.1 entry.1.2
  return seen ++ ids

def documentInvocations (document : BusinessScenarioRevision) : List (ScenarioExperiment × ScenarioInvocation) :=
  document.experiments.flatMap fun experiment => experiment.invocations.map fun invocation => (experiment, invocation)

/-- A rule as the scenario reader sees it: its reference, its action and its conditions. -/
structure MappedPermission where
  permission : PermissionReference
  actionId : String
  conditions : Option PermissionConditions

def mappedPermissions (actions : List ExecutionAction) : List MappedPermission :=
  actions.flatMap fun action => action.cases.map fun case =>
    { permission := case.permissionKey, actionId := action.actionId, conditions := case.permission.conditions }

/-- What an invocation does, apart from the names the document gives it. -/
structure InvocationSignature where
  members : List (String × Option String × String × Option String)
  batch : Option BatchInvocation
  deriving DecidableEq

def itemSignature (permissions : List MappedPermission) (subjects : Bool) (item : ScenarioItem) :
    Except Raised (String × Option String × String × Option String) := do
  let mapped ← orRaise (Table.latest MappedPermission.permission permissions item.permission) .KeyError
  return (mapped.actionId, if subjects then item.subjectIdentityId else none, item.resourceId, item.resourceFrom)

def invocationSignature (permissions : List MappedPermission) (subjects : Bool) (invocation : ScenarioInvocation) :
    Except Raised InvocationSignature := do
  let members ← invocation.items.mapM (itemSignature permissions subjects)
  return { members := members, batch := invocation.batch }

def revokedRelationship (relation : RelationshipRequirement) : Bool :=
  (relation.kind = .SHARING ∨ relation.kind = .DELEGATION) ∧ relation.state = .REVOKED

def revokes (permissions : List MappedPermission) (experiment : ScenarioExperiment) : Bool :=
  experiment.invocations.any fun node => node.items.any fun item =>
    match Table.latest MappedPermission.permission permissions item.permission with
    | some { conditions := some conditions, .. } => conditions.relationships.any revokedRelationship
    | _ => false

/-- Whether the structure of an experiment is the variation its kind names. -/
def variantValid (permissions : List MappedPermission) (control experiment : ScenarioExperiment)
    (normal variant : List InvocationSignature) : Except Raised Bool :=
  match experiment.kind with
  | .NORMAL => .ok true
  | .OMIT => .ok (variant.length < normal.length ∧ variant.Sublist normal)
  | .REORDER => .ok (normal ≠ variant ∧ normal.Perm variant)
  | .REPEAT => .ok (normal.length < variant.length ∧ normal.Sublist variant ∧ variant ⊆ normal)
  | .CHANGE_SUBJECT => do
    let plainNormal ← control.invocations.mapM (invocationSignature permissions false)
    let plainVariant ← experiment.invocations.mapM (invocationSignature permissions false)
    return normal ≠ variant ∧ plainNormal = plainVariant
  | .REVOKE => .ok (revokes permissions experiment)

def validateVariant (document : BusinessScenarioRevision) (permissions : List MappedPermission)
    (experiment : ScenarioExperiment) : Except Raised Unit := do
  if experiment.kind = .NORMAL then
    return ()
  let control ← orRaise (controlOf document experiment) .StopIteration
  let normal ← control.invocations.mapM (invocationSignature permissions true)
  let variant ← experiment.invocations.mapM (invocationSignature permissions true)
  let valid ← variantValid permissions control experiment normal variant
  require (valid = true) (.ValueError "scenario variant does not match its claimed experiment kind")

def validateExperimentVariants (document : BusinessScenarioRevision) (permissions : List MappedPermission) :
    Except Raised Unit :=
  document.experiments.forM (validateVariant document permissions)

/-- The flow, the resource and the effects that a challenge must share with its control. -/
def caseSignature (case : ExecutionCase) : String × String × List String :=
  (case.execution.flowId, case.resourceId, case.protectedEffectIds)

/-- A normal case that can vouch for the absence a challenge case expects. -/
def vouches (case normal : ExecutionCase) : Bool :=
  caseSignature normal = caseSignature case ∧ normal.expectsAbsence = false ∧ .ALLOW_REGRESSION ∈ normal.roles

def invocationCases (scenario : FrozenBusinessScenario) (cases : List ExecutionCase) (experimentId : String)
    (invocation : ScenarioInvocation) : Except Raised (List ExecutionCase) := do
  let ids ← frozenCaseIds scenario experimentId invocation.id
  casesOf cases ids

def validateControl (scenario : FrozenBusinessScenario) (cases : List ExecutionCase)
    (experiment : ScenarioExperiment) (invocation : ScenarioInvocation) : Except Raised Unit := do
  if experiment.kind = .NORMAL then
    return ()
  let selected ← invocationCases scenario cases experiment.id invocation
  let control ← orRaise (controlOf scenario.document experiment) .StopIteration
  let nodes ← control.invocations.mapM fun item => do
    let normal ← invocationCases scenario cases control.id item
    return (item, normal)
  match invocation.batch with
  | some batch =>
    require (∃ node ∈ nodes, node.1.batch = some batch ∧ node.2.map caseSignature = selected.map caseSignature)
      (.ValueError "batch challenge needs the same complete all-allowed batch control")
  | none =>
    let normalCases := nodes.flatMap Prod.snd
    require (∀ case ∈ selected, case.expectsAbsence = true → ∃ normal ∈ normalCases, vouches case normal = true)
      (.ValueError "scenario denial needs the same full normal effect control")

def validateScenarioCases (digest : Digest) (scenario : FrozenBusinessScenario) (actions : List ExecutionAction) :
    Except Raised Unit := do
  require (scenario.fingerprint = contentHash digest "BusinessScenario" scenario.document.dump)
    (.ValueError "scenario content identity")
  let cases := actions.flatMap (·.cases)
  let declared := documentInvocations scenario.document
  require (SameSet (scenario.invocations.map (·.key)) (declared.map fun entry => (entry.1.id, entry.2.id)) ∧
      (scenario.invocations.map (·.key)).Nodup)
    (.ValueError "scenario invocation coverage")
  let seen ← declared.foldlM (fun seen entry => validateInvocation digest scenario cases entry.1 seen entry.2) []
  require (SameSet seen ((cases.filter fun case => case.occurrenceId ≠ none).map (·.caseId)))
    (.ValueError "orphan scenario case")
  validateExperimentVariants scenario.document (mappedPermissions actions)
  declared.forM fun entry => validateControl scenario cases entry.1 entry.2

end Jiejian.Protocol.Scenarios
