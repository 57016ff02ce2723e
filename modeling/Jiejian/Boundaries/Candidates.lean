import Jiejian.Boundaries.Scenarios

namespace Jiejian.Boundaries.Candidates

open Library Library.Document Library.Outcome Library.Sorting
open Protocol.Codec Preparation.Models Proposals Scenarios

inductive ReviewSource where
  | unresolved_questions
  | unsupported_constraints
  deriving DecidableEq, Repr

def ReviewSource.value : ReviewSource → String
  | .unresolved_questions => "unresolved_questions"
  | .unsupported_constraints => "unsupported_constraints"

inductive ReviewOutcome where
  | NOT_SEPARATE_ACTION
  | AGENT_OVERINTERPRETATION
  | REPRESENTED_BY_RULES
  | BUSINESS_RULE
  | PREPARATION_DEPENDENCY
  | EVIDENCE_GAP
  | COVERAGE_GAP
  | DEFER
  deriving DecidableEq, Repr

/-- `RESOLVED_OUTCOMES`. -/
def ReviewOutcome.resolved (outcome : ReviewOutcome) : Bool :=
  outcome = .NOT_SEPARATE_ACTION ∨ outcome = .AGENT_OVERINTERPRETATION ∨ outcome = .REPRESENTED_BY_RULES

structure BoundaryReviewRecord where
  operationId : String
  expectedBasisId : String
  expectedRevision : Nat
  issueId : String
  issueFingerprint : String
  outcome : ReviewOutcome
  reason : String
  retainedRequirement : String
  permissionItemIds : List String := []
  decisionId : String
  source : ReviewSource
  text : String
  outputRevision : Nat
  createdAtUs : Nat
  deriving DecidableEq, Repr

/-- A saved revision. `records` stands for the scope decisions, the coverage links and the notes that are carried along. -/
structure RuleCandidateRevision (ρ : Type) where
  revision : Nat
  basisId : String
  content : CandidateContent RuleScenario
  boundaryReviews : List BoundaryReviewRecord := []
  records : ρ

structure RuleCandidateSave (κ : Type) where
  expectedBasisId : String
  expectedRevision : Option Nat
  content : CandidateContent RuleScenarioInput
  merge : Bool := false
  assistance : κ

inductive DecisionAction where
  | SELECT
  | CORRECT
  | DEFER
  | DISMISS
  deriving DecidableEq, Repr

def DecisionAction.value : DecisionAction → String
  | .SELECT => "SELECT"
  | .CORRECT => "CORRECT"
  | .DEFER => "DEFER"
  | .DISMISS => "DISMISS"

structure RuleCandidateDecide where
  operationId : String
  expectedBasisId : String
  expectedRevision : Nat
  scenarioId : String
  scenarioFingerprint : String
  action : DecisionAction
  optionId : Option String := none
  correction : Option String := none
  deriving DecidableEq, Repr

def RuleCandidateDecide.fields (command : RuleCandidateDecide) : List (String × Json) :=
  [("operation_id", .str command.operationId), ("expected_basis_id", .str command.expectedBasisId),
    ("expected_revision", natural command.expectedRevision), ("scenario_id", .str command.scenarioId),
    ("scenario_fingerprint", .str command.scenarioFingerprint), ("action", .str command.action.value),
    ("option_id", nullable .str command.optionId), ("correction", nullable .str command.correction)]

/-- The validator of a decision: an option is given to select it, a text to correct or to dismiss the scenario. -/
def RuleCandidateDecide.actionPayload (command : RuleCandidateDecide) : Except CandidateError Unit := do
  require (command.optionId.isSome ↔ command.action = .SELECT) .INPUT_INVALID
  require (command.correction.isSome ↔ command.action = .CORRECT ∨ command.action = .DISMISS) .INPUT_INVALID

structure RuleCandidateDecision extends RuleCandidateDecide where
  decisionId : String
  projectId : String
  candidateId : String
  outputRevision : Nat
  requestFingerprint : String
  createdAtUs : Nat
  deriving DecidableEq, Repr

def RuleCandidateDecision.dump (decision : RuleCandidateDecision) : Json :=
  .dict (decision.fields ++ [("schema_version", .str "1"), ("decision_id", .str decision.decisionId),
    ("project_id", .str decision.projectId), ("candidate_id", .str decision.candidateId),
    ("output_revision", natural decision.outputRevision), ("submitted_via", .str "LOCAL_GUI"),
    ("request_fingerprint", .str decision.requestFingerprint), ("created_at_us", natural decision.createdAtUs)])

/-- The stored revisions of one candidate, the head last, and the human decisions about it. -/
structure Candidate (ρ : Type) where
  revisions : List (RuleCandidateRevision ρ) := []
  decisions : List RuleCandidateDecision := []

section Storage

variable {ρ : Type} (candidate : Candidate ρ)

def Candidate.head : Option (RuleCandidateRevision ρ) := candidate.revisions.getLast?

def Candidate.get (revision : Nat) : Option (RuleCandidateRevision ρ) :=
  Table.lookup RuleCandidateRevision.revision candidate.revisions revision

def Candidate.decisionsUpTo (revision : Nat) : List RuleCandidateDecision :=
  sortedBy (·.outputRevision) (candidate.decisions.filter fun decision => decision.outputRevision ≤ revision)

end Storage

/-- The rules that are in force: what a candidate would change. -/
structure MaintenanceDraft where
  basisId : String
  actors : List ProposedActorItem := []
  actions : List ProposedActionItem := []
  permissions : List ProposedPermissionItem := []

section Content

variable (reading : Reading)

/-- The input that the frozen content was made of. -/
def thawed (content : CandidateContent RuleScenario) : CandidateContent RuleScenarioInput where
  originalText := content.originalText
  actors := content.actors
  actions := content.actions
  permissions := content.permissions
  examples := content.examples
  unresolvedQuestions := content.unresolvedQuestions
  unsupportedConstraints := content.unsupportedConstraints
  scenarios := content.scenarios.map (·.toRuleScenarioInput)
  requirementSources := content.requirementSources
  coverageSuggestions := content.coverageSuggestions

/-- The validators of `ScopedCandidateContent` that look at several fields. -/
def verifiedContent (content : CandidateContent RuleScenario) : Except CandidateError Unit := do
  require ((content.actors.map (·.itemId)).Nodup ∧ (content.actions.map (·.itemId)).Nodup ∧
    (content.permissions.map (·.itemId)).Nodup ∧ (content.requirementSources.map (·.requirementId)).Nodup) .INPUT_INVALID
  require ((content.scenarios.map (·.scenarioId)).Nodup) .scenario_id_duplicate
  require (∀ scenario ∈ content.scenarios, ∀ option ∈ scenario.options,
    option.itemIds ⊆ content.permissions.map (·.itemId)) .scenario_replacement_outside
  require (∀ source ∈ content.requirementSources, source.permissionItemIds ⊆ content.permissions.map (·.itemId))
    .requirement_permission_outside

/-- `scoped_content`. -/
def scopedContent (content : CandidateContent RuleScenarioInput) : Except CandidateError (CandidateContent RuleScenario) := do
  let scenarios ← content.scenarios.mapM (freezeScenario reading content)
  let frozen : CandidateContent RuleScenario :=
    { originalText := content.originalText
      actors := content.actors
      actions := content.actions
      permissions := content.permissions
      examples := content.examples
      unresolvedQuestions := content.unresolvedQuestions
      unsupportedConstraints := content.unsupportedConstraints
      scenarios := scenarios
      requirementSources := content.requirementSources
      coverageSuggestions := content.coverageSuggestions }
  verifiedContent frozen
  return frozen

/-- `items.update`: an item of a known id takes the place of the earlier one. -/
def mergedBy {α : Type} (key : α → String) (items incoming : List α) : List α := incoming.foldl (Table.put key) items

/-- `item.permission_item_id or item.description`. -/
def exampleKey (item : RuleExample) : String := item.permissionItemId.getD item.description

/-- `merge_content`. A scenario that is not sent again is dumped with its text hash, which the input does not allow. -/
def mergeContent {ρ : Type} (current : Option (RuleCandidateRevision ρ)) (incoming : CandidateContent RuleScenarioInput) :
    Except CandidateError (CandidateContent RuleScenarioInput) := do
  let current ← orRaise current .INPUT_INVALID
  let known := thawed current.content
  require (incoming.originalText = known.originalText) .STATE_PRECONDITION
  require (known.scenarios.map (·.scenarioId) ⊆ incoming.scenarios.map (·.scenarioId)) .INPUT_INVALID
  return {
    originalText := known.originalText
    actors := mergedBy (·.itemId) known.actors incoming.actors
    actions := mergedBy (·.itemId) known.actions incoming.actions
    permissions := mergedBy (·.itemId) known.permissions incoming.permissions
    examples := mergedBy exampleKey known.examples incoming.examples
    unresolvedQuestions := (known.unresolvedQuestions ++ incoming.unresolvedQuestions).eraseDups
    unsupportedConstraints := (known.unsupportedConstraints ++ incoming.unsupportedConstraints).eraseDups
    scenarios := mergedBy (·.scenarioId) known.scenarios incoming.scenarios
    requirementSources := mergedBy (·.requirementId) known.requirementSources incoming.requirementSources
    coverageSuggestions := mergedBy (·.issueId) known.coverageSuggestions incoming.coverageSuggestions }

/-- `_merge` for one kind of item: an item may not take the place of another object, nor name an old revision. -/
def mergedItems {α : Type} (itemId : α → String) (formalId : α → Option String) (expected : α → Option Nat)
    (existing incoming : List α) : Except CandidateError (List α) :=
  incoming.foldlM (fun values item => do
    let current := Table.lookup itemId values (itemId item)
    require (∀ known ∈ current, formalId known = formalId item) .STATE_PRECONDITION
    require (formalId item = none ∨ current.map expected = some (expected item)) .STATE_PRECONDITION
    return Table.put itemId values item) existing

/-- `RuleCandidateService._merge`: the content fits the rules that are in force. -/
def mergeRules {σ : Type} (draft : MaintenanceDraft) (basisId : String) (content : CandidateContent σ) :
    Except CandidateError Unit := do
  require (basisId = draft.basisId) .CONTEXT_STALE
  let actors ← mergedItems (·.itemId) (·.actorId) (·.expectedCurrentRevision) draft.actors content.actors
  let actions ← mergedItems (·.itemId) (·.actionId) (·.expectedCurrentRevision) draft.actions content.actions
  let permissions ← mergedItems (·.itemId) (·.intentId) (·.expectedCurrentRevision) draft.permissions content.permissions
  require (∀ permission ∈ permissions, permission.subjectActorItemId ∈ actors.map (·.itemId) ∧
    permission.resourceOwnerActorItemId ∈ actors.map (·.itemId) ∧
    (Table.lookup (·.itemId) actions permission.businessActionItemId).any fun action =>
      permission.protectedEffectItemIds ⊆ action.effectCatalog.map (·.itemId)) .STATE_PRECONDITION

end Content

section Choices

variable {ρ : Type} (reading : Reading) (candidate : Candidate ρ) (content : CandidateContent RuleScenario)

/-- An older decision still applies when the dependencies of its scenario are those of the revision it was made on. -/
def sameDependencies (scenario : RuleScenario) (decision : RuleCandidateDecision) : Bool :=
  match candidate.get decision.expectedRevision with
  | none => false
  | some prior =>
    match prior.content.scenarios.find? fun item => item.scenarioId = scenario.scenarioId with
    | none => false
    | some old =>
      let oldKey := scenarioDependencies reading prior.content old.toRuleScenarioInput
      let newKey := scenarioDependencies reading content scenario.toRuleScenarioInput
      old.scenarioFingerprint = decision.scenarioFingerprint ∧ oldKey ≠ none ∧ oldKey = newKey

/-- The last decision about the scenario, when it is about this scenario as it stands. -/
def standingDecision (history : List RuleCandidateDecision) (scenario : RuleScenario) : Option RuleCandidateDecision :=
  (Table.latest (·.scenarioId) history scenario.scenarioId).filter fun decision =>
    decision.scenarioFingerprint = scenario.scenarioFingerprint || sameDependencies reading candidate content scenario decision

def chosenOption (scenario : RuleScenario) (decision : RuleCandidateDecision) : Option RuleScenarioOption :=
  scenario.options.find? fun option => some option.optionId = decision.optionId

/-- What is decided about one scenario; no status stands for `NEEDS_DECISION`. -/
structure ScenarioState where
  scenarioId : String
  status : Option DecisionAction
  decision : Option RuleCandidateDecision
  option : Option RuleScenarioOption
  deriving DecidableEq, Repr

def stateOf (history : List RuleCandidateDecision) (scenario : RuleScenario) : ScenarioState :=
  let decision := standingDecision reading candidate content history scenario
  let option := decision.bind (chosenOption scenario)
  let status := (decision.map (·.action)).filter fun action => action ≠ .SELECT || option.isSome
  ⟨scenario.scenarioId, status, decision, option⟩

def ScenarioState.settled (state : ScenarioState) : Bool := state.status = some .SELECT ∨ state.status = some .DISMISS

/-- The items of the options that are selected. -/
def ScenarioState.replacements (state : ScenarioState) : List ProposedPermissionItem :=
  if state.status = some .SELECT then (state.option.map (·.replacements)).getD [] else []

/-- The replacements gathered so far, and the ids that two selections disagree on. -/
structure Gathered where
  replacements : List ProposedPermissionItem := []
  conflicts : List String := []
  deriving DecidableEq, Repr

def Gathered.add (gathered : Gathered) (item : ProposedPermissionItem) : Gathered where
  replacements := Table.put (·.itemId) gathered.replacements item
  conflicts :=
    if (Table.lookup (·.itemId) gathered.replacements item.itemId).any (· ≠ item) then gathered.conflicts ++ [item.itemId]
    else gathered.conflicts

structure Choices where
  states : List ScenarioState
  replacements : List ProposedPermissionItem
  conflicts : List String
  deriving DecidableEq, Repr

/-- What the states of the scenarios select. An item in conflict takes no value. -/
def choicesOf (states : List ScenarioState) : Choices :=
  let gathered := (states.flatMap (·.replacements)).foldl Gathered.add {}
  { states := states
    replacements := gathered.replacements.filter fun item => item.itemId ∉ gathered.conflicts
    conflicts := gathered.conflicts }

/-- `scenario_state`. -/
def scenarioState (value : RuleCandidateRevision ρ) (extra : Option RuleCandidateDecision := none) : Choices :=
  let history := (if value.content.scenarios.isEmpty then [] else candidate.decisionsUpTo value.revision) ++ extra.toList
  choicesOf (value.content.scenarios.map (stateOf reading candidate value.content history))

def Choices.replacement (choices : Choices) (itemId : String) : Option ProposedPermissionItem :=
  Table.lookup (·.itemId) choices.replacements itemId

def Choices.stateOf (choices : Choices) (scenarioId : String) : Option ScenarioState :=
  Table.lookup (·.scenarioId) choices.states scenarioId

def Choices.settled (choices : Choices) (scenarioId : String) : Bool := (choices.stateOf scenarioId).any (·.settled)

end Choices

section Edits

variable {ρ : Type} (reading : Reading) (candidate : Candidate ρ) (current : RuleCandidateRevision ρ)
  (incoming : CandidateContent RuleScenario)

/-- The scenario means what it meant: the same fingerprint, or the same dependencies. -/
def sameMeaning (old new : RuleScenario) : Bool :=
  let oldKey := scenarioDependencies reading current.content old.toRuleScenarioInput
  let newKey := scenarioDependencies reading incoming new.toRuleScenarioInput
  new.scenarioFingerprint = old.scenarioFingerprint ∨ oldKey ≠ none ∧ oldKey = newKey

/-- The questions that the edit removes though they are neither asked in a scenario nor settled. -/
def missingQuestions (choices : Choices) : List Nat :=
  (current.content.unresolvedQuestions.zipIdx.filter fun (question, _) =>
    question ∉ incoming.unresolvedQuestions ∧ question ∉ incoming.scenarios.map (·.question) ∧
      ¬ ∃ scene ∈ current.content.scenarios, scene.question = question ∧ choices.settled scene.scenarioId).map
    fun (_, index) => index + 1

/-- An edit keeps an open scenario, and what a selection says as long as the scenario means the same. -/
def checkScenario (choices : Choices) (old : RuleScenario) : Except CandidateError Unit := do
  let new := incoming.scenarios.find? fun item => item.scenarioId = old.scenarioId
  require (new.isSome ∨ choices.settled old.scenarioId) (.CANDIDATE_SCENARIO_REVIEW_REQUIRED old.scenarioId)
  require (∀ scenario ∈ new, sameMeaning reading current incoming old scenario →
    ∀ state ∈ choices.stateOf old.scenarioId, state.status = some .SELECT →
      ∀ option ∈ old.options, some option.optionId = state.decision.bind (·.optionId) →
        ∀ item ∈ option.replacements, item.itemId ∈ choices.conflicts ∨
          Table.lookup (·.itemId) incoming.permissions item.itemId = choices.replacement item.itemId)
    (.CANDIDATE_SELECTED_REQUIREMENT_CHANGED old.scenarioId)

/-- `check_candidate_edit`. -/
def checkCandidateEdit : Except CandidateError Unit := do
  let choices := scenarioState reading candidate current
  let missing := missingQuestions current incoming choices
  require (missing = []) (.CANDIDATE_QUESTION_REVIEW_REQUIRED missing)
  current.content.scenarios.forM (checkScenario reading current incoming choices)

/-- Every text of the first list is in the second, as often as it is in the first. -/
def requireRetained (old new : List String) : Except CandidateError Unit := do
  let _ ← old.foldlM (fun remaining text => do
    require (text ∈ remaining) CandidateError.BOUNDARY_REVIEW_REQUIRED
    return remaining.erase text) new

/-- `protect_review_sources`. -/
def protectReviewSources : Except CandidateError Unit := do
  let reviewed := (current.boundaryReviews.filter fun item => item.source = .unresolved_questions).map (·.text)
  require (∀ scenario ∈ incoming.scenarios, scenario.question ∉ reviewed) .STATE_PRECONDITION
  requireRetained current.content.unsupportedConstraints incoming.unsupportedConstraints
  requireRetained (current.content.unresolvedQuestions.filter (· ∈ reviewed)) incoming.unresolvedQuestions

/-- `protect_scope`. -/
def protectScope : Except CandidateError Unit :=
  require (current.content.requirementSources.map (·.requirementId) ⊆ incoming.requirementSources.map (·.requirementId))
    .STATE_PRECONDITION

end Edits

end Jiejian.Boundaries.Candidates
