import Jiejian.Library.Outcome
import Jiejian.Library.Sorting
import Jiejian.Boundaries.Proposals

namespace Jiejian.Boundaries.Scenarios

open Library Library.Document Library.Schema Library.Outcome Library.Sorting
open Protocol.Codec Protocol.Separation Proposals

/-- Why a candidate is not saved, decided or approved. -/
inductive CandidateError where
  | scenario_replacement_duplicate
  | scenario_option_duplicate
  | scenario_replacement_set_mismatch
  | scenario_excerpt_mismatch
  | scenario_id_duplicate
  | scenario_replacement_outside
  | requirement_permission_outside
  | INPUT_INVALID
  | STATE_PRECONDITION
  | CONTEXT_STALE
  | CONFLICT
  | LIMIT_EXCEEDED
  | BOUNDARY_PROPOSAL_NOT_FOUND
  | CANDIDATE_QUESTION_REVIEW_REQUIRED (positions : List Nat)
  | CANDIDATE_SCENARIO_REVIEW_REQUIRED (scenarioId : String)
  | CANDIDATE_SELECTED_REQUIREMENT_CHANGED (scenarioId : String)
  | BOUNDARY_REVIEW_REQUIRED
  deriving DecidableEq, Repr

structure RuleScenarioOption where
  optionId : String
  label : String
  explanation : String
  replacements : List ProposedPermissionItem
  deriving DecidableEq, Repr

def RuleScenarioOption.dump (option : RuleScenarioOption) : Json :=
  .dict [("option_id", .str option.optionId), ("label", .str option.label), ("explanation", .str option.explanation),
    ("replacements", .list (option.replacements.map (·.dump)))]

structure RuleScenarioInput where
  scenarioId : String
  originalExcerpt : String
  occurrence : Nat := 1
  question : String
  options : List RuleScenarioOption
  deriving DecidableEq, Repr

/-- The fields of `RuleScenarioInput`. -/
def RuleScenarioInput.fields (scenario : RuleScenarioInput) : List (String × Json) :=
  [("scenario_id", .str scenario.scenarioId), ("original_excerpt", .str scenario.originalExcerpt),
    ("occurrence", natural scenario.occurrence), ("question", .str scenario.question),
    ("options", .list (scenario.options.map (·.dump)))]

def RuleScenarioInput.dump (scenario : RuleScenarioInput) : Json := .dict scenario.fields

def RuleScenarioOption.itemIds (option : RuleScenarioOption) : List String := option.replacements.map (·.itemId)

/-- The validators of a scenario and of its options. -/
def RuleScenarioInput.boundedOptions (scenario : RuleScenarioInput) : Except CandidateError Unit := do
  require (∀ option ∈ scenario.options, option.itemIds.Nodup) .scenario_replacement_duplicate
  require ((scenario.options.map (·.optionId)).Nodup) .scenario_option_duplicate
  require (∀ option ∈ scenario.options, ∀ other ∈ scenario.options, SameSet option.itemIds other.itemIds)
    .scenario_replacement_set_mismatch

structure RuleScenario extends RuleScenarioInput where
  originalTextHash : String
  scenarioFingerprint : String
  deriving DecidableEq, Repr

def RuleScenario.dump (scenario : RuleScenario) : Json :=
  .dict (scenario.fields ++ [("original_text_hash", .str scenario.originalTextHash),
    ("scenario_fingerprint", .str scenario.scenarioFingerprint)])

structure RequirementSource where
  requirementId : String
  title : String
  origin : String
  sourceExcerpt : String
  interpretation : String
  permissionItemIds : List String := []
  deriving DecidableEq, Repr

def RequirementSource.dump (source : RequirementSource) : Json :=
  .dict [("requirement_id", .str source.requirementId), ("title", .str source.title), ("origin", .str source.origin),
    ("source_excerpt", .str source.sourceExcerpt), ("interpretation", .str source.interpretation),
    ("permission_item_ids", strings source.permissionItemIds)]

structure RuleExample where
  description : String
  permissionItemId : Option String := none
  uncoveredReason : Option String := none
  deriving DecidableEq, Repr

def RuleExample.dump (example' : RuleExample) : Json :=
  .dict [("description", .str example'.description), ("permission_item_id", nullable .str example'.permissionItemId),
    ("uncovered_reason", nullable .str example'.uncoveredReason)]

/-- A suggestion about a gap; only its key matters here. -/
structure CoverageSuggestion where
  issueId : String
  document : Json

/-- The content of a candidate: its scenarios come as they are written, or frozen. -/
structure CandidateContent (σ : Type) where
  originalText : String
  actors : List ProposedActorItem := []
  actions : List ProposedActionItem := []
  permissions : List ProposedPermissionItem := []
  examples : List RuleExample := []
  unresolvedQuestions : List String := []
  unsupportedConstraints : List String := []
  scenarios : List σ := []
  requirementSources : List RequirementSource := []
  coverageSuggestions : List CoverageSuggestion := []

def CandidateContent.dump (content : CandidateContent RuleScenario) : Json :=
  .dict [("original_text", .str content.originalText), ("actors", .list (content.actors.map (·.dump))),
    ("actions", .list (content.actions.map (·.dump))), ("permissions", .list (content.permissions.map (·.dump))),
    ("examples", .list (content.examples.map (·.dump))), ("unresolved_questions", strings content.unresolvedQuestions),
    ("unsupported_constraints", strings content.unsupportedConstraints),
    ("scenarios", .list (content.scenarios.map (·.dump))),
    ("requirement_sources", .list (content.requirementSources.map (·.dump))),
    ("coverage_suggestions", .list (content.coverageSuggestions.map (·.document)))]

/-- What the freezing of a scenario computes with the standard library. -/
structure Reading where
  digest : Digest
  normalizedRuleText : String → String
  textHash : String → String

/-- `str.count`, for a text that is not empty. -/
def countFrom (excerpt : List Char) : Nat → List Char → Nat
  | _, [] => 0
  | skip + 1, _ :: rest => countFrom excerpt skip rest
  | 0, char :: rest =>
    if excerpt.isPrefixOf (char :: rest) then countFrom excerpt (excerpt.length - 1) rest + 1
    else countFrom excerpt 0 rest

def occurrences (text excerpt : String) : Nat := countFrom excerpt.toList 0 text.toList

section Freezing

variable {σ : Type} (reading : Reading) (content : CandidateContent σ)

def scenarioFingerprint (scenario : RuleScenarioInput) : String :=
  canonicalSha256 reading.digest (.dict
    [("original_text_hash", .str (reading.textHash (reading.normalizedRuleText content.originalText))),
      ("scenario", scenario.dump), ("actors", .list (content.actors.map (·.dump))),
      ("actions", .list (content.actions.map (·.dump)))])

/-- `freeze_scenario`. -/
def freezeScenario (scenario : RuleScenarioInput) : Except CandidateError RuleScenario := do
  let original := reading.normalizedRuleText content.originalText
  let excerpt := reading.normalizedRuleText scenario.originalExcerpt
  require (excerpt ≠ "" ∧ scenario.occurrence ≤ occurrences original excerpt) .scenario_excerpt_mismatch
  scenario.boundedOptions
  return ⟨scenario, reading.textHash original, scenarioFingerprint reading content scenario⟩

def replacedRules (scenario : RuleScenarioInput) : List ProposedPermissionItem := scenario.options.flatMap (·.replacements)

/-- The requirements that name a rule which the scenario replaces. -/
def linkedSources (scenario : RuleScenarioInput) : List RequirementSource :=
  content.requirementSources.filter fun source =>
    source.permissionItemIds.any (· ∈ (replacedRules scenario).map (·.itemId))

/-- `scenario_dependencies`: none when the dependencies of the scenario cannot be told. -/
def scenarioDependencies (scenario : RuleScenarioInput) : Option String :=
  let rules := replacedRules scenario
  let sources := linkedSources content scenario
  let original := reading.normalizedRuleText content.originalText
  let excerpt := reading.normalizedRuleText scenario.originalExcerpt
  if rules.map (·.itemId) ⊆ sources.flatMap (·.permissionItemIds) ∧
      occurrences original excerpt = 1 ∧ scenario.occurrence = 1 then do
    let actorIds := rules.flatMap fun rule => [rule.subjectActorItemId, rule.resourceOwnerActorItemId]
    let actions ← (sortedSet (rules.map (·.businessActionItemId))).mapM
      (Table.latest ProposedActionItem.itemId content.actions)
    let actors ← (sortedSet actorIds).mapM (Table.latest ProposedActorItem.itemId content.actors)
    return canonicalSha256 reading.digest (.dict
      [("scenario", scenario.dump), ("requirements", .list ((sortedBy (·.requirementId) sources).map (·.dump))),
        ("actions", .list (actions.map (·.dump))), ("actors", .list (actors.map (·.dump)))])
  else none

end Freezing

theorem separating_option : Separating RuleScenarioOption.dump := by
  intro left right same
  have ids : left.optionId = right.optionId := separating_str.field same "option_id" (by simp) (by simp)
  have labels : left.label = right.label := separating_str.field same "label" (by simp) (by simp)
  have explanations : left.explanation = right.explanation :=
    separating_str.field same "explanation" (by simp) (by simp)
  have replacements : left.replacements = right.replacements :=
    (separating_list separating_permissionItem).field same "replacements" (by simp) (by simp)
  cases left
  cases right
  simp_all

theorem separating_scenario : Separating RuleScenarioInput.dump := by
  intro left right same
  unfold RuleScenarioInput.dump RuleScenarioInput.fields at same
  have ids : left.scenarioId = right.scenarioId := separating_str.field same "scenario_id" (by simp) (by simp)
  have excerpts : left.originalExcerpt = right.originalExcerpt :=
    separating_str.field same "original_excerpt" (by simp) (by simp)
  have occurrences : left.occurrence = right.occurrence :=
    separating_natural.field same "occurrence" (by simp [natural]) (by simp [natural])
  have questions : left.question = right.question := separating_str.field same "question" (by simp) (by simp)
  have options : left.options = right.options :=
    (separating_list separating_option).field same "options" (by simp) (by simp)
  cases left
  cases right
  simp_all

section Fingerprints

variable {σ τ : Type} {reading : Reading} {content : CandidateContent σ} {other : CandidateContent τ}

theorem scenario_of_hash {left right : RuleScenarioInput} {fields fields' : List (String × Json)}
    (same : canonicalSha256 reading.digest (.dict fields) = canonicalSha256 reading.digest (.dict fields'))
    (here : fieldOf fields "scenario" = some left.dump) (there : fieldOf fields' "scenario" = some right.dump) :
    left = right :=
  separating_scenario.field (reading.digest.collisionFree _ _ (congrArg reading.digest.short same)) "scenario" here there

theorem freezeScenario_ok {scenario : RuleScenarioInput} {frozen : RuleScenario}
    (froze : freezeScenario reading content scenario = .ok frozen) :
    frozen.toRuleScenarioInput = scenario ∧ frozen.scenarioFingerprint = scenarioFingerprint reading content scenario := by
  simp only [freezeScenario, bind_eq_ok] at froze
  obtain ⟨-, -, -, -, same⟩ := froze
  cases same
  exact ⟨rfl, rfl⟩

/-- Scenarios with one fingerprint ask the same question with the same options. -/
theorem scenarioFingerprint_injective {left right : RuleScenarioInput}
    (same : scenarioFingerprint reading content left = scenarioFingerprint reading other right) : left = right :=
  scenario_of_hash same (by simp) (by simp)

/-- So do scenarios with the same dependencies. -/
theorem scenarioDependencies_injective {left right : RuleScenarioInput} {key : String}
    (here : scenarioDependencies reading content left = some key)
    (there : scenarioDependencies reading other right = some key) : left = right := by
  simp only [scenarioDependencies, Option.ite_none_right_eq_some, Option.bind_eq_bind, Option.bind_eq_some_iff,
    Option.pure_def, Option.some.injEq] at here there
  obtain ⟨-, actions, -, actors, -, same⟩ := here
  obtain ⟨-, actions', -, actors', -, same'⟩ := there
  exact scenario_of_hash (same.trans same'.symm) (by simp) (by simp)

end Fingerprints

end Jiejian.Boundaries.Scenarios
