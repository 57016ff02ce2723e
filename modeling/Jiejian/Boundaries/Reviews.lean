import Jiejian.Library.Saturation
import Jiejian.Boundaries.Scope

namespace Jiejian.Boundaries.Reviews

open Library Library.Document Library.Schema Library.Outcome Library.Sorting Library.Saturation
open Protocol.Codec Protocol.Separation Preparation.Models
open Proposals Scenarios Candidates CandidateService Scope

structure ReviewDependencies where
  requirementIds : List String
  permissionItemIds : List String := []
  deriving DecidableEq, Repr

/-- The scope that a human confirmed with a review. -/
structure ReviewContext where
  issueId : String
  decisionId : String
  dependencies : ReviewDependencies
  outputRevision : Nat
  deriving DecidableEq, Repr

/-- The contexts of the boundary reviews. `others` stands for the links, the suggestions and the notes. -/
structure ReviewRecords (α : Type) where
  contexts : List ReviewContext := []
  others : α

section Closure

/-- The requirement is linked to the permission. -/
def Links (sources : List RequirementSource) (requirementId permissionId : String) : Prop :=
  ∃ source ∈ sources, source.requirementId = requirementId ∧ permissionId ∈ source.permissionItemIds

/-- `required` and `ids`. -/
structure Reach where
  required : List String
  ids : List String
  deriving DecidableEq, Repr

def linkedPermissions (sources : List RequirementSource) (required : List String) : List String :=
  (sources.filter fun source => source.requirementId ∈ required).flatMap (·.permissionItemIds)

def linkedRequirements (sources : List RequirementSource) (ids : List String) : List String :=
  (sources.filter fun source => source.permissionItemIds.any (· ∈ ids)).map (·.requirementId)

/-- The body of the loop of `dependency_payload`. -/
def widen (sources : List RequirementSource) (reach : Reach) : Reach :=
  let ids := merge reach.ids (linkedPermissions sources reach.required)
  ⟨merge reach.required (linkedRequirements sources ids), ids⟩

/-- Where the loop stops: every round but the last finds a new requirement or a new permission. -/
def closureOf (sources : List RequirementSource) (dependencies : ReviewDependencies) : Reach :=
  saturate (widen sources) (sources.length + (sources.flatMap (·.permissionItemIds)).length)
    ⟨dependencies.requirementIds.dedup, dependencies.permissionItemIds.dedup⟩

end Closure

/-- A scope decision as far as a review depends on it; a reference is taken as a whole. -/
inductive ScopeShown where
  | decision (disposition : ScopeDisposition) (requirement : String) (timeScope : TimeScope)
  | reference (record : ScopeReference)
  deriving DecidableEq, Repr

def referenceDump (record : ScopeReference) : Json :=
  .dict [("requirement_id", .str record.requirementId), ("requirement_fingerprint", .str record.requirementFingerprint),
    ("disposition", .str "SUPPORTING"), ("requirement", .str record.requirement), ("reason", .str record.reason),
    ("time_scope", .str record.timeScope.value),
    ("related_requirement_ids", strings (record.related.map (·.requirementId))),
    ("operation_id", .str record.operationId), ("expected_basis_id", .str record.expectedBasisId),
    ("expected_revision", natural record.expectedRevision),
    ("related_decision_fingerprints", strings (record.related.map (·.decisionFingerprint))),
    ("output_revision", natural record.outputRevision), ("created_at_us", natural record.createdAtUs),
    ("submitted_via", .str "LOCAL_GUI")]

def ScopeShown.dump : ScopeShown → Json
  | .decision disposition requirement timeScope =>
    .dict [("disposition", .str disposition.value), ("requirement", .str requirement),
      ("time_scope", .str timeScope.value)]
  | .reference record => referenceDump record

/-- What `dependency_payload` returns. -/
structure DependencyPayload where
  sources : List RequirementSource
  scope : List (Option ScopeShown)
  permissions : List ProposedPermissionItem
  actors : List ProposedActorItem
  actions : List ProposedActionItem

def DependencyPayload.dump (payload : DependencyPayload) : Json :=
  .dict [("sources", .list (payload.sources.map (·.dump))), ("scope", .list (payload.scope.map (nullable (·.dump)))),
    ("permissions", .list (payload.permissions.map (·.dump))), ("actors", .list (payload.actors.map (·.dump))),
    ("actions", .list (payload.actions.map (·.dump)))]

section Payload

variable {α : Type} (content : CandidateContent RuleScenario) (records : ScopeRecords α)
  (dependencies : ReviewDependencies)

def shownScope (requirementId : String) : Option ScopeShown :=
  match Table.latest (·.requirementId) records.decisions requirementId with
  | some decision => some (.decision decision.disposition decision.requirement decision.timeScope)
  | none => (Table.latest (·.requirementId) records.references requirementId).map .reference

def actionIdsOf (rules : List ProposedPermissionItem) : List String := rules.map (·.businessActionItemId)

def actorIdsOf (rules : List ProposedPermissionItem) : List String :=
  rules.flatMap fun rule => [rule.subjectActorItemId, rule.resourceOwnerActorItemId]

/-- The values under the sorted keys. -/
def rowsOf {β : Type} (key : β → String) (rows : List β) (keys : List String) : List β :=
  (sortedSet keys).filterMap (Table.latest key rows)

/-- The permissions of the closure. -/
def rulesOf : List ProposedPermissionItem :=
  rowsOf (·.itemId) content.permissions (closureOf content.requirementSources dependencies).ids

/-- Nothing that the closure refers to is missing. -/
def Complete : Prop :=
  dependencies.requirementIds ⊆ content.requirementSources.map (·.requirementId) ∧
    dependencies.permissionItemIds ⊆ content.permissions.map (·.itemId) ∧
    (closureOf content.requirementSources dependencies).ids ⊆ content.permissions.map (·.itemId) ∧
    actionIdsOf (rulesOf content dependencies) ⊆ content.actions.map (·.itemId) ∧
    actorIdsOf (rulesOf content dependencies) ⊆ content.actors.map (·.itemId)

instance : Decidable (Complete content dependencies) := inferInstanceAs (Decidable (_ ∧ _))

/-- `dependency_payload`: none where it raises a `ValueError`. -/
def dependencyPayload : Option DependencyPayload :=
  let required := (closureOf content.requirementSources dependencies).required
  let rules := rulesOf content dependencies
  if Complete content dependencies then
    some {
      sources := rowsOf (·.requirementId) content.requirementSources required
      scope := (sortedSet required).map (shownScope records)
      permissions := rules
      actors := rowsOf (·.itemId) content.actors (actorIdsOf rules)
      actions := rowsOf (·.itemId) content.actions (actionIdsOf rules) }
  else none

end Payload

section Items

variable {α : Type} (digest : Digest) (identifier : String)
  (value : RuleCandidateRevision (ScopeRecords (ReviewRecords α)))

/-- The part of the content that a review without dependencies rests on. -/
def businessDump (content : CandidateContent RuleScenario) : Json :=
  .dict [("original_text", .str content.originalText), ("actors", .list (content.actors.map (·.dump))),
    ("actions", .list (content.actions.map (·.dump))), ("permissions", .list (content.permissions.map (·.dump)))]

def payloadFingerprint (issueId : String) (payload : DependencyPayload) : String :=
  canonicalSha256 digest (.list [.str issueId, payload.dump])

/-- `review_fingerprint`. -/
def reviewFingerprint (issueId : String) : Option ReviewDependencies → Option String
  | none => some (canonicalSha256 digest (.list [.str issueId, .str value.basisId, businessDump value.content]))
  | some dependencies =>
    (dependencyPayload value.content value.records dependencies).map (payloadFingerprint digest issueId)

def missingFingerprint (issueId : String) (revision : Nat) : String :=
  canonicalSha256 digest (.list [.str issueId, .str "MISSING_DEPENDENCY", natural revision])

def issueIdOf (source : ReviewSource) (text : String) (occurrence : Nat) : String :=
  "bri_" ++ canonicalSha256 digest
    (.list [.str (candidateId identifier), .str source.value, .str text, natural occurrence])

inductive ReviewStatus where
  | NEEDS_DECISION
  | STALE
  | RESOLVED
  | OPEN
  deriving DecidableEq, Repr

structure ReviewItem where
  issueId : String
  issueFingerprint : String
  source : ReviewSource
  text : String
  path : String
  status : ReviewStatus
  decision : Option BoundaryReviewRecord
  dependencies : Option ReviewDependencies
  deriving DecidableEq, Repr

def ReviewItem.blocking (item : ReviewItem) : Bool := item.status ≠ .RESOLVED

def textsOf (content : CandidateContent RuleScenario) : ReviewSource → List String
  | .unresolved_questions => content.unresolvedQuestions
  | .unsupported_constraints => content.unsupportedConstraints

/-- Every text with its index, and the number of equal texts before it. -/
def counted (texts : List String) : List (String × Nat × Nat) :=
  texts.zipIdx.map fun (text, index) => (text, index, (texts.take index).count text)

def statusOf (fingerprint : String) : Option BoundaryReviewRecord → ReviewStatus
  | none => .NEEDS_DECISION
  | some record =>
    if record.issueFingerprint ≠ fingerprint then .STALE
    else if record.outcome.resolved then .RESOLVED else .OPEN

def currentFingerprint (issueId : String) (dependencies : Option ReviewDependencies) : String :=
  (reviewFingerprint digest value issueId dependencies).getD (missingFingerprint digest issueId value.revision)

def reviewItem (source : ReviewSource) (text : String) (index occurrence : Nat) : ReviewItem :=
  let issueId := issueIdOf digest identifier source text occurrence
  let dependencies := (Table.latest (·.issueId) value.records.others.contexts issueId).map (·.dependencies)
  let fingerprint := currentFingerprint digest value issueId dependencies
  let record := Table.latest (·.issueId) value.boundaryReviews issueId
  { issueId, issueFingerprint := fingerprint, source, text
    path := "candidate.content." ++ source.value ++ "[" ++ toString index ++ "]"
    status := statusOf fingerprint record, decision := record, dependencies }

/-- `boundary_review_items`. A question that a scenario asks is settled there. -/
def boundaryReviewItems : List ReviewItem :=
  [ReviewSource.unresolved_questions, .unsupported_constraints].flatMap fun source =>
    ((counted (textsOf value.content source)).filter fun entry =>
      ¬ (source = .unresolved_questions ∧ entry.1 ∈ value.content.scenarios.map (·.question))).map
    fun entry => reviewItem digest identifier value source entry.1 entry.2.1 entry.2.2

end Items

structure BoundaryReviewCommand where
  operationId : String
  issueId : String
  issueFingerprint : String
  outcome : ReviewOutcome
  reason : String
  retainedRequirement : String
  permissionItemIds : List String := []
  dependencies : Option ReviewDependencies := none
  decisionId : String
  nowUs : Nat
  deriving DecidableEq, Repr

inductive AssistCommand (β : Type) where
  | review (command : BoundaryReviewCommand)
  | coverage (command : β)

/-- What boundary reviews leave aside: the suggestions and notes of a save, and the coverage links. -/
structure Helpers (α β κ : Type) extends Reading where
  others : α
  carryAssistance : Option (RuleCandidateRevision (ScopeRecords (ReviewRecords α))) →
    RuleCandidateRevision (ScopeRecords (ReviewRecords α)) → κ → Except CandidateError α
  linkCoverage : RuleCandidateRevision (ScopeRecords (ReviewRecords α)) → β → Except CandidateError α
  planned : RuleCandidateRevision (ScopeRecords (ReviewRecords α)) → List String

section Operations

variable {α β κ : Type} (helpers : Helpers α β κ) (identifier : String)

/-- The validator of a review: permissions are named exactly when the rules represent the question. -/
def BoundaryReviewCommand.requireRules (command : BoundaryReviewCommand) : Except CandidateError Unit := do
  require (command.permissionItemIds ≠ [] ↔ command.outcome = .REPRESENTED_BY_RULES) .INPUT_INVALID
  require (command.permissionItemIds.Nodup) .INPUT_INVALID

/-- The permissions that the named dependencies carry. -/
def carriedPermissions (content : CandidateContent RuleScenario) (dependencies : ReviewDependencies) : List String :=
  dependencies.permissionItemIds ++ linkedPermissions content.requirementSources dependencies.requirementIds

/-- `review_boundary`. -/
def reviewBoundary (current : RuleCandidateRevision (ScopeRecords (ReviewRecords α))) (command : BoundaryReviewCommand) :
    Except CandidateError (List BoundaryReviewRecord × ReviewRecords α) := do
  command.requireRules
  let issue ← orRaise ((boundaryReviewItems helpers.digest identifier current).find? fun item =>
    item.issueId = command.issueId) .STATE_PRECONDITION
  require (issue.issueFingerprint = command.issueFingerprint) .STATE_PRECONDITION
  require (¬ (issue.source = .unsupported_constraints ∧
    (command.outcome = .NOT_SEPARATE_ACTION ∨ command.outcome = .REPRESENTED_BY_RULES))) .INPUT_INVALID
  require (command.permissionItemIds ⊆ current.content.permissions.map (·.itemId)) .INPUT_INVALID
  let fingerprint ← orRaise (reviewFingerprint helpers.digest current command.issueId command.dependencies) .INPUT_INVALID
  require (∀ dependencies ∈ command.dependencies,
    command.permissionItemIds ⊆ carriedPermissions current.content dependencies) .INPUT_INVALID
  let record : BoundaryReviewRecord :=
    { command with
      issueFingerprint := fingerprint
      expectedBasisId := current.basisId
      expectedRevision := current.revision
      source := issue.source
      text := issue.text
      outputRevision := current.revision + 1
      createdAtUs := command.nowUs }
  let contexts := current.records.others.contexts.filter (·.issueId ≠ command.issueId) ++
    (command.dependencies.map fun dependencies =>
      ⟨command.issueId, command.decisionId, dependencies, current.revision + 1⟩).toList
  return (current.boundaryReviews.filter (·.issueId ≠ command.issueId) ++ [record],
    { current.records.others with contexts })

def assist (current : RuleCandidateRevision (ScopeRecords (ReviewRecords α))) :
    AssistCommand β → Except CandidateError (List BoundaryReviewRecord × ReviewRecords α)
  | .review command => reviewBoundary helpers identifier current command
  | .coverage command => do
    let others ← helpers.linkCoverage current command
    return (current.boundaryReviews, { current.records.others with others })

/-- The assistants of the scope desk, with the boundary reviews. A save carries the contexts along. -/
def reviewAssistants : Assistants (ReviewRecords α) (AssistCommand β) κ where
  toReading := helpers.toReading
  others := { others := helpers.others }
  carryAssistance current value command := do
    let others ← helpers.carryAssistance current value command
    return { value.records.others with others }
  assist := assist helpers identifier
  openReviews value := (boundaryReviewItems helpers.digest identifier value).any fun item =>
    item.blocking && item.issueId ∉ helpers.planned value

/-- The service with scope decisions and boundary reviews. -/
def reviewDesk : Desk (ScopeRecords (ReviewRecords α)) κ (ScopeRequest (AssistCommand β)) :=
  scopeDesk (reviewAssistants helpers identifier) identifier

end Operations

end Jiejian.Boundaries.Reviews
