import Jiejian.Library.History
import Jiejian.Library.Transition
import Jiejian.Boundaries.Candidates

namespace Jiejian.Boundaries.CandidateService

open Library Library.Document Library.Outcome Library.Sorting
open Protocol.Codec Proposals Scenarios Candidates

/-- The parts of the service that neither read nor change the content of a candidate: the review and scope records,
the notes of the author, and whether reviews or scope decisions are still open. -/
structure Desk (ρ κ γ : Type) extends Reading where
  records : ρ
  carryAssistance : Option (RuleCandidateRevision ρ) → RuleCandidateRevision ρ → κ → Except CandidateError ρ
  reviewRecords : RuleCandidateRevision ρ → γ → Except CandidateError (List BoundaryReviewRecord × ρ)
  openIssues : RuleCandidateRevision ρ → Bool

/-- What a transaction finds beside the candidate. -/
structure Setting where
  projectId : String
  candidateId : String
  draft : MaintenanceDraft
  archived : Bool := false
  proposed : Bool := false
  crowded : Bool := false
  decisionId : String := ""
  nowUs : Nat := 0

/-- A boundary review or a scope decision. -/
structure ReviewCommand (γ : Type) where
  expectedBasisId : String
  expectedRevision : Nat
  body : γ

/-- The revision and the hashes that a proposal was made from. -/
structure ProposalSource where
  revision : Nat
  contentHash : String
  decisionDigest : String

section Operations

variable {ρ κ γ : Type} (desk : Desk ρ κ γ) (candidate : Candidate ρ) (setting : Setting)

def replacedBy (replacements permissions : List ProposedPermissionItem) : List ProposedPermissionItem :=
  permissions.map fun item => (Table.lookup (·.itemId) replacements item.itemId).getD item

/-- The revision that a save starts from: none for a candidate that it creates. -/
def savedFrom (expectedRevision : Option Nat) : Except CandidateError (Option (RuleCandidateRevision ρ)) :=
  match expectedRevision with
  | none => do
    require (candidate.head.isNone ∧ ¬ setting.crowded) .LIMIT_EXCEEDED
    return none
  | some revision => do
    let current ← orRaise candidate.head .BOUNDARY_PROPOSAL_NOT_FOUND
    require (¬ setting.archived) .STATE_PRECONDITION
    require (current.revision = revision) .CONFLICT
    return some current

def savedContent (current : Option (RuleCandidateRevision ρ)) (command : RuleCandidateSave κ) :
    Except CandidateError (CandidateContent RuleScenario) := do
  let input ← (if command.merge then mergeContent current command.content else .ok command.content)
  scopedContent desk.toReading input

def protectEdit (current : Option (RuleCandidateRevision ρ)) (content : CandidateContent RuleScenario) :
    Except CandidateError Unit :=
  match current with
  | none => return
  | some current => do
    checkCandidateEdit desk.toReading candidate current content
    protectReviewSources current content
    protectScope current content

/-- Whatever option is selected, the content fits the rules. -/
def requireMergeable (value : RuleCandidateRevision ρ) : Except CandidateError Unit :=
  value.content.scenarios.forM fun scenario => scenario.options.forM fun option =>
    mergeRules setting.draft value.basisId
      { value.content with permissions := replacedBy option.replacements value.content.permissions }

/-- `save`, when no receipt of the operation is stored. -/
def Service.save (command : RuleCandidateSave κ) : Except CandidateError (Candidate ρ) := do
  require (command.expectedBasisId = setting.draft.basisId) .CONTEXT_STALE
  let current ← savedFrom candidate setting command.expectedRevision
  let content ← savedContent desk current command
  protectEdit desk candidate current content
  let value : RuleCandidateRevision ρ :=
    { revision := command.expectedRevision.getD 0 + 1
      basisId := command.expectedBasisId
      content := content
      boundaryReviews := (current.map (·.boundaryReviews)).getD []
      records := (current.map (·.records)).getD desk.records }
  let records ← desk.carryAssistance current value command.assistance
  requireMergeable setting { value with records }
  return { candidate with revisions := candidate.revisions ++ [{ value with records }] }

/-- The checks that a decision about a scenario starts with. -/
def decidedFrom (expectedBasisId : String) (expectedRevision : Nat) : Except CandidateError (RuleCandidateRevision ρ) := do
  require (expectedBasisId = setting.draft.basisId) .CONTEXT_STALE
  let current ← orRaise candidate.head .BOUNDARY_PROPOSAL_NOT_FOUND
  require (¬ setting.archived) .STATE_PRECONDITION
  require (current.revision = expectedRevision ∧ current.basisId = expectedBasisId) .CONFLICT
  return current

def decisionOf (command : RuleCandidateDecide) (revision : Nat) : RuleCandidateDecision where
  toRuleCandidateDecide := command
  decisionId := setting.decisionId
  projectId := setting.projectId
  candidateId := setting.candidateId
  outputRevision := revision + 1
  requestFingerprint := canonicalSha256 desk.digest
    (.dict [("candidate_id", .str setting.candidateId), ("command", .dict command.fields)])
  createdAtUs := setting.nowUs

/-- The content after a decision: the selections take effect, and a settled question is no longer open. -/
def decidedContent (choices : Choices) (action : DecisionAction) (question : String)
    (content : CandidateContent RuleScenario) : CandidateContent RuleScenario :=
  { content with
    permissions := replacedBy choices.replacements content.permissions
    unresolvedQuestions := content.unresolvedQuestions.filter fun text =>
      ¬ ((action = .SELECT ∨ action = .DISMISS) ∧ text = question) }

/-- `decide`, when no receipt of the operation is stored. -/
def Service.decide (command : RuleCandidateDecide) : Except CandidateError (Candidate ρ) := do
  command.actionPayload
  let current ← decidedFrom candidate setting command.expectedBasisId command.expectedRevision
  let scenario ← orRaise (current.content.scenarios.find? fun item => item.scenarioId = command.scenarioId)
    .STATE_PRECONDITION
  require (scenario.scenarioFingerprint = command.scenarioFingerprint) .STATE_PRECONDITION
  require (command.action = .SELECT → command.optionId ∈ scenario.options.map fun option => some option.optionId)
    .INPUT_INVALID
  let decision := decisionOf desk setting command current.revision
  let choices := scenarioState desk.toReading candidate current (some decision)
  let content ← scopedContent desk.toReading
    (thawed (decidedContent choices command.action scenario.question current.content))
  let value := { current with revision := current.revision + 1, content }
  mergeRules setting.draft value.basisId value.content
  return { candidate with revisions := candidate.revisions ++ [value], decisions := candidate.decisions ++ [decision] }

/-- `review_boundary` and `_decide_scope`: a revision of the same content with other records. -/
def Service.review (command : ReviewCommand γ) : Except CandidateError (Candidate ρ) := do
  let current ← orRaise candidate.head .BOUNDARY_PROPOSAL_NOT_FOUND
  require (command.expectedBasisId = setting.draft.basisId) .CONTEXT_STALE
  require (current.revision = command.expectedRevision ∧ current.basisId = command.expectedBasisId) .CONFLICT
  require (¬ setting.archived ∧ ¬ setting.proposed) .STATE_PRECONDITION
  let (boundaryReviews, records) ← desk.reviewRecords current command.body
  let content ← scopedContent desk.toReading (thawed current.content)
  let value := { current with revision := current.revision + 1, content, boundaryReviews, records }
  return { candidate with revisions := candidate.revisions ++ [value] }

/-- `decision_digest`. -/
def decisionDigest (states : List ScenarioState) : String :=
  canonicalSha256 desk.digest (.list ((sortedBy (·.scenarioId) states).map fun state =>
    .dict [("scenario_id", .str state.scenarioId),
      ("status", .str ((state.status.map (·.value)).getD "NEEDS_DECISION")),
      ("decision", nullable (·.dump) state.decision)]))

/-- `validate_approval_source` for a proposal that was made from this candidate. -/
def validateApprovalSource (source : ProposalSource) (currentBasis : String)
    (proposedPermissions : List ProposedPermissionItem) :
    Except CandidateError (RuleCandidateRevision ρ × List ScenarioState) := do
  let value ← orRaise candidate.head .STATE_PRECONDITION
  require (value.revision = source.revision ∧ value.basisId = currentBasis) .STATE_PRECONDITION
  let choices := scenarioState desk.toReading candidate value
  require ((∀ state ∈ choices.states, state.settled) ∧ choices.conflicts = []) .STATE_PRECONDITION
  require (¬ desk.openIssues value) .STATE_PRECONDITION
  require (source.contentHash = canonicalSha256 desk.digest value.content.dump ∧
    source.decisionDigest = decisionDigest desk choices.states) .STATE_PRECONDITION
  require (∀ item ∈ value.content.permissions,
    (Table.latest (·.itemId) proposedPermissions item.itemId).any fun proposed =>
      { proposed with writeMode := item.writeMode } = item) .STATE_PRECONDITION
  return (value, choices.states)

end Operations

inductive Operation (κ γ : Type) where
  | save (setting : Setting) (command : RuleCandidateSave κ)
  | decide (setting : Setting) (command : RuleCandidateDecide)
  | review (setting : Setting) (command : ReviewCommand γ)

section Runs

variable {ρ κ γ : Type} (desk : Desk ρ κ γ)

def operate (candidate : Candidate ρ) : Operation κ γ → Except CandidateError (Candidate ρ)
  | .save setting command => Service.save desk candidate setting command
  | .decide setting command => Service.decide desk candidate setting command
  | .review setting command => Service.review desk candidate setting command

/-- A transaction that is refused leaves nothing behind. -/
def perform (candidate : Candidate ρ) (operation : Operation κ γ) : Candidate ρ :=
  match operate desk candidate operation with
  | .ok next => next
  | .error _ => candidate

def runCandidate (operations : List (Operation κ γ)) : Candidate ρ := Transition.run (perform desk) {} operations

end Runs

section Inversion

variable {ρ κ γ : Type} {desk : Desk ρ κ γ} {candidate next : Candidate ρ} {setting : Setting}

theorem savedFrom_ok {expectedRevision : Option Nat} {current : Option (RuleCandidateRevision ρ)}
    (found : savedFrom candidate setting expectedRevision = .ok current) :
    candidate.head = current ∧ expectedRevision = current.map (·.revision) := by
  cases expectedRevision with
  | none =>
    obtain ⟨_, fresh, same⟩ := bind_eq_ok.mp found
    cases same
    exact ⟨Option.isNone_iff_eq_none.mp (require_eq_ok.mp fresh).1, rfl⟩
  | some revision =>
    obtain ⟨value, head, rest⟩ := bind_eq_ok.mp found
    obtain ⟨-, -, rest⟩ := bind_eq_ok.mp rest
    obtain ⟨_, same, rest⟩ := bind_eq_ok.mp rest
    cases rest
    exact ⟨orRaise_eq_ok.mp head, congrArg some (require_eq_ok.mp same).symm⟩

/-- The revision that an accepted save adds. -/
theorem save_value {command : RuleCandidateSave κ} (saved : Service.save desk candidate setting command = .ok next) :
    ∃ content value records, savedContent desk candidate.head command = .ok content ∧
      protectEdit desk candidate candidate.head content = .ok () ∧
      value.revision = (candidate.head.map (·.revision)).getD 0 + 1 ∧ value.content = content ∧
      value.boundaryReviews = (candidate.head.map (·.boundaryReviews)).getD [] ∧
      value.records = (candidate.head.map (·.records)).getD desk.records ∧
      desk.carryAssistance candidate.head value command.assistance = .ok records ∧
      next = { candidate with revisions := candidate.revisions ++ [{ value with records }] } := by
  obtain ⟨-, -, rest⟩ := bind_eq_ok.mp saved
  obtain ⟨current, found, rest⟩ := bind_eq_ok.mp rest
  obtain ⟨content, froze, rest⟩ := bind_eq_ok.mp rest
  obtain ⟨⟨⟩, guarded, rest⟩ := bind_eq_ok.mp rest
  obtain ⟨records, carried, rest⟩ := bind_eq_ok.mp rest
  obtain ⟨-, -, same⟩ := bind_eq_ok.mp rest
  cases same
  obtain ⟨head, expected⟩ := savedFrom_ok found
  rw [head]
  exact ⟨content, _, records, froze, guarded, by rw [expected], rfl, rfl, rfl, carried, rfl⟩

/-- What an accepted save does: it adds a revision of the content that it sends. -/
theorem save_ok {command : RuleCandidateSave κ} (saved : Service.save desk candidate setting command = .ok next) :
    ∃ content value, savedContent desk candidate.head command = .ok content ∧
      protectEdit desk candidate candidate.head content = .ok () ∧
      value.revision = (candidate.head.map (·.revision)).getD 0 + 1 ∧ value.content = content ∧
      next = { candidate with revisions := candidate.revisions ++ [value] } := by
  obtain ⟨content, value, records, froze, guarded, revision, same, -, -, -, grown⟩ := save_value saved
  exact ⟨content, { value with records }, froze, guarded, revision, same, grown⟩

theorem decidedFrom_ok {expectedBasisId : String} {expectedRevision : Nat} {current : RuleCandidateRevision ρ}
    (found : decidedFrom candidate setting expectedBasisId expectedRevision = .ok current) :
    candidate.head = some current ∧ current.revision = expectedRevision := by
  obtain ⟨-, -, rest⟩ := bind_eq_ok.mp found
  obtain ⟨value, head, rest⟩ := bind_eq_ok.mp rest
  obtain ⟨-, -, rest⟩ := bind_eq_ok.mp rest
  obtain ⟨_, same, rest⟩ := bind_eq_ok.mp rest
  cases rest
  exact ⟨orRaise_eq_ok.mp head, (require_eq_ok.mp same).1⟩

/-- What an accepted decision does: it is recorded, with a revision in which the selections take effect. -/
theorem decide_ok {command : RuleCandidateDecide} (decided : Service.decide desk candidate setting command = .ok next) :
    ∃ current scenario content, candidate.head = some current ∧ command.expectedRevision = current.revision ∧
      scenario ∈ current.content.scenarios ∧
      scopedContent desk.toReading (thawed (decidedContent (scenarioState desk.toReading candidate current
        (some (decisionOf desk setting command current.revision))) command.action scenario.question current.content)) =
          .ok content ∧
      next = ⟨candidate.revisions ++ [{ current with revision := current.revision + 1, content }],
        candidate.decisions ++ [decisionOf desk setting command current.revision]⟩ := by
  obtain ⟨-, -, rest⟩ := bind_eq_ok.mp decided
  obtain ⟨current, found, rest⟩ := bind_eq_ok.mp rest
  obtain ⟨scenario, asked, rest⟩ := bind_eq_ok.mp rest
  obtain ⟨-, -, rest⟩ := bind_eq_ok.mp rest
  obtain ⟨-, -, rest⟩ := bind_eq_ok.mp rest
  obtain ⟨content, froze, rest⟩ := bind_eq_ok.mp rest
  obtain ⟨-, -, same⟩ := bind_eq_ok.mp rest
  cases same
  obtain ⟨head, expected⟩ := decidedFrom_ok found
  have listed := List.mem_of_find?_eq_some (orRaise_eq_ok.mp asked)
  exact ⟨current, scenario, content, head, expected.symm, listed, froze, rfl⟩

/-- The revision that an accepted review adds. -/
theorem review_value {command : ReviewCommand γ} (reviewed : Service.review desk candidate setting command = .ok next) :
    ∃ current content boundaryReviews records, candidate.head = some current ∧
      current.revision = command.expectedRevision ∧ current.basisId = command.expectedBasisId ∧
      desk.reviewRecords current command.body = .ok (boundaryReviews, records) ∧
      scopedContent desk.toReading (thawed current.content) = .ok content ∧
      next = { candidate with
        revisions := candidate.revisions ++
          [{ current with revision := current.revision + 1, content, boundaryReviews, records }] } := by
  obtain ⟨current, head, rest⟩ := bind_eq_ok.mp reviewed
  obtain ⟨-, -, rest⟩ := bind_eq_ok.mp rest
  obtain ⟨_, expected, rest⟩ := bind_eq_ok.mp rest
  obtain ⟨-, -, rest⟩ := bind_eq_ok.mp rest
  obtain ⟨⟨boundaryReviews, records⟩, recorded, rest⟩ := bind_eq_ok.mp rest
  obtain ⟨content, froze, same⟩ := bind_eq_ok.mp rest
  cases same
  obtain ⟨revision, basis⟩ := require_eq_ok.mp expected
  exact ⟨current, content, boundaryReviews, records, orRaise_eq_ok.mp head, revision, basis, recorded, froze, rfl⟩

theorem review_ok {command : ReviewCommand γ} (reviewed : Service.review desk candidate setting command = .ok next) :
    ∃ current content value, candidate.head = some current ∧
      scopedContent desk.toReading (thawed current.content) = .ok content ∧ value.revision = current.revision + 1 ∧
      value.content = content ∧ next = { candidate with revisions := candidate.revisions ++ [value] } := by
  obtain ⟨current, content, boundaryReviews, records, head, -, -, -, froze, grown⟩ := review_value reviewed
  exact ⟨current, content, _, head, froze, rfl, rfl, grown⟩

end Inversion

end Jiejian.Boundaries.CandidateService
