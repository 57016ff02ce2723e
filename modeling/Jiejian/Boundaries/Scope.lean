import Jiejian.Boundaries.CandidateService

namespace Jiejian.Boundaries.Scope

open Library Library.Document Library.Schema Library.Outcome Library.Sorting
open Protocol.Codec Preparation.Models Proposals Scenarios Candidates CandidateService

inductive ScopeDisposition where
  | IN_SCOPE
  | PREPARATION
  | OUT_OF_SCOPE
  | DEFER
  deriving DecidableEq, Repr

def ScopeDisposition.value : ScopeDisposition → String
  | .IN_SCOPE => "IN_SCOPE"
  | .PREPARATION => "PREPARATION"
  | .OUT_OF_SCOPE => "OUT_OF_SCOPE"
  | .DEFER => "DEFER"

inductive TimeScope where
  | CHECK_WINDOW
  | HISTORY
  | NOT_APPLICABLE
  deriving DecidableEq, Repr

def TimeScope.value : TimeScope → String
  | .CHECK_WINDOW => "CHECK_WINDOW"
  | .HISTORY => "HISTORY"
  | .NOT_APPLICABLE => "NOT_APPLICABLE"

/-- What a human states about one requirement. -/
structure ScopeStatement where
  requirementId : String
  requirementFingerprint : String
  requirement : String
  reason : String
  timeScope : TimeScope
  deriving DecidableEq, Repr

/-- The command that a record was made by, and the revision that it led to. -/
structure ScopeStamp where
  operationId : String
  expectedBasisId : String
  expectedRevision : Nat
  outputRevision : Nat
  createdAtUs : Nat
  deriving DecidableEq, Repr

structure ScopeDecision extends ScopeStatement, ScopeStamp where
  disposition : ScopeDisposition
  deriving DecidableEq, Repr

/-- A related requirement with the fingerprint of the decision about it, as `paired_references` pairs them. -/
structure ScopeTarget where
  requirementId : String
  decisionFingerprint : String
  deriving DecidableEq, Repr

/-- A record of the disposition `SUPPORTING`. -/
structure ScopeReference extends ScopeStatement, ScopeStamp where
  related : List ScopeTarget
  deriving DecidableEq, Repr

/-- What is on record about a requirement. -/
inductive ScopeAnswer where
  | decision (record : ScopeDecision)
  | reference (record : ScopeReference)
  deriving DecidableEq, Repr

def ScopeAnswer.statement : ScopeAnswer → ScopeStatement
  | .decision record => record.toScopeStatement
  | .reference record => record.toScopeStatement

def ScopeAnswer.stamp : ScopeAnswer → ScopeStamp
  | .decision record => record.toScopeStamp
  | .reference record => record.toScopeStamp

/-- The decision that takes a requirement into the scope. -/
def ScopeAnswer.inScope : ScopeAnswer → Option ScopeDecision
  | .decision record => if record.disposition = .IN_SCOPE then some record else none
  | .reference _ => none

def ScopeAnswer.deferred : ScopeAnswer → Bool
  | .decision record => record.disposition = .DEFER
  | .reference _ => false

/-- The scope records of a revision. `others` stands for the coverage links, the suggestions and the notes. -/
structure ScopeRecords (α : Type) where
  decisions : List ScopeDecision := []
  references : List ScopeReference := []
  others : α

inductive ScopeStatus where
  | NEEDS_DECISION
  | STALE
  | DEFER
  | CONFIRMED
  deriving DecidableEq, Repr

structure ScopeItem where
  source : RequirementSource
  fingerprint : String
  status : ScopeStatus
  decision : Option ScopeAnswer
  deriving DecidableEq, Repr

def ScopeItem.inScope (item : ScopeItem) : Option ScopeDecision := item.decision.bind ScopeAnswer.inScope

/-- `semantic_source`: the permissions that a requirement is linked to do not belong to its meaning. -/
def semanticSource (source : RequirementSource) : Json :=
  .dict [("requirement_id", .str source.requirementId), ("title", .str source.title), ("origin", .str source.origin),
    ("source_excerpt", .str source.sourceExcerpt), ("interpretation", .str source.interpretation)]

section Items

variable {α : Type} (digest : Digest) (identifier : String) (content : CandidateContent RuleScenario)
  (records : ScopeRecords α)

/-- The id of a candidate, as `save` makes it. -/
def candidateId : String := "rcd_" ++ identifier

def meaningFingerprint (source : RequirementSource) : String :=
  canonicalSha256 digest (.list [.str "REQUIREMENT_MEANING", .str (candidateId identifier), semanticSource source])

/-- The fingerprint that earlier decisions were made with. -/
def earlierFingerprint (basisId : String) (source : RequirementSource) : String :=
  canonicalSha256 digest (.list [.str (candidateId identifier), .str basisId, semanticSource source])

def scopeDecisionFingerprint (decision : ScopeDecision) : String :=
  canonicalSha256 digest (.dict [("requirement_id", .str decision.requirementId),
    ("requirement_fingerprint", .str decision.requirementFingerprint),
    ("disposition", .str decision.disposition.value), ("requirement", .str decision.requirement),
    ("time_scope", .str decision.timeScope.value)])

def answerOf (requirementId : String) : Option ScopeAnswer :=
  ((Table.latest (·.requirementId) records.references requirementId).map .reference).or
    ((Table.latest (·.requirementId) records.decisions requirementId).map .decision)

/-- The record is about the requirement as it stands. -/
def accepted (source : RequirementSource) (answer : ScopeAnswer) : Prop :=
  answer.statement.requirementFingerprint = meaningFingerprint digest identifier source ∨
    answer.statement.requirementFingerprint = earlierFingerprint digest identifier answer.stamp.expectedBasisId source

instance (source : RequirementSource) (answer : ScopeAnswer) : Decidable (accepted digest identifier source answer) :=
  inferInstanceAs (Decidable (_ ∨ _))

def recordedStatus (source : RequirementSource) : Option ScopeAnswer → ScopeStatus
  | none => .NEEDS_DECISION
  | some answer =>
    if ¬ accepted digest identifier source answer then .STALE else if answer.deferred then .DEFER else .CONFIRMED

def recordedItem (source : RequirementSource) : ScopeItem where
  source := source
  fingerprint := meaningFingerprint digest identifier source
  status := recordedStatus digest identifier source (answerOf records source.requirementId)
  decision := answerOf records source.requirementId

/-- The first pass of `scope_items`: every requirement with what is on record about it. -/
def recordedItems : List ScopeItem := content.requirementSources.map (recordedItem digest identifier records)

def itemOf (items : List ScopeItem) (requirementId : String) : Option ScopeItem :=
  Table.latest (·.source.requirementId) items requirementId

/-- The related requirement is in the scope by the decision that the reference was made to. -/
def targetHolds (items : List ScopeItem) (target : ScopeTarget) : Bool :=
  (itemOf items target.requirementId).any fun item => item.status = .CONFIRMED ∧
    item.inScope.any fun decision => scopeDecisionFingerprint digest decision = target.decisionFingerprint

/-- The second pass: a reference is stale when one of its targets no longer holds. Only references are marked, and none
of them is a target that holds, so the order of the marking does not matter. -/
def markedItem (items : List ScopeItem) (item : ScopeItem) : ScopeItem :=
  match item.decision with
  | some (.reference reference) =>
    if item.status = .CONFIRMED ∧ ¬ reference.related.all (targetHolds digest items) then { item with status := .STALE }
    else item
  | _ => item

def scopeItems : List ScopeItem :=
  (recordedItems digest identifier content records).map
    (markedItem digest (recordedItems digest identifier content records))

end Items

inductive ScopeIssueCode where
  | SCOPE_REQUIRED
  | SCOPE_DECISION_REQUIRED
  | REFERENCE_RULE_MISMATCH
  | REQUIREMENT_RULE_REQUIRED
  | HISTORY_CAPABILITY_REQUIRED
  | OUTSIDE_SCOPE_RULE
  | PERMISSION_SOURCE_REQUIRED
  deriving DecidableEq, Repr

structure ScopeIssue where
  code : ScopeIssueCode
  message : String
  requirementId : Option String := none
  permissionItemIds : List String := []
  deriving DecidableEq, Repr

/-- What one item adds to the issues, to the covered permissions and to those whose mapping is pending. -/
structure ScopePart where
  issues : List ScopeIssue := []
  covered : List String := []
  pending : List String := []
  deriving DecidableEq, Repr

section Issues

variable {α : Type} (digest : Digest) (identifier : String)

def activeIds (content : CandidateContent RuleScenario) : List String :=
  (content.permissions.filter fun item => item.effectiveState = .ACTIVE).map (·.itemId)

def linkedTo (active : List String) (source : RequirementSource) : List String :=
  source.permissionItemIds.filter (· ∈ active)

/-- The permissions of the related requirements that are in the scope. -/
def carriedBy (items : List ScopeItem) (reference : ScopeReference) : List String :=
  (items.filter fun target => target.source.requirementId ∈ reference.related.map (·.requirementId) ∧
    target.status = .CONFIRMED ∧ target.inScope.isSome).flatMap (·.source.permissionItemIds)

def unconfirmedPart (source : RequirementSource) (linked : List String) : ScopePart where
  issues := [⟨.SCOPE_DECISION_REQUIRED, "请确认本轮是否检查：" ++ source.title, some source.requirementId, []⟩]
  pending := linked

def referencePart (items : List ScopeItem) (source : RequirementSource) (reference : ScopeReference)
    (linked : List String) : ScopePart :=
  let carried := carriedBy items reference
  if linked ⊆ carried then {}
  else {
    issues := [⟨.REFERENCE_RULE_MISMATCH, "补充依据关联的权限尚未由对应业务要求承接：" ++ source.title,
      some source.requirementId, []⟩]
    pending := linked.filter (· ∉ carried) }

def inScopePart (source : RequirementSource) (decision : ScopeDecision) (linked : List String) : ScopePart where
  issues :=
    (if linked = [] then [⟨.REQUIREMENT_RULE_REQUIRED, "已纳入的要求还没有对应权限：" ++ source.title,
      some source.requirementId, []⟩] else []) ++
    (if decision.timeScope = .HISTORY then [⟨.HISTORY_CAPABILITY_REQUIRED,
      "要求涉及历史范围，当前完整检查不能证明全部历史：" ++ source.title, none, []⟩] else [])
  covered := linked

def outsidePart (source : RequirementSource) (linked : List String) : ScopePart :=
  if linked = [] then {}
  else {
    issues := [⟨.OUTSIDE_SCOPE_RULE, "这项已确认为准备步骤或不属本轮，仍被写成权限：" ++ source.title, none,
      sortedSet linked⟩]
    pending := linked }

/-- The body of the loop of `scope_issues`. -/
def scopePart (items : List ScopeItem) (active : List String) (item : ScopeItem) : ScopePart :=
  let linked := linkedTo active item.source
  if item.status ≠ .CONFIRMED then unconfirmedPart item.source linked
  else
    match item.decision with
    | some (.reference reference) => referencePart items item.source reference linked
    | some (.decision decision) =>
      if decision.disposition = .IN_SCOPE then inScopePart item.source decision linked
      else outsidePart item.source linked
    | none => {}

def missingIds (active : List String) (parts : List ScopePart) : List String :=
  active.filter fun itemId => itemId ∉ parts.flatMap (·.covered) ∧ itemId ∉ parts.flatMap (·.pending)

def scopeIssues (content : CandidateContent RuleScenario) (records : ScopeRecords α) : List ScopeIssue :=
  let items := scopeItems digest identifier content records
  let active := activeIds content
  let parts := items.map (scopePart items active)
  let missing := missingIds active parts
  if items = [] then
    [⟨.SCOPE_REQUIRED, "先整理本轮目标与要求来源，再由你确认范围。源码发现不能直接当作业务要求。", none, []⟩]
  else
    parts.flatMap (·.issues) ++
      (if missing = [] then []
      else [⟨.PERMISSION_SOURCE_REQUIRED,
        "以下权限尚未关联已确认的本轮要求；必要的正常使用对照也应说明其对应要求。", none, sortedSet missing⟩])

end Issues

/-- How a choice of a batch settles its requirement. -/
inductive ChoiceDisposition where
  | decided (disposition : ScopeDisposition)
  | SUPPORTING
  deriving DecidableEq, Repr

structure ScopeBatchChoice extends ScopeStatement where
  disposition : ChoiceDisposition
  relatedRequirementIds : List String := []
  deriving DecidableEq, Repr

/-- The validator of a choice. -/
def ScopeBatchChoice.meaningful (choice : ScopeBatchChoice) : Except CandidateError Unit := do
  require (choice.relatedRequirementIds.Nodup) .INPUT_INVALID
  match choice.disposition with
  | .SUPPORTING => require (choice.relatedRequirementIds ≠ [] ∧ choice.requirementId ∉ choice.relatedRequirementIds ∧
      choice.timeScope = .NOT_APPLICABLE) .INPUT_INVALID
  | .decided _ => require (choice.relatedRequirementIds = []) .INPUT_INVALID

/-- The choice as a record, when it decides on its own. -/
def ScopeBatchChoice.decision (choice : ScopeBatchChoice) (stamp : ScopeStamp) : Option ScopeDecision :=
  match choice.disposition with
  | .decided disposition => some { choice.toScopeStatement, stamp with disposition }
  | .SUPPORTING => none

inductive ScopeCommand (β : Type) where
  | decision (statement : ScopeStatement) (disposition : ScopeDisposition)
  | batch (choices : List ScopeBatchChoice)
  /-- A boundary review or a coverage link. -/
  | assistance (command : β)

structure ScopeRequest (β : Type) where
  operationId : String
  nowUs : Nat
  command : ScopeCommand β

section Operations

variable {α β : Type} (digest : Digest) (identifier : String)

/-- `scoped_identity` and `distinct_references`. -/
def verifiedRecords (revision : Nat) (records : ScopeRecords α) : Except CandidateError Unit := do
  require ((records.decisions.map (·.requirementId)).Nodup ∧
    ∀ item ∈ records.decisions, item.outputRevision ≤ revision) .INPUT_INVALID
  require ((records.references.map (·.requirementId)).Nodup ∧
    (∀ item ∈ records.references, item.requirementId ∉ records.decisions.map (·.requirementId)) ∧
    ∀ item ∈ records.references, item.outputRevision ≤ revision) .INPUT_INVALID

/-- The revision and the basis that the command names are those of the current revision. -/
def stampOf (current : RuleCandidateRevision (ScopeRecords α)) (operationId : String) (nowUs : Nat) : ScopeStamp where
  operationId := operationId
  expectedBasisId := current.basisId
  expectedRevision := current.revision
  outputRevision := current.revision + 1
  createdAtUs := nowUs

/-- `decide_scope_content`, without coverage. -/
def decideScopeContent (current : RuleCandidateRevision (ScopeRecords α)) (stamp : ScopeStamp)
    (statement : ScopeStatement) (disposition : ScopeDisposition) : Except CandidateError (ScopeRecords α) := do
  let item ← orRaise ((scopeItems digest identifier current.content current.records).find? fun item =>
    item.source.requirementId = statement.requirementId) .STATE_PRECONDITION
  require (item.fingerprint = statement.requirementFingerprint) .STATE_PRECONDITION
  let records := { current.records with
    decisions := current.records.decisions.filter (·.requirementId ≠ statement.requirementId) ++
      [{ statement, stamp with disposition }]
    references := current.records.references.filter (·.requirementId ≠ statement.requirementId) }
  verifiedRecords (current.revision + 1) records
  return records

/-- A related requirement that is in the scope once the batch is decided, with the permissions it is linked to. -/
def targetOf (updated : List ScopeItem) (targetId : String) : Except CandidateError (ScopeTarget × List String) := do
  let target ← orRaise (itemOf updated targetId) .INPUT_INVALID
  require (target.status = .CONFIRMED) .INPUT_INVALID
  let decision ← orRaise target.inScope .INPUT_INVALID
  return (⟨targetId, scopeDecisionFingerprint digest decision⟩, target.source.permissionItemIds)

def referenceOf (items updated : List ScopeItem) (stamp : ScopeStamp) (choice : ScopeBatchChoice) :
    Except CandidateError ScopeReference := do
  let targets ← choice.relatedRequirementIds.mapM (targetOf digest updated)
  require (∀ item ∈ itemOf items choice.requirementId,
    item.source.permissionItemIds ⊆ targets.flatMap (·.2)) .INPUT_INVALID
  return { choice.toScopeStatement, stamp with related := targets.map (·.1) }

/-- The records with the decisions of a batch, before its references are made. -/
def batchDecided (records : ScopeRecords α) (stamp : ScopeStamp) (choices : List ScopeBatchChoice) : ScopeRecords α :=
  { records with
    decisions := records.decisions.filter (·.requirementId ∉ choices.map (·.requirementId)) ++
      choices.filterMap (·.decision stamp)
    references := records.references.filter (·.requirementId ∉ choices.map (·.requirementId)) }

/-- `decide_scope_batch_content`. -/
def decideScopeBatchContent (current : RuleCandidateRevision (ScopeRecords α)) (stamp : ScopeStamp)
    (choices : List ScopeBatchChoice) : Except CandidateError (ScopeRecords α) := do
  choices.forM ScopeBatchChoice.meaningful
  require ((choices.map (·.requirementId)).Nodup) .INPUT_INVALID
  let items := scopeItems digest identifier current.content current.records
  require (∀ choice ∈ choices, (itemOf items choice.requirementId).any fun item =>
    item.fingerprint = choice.requirementFingerprint) .STATE_PRECONDITION
  let decided := batchDecided current.records stamp choices
  verifiedRecords (current.revision + 1) decided
  let updated := scopeItems digest identifier current.content decided
  let made ← (choices.filter (·.disposition = .SUPPORTING)).mapM (referenceOf digest items updated stamp)
  let records := { decided with references := decided.references ++ made }
  verifiedRecords (current.revision + 1) records
  return records

end Operations

/-- What scope decisions leave aside: how the assistance of a save, a boundary review and a coverage link change the
other records, and whether boundary reviews are open. -/
structure Assistants (α β κ : Type) extends Reading where
  others : α
  carryAssistance : Option (RuleCandidateRevision (ScopeRecords α)) → RuleCandidateRevision (ScopeRecords α) → κ →
    Except CandidateError α
  assist : RuleCandidateRevision (ScopeRecords α) → β → Except CandidateError (List BoundaryReviewRecord × α)
  openReviews : RuleCandidateRevision (ScopeRecords α) → Bool

section Desks

variable {α β κ : Type} (assistants : Assistants α β κ) (identifier : String)

def scopeRecords (current : RuleCandidateRevision (ScopeRecords α)) (request : ScopeRequest β) :
    Except CandidateError (List BoundaryReviewRecord × ScopeRecords α) :=
  let stamp := stampOf current request.operationId request.nowUs
  match request.command with
  | .decision statement disposition => do
    let records ← decideScopeContent assistants.digest identifier current stamp statement disposition
    return (current.boundaryReviews, records)
  | .batch choices => do
    let records ← decideScopeBatchContent assistants.digest identifier current stamp choices
    return (current.boundaryReviews, records)
  | .assistance command => do
    let (boundaryReviews, others) ← assistants.assist current command
    return (boundaryReviews, { current.records with others })

/-- The service with its scope records: an author cannot change them. -/
def scopeDesk : Desk (ScopeRecords α) κ (ScopeRequest β) where
  toReading := assistants.toReading
  records := { others := assistants.others }
  carryAssistance current value command := do
    let others ← assistants.carryAssistance current value command
    return { value.records with others }
  reviewRecords := scopeRecords assistants identifier
  openIssues value := assistants.openReviews value ||
    !(scopeIssues assistants.digest identifier value.content value.records).isEmpty

end Desks

section Fingerprints

variable {digest : Digest} {identifier : String}

/-- The title, the origin, the excerpt and the interpretation of a requirement. -/
structure SameMeaning (left right : RequirementSource) : Prop where
  requirementId : left.requirementId = right.requirementId
  title : left.title = right.title
  origin : left.origin = right.origin
  sourceExcerpt : left.sourceExcerpt = right.sourceExcerpt
  interpretation : left.interpretation = right.interpretation

theorem canonicalSha256_injective {left right : Json}
    (same : canonicalSha256 digest left = canonicalSha256 digest right) : left.canonical = right.canonical :=
  digest.collisionFree _ _ (congrArg digest.short same)

theorem sameMeaning_of_canonical {left right : RequirementSource}
    (same : (semanticSource left).canonical = (semanticSource right).canonical) : SameMeaning left right where
  requirementId := separating_str.field same "requirement_id" (by simp) (by simp)
  title := separating_str.field same "title" (by simp) (by simp)
  origin := separating_str.field same "origin" (by simp) (by simp)
  sourceExcerpt := separating_str.field same "source_excerpt" (by simp) (by simp)
  interpretation := separating_str.field same "interpretation" (by simp) (by simp)

theorem meaningFingerprint_injective {left right : RequirementSource}
    (same : meaningFingerprint digest identifier left = meaningFingerprint digest identifier right) :
    SameMeaning left right := by
  have documents := canonicalSha256_injective same
  simp only [canonical_list, List.map_cons, List.map_nil, Json.list.injEq, List.cons.injEq, and_true, true_and] at documents
  exact sameMeaning_of_canonical documents

/-- No candidate goes by the word that fingerprints start with. -/
theorem candidateId_ne (identifier : String) : "REQUIREMENT_MEANING" ≠ candidateId identifier := by
  intro same
  have letters := congrArg String.toList same
  simp [candidateId] at letters

theorem meaning_ne_earlier (basisId : String) (left right : RequirementSource) :
    meaningFingerprint digest identifier left ≠ earlierFingerprint digest identifier basisId right := by
  intro same
  have documents := canonicalSha256_injective same
  simp only [canonical_list, List.map_cons, canonical_str, Json.list.injEq, List.cons.injEq, Json.str.injEq] at documents
  exact candidateId_ne identifier documents.1

/-- A decision whose fingerprint is that of a requirement is accepted for the requirements of that meaning only. -/
theorem sameMeaning_of_accepted {shown source : RequirementSource} {answer : ScopeAnswer}
    (told : meaningFingerprint digest identifier shown = answer.statement.requirementFingerprint)
    (fits : accepted digest identifier source answer) : SameMeaning shown source := by
  rcases fits with current | earlier
  · exact meaningFingerprint_injective (told.trans current)
  · exact absurd (told.trans earlier) (meaning_ne_earlier _ shown source)

theorem timeScope_injective : Function.Injective TimeScope.value := by
  intro left right same
  cases left <;> cases right <;> simp [TimeScope.value] at same ⊢

/-- Decisions of one fingerprint state the same of the same requirement. -/
theorem scopeDecisionFingerprint_injective {left right : ScopeDecision}
    (same : scopeDecisionFingerprint digest left = scopeDecisionFingerprint digest right) :
    left.requirementFingerprint = right.requirementFingerprint ∧ left.requirement = right.requirement ∧
      left.timeScope = right.timeScope := by
  have documents := canonicalSha256_injective same
  exact ⟨separating_str.field documents "requirement_fingerprint" (by simp) (by simp),
    separating_str.field documents "requirement" (by simp) (by simp),
    (separating_word timeScope_injective).field documents "time_scope" (by simp) (by simp)⟩

end Fingerprints

section Members

variable {α : Type} {digest : Digest} {identifier : String} {content : CandidateContent RuleScenario}
  {records : ScopeRecords α} {item : ScopeItem}

theorem answerOf_decision {requirementId : String} {decision : ScopeDecision}
    (answer : answerOf records requirementId = some (.decision decision)) : decision ∈ records.decisions := by
  unfold answerOf at answer
  rcases Option.or_eq_some_iff.mp answer with referred | ⟨-, decided⟩
  · obtain ⟨_, -, other⟩ := Option.map_eq_some_iff.mp referred
    cases other
  · obtain ⟨_, found, same⟩ := Option.map_eq_some_iff.mp decided
    cases same
    exact (Table.latest_some found).1

theorem answerOf_reference {requirementId : String} {reference : ScopeReference}
    (answer : answerOf records requirementId = some (.reference reference)) : reference ∈ records.references := by
  unfold answerOf at answer
  rcases Option.or_eq_some_iff.mp answer with referred | ⟨-, decided⟩
  · obtain ⟨_, found, same⟩ := Option.map_eq_some_iff.mp referred
    cases same
    exact (Table.latest_some found).1
  · obtain ⟨_, -, other⟩ := Option.map_eq_some_iff.mp decided
    cases other

/-- Marking changes the status of a reference and nothing else. -/
theorem markedItem_cases (items : List ScopeItem) (item : ScopeItem) :
    markedItem digest items item = item ∨ markedItem digest items item = { item with status := .STALE } := by
  unfold markedItem
  split
  · split
    · exact .inr rfl
    · exact .inl rfl
  · exact .inl rfl

/-- What an item says about its requirement. -/
theorem scopeItems_mem (listed : item ∈ scopeItems digest identifier content records) :
    item.source ∈ content.requirementSources ∧ item.fingerprint = meaningFingerprint digest identifier item.source ∧
      item.decision = answerOf records item.source.requirementId ∧
      (item.status = .CONFIRMED → ∀ answer ∈ item.decision, accepted digest identifier item.source answer) := by
  obtain ⟨recorded, known, rfl⟩ := List.mem_map.mp listed
  obtain ⟨source, present, rfl⟩ := List.mem_map.mp known
  rcases @markedItem_cases digest (recordedItems digest identifier content records)
    (recordedItem digest identifier records source) with same | same
  · rw [same]
    refine ⟨present, rfl, rfl, ?_⟩
    intro confirmed answer found
    have status : recordedStatus digest identifier source (answerOf records source.requirementId) = .CONFIRMED := confirmed
    rw [show answerOf records source.requirementId = some answer from found] at status
    by_contra refused
    have stale : recordedStatus digest identifier source (some answer) = .STALE := if_pos refused
    rw [stale] at status
    cases status
  · rw [same]
    exact ⟨present, rfl, rfl, fun confirmed => by cases confirmed⟩

theorem recorded_of_confirmed (listed : item ∈ scopeItems digest identifier content records)
    (confirmed : item.status = .CONFIRMED) : item ∈ recordedItems digest identifier content records := by
  obtain ⟨recorded, known, rfl⟩ := List.mem_map.mp listed
  rcases @markedItem_cases digest (recordedItems digest identifier content records) recorded with same | same
  · rw [same]
    exact known
  · rw [same] at confirmed
    cases confirmed

/-- A confirmed reference has targets that hold. -/
theorem confirmed_targets {reference : ScopeReference} (listed : item ∈ scopeItems digest identifier content records)
    (confirmed : item.status = .CONFIRMED) (refers : item.decision = some (.reference reference)) :
    ∀ target ∈ reference.related,
      targetHolds digest (recordedItems digest identifier content records) target = true := by
  obtain ⟨recorded, known, rfl⟩ := List.mem_map.mp listed
  rcases @markedItem_cases digest (recordedItems digest identifier content records) recorded with same | same
  · rw [same] at confirmed refers
    unfold markedItem at same
    rw [refers] at same
    dsimp only at same
    by_cases fails : recorded.status = .CONFIRMED ∧ ¬ reference.related.all
        (targetHolds digest (recordedItems digest identifier content records))
    · rw [if_pos fails] at same
      rw [← same] at confirmed
      cases confirmed
    · have holds : reference.related.all (targetHolds digest (recordedItems digest identifier content records)) = true := by
        by_contra refused
        exact fails ⟨confirmed, refused⟩
      exact List.all_eq_true.mp holds
  · rw [same] at confirmed
    cases confirmed

theorem inScope_some {decision : ScopeDecision} :
    item.inScope = some decision ↔ item.decision = some (.decision decision) ∧ decision.disposition = .IN_SCOPE := by
  unfold ScopeItem.inScope
  cases found : item.decision with
  | none => simp
  | some answer =>
    cases answer with
    | reference reference => simp [ScopeAnswer.inScope]
    | decision other =>
      simp only [Option.bind_some, ScopeAnswer.inScope, Option.some.injEq, ScopeAnswer.decision.injEq]
      constructor
      · intro inside
        split at inside
        · rename_i disposition
          cases inside
          exact ⟨rfl, disposition⟩
        · cases inside
      · rintro ⟨rfl, disposition⟩
        rw [if_pos disposition]

/-- A recorded item with a decision is not marked. -/
theorem recorded_unmarked {decision : ScopeDecision} (listed : item ∈ recordedItems digest identifier content records)
    (decided : item.decision = some (.decision decision)) : item ∈ scopeItems digest identifier content records := by
  apply List.mem_map.mpr
  refine ⟨item, listed, ?_⟩
  unfold markedItem
  rw [decided]

end Members

section Quiet

variable {α : Type} {digest : Digest} {identifier : String} {content : CandidateContent RuleScenario}
  {records : ScopeRecords α} {items : List ScopeItem} {active : List String} {item : ScopeItem}

/-- A confirmed requirement, with the decision that confirms it. -/
structure DecidedBy (item : ScopeItem) (decision : ScopeDecision) : Prop where
  confirmed : item.status = .CONFIRMED
  recorded : item.decision = some (.decision decision)

/-- An item that raises no issue is confirmed, and it leaves no mapping pending. -/
theorem scopePart_quiet (quiet : (scopePart items active item).issues = []) :
    item.status = .CONFIRMED ∧ (scopePart items active item).pending = [] := by
  by_cases confirmed : item.status = .CONFIRMED
  · refine ⟨confirmed, ?_⟩
    unfold scopePart at quiet ⊢
    dsimp only at quiet ⊢
    rw [if_neg (not_not_intro confirmed)] at quiet ⊢
    cases found : item.decision with
    | none => rfl
    | some answer =>
      rw [found] at quiet
      cases answer with
      | reference reference =>
        unfold referencePart at quiet ⊢
        dsimp only at quiet ⊢
        split at quiet
        · rename_i carried
          rw [if_pos carried]
        · cases quiet
      | decision decision =>
        dsimp only at quiet ⊢
        split at quiet
        · rename_i inside
          rw [if_pos inside]
          rfl
        · rename_i aside
          rw [if_neg aside]
          unfold outsidePart at quiet ⊢
          split at quiet
          · rename_i unlinked
            rw [if_pos unlinked]
          · cases quiet
  · unfold scopePart at quiet
    dsimp only at quiet
    rw [if_pos confirmed] at quiet
    cases quiet

/-- What an item covers is linked to a requirement that is in the scope, and not to a historic one. -/
theorem scopePart_covered (quiet : (scopePart items active item).issues = []) {itemId : String}
    (covered : itemId ∈ (scopePart items active item).covered) :
    itemId ∈ item.source.permissionItemIds ∧
      ∃ decision, DecidedBy item decision ∧ decision.disposition = .IN_SCOPE ∧ decision.timeScope ≠ .HISTORY := by
  have confirmed := (scopePart_quiet quiet).1
  unfold scopePart at quiet covered
  dsimp only at quiet covered
  rw [if_neg (not_not_intro confirmed)] at quiet covered
  cases found : item.decision with
  | none =>
    rw [found] at covered
    cases covered
  | some answer =>
    rw [found] at quiet covered
    cases answer with
    | reference reference =>
      unfold referencePart at covered
      dsimp only at covered
      split at covered <;> cases covered
    | decision decision =>
      dsimp only at quiet covered
      by_cases inside : decision.disposition = .IN_SCOPE
      · rw [if_pos inside] at quiet covered
        refine ⟨(List.mem_filter.mp covered).1, decision, ⟨confirmed, found⟩, inside, ?_⟩
        intro historic
        have silent := (List.append_eq_nil_iff.mp quiet).2
        rw [if_pos historic] at silent
        cases silent
      · rw [if_neg inside] at covered
        unfold outsidePart at covered
        split at covered <;> cases covered

/-- A requirement that is confirmed as no part of the scope is linked to no active permission. -/
theorem scopePart_outside (quiet : (scopePart items active item).issues = []) {decision : ScopeDecision}
    (decided : DecidedBy item decision) (aside : decision.disposition ≠ .IN_SCOPE) : linkedTo active item.source = [] := by
  unfold scopePart at quiet
  dsimp only at quiet
  rw [if_neg (not_not_intro decided.confirmed), decided.recorded] at quiet
  dsimp only at quiet
  rw [if_neg aside] at quiet
  unfold outsidePart at quiet
  split at quiet
  · assumption
  · cases quiet

/-- Without an issue every item is silent and no active permission is left over. -/
theorem scopeIssues_quiet (quiet : scopeIssues digest identifier content records = []) :
    (∀ item ∈ scopeItems digest identifier content records,
      (scopePart (scopeItems digest identifier content records) (activeIds content) item).issues = []) ∧
    ∀ itemId ∈ activeIds content, ∃ item ∈ scopeItems digest identifier content records,
      itemId ∈ (scopePart (scopeItems digest identifier content records) (activeIds content) item).covered := by
  unfold scopeIssues at quiet
  dsimp only at quiet
  split at quiet
  · cases quiet
  · obtain ⟨silent, complete⟩ := List.append_eq_nil_iff.mp quiet
    have silentParts : ∀ item ∈ scopeItems digest identifier content records,
        (scopePart (scopeItems digest identifier content records) (activeIds content) item).issues = [] :=
      fun item listed => List.flatMap_eq_nil_iff.mp silent _ (List.mem_map_of_mem listed)
    refine ⟨silentParts, ?_⟩
    intro itemId active
    have missing : missingIds (activeIds content) ((scopeItems digest identifier content records).map
        (scopePart (scopeItems digest identifier content records) (activeIds content))) = [] := by
      by_contra some'
      rw [if_neg some'] at complete
      cases complete
    have told := List.filter_eq_nil_iff.mp missing itemId active
    by_contra uncovered
    apply told
    rw [decide_eq_true_eq]
    constructor
    · intro covered
      obtain ⟨part, placed, inside⟩ := List.mem_flatMap.mp covered
      obtain ⟨item, listed, rfl⟩ := List.mem_map.mp placed
      exact uncovered ⟨item, listed, inside⟩
    · intro pending
      obtain ⟨part, placed, inside⟩ := List.mem_flatMap.mp pending
      obtain ⟨item, listed, rfl⟩ := List.mem_map.mp placed
      rw [(scopePart_quiet (silentParts item listed)).2] at inside
      cases inside

end Quiet

end Jiejian.Boundaries.Scope
