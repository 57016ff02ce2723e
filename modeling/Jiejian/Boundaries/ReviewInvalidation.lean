import Jiejian.Boundaries.ReviewRuns

namespace Jiejian.Boundaries.ReviewInvalidation

open Library Library.Document Library.Outcome Library.Sorting
open Protocol.Codec Preparation.Models Proposals Scenarios Candidates CandidateService Selections
open Scope Reviews ReviewClosure ReviewPayload ReviewRuns

section Fingerprints

variable {α : Type} {digest : Digest} {identifier : String} {issueId : String} {dependencies : ReviewDependencies}
  {made value : RuleCandidateRevision (ScopeRecords (ReviewRecords α))} {payload : DependencyPayload}

theorem payloadFingerprint_eq_iff {other : DependencyPayload} :
    payloadFingerprint digest issueId payload = payloadFingerprint digest issueId other ↔
      payload.dump.canonical = other.dump.canonical := by
  constructor
  · intro same
    have documents := canonicalSha256_injective same
    simp only [canonical_list, List.map_cons, List.map_nil, Json.list.injEq, List.cons.injEq, and_true, true_and] at documents
    exact documents
  · intro same
    unfold payloadFingerprint canonicalSha256 encodeJson
    simp only [canonical_list, List.map_cons, same]

/-- A fingerprint of dependencies is never that of missing ones. -/
theorem payload_ne_missing (revision : Nat) :
    payloadFingerprint digest issueId payload ≠ missingFingerprint digest issueId revision := by
  intro same
  have documents := canonicalSha256_injective same
  simp [canonical_list] at documents

/-- The fingerprint of the dependencies in one revision is the current one exactly where they are the same. -/
theorem current_iff (here : dependencyPayload made.content made.records dependencies = some payload) :
    payloadFingerprint digest issueId payload = currentFingerprint digest value issueId (some dependencies) ↔
      SameDependencies made.content made.records value.content value.records dependencies := by
  unfold currentFingerprint reviewFingerprint
  dsimp only
  constructor
  · intro same
    cases there : dependencyPayload value.content value.records dependencies with
    | none =>
      rw [there] at same
      exact absurd same (payload_ne_missing value.revision)
    | some other =>
      rw [there] at same
      exact same_of_payload here there (payloadFingerprint_eq_iff.mp same)
  · intro same
    have written := payload_of_same same
    rw [here, Option.map_some] at written
    obtain ⟨other, there, alike⟩ := Option.map_eq_some_iff.mp written.symm
    rw [there]
    exact payloadFingerprint_eq_iff.mpr alike.symm

end Fingerprints

section Standing

variable {α β κ : Type} {helpers : Helpers α β κ} {identifier : String}
  {candidate : Candidate (ScopeRecords (ReviewRecords α))}
  {value : RuleCandidateRevision (ScopeRecords (ReviewRecords α))} {record : BoundaryReviewRecord}
  {context : ReviewContext}

def outcomeStatus (record : BoundaryReviewRecord) : ReviewStatus :=
  if record.outcome.resolved then .RESOLVED else .OPEN

theorem outcomeStatus_ne (record : BoundaryReviewRecord) : outcomeStatus record ≠ .STALE := by
  unfold outcomeStatus
  split <;> decide

/-- The item of an issue that a human reviewed, with the context of the review. -/
theorem item_shape {index occurrence : Nat} {source : ReviewSource} {text : String}
    (reviewed : ReviewedIn helpers identifier candidate value) (listed : record ∈ value.boundaryReviews)
    (kept : context ∈ value.records.others.contexts) (same : context.issueId = record.issueId)
    (issue : record.issueId = issueIdOf helpers.digest identifier source text occurrence) :
    (reviewItem helpers.digest identifier value source text index occurrence).decision = some record ∧
      (reviewItem helpers.digest identifier value source text index occurrence).status =
        statusOf (currentFingerprint helpers.digest value record.issueId (some context.dependencies)) (some record) := by
  have found : Table.latest (·.issueId) value.boundaryReviews record.issueId = some record :=
    reviewed.records.latest_mem listed
  have found' : Table.latest (·.issueId) value.records.others.contexts record.issueId = some context :=
    same ▸ reviewed.contexts.latest_mem kept
  unfold reviewItem
  dsimp only
  rw [← issue, found, found', Option.map_some]
  exact ⟨rfl, rfl⟩

/-- A review stands exactly as long as its dependencies are those of the revision it led to. -/
theorem status_iff (reviewed : ReviewedIn helpers identifier candidate value) (listed : record ∈ value.boundaryReviews)
    (kept : context ∈ value.records.others.contexts) (same : context.issueId = record.issueId) :
    ∃ made ∈ candidate.revisions, made.revision = record.outputRevision ∧
      (SameDependencies made.content made.records value.content value.records context.dependencies →
        statusOf (currentFingerprint helpers.digest value record.issueId (some context.dependencies)) (some record) =
          outcomeStatus record) ∧
      (¬ SameDependencies made.content made.records value.content value.records context.dependencies →
        statusOf (currentFingerprint helpers.digest value record.issueId (some context.dependencies)) (some record) =
          .STALE) := by
  obtain ⟨made, stored, revision, told⟩ := reviewed.bound record listed
  obtain ⟨payload, here, fingerprint⟩ := told context kept same
  have current := @current_iff _ helpers.digest record.issueId context.dependencies made value payload here
  rw [← fingerprint] at current
  refine ⟨made, stored, revision, ?_, ?_⟩
  · intro unchanged
    unfold statusOf
    dsimp only
    rw [if_neg (not_not_intro (current.mpr unchanged))]
    rfl
  · intro changed
    unfold statusOf
    dsimp only
    rw [if_pos fun equal => changed (current.mp equal)]

/-- Dependencies that are the same in two later revisions are those of the review in both or in neither. -/
theorem same_trans {made earlier later : RuleCandidateRevision (ScopeRecords (ReviewRecords α))}
    {dependencies : ReviewDependencies} {payload : DependencyPayload}
    (here : dependencyPayload made.content made.records dependencies = some payload)
    (between : SameDependencies earlier.content earlier.records later.content later.records dependencies) :
    SameDependencies made.content made.records earlier.content earlier.records dependencies ↔
      SameDependencies made.content made.records later.content later.records dependencies := by
  have written := payload_of_same between
  constructor
  · intro unchanged
    have before := payload_of_same unchanged
    rw [here, Option.map_some, written] at before
    obtain ⟨other, there, alike⟩ := Option.map_eq_some_iff.mp before.symm
    exact same_of_payload here there alike.symm
  · intro unchanged
    have after := payload_of_same unchanged
    rw [here, Option.map_some, ← written] at after
    obtain ⟨other, there, alike⟩ := Option.map_eq_some_iff.mp after.symm
    exact same_of_payload here there alike.symm

/-- What a save leaves of the reviews: all of them, with their contexts and with the scope records. -/
theorem save_inherits {command : RuleCandidateSave κ} {next : Candidate (ScopeRecords (ReviewRecords α))}
    {setting : Setting} {current : RuleCandidateRevision (ScopeRecords (ReviewRecords α))}
    (head : candidate.head = some current)
    (saved : Service.save (reviewDesk helpers identifier) candidate setting command = .ok next) :
    ∃ value, next.revisions = candidate.revisions ++ [value] ∧ value.boundaryReviews = current.boundaryReviews ∧
      value.records.others.contexts = current.records.others.contexts ∧
      value.records.decisions = current.records.decisions ∧ value.records.references = current.records.references := by
  obtain ⟨content, value, records, -, -, -, -, reviews, inherited, carried, rfl⟩ := save_value saved
  obtain ⟨others, noted, result⟩ := bind_eq_ok.mp carried
  obtain ⟨_, -, kept⟩ := bind_eq_ok.mp noted
  cases kept
  cases result
  rw [head] at reviews inherited
  refine ⟨_, rfl, reviews, ?_, ?_, ?_⟩ <;>
    · dsimp only
      rw [inherited]
      rfl

/-- An edit outside the closure of a review changes nothing about its status. -/
theorem outside_status {next : Candidate (ScopeRecords (ReviewRecords α))}
    {current : RuleCandidateRevision (ScopeRecords (ReviewRecords α))}
    (reviewed : ReviewedIn helpers identifier candidate current) (reviewed' : ReviewedIn helpers identifier next value)
    (scope : ∀ id, shownScope current.records id = shownScope value.records id)
    (listed : record ∈ current.boundaryReviews) (kept : context ∈ current.records.others.contexts)
    (same : context.issueId = record.issueId)
    (edit : OutsideEdit current.content value.content context.dependencies) :
    statusOf (currentFingerprint helpers.digest current record.issueId (some context.dependencies)) (some record) =
      statusOf (currentFingerprint helpers.digest value record.issueId (some context.dependencies)) (some record) := by
  have between := same_of_outside edit reviewed.sources reviewed'.sources scope
  obtain ⟨made, -, -, told⟩ := reviewed.bound record listed
  obtain ⟨payload, here, fingerprint⟩ := told context kept same
  have before := @current_iff _ helpers.digest record.issueId context.dependencies made current payload here
  have after := @current_iff _ helpers.digest record.issueId context.dependencies made value payload here
  rw [← fingerprint] at before after
  have alike := before.trans ((same_trans here between).trans after.symm)
  unfold statusOf
  dsimp only
  by_cases current' : record.issueFingerprint =
      currentFingerprint helpers.digest current record.issueId (some context.dependencies)
  · rw [if_neg (not_not_intro current'), if_neg (not_not_intro (alike.mp current'))]
  · rw [if_pos current', if_pos fun later => current' (alike.mpr later)]

end Standing

section Runs

variable {α β κ : Type}

/-- The closure of dependencies is the least one and does not depend on any order; a review stands exactly as long as
what it depends on is the same; and a save outside the closure changes nothing about it. -/
theorem review_stands_iff (helpers : Helpers α β κ) (identifier : String)
    (operations : List (Operation κ (ScopeRequest (AssistCommand β)))) :
    (∀ sources dependencies, IsLeast {sets | Covering sources dependencies sets}
      (reachSets (closureOf sources dependencies))) ∧
    (∀ sources others dependencies named,
      (∀ requirementId permissionId, Links sources requirementId permissionId ↔ Links others requirementId permissionId) →
      (∀ id, id ∈ dependencies.requirementIds ↔ id ∈ named.requirementIds) →
      (∀ id, id ∈ dependencies.permissionItemIds ↔ id ∈ named.permissionItemIds) →
      reachSets (closureOf sources dependencies) = reachSets (closureOf others named)) ∧
    (∀ value ∈ (runCandidate (reviewDesk helpers identifier) operations).revisions, ∀ record ∈ value.boundaryReviews,
      ∀ context ∈ value.records.others.contexts, context.issueId = record.issueId →
      ∃ made ∈ (runCandidate (reviewDesk helpers identifier) operations).revisions,
        made.revision = record.outputRevision ∧
        ∃ item ∈ boundaryReviewItems helpers.digest identifier value, item.issueId = record.issueId ∧
          item.decision = some record ∧
          (item.status = outcomeStatus record ↔
            SameDependencies made.content made.records value.content value.records context.dependencies) ∧
          (item.status = .STALE ↔
            ¬ SameDependencies made.content made.records value.content value.records context.dependencies)) ∧
    (∀ setting command next,
      Service.save (reviewDesk helpers identifier) (runCandidate (reviewDesk helpers identifier) operations) setting command =
        .ok next →
      ∀ current, (runCandidate (reviewDesk helpers identifier) operations).head = some current →
      ∃ value, next.head = some value ∧ ∀ record ∈ current.boundaryReviews,
        ∀ context ∈ current.records.others.contexts, context.issueId = record.issueId →
        OutsideEdit current.content value.content context.dependencies →
        ∃ before ∈ boundaryReviewItems helpers.digest identifier current,
        ∃ after ∈ boundaryReviewItems helpers.digest identifier value,
          before.issueId = record.issueId ∧ after.issueId = record.issueId ∧ before.decision = some record ∧
          after.decision = some record ∧ after.status = before.status ∧ after.blocking = before.blocking) := by
  have reviewed := run_reviewed helpers identifier operations
  refine ⟨closureOf_least, fun _ _ _ _ => closureOf_sets, ?_, ?_⟩
  · intro value stored record listed context kept same
    have now := reviewed value stored
    obtain ⟨made, known, revision, stands, falls⟩ := status_iff now listed kept same
    obtain ⟨occurrence, issue, below, apart⟩ := now.asked record listed
    obtain ⟨index, present⟩ := @mem_boundaryReviewItems _ identifier helpers.digest value record.source record.text
      occurrence below apart
    obtain ⟨decision, status⟩ := @item_shape _ _ _ _ _ _ _ _ _ index _ _ _ now listed kept same issue
    refine ⟨made, known, revision, _, present, issue.symm, decision, ?_, ?_⟩
    · rw [status]
      constructor
      · intro standing
        by_contra changed
        rw [falls changed] at standing
        exact outcomeStatus_ne record standing.symm
      · exact stands
    · rw [status]
      constructor
      · intro stale unchanged
        rw [stands unchanged] at stale
        exact outcomeStatus_ne record stale
      · exact falls
  · intro setting command next saved current head
    obtain ⟨value, revisions, reviews, contexts, decisions, references⟩ := save_inherits head saved
    have headed : next.head = some value := by
      unfold Candidate.head
      rw [revisions, List.getLast?_concat]
    have before := reviewed current (List.mem_of_getLast? head)
    have after : ReviewedIn helpers identifier next value := by
      apply save_reviewed reviewed saved value
      rw [revisions]
      exact List.mem_append_right _ (List.mem_singleton.mpr rfl)
    have scope : ∀ id, shownScope current.records id = shownScope value.records id := by
      intro id
      unfold shownScope
      rw [decisions, references]
    refine ⟨value, headed, ?_⟩
    intro record listed context kept same edit
    have listed' : record ∈ value.boundaryReviews := by
      rw [reviews]
      exact listed
    have kept' : context ∈ value.records.others.contexts := by
      rw [contexts]
      exact kept
    obtain ⟨occurrence, issue, below, apart⟩ := before.asked record listed
    obtain ⟨index, present⟩ := @mem_boundaryReviewItems _ identifier helpers.digest current record.source record.text
      occurrence below apart
    obtain ⟨decision, status⟩ := @item_shape _ _ _ _ _ _ _ _ _ index _ _ _ before listed kept same issue
    obtain ⟨occurrence', issue', below', apart'⟩ := after.asked record listed'
    obtain ⟨index', present'⟩ := @mem_boundaryReviewItems _ identifier helpers.digest value record.source record.text
      occurrence' below' apart'
    obtain ⟨decision', status'⟩ := @item_shape _ _ _ _ _ _ _ _ _ index' _ _ _ after listed' kept' same issue'
    have unchanged := outside_status before after scope listed kept same edit
    rw [← status, ← status'] at unchanged
    refine ⟨_, present, _, present', issue.symm, issue'.symm, decision, decision', unchanged.symm, ?_⟩
    unfold ReviewItem.blocking
    rw [unchanged]

end Runs

section Sample

variable (digest : Digest)

def sampleHelpers : Helpers Unit Unit Unit where
  digest := digest
  normalizedRuleText := id
  textHash := id
  others := ()
  carryAssistance := fun _ _ _ => .ok ()
  linkCoverage := fun _ _ => .ok ()
  planned := fun _ => []

def sampleSetting : Setting where
  projectId := "project"
  candidateId := "rcd_1"
  draft := { basisId := "rb" }

def sampleSource : RequirementSource where
  requirementId := "req"
  title := "logs"
  origin := "USER"
  sourceExcerpt := "keep the logs"
  interpretation := "logs are kept"

/-- One requirement, and one limitation that the author noted. -/
def sampleContent {σ : Type} : CandidateContent σ where
  originalText := "keep the logs"
  unsupportedConstraints := ["logs"]
  requirementSources := [sampleSource]

def sampleStatement (reason : String) : ScopeStatement where
  requirementId := "req"
  requirementFingerprint := meaningFingerprint digest "1" sampleSource
  requirement := "keep the logs"
  reason := reason
  timeScope := .CHECK_WINDOW

def sampleDependencies : ReviewDependencies where
  requirementIds := ["req"]

def sampleDecision (reason : String) (revision : Nat) : ScopeDecision where
  toScopeStatement := sampleStatement digest reason
  toScopeStamp := ⟨"operation", "rb", revision, revision + 1, 0⟩
  disposition := .IN_SCOPE

def sampleIssue : String := issueIdOf digest "1" .unsupported_constraints "logs" 0

def sampleRecords (decisions : List ScopeDecision) (contexts : List ReviewContext) : ScopeRecords (ReviewRecords Unit) where
  decisions := decisions
  others := ⟨contexts, ()⟩

def samplePayload : DependencyPayload where
  sources := [sampleSource]
  scope := [some (.decision .IN_SCOPE "keep the logs" .CHECK_WINDOW)]
  permissions := []
  actors := []
  actions := []

def sampleRecord : BoundaryReviewRecord where
  operationId := "operation"
  expectedBasisId := "rb"
  expectedRevision := 2
  issueId := sampleIssue digest
  issueFingerprint := payloadFingerprint digest (sampleIssue digest) samplePayload
  outcome := .EVIDENCE_GAP
  reason := "no evidence"
  retainedRequirement := "keep the logs"
  decisionId := "brd"
  source := .unsupported_constraints
  text := "logs"
  outputRevision := 3
  createdAtUs := 0

def sampleContext : ReviewContext := ⟨sampleIssue digest, "brd", sampleDependencies, 3⟩

def sampleRevision (revision : Nat) (decisions : List ScopeDecision) (reviews : List BoundaryReviewRecord)
    (contexts : List ReviewContext) : RuleCandidateRevision (ScopeRecords (ReviewRecords Unit)) where
  revision := revision
  basisId := "rb"
  content := sampleContent
  boundaryReviews := reviews
  records := sampleRecords decisions contexts

def sampleSaved := sampleRevision 1 [] [] []

def sampleDecided := sampleRevision 2 [sampleDecision digest "asked" 1] [] []

def sampleReviewed := sampleRevision 3 [sampleDecision digest "asked" 1] [sampleRecord digest] [sampleContext digest]

def sampleRestated := sampleRevision 4 [sampleDecision digest "agreed" 3] [sampleRecord digest] [sampleContext digest]

def sampleCommand : BoundaryReviewCommand where
  operationId := "operation"
  issueId := sampleIssue digest
  issueFingerprint := currentFingerprint digest (sampleDecided digest) (sampleIssue digest) none
  outcome := .EVIDENCE_GAP
  reason := "no evidence"
  retainedRequirement := "keep the logs"
  dependencies := some sampleDependencies
  decisionId := "brd"
  nowUs := 0

def sampleDecide (reason : String) (revision : Nat) : Operation Unit (ScopeRequest (AssistCommand Unit)) :=
  .review sampleSetting ⟨"rb", revision, ⟨"operation", 0, .decision (sampleStatement digest reason) .IN_SCOPE⟩⟩

/-- A human takes the requirement into the scope, reviews the limitation, and decides the same for another reason. -/
def sampleOperations : List (Operation Unit (ScopeRequest (AssistCommand Unit))) :=
  [.save sampleSetting ⟨"rb", none, sampleContent, false, ()⟩, sampleDecide digest "asked" 1,
    .review sampleSetting ⟨"rb", 2, ⟨"operation", 0, .assistance (.review (sampleCommand digest))⟩⟩,
    sampleDecide digest "agreed" 3]

theorem sample_scoped : scopedContent (sampleHelpers digest).toReading sampleContent = .ok sampleContent :=
  bind_eq_ok.mpr ⟨[], rfl, bind_eq_ok.mpr ⟨(), rfl, rfl⟩⟩

theorem sample_saved : operate (reviewDesk (sampleHelpers digest) "1") {}
    (.save sampleSetting ⟨"rb", none, sampleContent, false, ()⟩) = .ok ⟨[sampleSaved], []⟩ :=
  bind_eq_ok.mpr ⟨(), rfl, bind_eq_ok.mpr ⟨none, rfl, bind_eq_ok.mpr ⟨sampleContent,
    bind_eq_ok.mpr ⟨sampleContent, rfl, sample_scoped digest⟩,
    bind_eq_ok.mpr ⟨(), rfl, bind_eq_ok.mpr ⟨sampleRecords [] [], rfl, bind_eq_ok.mpr ⟨(), rfl, rfl⟩⟩⟩⟩⟩⟩

/-- The records after a decision about the requirement, whatever was decided before. -/
theorem sample_recorded (reason : String) (revision : Nat) (decisions : List ScopeDecision)
    (reviews : List BoundaryReviewRecord) (contexts : List ReviewContext)
    (replaced : decisions.filter (fun decision => decision.requirementId ≠ "req") = []) :
    scopeRecords (reviewAssistants (sampleHelpers digest) "1") "1" (sampleRevision revision decisions reviews contexts)
      ⟨"operation", 0, .decision (sampleStatement digest reason) .IN_SCOPE⟩ =
      .ok (reviews, sampleRecords [sampleDecision digest reason revision] contexts) := by
  have located : (scopeItems digest "1" sampleContent (sampleRecords decisions contexts)).find? (fun item =>
      item.source.requirementId = "req") = some (markedItem digest
        (recordedItems digest "1" sampleContent (sampleRecords decisions contexts))
        (recordedItem digest "1" (sampleRecords decisions contexts) sampleSource)) := by
    rcases @markedItem_cases digest (recordedItems digest "1" sampleContent (sampleRecords decisions contexts))
      (recordedItem digest "1" (sampleRecords decisions contexts) sampleSource) with same | same
    · exact List.find?_cons_of_pos (by rw [same]; rfl)
    · exact List.find?_cons_of_pos (by rw [same]; rfl)
  have printed : (markedItem digest (recordedItems digest "1" sampleContent (sampleRecords decisions contexts))
      (recordedItem digest "1" (sampleRecords decisions contexts) sampleSource)).fingerprint =
        meaningFingerprint digest "1" sampleSource := by
    rcases @markedItem_cases digest (recordedItems digest "1" sampleContent (sampleRecords decisions contexts))
      (recordedItem digest "1" (sampleRecords decisions contexts) sampleSource) with same | same
    · rw [same]
      rfl
    · rw [same]
      rfl
  have verified : verifiedRecords (revision + 1) (sampleRecords [sampleDecision digest reason revision] contexts) =
      .ok () := by
    refine bind_eq_ok.mpr ⟨(), require_eq_ok.mpr ⟨List.nodup_singleton _, ?_⟩, require_eq_ok.mpr ⟨List.nodup_nil, ?_, ?_⟩⟩
    · intro decision listed
      rw [List.mem_singleton.mp listed]
      exact Nat.le_refl _
    · exact fun _ listed => absurd listed List.not_mem_nil
    · exact fun _ listed => absurd listed List.not_mem_nil
  have decided : decideScopeContent digest "1" (sampleRevision revision decisions reviews contexts)
      (stampOf (sampleRevision revision decisions reviews contexts) "operation" 0) (sampleStatement digest reason)
      .IN_SCOPE = .ok (sampleRecords [sampleDecision digest reason revision] contexts) := by
    refine bind_eq_ok.mpr ⟨_, orRaise_eq_ok.mpr located, bind_eq_ok.mpr ⟨(), require_eq_ok.mpr printed, ?_⟩⟩
    have records : ({ sampleRecords decisions contexts with
        decisions := (sampleRecords decisions contexts).decisions.filter (·.requirementId ≠ "req") ++
          [sampleDecision digest reason revision]
        references := (sampleRecords decisions contexts).references.filter (·.requirementId ≠ "req") } :
          ScopeRecords (ReviewRecords Unit)) = sampleRecords [sampleDecision digest reason revision] contexts := by
      unfold sampleRecords
      dsimp only
      rw [replaced]
      rfl
    exact bind_eq_ok.mpr ⟨(), records ▸ verified, congrArg Except.ok records⟩
  exact bind_eq_ok.mpr ⟨_, decided, rfl⟩

theorem sample_decided : operate (reviewDesk (sampleHelpers digest) "1") ⟨[sampleSaved], []⟩
    (sampleDecide digest "asked" 1) = .ok ⟨[sampleSaved, sampleDecided digest], []⟩ :=
  bind_eq_ok.mpr ⟨sampleSaved, rfl, bind_eq_ok.mpr ⟨(), rfl, bind_eq_ok.mpr ⟨(), rfl, bind_eq_ok.mpr ⟨(), rfl,
    bind_eq_ok.mpr ⟨_, sample_recorded digest "asked" 1 [] [] [] rfl,
      bind_eq_ok.mpr ⟨sampleContent, sample_scoped digest, rfl⟩⟩⟩⟩⟩⟩

theorem sample_payload (reason : String) (revision : Nat) (contexts : List ReviewContext) :
    dependencyPayload sampleContent (sampleRecords [sampleDecision digest reason revision] contexts) sampleDependencies =
      some samplePayload := by
  have complete : Complete sampleContent sampleDependencies := by decide
  unfold dependencyPayload
  dsimp only
  rw [if_pos complete]
  rfl

theorem sample_boundary : reviewBoundary (sampleHelpers digest) "1" (sampleDecided digest) (sampleCommand digest) =
    .ok ([sampleRecord digest], ⟨[sampleContext digest], ()⟩) := by
  have located : (boundaryReviewItems digest "1" (sampleDecided digest)).find? (fun item =>
      item.issueId = sampleIssue digest) =
        some (reviewItem digest "1" (sampleDecided digest) .unsupported_constraints "logs" 0 0) :=
    List.find?_cons_of_pos (decide_eq_true rfl)
  have printed : reviewFingerprint digest (sampleDecided digest) (sampleIssue digest) (some sampleDependencies) =
      some (payloadFingerprint digest (sampleIssue digest) samplePayload) :=
    Option.map_eq_some_iff.mpr ⟨samplePayload, sample_payload digest "asked" 1 [], rfl⟩
  exact bind_eq_ok.mpr ⟨(), rfl, bind_eq_ok.mpr ⟨_, orRaise_eq_ok.mpr located, bind_eq_ok.mpr ⟨(), require_eq_ok.mpr rfl,
    bind_eq_ok.mpr ⟨(), rfl, bind_eq_ok.mpr ⟨(), rfl, bind_eq_ok.mpr ⟨_, orRaise_eq_ok.mpr printed,
      bind_eq_ok.mpr ⟨(), rfl, rfl⟩⟩⟩⟩⟩⟩⟩

theorem sample_reviewed : operate (reviewDesk (sampleHelpers digest) "1") ⟨[sampleSaved, sampleDecided digest], []⟩
    (.review sampleSetting ⟨"rb", 2, ⟨"operation", 0, .assistance (.review (sampleCommand digest))⟩⟩) =
      .ok ⟨[sampleSaved, sampleDecided digest, sampleReviewed digest], []⟩ :=
  bind_eq_ok.mpr ⟨sampleDecided digest, rfl, bind_eq_ok.mpr ⟨(), rfl, bind_eq_ok.mpr ⟨(), rfl, bind_eq_ok.mpr ⟨(), rfl,
    bind_eq_ok.mpr ⟨_, bind_eq_ok.mpr ⟨_, sample_boundary digest, rfl⟩,
      bind_eq_ok.mpr ⟨sampleContent, sample_scoped digest, rfl⟩⟩⟩⟩⟩⟩

theorem sample_restated : operate (reviewDesk (sampleHelpers digest) "1")
    ⟨[sampleSaved, sampleDecided digest, sampleReviewed digest], []⟩ (sampleDecide digest "agreed" 3) =
      .ok ⟨[sampleSaved, sampleDecided digest, sampleReviewed digest, sampleRestated digest], []⟩ :=
  bind_eq_ok.mpr ⟨sampleReviewed digest, rfl, bind_eq_ok.mpr ⟨(), rfl, bind_eq_ok.mpr ⟨(), rfl, bind_eq_ok.mpr ⟨(), rfl,
    bind_eq_ok.mpr ⟨_, sample_recorded digest "agreed" 3 [sampleDecision digest "asked" 1] [sampleRecord digest]
      [sampleContext digest] rfl, bind_eq_ok.mpr ⟨sampleContent, sample_scoped digest, rfl⟩⟩⟩⟩⟩⟩

theorem perform_of_operate {ρ κ γ : Type} {desk : Desk ρ κ γ} {candidate next : Candidate ρ} {operation : Operation κ γ}
    (done : operate desk candidate operation = .ok next) : perform desk candidate operation = next := by
  unfold perform
  rw [done]

theorem sample_run : runCandidate (reviewDesk (sampleHelpers digest) "1") (sampleOperations digest) =
    ⟨[sampleSaved, sampleDecided digest, sampleReviewed digest, sampleRestated digest], []⟩ := by
  unfold runCandidate sampleOperations
  rw [Transition.run_cons, perform_of_operate (sample_saved digest), Transition.run_cons,
    perform_of_operate (sample_decided digest), Transition.run_cons, perform_of_operate (sample_reviewed digest),
    Transition.run_cons, perform_of_operate (sample_restated digest)]
  rfl

theorem sample_stands :
    ∃ made ∈ (runCandidate (reviewDesk (sampleHelpers digest) "1") (sampleOperations digest)).revisions,
    ∃ value ∈ (runCandidate (reviewDesk (sampleHelpers digest) "1") (sampleOperations digest)).revisions,
    ∃ record ∈ value.boundaryReviews, ∃ context ∈ value.records.others.contexts,
      context.issueId = record.issueId ∧ made.revision = record.outputRevision ∧
      (∃ item ∈ boundaryReviewItems digest "1" value, item.issueId = record.issueId ∧
        item.decision = some record ∧ item.status = .OPEN) ∧
      ∃ id ∈ (closureOf value.content.requirementSources context.dependencies).required,
        Table.latest (·.requirementId) made.records.decisions id ≠
          Table.latest (·.requirementId) value.records.decisions id := by
  rw [sample_run]
  refine ⟨sampleReviewed digest, by simp, sampleRestated digest, by simp, sampleRecord digest,
    List.mem_singleton.mpr rfl, sampleContext digest, List.mem_singleton.mpr rfl, rfl, rfl, ?_, "req", ?_, ?_⟩
  · have found : Table.latest (·.issueId) [sampleRecord digest] (sampleIssue digest) =
        some (sampleRecord digest) :=
      @Table.Keyed.latest_mem _ _ _ BoundaryReviewRecord.issueId [sampleRecord digest] (List.nodup_singleton _)
        (sampleRecord digest) (List.mem_singleton.mpr rfl)
    have found' : Table.latest (·.issueId) [sampleContext digest] (sampleIssue digest) =
        some (sampleContext digest) :=
      @Table.Keyed.latest_mem _ _ _ ReviewContext.issueId [sampleContext digest] (List.nodup_singleton _)
        (sampleContext digest) (List.mem_singleton.mpr rfl)
    have current : currentFingerprint digest (sampleRestated digest) (sampleIssue digest)
        (some sampleDependencies) = (sampleRecord digest).issueFingerprint := by
      have payload : reviewFingerprint digest (sampleRestated digest) (sampleIssue digest)
          (some sampleDependencies) = some (sampleRecord digest).issueFingerprint :=
        Option.map_eq_some_iff.mpr ⟨samplePayload, sample_payload digest "agreed" 3 _, rfl⟩
      unfold currentFingerprint
      rw [payload]
      rfl
    refine ⟨reviewItem digest "1" (sampleRestated digest) .unsupported_constraints "logs" 0 0,
      List.mem_singleton.mpr rfl, rfl, found, ?_⟩
    show statusOf (currentFingerprint digest (sampleRestated digest) (sampleIssue digest)
      ((Table.latest (·.issueId) [sampleContext digest] (sampleIssue digest)).map (·.dependencies)))
      (Table.latest (·.issueId) [sampleRecord digest] (sampleIssue digest)) = .OPEN
    rw [found, found', Option.map_some]
    unfold statusOf
    dsimp only
    rw [show (sampleContext digest).dependencies = sampleDependencies from rfl, current, if_neg (not_not_intro rfl)]
    rfl
  · have named := (closureOf_named [sampleSource] sampleDependencies).1
    exact named (List.mem_singleton.mpr rfl)
  · intro same
    have reasons := congrArg (Option.map fun decision : ScopeDecision => decision.reason) same
    have told : some "asked" = some "agreed" := reasons
    exact absurd told (by decide)

/-- The scope decision is another one, and the review still stands. -/
theorem review_stands_restated :
    ∃ made ∈ (runCandidate (reviewDesk (sampleHelpers textDigest) "1") (sampleOperations textDigest)).revisions,
    ∃ value ∈ (runCandidate (reviewDesk (sampleHelpers textDigest) "1") (sampleOperations textDigest)).revisions,
    ∃ record ∈ value.boundaryReviews, ∃ context ∈ value.records.others.contexts,
      context.issueId = record.issueId ∧ made.revision = record.outputRevision ∧
      (∃ item ∈ boundaryReviewItems textDigest "1" value, item.issueId = record.issueId ∧
        item.decision = some record ∧ item.status = .OPEN) ∧
      ∃ id ∈ (closureOf value.content.requirementSources context.dependencies).required,
        Table.latest (·.requirementId) made.records.decisions id ≠
          Table.latest (·.requirementId) value.records.decisions id :=
  sample_stands textDigest

end Sample

end Jiejian.Boundaries.ReviewInvalidation
