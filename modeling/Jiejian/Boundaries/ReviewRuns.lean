import Jiejian.Boundaries.ReviewPayload
import Jiejian.Boundaries.ScopeDecisions

namespace Jiejian.Boundaries.ReviewRuns

open Library Library.Document Library.Outcome Library.Sorting
open Protocol.Codec Preparation.Models Proposals Scenarios Candidates CandidateService Selections
open Scope Reviews ReviewClosure ReviewPayload

section Texts

variable {texts : List String} {text : String}

theorem counted_append (texts : List String) (text : String) :
    counted (texts ++ [text]) = counted texts ++ [(text, texts.length, texts.count text)] := by
  unfold counted
  rw [List.zipIdx_append, List.map_append]
  congr 1
  · apply List.map_congr_left
    rintro ⟨other, index⟩ listed
    have inside : index < texts.length := by
      have bound := (List.mem_zipIdx listed).2.1
      omega
    dsimp only
    rw [List.take_append_of_le_length (Nat.le_of_lt inside)]
  · simp

/-- The occurrences of a text are numbered from zero on. -/
theorem counted_iff {occurrence : Nat} :
    (∃ index, (text, index, occurrence) ∈ counted texts) ↔ occurrence < texts.count text := by
  induction texts using List.reverseRecOn with
  | nil => simp [counted]
  | append_singleton texts last ih =>
    simp only [counted_append, List.mem_append, List.mem_singleton, exists_or, ih, List.count_append,
      List.count_singleton]
    constructor
    · rintro (before | ⟨index, now⟩)
      · omega
      · cases now
        simp
    · intro below
      by_cases here : last = text
      · subst here
        simp only [beq_self_eq_true, if_true] at below
        by_cases earlier : occurrence < texts.count last
        · exact .inl earlier
        · right
          refine ⟨texts.length, ?_⟩
          have same : occurrence = texts.count last := by omega
          rw [same]
      · left
        have other : (last == text) = false := by simpa using here
        rw [other] at below
        simpa using below

/-- What is retained occurs as often as before. -/
theorem requireRetained_count {old new : List String} (retained : requireRetained old new = .ok ()) (text : String) :
    old.count text ≤ new.count text := by
  unfold requireRetained at retained
  obtain ⟨remaining, walked, -⟩ := bind_eq_ok.mp retained
  clear retained
  induction old generalizing new with
  | nil => simp
  | cons first rest ih =>
    rw [List.foldlM_cons] at walked
    obtain ⟨next, stepped, further⟩ := bind_eq_ok.mp walked
    obtain ⟨_, present, same⟩ := bind_eq_ok.mp stepped
    cases same
    have tail := ih further
    rw [List.count_erase] at tail
    rw [List.count_cons]
    have member := List.count_pos_iff.mpr (require_eq_ok.mp present)
    by_cases here : first = text
    · subst here
      simp only [beq_self_eq_true, if_true] at tail ⊢
      omega
    · have other : (first == text) = false := by simpa using here
      simp only [other, Bool.false_eq_true, if_false] at tail ⊢
      omega

end Texts

section Asked

variable {digest : Digest} {identifier : String} {content other : CandidateContent RuleScenario}
  {record : BoundaryReviewRecord}

/-- The question or the limitation of a review is still in the content, and no scenario asks it. -/
def Asked (digest : Digest) (identifier : String) (content : CandidateContent RuleScenario)
    (record : BoundaryReviewRecord) : Prop :=
  ∃ occurrence, record.issueId = issueIdOf digest identifier record.source record.text occurrence ∧
    occurrence < (textsOf content record.source).count record.text ∧
    (record.source = .unresolved_questions → record.text ∉ content.scenarios.map (·.question))

theorem Asked.kept (asked : Asked digest identifier content record)
    (counts : (textsOf content record.source).count record.text ≤ (textsOf other record.source).count record.text)
    (scenes : record.source = .unresolved_questions → record.text ∉ other.scenarios.map (·.question)) :
    Asked digest identifier other record := by
  obtain ⟨occurrence, issue, below, -⟩ := asked
  exact ⟨occurrence, issue, Nat.lt_of_lt_of_le below counts, scenes⟩

/-- A save keeps what was reviewed. -/
theorem protectReviewSources_kept {α : Type} {current : RuleCandidateRevision (ScopeRecords (ReviewRecords α))}
    (guarded : protectReviewSources current other = .ok ()) (listed : record ∈ current.boundaryReviews)
    (asked : Asked digest identifier current.content record) : Asked digest identifier other record := by
  obtain ⟨_, scenes, rest⟩ := bind_eq_ok.mp guarded
  obtain ⟨⟨⟩, constraints, questions⟩ := bind_eq_ok.mp rest
  have free := require_eq_ok.mp scenes
  cases kind : record.source with
  | unsupported_constraints =>
    apply asked.kept
    · rw [kind]
      exact requireRetained_count constraints record.text
    · rw [kind]
      exact fun different => by cases different
  | unresolved_questions =>
    have reviewed : record.text ∈ (current.boundaryReviews.filter fun item =>
        item.source = .unresolved_questions).map (·.text) :=
      List.mem_map_of_mem (List.mem_filter.mpr ⟨listed, decide_eq_true kind⟩)
    apply asked.kept
    · rw [kind]
      have retained := requireRetained_count questions record.text
      rw [List.count_filter] at retained
      · exact retained
      · exact decide_eq_true reviewed
    · intro _ scene
      obtain ⟨scenario, present, same⟩ := List.mem_map.mp scene
      exact free scenario present (same ▸ reviewed)

/-- So does a decision: it only removes the questions of scenarios. -/
theorem decided_kept {choices : Choices} {action : DecisionAction} {scenario : RuleScenario}
    (present : scenario ∈ content.scenarios)
    (same : thawed other = thawed (decidedContent choices action scenario.question content))
    (asked : Asked digest identifier content record) : Asked digest identifier other record := by
  have questions : other.unresolvedQuestions = (decidedContent choices action scenario.question content).unresolvedQuestions :=
    congrArg (@CandidateContent.unresolvedQuestions RuleScenarioInput) same
  have constraints : other.unsupportedConstraints = content.unsupportedConstraints :=
    congrArg (@CandidateContent.unsupportedConstraints RuleScenarioInput) same
  have inputs : other.scenarios.map (·.toRuleScenarioInput) = content.scenarios.map (·.toRuleScenarioInput) :=
    congrArg (@CandidateContent.scenarios RuleScenarioInput) same
  have scenes : other.scenarios.map (·.question) = content.scenarios.map (·.question) := by
    have asked' := congrArg (List.map RuleScenarioInput.question) inputs
    rw [List.map_map, List.map_map] at asked'
    exact asked'
  obtain ⟨-, -, -, apart⟩ := id asked
  apply asked.kept
  · cases kind : record.source with
    | unsupported_constraints =>
      unfold textsOf
      dsimp only
      rw [constraints]
    | unresolved_questions =>
      have differs : record.text ≠ scenario.question := by
        intro equal
        exact apart kind (equal ▸ List.mem_map_of_mem present)
      unfold textsOf
      dsimp only
      rw [questions]
      unfold decidedContent
      dsimp only
      rw [List.count_filter]
      simp [differs]
  · rw [scenes]
    exact apart

end Asked

section Invariant

variable {α β κ : Type} (helpers : Helpers α β κ) (identifier : String)

/-- The fingerprint of a review is that of its dependencies in the revision that it led to. -/
def Bound (candidate : Candidate (ScopeRecords (ReviewRecords α))) (contexts : List ReviewContext)
    (record : BoundaryReviewRecord) : Prop :=
  ∃ made ∈ candidate.revisions, made.revision = record.outputRevision ∧
    ∀ context ∈ contexts, context.issueId = record.issueId →
      ∃ payload, dependencyPayload made.content made.records context.dependencies = some payload ∧
        record.issueFingerprint = payloadFingerprint helpers.digest record.issueId payload

/-- What holds of every revision. -/
structure ReviewedIn (candidate : Candidate (ScopeRecords (ReviewRecords α)))
    (value : RuleCandidateRevision (ScopeRecords (ReviewRecords α))) : Prop where
  records : Table.Keyed BoundaryReviewRecord.issueId value.boundaryReviews
  contexts : Table.Keyed ReviewContext.issueId value.records.others.contexts
  sources : Table.Keyed RequirementSource.requirementId value.content.requirementSources
  asked : ∀ record ∈ value.boundaryReviews, Asked helpers.digest identifier value.content record
  bound : ∀ record ∈ value.boundaryReviews, Bound helpers candidate value.records.others.contexts record

def Reviewed (candidate : Candidate (ScopeRecords (ReviewRecords α))) : Prop :=
  ∀ value ∈ candidate.revisions, ReviewedIn helpers identifier candidate value

variable {helpers identifier} {candidate next : Candidate (ScopeRecords (ReviewRecords α))} {setting : Setting}

theorem Bound.grown {contexts contexts' : List ReviewContext} {record : BoundaryReviewRecord}
    {added : List (RuleCandidateRevision (ScopeRecords (ReviewRecords α)))} (bound : Bound helpers candidate contexts record)
    (revisions : next.revisions = candidate.revisions ++ added)
    (fewer : ∀ context ∈ contexts', context.issueId = record.issueId → context ∈ contexts) :
    Bound helpers next contexts' record := by
  obtain ⟨made, stored, revision, told⟩ := bound
  refine ⟨made, ?_, revision, fun context listed same => told context (fewer context listed same) same⟩
  rw [revisions]
  exact List.mem_append_left _ stored

theorem reviewed_append {value : RuleCandidateRevision (ScopeRecords (ReviewRecords α))}
    (reviewed : Reviewed helpers identifier candidate) (revisions : next.revisions = candidate.revisions ++ [value])
    (now : ReviewedIn helpers identifier next value) : Reviewed helpers identifier next := by
  intro other stored
  rw [revisions] at stored
  rcases List.mem_append.mp stored with earlier | last
  · have before := reviewed other earlier
    exact ⟨before.records, before.contexts, before.sources, before.asked,
      fun record listed => (before.bound record listed).grown revisions fun _ known _ => known⟩
  · rw [List.mem_singleton.mp last]
    exact now

/-- A revision that inherits the reviews and their contexts. -/
theorem reviewedIn_inherited {current value : RuleCandidateRevision (ScopeRecords (ReviewRecords α))}
    (before : ReviewedIn helpers identifier candidate current) (revisions : next.revisions = candidate.revisions ++ [value])
    (records : value.boundaryReviews = current.boundaryReviews)
    (contexts : value.records.others.contexts = current.records.others.contexts)
    (sources : Table.Keyed RequirementSource.requirementId value.content.requirementSources)
    (asked : ∀ record ∈ current.boundaryReviews, Asked helpers.digest identifier value.content record) :
    ReviewedIn helpers identifier next value := by
  refine ⟨records ▸ before.records, contexts ▸ before.contexts, sources, ?_, ?_⟩
  · intro record listed
    rw [records] at listed
    exact asked record listed
  · intro record listed
    rw [records] at listed
    rw [contexts]
    exact (before.bound record listed).grown revisions fun _ known _ => known

theorem scopedContent_sources {reading : Reading} {input : CandidateContent RuleScenarioInput}
    {content : CandidateContent RuleScenario} (froze : scopedContent reading input = .ok content) :
    Table.Keyed RequirementSource.requirementId content.requirementSources := by
  obtain ⟨scenarios, -, rest⟩ := bind_eq_ok.mp froze
  obtain ⟨_, verified, same⟩ := bind_eq_ok.mp rest
  cases same
  obtain ⟨_, unique, -⟩ := bind_eq_ok.mp verified
  exact (require_eq_ok.mp unique).2.2.2

theorem save_reviewed {command : RuleCandidateSave κ} (reviewed : Reviewed helpers identifier candidate)
    (saved : Service.save (reviewDesk helpers identifier) candidate setting command = .ok next) :
    Reviewed helpers identifier next := by
  obtain ⟨content, value, records, froze, guarded, -, same, reviews, inherited, carried, rfl⟩ := save_value saved
  obtain ⟨others, noted, result⟩ := bind_eq_ok.mp carried
  obtain ⟨_, -, kept⟩ := bind_eq_ok.mp noted
  cases kept
  cases result
  obtain ⟨_, -, froze⟩ := bind_eq_ok.mp froze
  have sources := scopedContent_sources froze
  rw [← same] at sources guarded
  apply reviewed_append reviewed rfl
  cases head : candidate.head with
  | none =>
    rw [head] at reviews inherited
    have none' : value.boundaryReviews = [] := reviews
    have empty : value.records.others.contexts = [] := by
      rw [inherited]
      rfl
    refine ⟨none' ▸ List.nodup_nil, empty ▸ List.nodup_nil, sources, ?_, ?_⟩
    · intro record listed
      rw [show value.boundaryReviews = [] from none'] at listed
      cases listed
    · intro record listed
      rw [show value.boundaryReviews = [] from none'] at listed
      cases listed
  | some current =>
    rw [head] at reviews inherited guarded
    obtain ⟨-, -, rest⟩ := bind_eq_ok.mp guarded
    obtain ⟨⟨⟩, retained, -⟩ := bind_eq_ok.mp rest
    have before := reviewed current (List.mem_of_getLast? head)
    have contexts : value.records.others.contexts = current.records.others.contexts := by
      rw [inherited]
      rfl
    refine reviewedIn_inherited before rfl reviews contexts sources ?_
    exact fun record listed => protectReviewSources_kept retained listed (before.asked record listed)

theorem decide_reviewed {command : RuleCandidateDecide} (reviewed : Reviewed helpers identifier candidate)
    (decided : Service.decide (reviewDesk helpers identifier) candidate setting command = .ok next) :
    Reviewed helpers identifier next := by
  obtain ⟨current, scenario, content, head, -, present, froze, rfl⟩ := decide_ok decided
  have before := reviewed current (List.mem_of_getLast? head)
  apply reviewed_append reviewed rfl
  refine reviewedIn_inherited before rfl rfl rfl (scopedContent_sources froze) ?_
  exact fun record listed => decided_kept present (scopedContent_ok froze).1 (before.asked record listed)

/-- Content that is frozen again asks the same. -/
theorem asked_frozen {digest : Digest} {content other : CandidateContent RuleScenario} {record : BoundaryReviewRecord}
    (same : thawed other = thawed content) (asked : Asked digest identifier content record) :
    Asked digest identifier other record := by
  have questions : other.unresolvedQuestions = content.unresolvedQuestions :=
    congrArg (@CandidateContent.unresolvedQuestions RuleScenarioInput) same
  have constraints : other.unsupportedConstraints = content.unsupportedConstraints :=
    congrArg (@CandidateContent.unsupportedConstraints RuleScenarioInput) same
  have inputs : other.scenarios.map (·.toRuleScenarioInput) = content.scenarios.map (·.toRuleScenarioInput) :=
    congrArg (@CandidateContent.scenarios RuleScenarioInput) same
  have scenes : other.scenarios.map (·.question) = content.scenarios.map (·.question) := by
    have asked' := congrArg (List.map RuleScenarioInput.question) inputs
    rw [List.map_map, List.map_map] at asked'
    exact asked'
  have texts : textsOf other record.source = textsOf content record.source := by
    cases record.source with
    | unresolved_questions => exact questions
    | unsupported_constraints => exact constraints
  obtain ⟨occurrence, issue, below, apart⟩ := asked
  refine ⟨occurrence, issue, ?_, ?_⟩
  · rw [texts]
    exact below
  · rw [scenes]
    exact apart

theorem payload_frozen {content other : CandidateContent RuleScenario} {records others : ScopeRecords (ReviewRecords α)}
    (same : thawed other = thawed content) (decisions : others.decisions = records.decisions)
    (references : others.references = records.references) (dependencies : ReviewDependencies) :
    dependencyPayload other others dependencies = dependencyPayload content records dependencies := by
  have sources : other.requirementSources = content.requirementSources :=
    congrArg (@CandidateContent.requirementSources RuleScenarioInput) same
  have permissions : other.permissions = content.permissions :=
    congrArg (@CandidateContent.permissions RuleScenarioInput) same
  have actions : other.actions = content.actions := congrArg (@CandidateContent.actions RuleScenarioInput) same
  have actors : other.actors = content.actors := congrArg (@CandidateContent.actors RuleScenarioInput) same
  have rules : rulesOf other dependencies = rulesOf content dependencies := by
    unfold rulesOf
    rw [sources, permissions]
  have shown : shownScope others = shownScope records := by
    funext id
    unfold shownScope
    rw [decisions, references]
  have complete : Complete other dependencies ↔ Complete content dependencies := by
    unfold Complete
    rw [rules, sources, permissions, actions, actors]
  unfold dependencyPayload
  dsimp only
  by_cases held : Complete content dependencies
  · rw [if_pos held, if_pos (complete.mpr held), rules, shown, sources, actions, actors]
  · rw [if_neg held, if_neg fun other => held (complete.mp other)]

/-- What a scope command does to the reviews. -/
theorem scopeRecords_reviews {current : RuleCandidateRevision (ScopeRecords (ReviewRecords α))}
    {request : ScopeRequest (AssistCommand β)} {reviews : List BoundaryReviewRecord}
    {records : ScopeRecords (ReviewRecords α)}
    (recorded : scopeRecords (reviewAssistants helpers identifier) identifier current request = .ok (reviews, records)) :
    (reviews = current.boundaryReviews ∧ records.others.contexts = current.records.others.contexts) ∨
      ∃ command, reviewBoundary helpers identifier current command = .ok (reviews, records.others) ∧
        records.decisions = current.records.decisions ∧ records.references = current.records.references := by
  unfold scopeRecords at recorded
  cases kind : request.command with
  | decision statement disposition =>
    rw [kind] at recorded
    obtain ⟨_, decided, same⟩ := bind_eq_ok.mp recorded
    cases same
    obtain ⟨_, -, rest⟩ := bind_eq_ok.mp decided
    obtain ⟨-, -, rest⟩ := bind_eq_ok.mp rest
    obtain ⟨-, -, same⟩ := bind_eq_ok.mp rest
    cases same
    exact .inl ⟨rfl, rfl⟩
  | batch choices =>
    rw [kind] at recorded
    obtain ⟨_, decided, same⟩ := bind_eq_ok.mp recorded
    cases same
    obtain ⟨-, -, rest⟩ := bind_eq_ok.mp decided
    obtain ⟨-, -, rest⟩ := bind_eq_ok.mp rest
    obtain ⟨-, -, rest⟩ := bind_eq_ok.mp rest
    obtain ⟨-, -, rest⟩ := bind_eq_ok.mp rest
    obtain ⟨_, -, rest⟩ := bind_eq_ok.mp rest
    obtain ⟨-, -, same⟩ := bind_eq_ok.mp rest
    cases same
    exact .inl ⟨rfl, rfl⟩
  | assistance command =>
    rw [kind] at recorded
    obtain ⟨⟨_, others⟩, assisted, same⟩ := bind_eq_ok.mp recorded
    cases same
    cases command with
    | review command => exact .inr ⟨command, assisted, rfl, rfl⟩
    | coverage command =>
      obtain ⟨_, -, same⟩ := bind_eq_ok.mp assisted
      cases same
      exact .inl ⟨rfl, rfl⟩

/-- Every item is about a text of the content. -/
theorem boundaryReviewItems_mem {digest : Digest} {value : RuleCandidateRevision (ScopeRecords (ReviewRecords α))}
    {item : ReviewItem} (listed : item ∈ boundaryReviewItems digest identifier value) :
    ∃ index occurrence, item = reviewItem digest identifier value item.source item.text index occurrence ∧
      occurrence < (textsOf value.content item.source).count item.text ∧
      (item.source = .unresolved_questions → item.text ∉ value.content.scenarios.map (·.question)) := by
  obtain ⟨source, -, inside⟩ := List.mem_flatMap.mp listed
  obtain ⟨⟨text, index, occurrence⟩, present, rfl⟩ := List.mem_map.mp inside
  obtain ⟨entry, open'⟩ := List.mem_filter.mp present
  refine ⟨index, occurrence, rfl, counted_iff.mp ⟨index, entry⟩, ?_⟩
  intro question scene
  exact of_decide_eq_true open' ⟨question, scene⟩

/-- The item of a text that no scenario asks. -/
theorem mem_boundaryReviewItems {digest : Digest} {value : RuleCandidateRevision (ScopeRecords (ReviewRecords α))}
    {source : ReviewSource} {text : String} {occurrence : Nat}
    (below : occurrence < (textsOf value.content source).count text)
    (apart : source = .unresolved_questions → text ∉ value.content.scenarios.map (·.question)) :
    ∃ index, reviewItem digest identifier value source text index occurrence ∈
      boundaryReviewItems digest identifier value := by
  obtain ⟨index, entry⟩ := counted_iff.mpr below
  refine ⟨index, List.mem_flatMap.mpr ⟨source, by cases source <;> simp, List.mem_map.mpr ⟨(text, index, occurrence), ?_, rfl⟩⟩⟩
  refine List.mem_filter.mpr ⟨entry, decide_eq_true ?_⟩
  rintro ⟨question, scene⟩
  exact apart question scene

/-- A revision in which a human has just reviewed an issue. -/
theorem reviewedIn_now {current value : RuleCandidateRevision (ScopeRecords (ReviewRecords α))}
    {command : BoundaryReviewCommand} {reviews : List BoundaryReviewRecord} {others : ReviewRecords α}
    (before : ReviewedIn helpers identifier candidate current)
    (recorded : reviewBoundary helpers identifier current command = .ok (reviews, others))
    (revisions : next.revisions = candidate.revisions ++ [value]) (revision : value.revision = current.revision + 1)
    (content : thawed value.content = thawed current.content)
    (sources : Table.Keyed RequirementSource.requirementId value.content.requirementSources)
    (records : value.boundaryReviews = reviews) (contexts : value.records.others = others)
    (decisions : value.records.decisions = current.records.decisions)
    (references : value.records.references = current.records.references) :
    ReviewedIn helpers identifier next value := by
  obtain ⟨-, -, rest⟩ := bind_eq_ok.mp recorded
  obtain ⟨issue, found, rest⟩ := bind_eq_ok.mp rest
  obtain ⟨-, -, rest⟩ := bind_eq_ok.mp rest
  obtain ⟨-, -, rest⟩ := bind_eq_ok.mp rest
  obtain ⟨-, -, rest⟩ := bind_eq_ok.mp rest
  obtain ⟨fingerprint, told, rest⟩ := bind_eq_ok.mp rest
  obtain ⟨-, -, same⟩ := bind_eq_ok.mp rest
  cases same
  have located := orRaise_eq_ok.mp found
  have named : issue.issueId = command.issueId := by simpa using List.find?_some located
  obtain ⟨index, occurrence, shape, below, apart⟩ := boundaryReviewItems_mem (List.mem_of_find?_eq_some located)
  have stored : value ∈ next.revisions := by
    rw [revisions]
    exact List.mem_append_right _ (List.mem_singleton.mpr rfl)
  constructor
  · rw [records]
    unfold Table.Keyed
    rw [List.map_append]
    apply List.Nodup.append (before.records.sublist (List.filter_sublist.map _)) (List.nodup_singleton _)
    simp
  · rw [contexts]
    unfold Table.Keyed
    dsimp only
    rw [List.map_append]
    apply List.Nodup.append (before.contexts.sublist (List.filter_sublist.map _))
    · cases command.dependencies <;> simp
    · cases command.dependencies <;> simp
  · exact sources
  · intro record listed
    rw [records] at listed
    apply asked_frozen content
    rcases List.mem_append.mp listed with earlier | last
    · exact before.asked record (List.mem_filter.mp earlier).1
    · rw [List.mem_singleton.mp last]
      refine ⟨occurrence, ?_, below, apart⟩
      exact named.symm.trans (congrArg ReviewItem.issueId shape)
  · intro record listed
    rw [records] at listed
    rw [contexts]
    rcases List.mem_append.mp listed with earlier | last
    · obtain ⟨known, other⟩ := List.mem_filter.mp earlier
      apply (before.bound record known).grown revisions
      intro context inside same
      rcases List.mem_append.mp inside with old | new
      · exact (List.mem_filter.mp old).1
      · obtain ⟨dependencies, -, rfl⟩ := Option.map_eq_some_iff.mp (Option.mem_toList.mp new)
        exact absurd same.symm (of_decide_eq_true other)
    · rw [List.mem_singleton.mp last]
      refine ⟨value, stored, revision, ?_⟩
      intro context inside same
      rcases List.mem_append.mp inside with old | new
      · exact absurd same (of_decide_eq_true (List.mem_filter.mp old).2)
      · obtain ⟨dependencies, given, rfl⟩ := Option.map_eq_some_iff.mp (Option.mem_toList.mp new)
        have printed := orRaise_eq_ok.mp told
        rw [given] at printed
        obtain ⟨payload, here, print⟩ := Option.map_eq_some_iff.mp printed
        refine ⟨payload, ?_, print.symm⟩
        rw [payload_frozen content decisions references]
        exact here

theorem review_reviewed {command : ReviewCommand (ScopeRequest (AssistCommand β))}
    (reviewed : Reviewed helpers identifier candidate)
    (done : Service.review (reviewDesk helpers identifier) candidate setting command = .ok next) :
    Reviewed helpers identifier next := by
  obtain ⟨current, content, reviews, records, head, -, -, recorded, froze, rfl⟩ := review_value done
  have before := reviewed current (List.mem_of_getLast? head)
  have thawedAlike := (scopedContent_ok froze).1
  apply reviewed_append reviewed rfl
  rcases scopeRecords_reviews recorded with ⟨same, contexts⟩ | ⟨command, now, decisions, references⟩
  · refine reviewedIn_inherited before rfl same contexts (scopedContent_sources froze) ?_
    exact fun record listed => asked_frozen thawedAlike (before.asked record listed)
  · exact reviewedIn_now before now rfl rfl thawedAlike (scopedContent_sources froze) rfl rfl decisions references

theorem perform_reviewed (candidate : Candidate (ScopeRecords (ReviewRecords α)))
    (operation : Operation κ (ScopeRequest (AssistCommand β))) (reviewed : Reviewed helpers identifier candidate) :
    Reviewed helpers identifier (perform (reviewDesk helpers identifier) candidate operation) := by
  unfold perform
  cases done : operate (reviewDesk helpers identifier) candidate operation with
  | error _ => exact reviewed
  | ok next =>
    cases operation with
    | save setting command => exact save_reviewed reviewed done
    | decide setting command => exact decide_reviewed reviewed done
    | review setting command => exact review_reviewed reviewed done

theorem run_reviewed (helpers : Helpers α β κ) (identifier : String)
    (operations : List (Operation κ (ScopeRequest (AssistCommand β)))) :
    Reviewed helpers identifier (runCandidate (reviewDesk helpers identifier) operations) :=
  Transition.run_invariant perform_reviewed (fun _ stored => absurd stored List.not_mem_nil) operations

end Invariant

end Jiejian.Boundaries.ReviewRuns
