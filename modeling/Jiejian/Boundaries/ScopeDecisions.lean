import Jiejian.Boundaries.Scope
import Jiejian.Boundaries.ApprovedChoices

namespace Jiejian.Boundaries.ScopeDecisions

open Library Library.Document Library.Outcome Library.Sorting
open Protocol.Codec Preparation.Models Proposals Scenarios Candidates CandidateService Selections Scope

section Records

variable {α β κ : Type} (digest : Digest) (identifier : String)

/-- The requirement had this fingerprint in the revision. -/
def ShownIn (value : RuleCandidateRevision (ScopeRecords α)) (statement : ScopeStatement) : Prop :=
  ∃ source ∈ value.content.requirementSources, source.requirementId = statement.requirementId ∧
    meaningFingerprint digest identifier source = statement.requirementFingerprint

/-- The related requirement is in the scope, by the decision that the target names. -/
def HeldIn (content : CandidateContent RuleScenario) (records : ScopeRecords α) (target : ScopeTarget) : Prop :=
  ∃ item ∈ scopeItems digest identifier content records, item.source.requirementId = target.requirementId ∧
    item.status = .CONFIRMED ∧
    ∃ decision, item.inScope = some decision ∧ scopeDecisionFingerprint digest decision = target.decisionFingerprint

/-- The decisions that a command states. -/
def decides : ScopeCommand β → List (ScopeStatement × ScopeDisposition)
  | .decision statement disposition => [(statement, disposition)]
  | .batch choices => choices.filterMap fun choice =>
      match choice.disposition with
      | .decided disposition => some (choice.toScopeStatement, disposition)
      | .SUPPORTING => none
  | .assistance _ => []

/-- A human made this decision, about the revision that it names. -/
def Said (operations : List (Operation κ (ScopeRequest β))) (decision : ScopeDecision) : Prop :=
  ∃ setting command, Operation.review setting command ∈ operations ∧
    (decision.toScopeStatement, decision.disposition) ∈ decides command.body.command ∧
    command.expectedRevision = decision.expectedRevision

/-- What the records of a new revision may hold that the current revision does not. -/
structure Recording (current : RuleCandidateRevision (ScopeRecords α)) (command : ScopeCommand β)
    (content : CandidateContent RuleScenario) (records : ScopeRecords α) : Prop where
  decided : ∀ decision ∈ records.decisions, decision ∈ current.records.decisions ∨
    decision.expectedRevision = current.revision ∧
      (decision.toScopeStatement, decision.disposition) ∈ decides command ∧
      ShownIn digest identifier current decision.toScopeStatement
  related : ∀ reference ∈ records.references, reference ∈ current.records.references ∨
    reference.outputRevision = current.revision + 1 ∧
      ∀ target ∈ reference.related, HeldIn digest identifier content records target

end Records

section Steps

variable {α β κ : Type} {digest : Digest} {identifier : String}
  {current : RuleCandidateRevision (ScopeRecords α)} {records : ScopeRecords α}

theorem shown_of_item {item : ScopeItem} {statement : ScopeStatement}
    (listed : item ∈ scopeItems digest identifier current.content current.records)
    (about : item.source.requirementId = statement.requirementId)
    (matches' : item.fingerprint = statement.requirementFingerprint) : ShownIn digest identifier current statement := by
  obtain ⟨present, fingerprint, -, -⟩ := scopeItems_mem listed
  exact ⟨item.source, present, about, fingerprint.symm.trans matches'⟩

theorem decideScopeContent_recording {operationId : String} {nowUs : Nat} {statement : ScopeStatement}
    {disposition : ScopeDisposition} (decided : decideScopeContent digest identifier current
      (stampOf current operationId nowUs) statement disposition = .ok records) :
    Recording digest identifier current (.decision statement disposition : ScopeCommand β) current.content records := by
  obtain ⟨item, found, rest⟩ := bind_eq_ok.mp decided
  obtain ⟨_, matches', rest⟩ := bind_eq_ok.mp rest
  obtain ⟨-, -, same⟩ := bind_eq_ok.mp rest
  have located := orRaise_eq_ok.mp found
  have about : item.source.requirementId = statement.requirementId := by
    simpa using List.find?_some located
  have shown := shown_of_item (List.mem_of_find?_eq_some located) about (require_eq_ok.mp matches')
  cases same
  constructor
  · intro decision listed
    rcases List.mem_append.mp listed with earlier | last
    · exact .inl (List.mem_filter.mp earlier).1
    · rw [List.mem_singleton.mp last]
      exact .inr ⟨rfl, List.mem_singleton.mpr rfl, shown⟩
  · intro reference listed
    exact .inl (List.mem_filter.mp listed).1

theorem targetOf_ok {updated : List ScopeItem} {targetId : String} {target : ScopeTarget × List String}
    (found : targetOf digest updated targetId = .ok target) :
    ∃ item ∈ updated, item.source.requirementId = targetId ∧ item.status = .CONFIRMED ∧
      ∃ decision, item.inScope = some decision ∧ target.1 = ⟨targetId, scopeDecisionFingerprint digest decision⟩ := by
  obtain ⟨item, located, rest⟩ := bind_eq_ok.mp found
  obtain ⟨_, confirmed, rest⟩ := bind_eq_ok.mp rest
  obtain ⟨decision, inside, same⟩ := bind_eq_ok.mp rest
  cases same
  obtain ⟨listed, about⟩ := Table.latest_some (orRaise_eq_ok.mp located)
  exact ⟨item, listed, about, require_eq_ok.mp confirmed, decision, orRaise_eq_ok.mp inside, rfl⟩

/-- A requirement that is decided keeps its item when references are added, since no record shares its id. -/
theorem decided_item_kept {content : CandidateContent RuleScenario} {decided : ScopeRecords α}
    {references : List ScopeReference} {revision : Nat} {item : ScopeItem} {decision : ScopeDecision}
    (verified : verifiedRecords revision { decided with references } = .ok ())
    (listed : item ∈ scopeItems digest identifier content decided) (confirmed : item.status = .CONFIRMED)
    (inside : item.inScope = some decision) :
    item ∈ scopeItems digest identifier content { decided with references } := by
  obtain ⟨source, present, rfl⟩ := List.mem_map.mp (recorded_of_confirmed listed confirmed)
  have answer := (inScope_some.mp inside).1
  obtain ⟨_, _, rest⟩ := bind_eq_ok.mp verified
  have apart := (require_eq_ok.mp rest).2.1
  have found : Table.latest (·.requirementId) decided.decisions source.requirementId = some decision := by
    rcases Option.or_eq_some_iff.mp (show answerOf decided source.requirementId = some (.decision decision) from answer)
      with referred | ⟨-, found⟩
    · obtain ⟨_, -, other⟩ := Option.map_eq_some_iff.mp referred
      cases other
    · obtain ⟨_, latest, same⟩ := Option.map_eq_some_iff.mp found
      cases same
      exact latest
  obtain ⟨made, about⟩ := Table.latest_some found
  have unreferred : Table.latest (·.requirementId) references source.requirementId = none := by
    cases referred : Table.latest (·.requirementId) references source.requirementId with
    | none => rfl
    | some reference =>
      obtain ⟨known, same⟩ := Table.latest_some referred
      exact absurd (List.mem_map.mpr ⟨decision, made, about.trans same.symm⟩) (apart reference known)
  have kept : answerOf { decided with references } source.requirementId = answerOf decided source.requirementId := by
    rw [show answerOf decided source.requirementId = some (.decision decision) from answer]
    unfold answerOf
    rw [unreferred, found]
    rfl
  have same : recordedItem digest identifier { decided with references } source =
      recordedItem digest identifier decided source := by
    unfold recordedItem
    rw [kept]
  rw [← same] at answer ⊢
  exact recorded_unmarked (List.mem_map_of_mem present) answer

theorem decideScopeBatchContent_recording {operationId : String} {nowUs : Nat} {choices : List ScopeBatchChoice}
    (decided : decideScopeBatchContent digest identifier current (stampOf current operationId nowUs) choices =
      .ok records) :
    Recording digest identifier current (.batch choices : ScopeCommand β) current.content records := by
  obtain ⟨-, -, rest⟩ := bind_eq_ok.mp decided
  obtain ⟨-, -, rest⟩ := bind_eq_ok.mp rest
  obtain ⟨_, known, rest⟩ := bind_eq_ok.mp rest
  obtain ⟨-, -, rest⟩ := bind_eq_ok.mp rest
  obtain ⟨made, references, rest⟩ := bind_eq_ok.mp rest
  obtain ⟨⟨⟩, verified, same⟩ := bind_eq_ok.mp rest
  cases same
  constructor
  · intro decision listed
    rcases List.mem_append.mp listed with earlier | now
    · exact .inl (List.mem_filter.mp earlier).1
    · right
      obtain ⟨choice, chosen, stated⟩ := List.mem_filterMap.mp now
      obtain ⟨item, located, matches'⟩ := (Option.any_eq_true _ _).mp (require_eq_ok.mp known choice chosen)
      obtain ⟨present, about⟩ := Table.latest_some located
      have shown := shown_of_item present about (of_decide_eq_true matches')
      unfold ScopeBatchChoice.decision at stated
      cases kind : choice.disposition with
      | SUPPORTING =>
        rw [kind] at stated
        cases stated
      | decided disposition =>
        rw [kind] at stated
        cases stated
        exact ⟨rfl, List.mem_filterMap.mpr ⟨choice, chosen, by rw [kind]⟩, shown⟩
  · intro reference listed
    rcases List.mem_append.mp listed with earlier | now
    · exact .inl (List.mem_filter.mp earlier).1
    · right
      obtain ⟨choice, -, built⟩ := partner_left (mapM_eq_ok_iff.mp references) now
      obtain ⟨targets, found, rest⟩ := bind_eq_ok.mp built
      obtain ⟨-, -, same⟩ := bind_eq_ok.mp rest
      cases same
      refine ⟨rfl, ?_⟩
      intro target related
      obtain ⟨pair, placed, rfl⟩ := List.mem_map.mp related
      obtain ⟨targetId, -, held⟩ := partner_left (mapM_eq_ok_iff.mp found) placed
      obtain ⟨item, present, about, confirmed, decision, inside, names⟩ := targetOf_ok held
      have kept := decided_item_kept verified present confirmed inside
      exact ⟨item, kept, by rw [names]; exact about, confirmed, decision, inside, by rw [names]⟩

theorem scopeRecords_recording {assistants : Assistants α β κ} {request : ScopeRequest β}
    {boundaryReviews : List BoundaryReviewRecord}
    (recorded : scopeRecords assistants identifier current request = .ok (boundaryReviews, records)) :
    Recording assistants.digest identifier current request.command current.content records := by
  unfold scopeRecords at recorded
  cases kind : request.command with
  | decision statement disposition =>
    rw [kind] at recorded
    obtain ⟨_, decided, same⟩ := bind_eq_ok.mp recorded
    cases same
    exact decideScopeContent_recording decided
  | batch choices =>
    rw [kind] at recorded
    obtain ⟨_, decided, same⟩ := bind_eq_ok.mp recorded
    cases same
    exact decideScopeBatchContent_recording decided
  | assistance command =>
    rw [kind] at recorded
    obtain ⟨_, _, same⟩ := bind_eq_ok.mp recorded
    cases same
    exact ⟨fun _ listed => .inl listed, fun _ listed => .inl listed⟩

end Steps

section Runs

variable {α β κ : Type} (assistants : Assistants α β κ) (identifier : String)

def requirementIds (value : RuleCandidateRevision (ScopeRecords α)) : List String :=
  value.content.requirementSources.map (·.requirementId)

/-- A human said so, of a stored revision in which the requirement read like that. -/
def Confirmed (operations : List (Operation κ (ScopeRequest β))) (candidate : Candidate (ScopeRecords α))
    (decision : ScopeDecision) : Prop :=
  Said operations decision ∧ ∃ shown ∈ candidate.revisions, shown.revision = decision.expectedRevision ∧
    ShownIn assistants.digest identifier shown decision.toScopeStatement

/-- The target held in the revision that the reference was made in. -/
def HeldThen (candidate : Candidate (ScopeRecords α)) (reference : ScopeReference) (target : ScopeTarget) : Prop :=
  ∃ made ∈ candidate.revisions, made.revision = reference.outputRevision ∧
    HeldIn assistants.digest identifier made.content made.records target

/-- What holds of a candidate between the operations on it. -/
structure Recorded (operations : List (Operation κ (ScopeRequest β))) (candidate : Candidate (ScopeRecords α)) : Prop where
  decided : ∀ value ∈ candidate.revisions, ∀ decision ∈ value.records.decisions,
    Confirmed assistants identifier operations candidate decision
  related : ∀ value ∈ candidate.revisions, ∀ reference ∈ value.records.references, ∀ target ∈ reference.related,
    HeldThen assistants identifier candidate reference target
  kept : candidate.revisions.Pairwise fun earlier later => requirementIds earlier ⊆ requirementIds later

/-- What an operation adds to a candidate. -/
structure Adds (operation : Operation κ (ScopeRequest β)) (candidate next : Candidate (ScopeRecords α))
    (value : RuleCandidateRevision (ScopeRecords α)) : Prop where
  revisions : next.revisions = candidate.revisions ++ [value]
  decided : ∀ decision ∈ value.records.decisions, ∃ current ∈ candidate.head,
    decision ∈ current.records.decisions ∨ Said [operation] decision ∧ current.revision = decision.expectedRevision ∧
      ShownIn assistants.digest identifier current decision.toScopeStatement
  related : ∀ reference ∈ value.records.references, (∃ current ∈ candidate.head, reference ∈ current.records.references) ∨
    reference.outputRevision = value.revision ∧
      ∀ target ∈ reference.related, HeldIn assistants.digest identifier value.content value.records target
  kept : ∀ current ∈ candidate.head, requirementIds current ⊆ requirementIds value

variable {assistants identifier} {candidate next : Candidate (ScopeRecords α)} {setting : Setting}

theorem scopeItems_congr {digest : Digest} {content other : CandidateContent RuleScenario} (records : ScopeRecords α)
    (same : content.requirementSources = other.requirementSources) :
    scopeItems digest identifier content records = scopeItems digest identifier other records := by
  unfold scopeItems recordedItems
  rw [same]

theorem save_adds {command : RuleCandidateSave κ}
    (saved : Service.save (scopeDesk assistants identifier) candidate setting command = .ok next) :
    ∃ value, Adds assistants identifier (.save setting command) candidate next value := by
  obtain ⟨content, value, records, -, guarded, -, same, -, inherited, carried, rfl⟩ := save_value saved
  obtain ⟨others, -, result⟩ := bind_eq_ok.mp carried
  cases result
  refine ⟨_, rfl, ?_, ?_, ?_⟩
  · intro decision listed
    rw [show value.records = _ from inherited] at listed
    cases head : candidate.head with
    | none =>
      rw [head] at listed
      cases listed
    | some current =>
      rw [head] at listed
      exact ⟨current, rfl, .inl listed⟩
  · intro reference listed
    rw [show value.records = _ from inherited] at listed
    cases head : candidate.head with
    | none =>
      rw [head] at listed
      cases listed
    | some current =>
      rw [head] at listed
      exact .inl ⟨current, rfl, listed⟩
  · intro current head
    rw [show candidate.head = some current from head] at guarded
    obtain ⟨-, -, rest⟩ := bind_eq_ok.mp guarded
    obtain ⟨-, -, scope⟩ := bind_eq_ok.mp rest
    have retained := require_eq_ok.mp scope
    rw [← same] at retained
    exact retained

theorem decide_adds {command : RuleCandidateDecide}
    (decided : Service.decide (scopeDesk assistants identifier) candidate setting command = .ok next) :
    ∃ value, Adds assistants identifier (.decide setting command) candidate next value := by
  obtain ⟨current, scenario, content, head, -, -, froze, rfl⟩ := decide_ok decided
  have sources : content.requirementSources = current.content.requirementSources :=
    congrArg (@CandidateContent.requirementSources RuleScenarioInput) (scopedContent_ok froze).1
  refine ⟨_, rfl, ?_, ?_, ?_⟩
  · exact fun decision listed => ⟨current, head, .inl listed⟩
  · exact fun reference listed => .inl ⟨current, head, listed⟩
  · intro other found
    cases head.symm.trans found
    unfold requirementIds
    rw [sources]
    exact List.Subset.refl _

theorem review_adds {command : ReviewCommand (ScopeRequest β)}
    (reviewed : Service.review (scopeDesk assistants identifier) candidate setting command = .ok next) :
    ∃ value, Adds assistants identifier (.review setting command) candidate next value := by
  obtain ⟨current, content, boundaryReviews, records, head, expected, -, recorded, froze, rfl⟩ := review_value reviewed
  have sources : content.requirementSources = current.content.requirementSources :=
    congrArg (@CandidateContent.requirementSources RuleScenarioInput) (scopedContent_ok froze).1
  have recording := scopeRecords_recording recorded
  refine ⟨_, rfl, ?_, ?_, ?_⟩
  · intro decision listed
    refine ⟨current, head, ?_⟩
    rcases recording.decided decision listed with earlier | ⟨revision, stated, shown⟩
    · exact .inl earlier
    · exact .inr ⟨⟨setting, command, List.mem_singleton.mpr rfl, stated, expected.symm.trans revision.symm⟩,
        revision.symm, shown⟩
  · intro reference listed
    rcases recording.related reference listed with earlier | ⟨revision, held⟩
    · exact .inl ⟨current, head, earlier⟩
    · refine .inr ⟨revision, ?_⟩
      intro target related
      have there := held target related
      unfold HeldIn at there ⊢
      rw [← scopeItems_congr records sources] at there
      exact there
  · intro other found
    cases head.symm.trans found
    unfold requirementIds
    rw [sources]
    exact List.Subset.refl _

theorem Said.mono {operations more : List (Operation κ (ScopeRequest β))} {decision : ScopeDecision}
    (said : Said operations decision) (inside : operations ⊆ more) : Said more decision := by
  obtain ⟨setting, command, listed, stated⟩ := said
  exact ⟨setting, command, inside listed, stated⟩

/-- One more operation keeps the records true. -/
theorem recorded_adds {operations : List (Operation κ (ScopeRequest β))} {operation : Operation κ (ScopeRequest β)}
    {value : RuleCandidateRevision (ScopeRecords α)} (recorded : Recorded assistants identifier operations candidate)
    (adds : Adds assistants identifier operation candidate next value) :
    Recorded assistants identifier (operations ++ [operation]) next := by
  have stored : ∀ {current}, current ∈ candidate.head → current ∈ candidate.revisions := fun head =>
    List.mem_of_getLast? head
  have older : ∀ other ∈ candidate.revisions, other ∈ next.revisions := by
    intro other known
    rw [adds.revisions]
    exact List.mem_append_left _ known
  have confirmed : ∀ decision, Confirmed assistants identifier operations candidate decision →
      Confirmed assistants identifier (operations ++ [operation]) next decision := by
    rintro decision ⟨said, shown, known, rest⟩
    exact ⟨said.mono (List.subset_append_left _ _), shown, older shown known, rest⟩
  have held : ∀ reference target, HeldThen assistants identifier candidate reference target →
      HeldThen assistants identifier next reference target := by
    rintro reference target ⟨made, known, rest⟩
    exact ⟨made, older made known, rest⟩
  constructor
  · intro other known decision listed
    rw [adds.revisions] at known
    rcases List.mem_append.mp known with earlier | last
    · exact confirmed decision (recorded.decided other earlier decision listed)
    · rw [List.mem_singleton.mp last] at listed
      obtain ⟨current, head, before | ⟨said, revision, shown⟩⟩ := adds.decided decision listed
      · exact confirmed decision (recorded.decided current (stored head) decision before)
      · exact ⟨said.mono (List.subset_append_right _ _), current, older current (stored head), revision, shown⟩
  · intro other known reference listed target related
    rw [adds.revisions] at known
    rcases List.mem_append.mp known with earlier | last
    · exact held reference target (recorded.related other earlier reference listed target related)
    · rw [List.mem_singleton.mp last] at listed
      rcases adds.related reference listed with ⟨current, head, before⟩ | ⟨revision, now⟩
      · exact held reference target (recorded.related current (stored head) reference before target related)
      · refine ⟨value, ?_, revision.symm, now target related⟩
        rw [adds.revisions]
        exact List.mem_append_right _ (List.mem_singleton.mpr rfl)
  · rw [adds.revisions, List.pairwise_append]
    refine ⟨recorded.kept, List.pairwise_singleton _ _, ?_⟩
    intro earlier known later last
    rw [List.mem_singleton.mp last]
    -- the ids only grow up to the head, and the new revision keeps those of the head
    obtain ⟨before, current, split⟩ : ∃ before current, candidate.revisions = before ++ [current] :=
      ⟨_, _, (List.dropLast_append_getLast (List.ne_nil_of_mem known)).symm⟩
    have head : candidate.head = some current := by
      unfold Candidate.head
      rw [split, List.getLast?_concat]
    have grown := recorded.kept
    rw [split] at grown known
    rcases List.mem_append.mp known with first | same
    · exact List.Subset.trans ((List.pairwise_append.mp grown).2.2 earlier first current (List.mem_singleton.mpr rfl))
        (adds.kept current head)
    · rw [List.mem_singleton.mp same]
      exact adds.kept current head

theorem operate_adds {operation : Operation κ (ScopeRequest β)}
    (done : operate (scopeDesk assistants identifier) candidate operation = .ok next) :
    ∃ value, Adds assistants identifier operation candidate next value := by
  cases operation with
  | save setting command => exact save_adds done
  | decide setting command => exact decide_adds done
  | review setting command => exact review_adds done

theorem perform_recorded {operations : List (Operation κ (ScopeRequest β))} (operation : Operation κ (ScopeRequest β))
    (recorded : Recorded assistants identifier operations candidate) :
    Recorded assistants identifier (operations ++ [operation])
      (perform (scopeDesk assistants identifier) candidate operation) := by
  unfold perform
  cases done : operate (scopeDesk assistants identifier) candidate operation with
  | error _ =>
    refine ⟨?_, recorded.related, recorded.kept⟩
    intro value stored decision listed
    obtain ⟨said, shown⟩ := recorded.decided value stored decision listed
    exact ⟨said.mono (List.subset_append_left _ _), shown⟩
  | ok next =>
    obtain ⟨value, adds⟩ := operate_adds done
    exact recorded_adds recorded adds

theorem run_recorded (operations : List (Operation κ (ScopeRequest β))) :
    Recorded assistants identifier operations (runCandidate (scopeDesk assistants identifier) operations) := by
  induction operations using List.reverseRecOn with
  | nil =>
    exact ⟨fun _ stored => absurd stored List.not_mem_nil, fun _ stored => absurd stored List.not_mem_nil, .nil⟩
  | append_singleton operations operation ih =>
    unfold runCandidate at ih ⊢
    rw [Transition.run_snoc]
    exact perform_recorded operation ih

end Runs

section Settled

variable {α β κ : Type} (assistants : Assistants α β κ) (identifier : String)
  (operations : List (Operation κ (ScopeRequest β))) (candidate : Candidate (ScopeRecords α))

def itemsOf (value : RuleCandidateRevision (ScopeRecords α)) : List ScopeItem :=
  scopeItems assistants.digest identifier value.content value.records

/-- A human made the decision about a requirement that read like this one. -/
def Agreed (source : RequirementSource) (decision : ScopeDecision) : Prop :=
  Said operations decision ∧ ∃ shown ∈ candidate.revisions, shown.revision = decision.expectedRevision ∧
    ∃ known ∈ shown.content.requirementSources, SameMeaning known source

/-- Requirements that are both in the scope, with one meaning and one time scope. -/
structure Unchanged (before now : ScopeItem) (earlier decision : ScopeDecision) : Prop where
  decidedThen : DecidedBy before earlier
  decidedNow : DecidedBy now decision
  wasInScope : earlier.disposition = .IN_SCOPE
  inScope : decision.disposition = .IN_SCOPE
  meaning : SameMeaning before.source now.source
  requirement : earlier.requirement = decision.requirement
  timeScope : earlier.timeScope = decision.timeScope

/-- What human decisions cover of a revision. -/
structure Settled (value : RuleCandidateRevision (ScopeRecords α)) : Prop where
  covered : ∀ permission ∈ value.content.permissions, permission.effectiveState = .ACTIVE →
    ∃ item ∈ itemsOf assistants identifier value, permission.itemId ∈ item.source.permissionItemIds ∧
      ∃ decision, DecidedBy item decision ∧ decision.disposition = .IN_SCOPE ∧ decision.timeScope ≠ .HISTORY ∧
        Agreed operations candidate item.source decision
  outside : ∀ item ∈ itemsOf assistants identifier value, ∀ decision, DecidedBy item decision →
    decision.disposition = .PREPARATION ∨ decision.disposition = .OUT_OF_SCOPE →
    ∀ permission ∈ value.content.permissions, permission.effectiveState = .ACTIVE →
      permission.itemId ∉ item.source.permissionItemIds
  supported : ∀ item ∈ itemsOf assistants identifier value, ∀ reference,
    item.decision = some (.reference reference) → ∀ target ∈ reference.related,
      ∃ now ∈ itemsOf assistants identifier value, now.source.requirementId = target.requirementId ∧
      ∃ made ∈ candidate.revisions, made.revision = reference.outputRevision ∧
      ∃ before ∈ itemsOf assistants identifier made, ∃ earlier decision, Unchanged before now earlier decision

variable {assistants identifier operations candidate}

theorem agreed_of_decided (recorded : Recorded assistants identifier operations candidate)
    {value : RuleCandidateRevision (ScopeRecords α)} (stored : value ∈ candidate.revisions) {item : ScopeItem}
    (listed : item ∈ itemsOf assistants identifier value) {decision : ScopeDecision} (decided : DecidedBy item decision) :
    Agreed operations candidate item.source decision := by
  obtain ⟨-, -, answer, fits⟩ := scopeItems_mem listed
  have made := answerOf_decision (answer.symm.trans decided.recorded)
  obtain ⟨said, shown, known, revision, source, present, -, fingerprint⟩ := recorded.decided value stored decision made
  exact ⟨said, shown, known, revision, source, present,
    sameMeaning_of_accepted fingerprint (fits decided.confirmed _ decided.recorded)⟩

/-- Confirmed requirements whose decisions name one fingerprint have one meaning. -/
theorem sameMeaning_of_decisions (recorded : Recorded assistants identifier operations candidate)
    {value made : RuleCandidateRevision (ScopeRecords α)} (stored : value ∈ candidate.revisions)
    {before now : ScopeItem} (there : before ∈ itemsOf assistants identifier made)
    (here : now ∈ itemsOf assistants identifier value) {earlier decision : ScopeDecision}
    (was : DecidedBy before earlier) (is : DecidedBy now decision)
    (same : earlier.requirementFingerprint = decision.requirementFingerprint) : SameMeaning before.source now.source := by
  obtain ⟨-, -, answer, fits⟩ := scopeItems_mem here
  obtain ⟨-, -, -, fits'⟩ := scopeItems_mem there
  have listed := answerOf_decision (answer.symm.trans is.recorded)
  obtain ⟨-, shown, -, -, source, -, -, fingerprint⟩ := recorded.decided value stored decision listed
  have meaning := sameMeaning_of_accepted fingerprint (fits is.confirmed _ is.recorded)
  have earlierFits := fits' was.confirmed _ was.recorded
  have fingerprint' : meaningFingerprint assistants.digest identifier source =
      (ScopeAnswer.decision earlier).statement.requirementFingerprint := fingerprint.trans same.symm
  have meaning' := sameMeaning_of_accepted fingerprint' earlierFits
  exact ⟨meaning'.requirementId.symm.trans meaning.requirementId, meaning'.title.symm.trans meaning.title,
    meaning'.origin.symm.trans meaning.origin, meaning'.sourceExcerpt.symm.trans meaning.sourceExcerpt,
    meaning'.interpretation.symm.trans meaning.interpretation⟩

theorem mem_activeIds {content : CandidateContent RuleScenario} {permission : ProposedPermissionItem}
    (listed : permission ∈ content.permissions) (active : permission.effectiveState = .ACTIVE) :
    permission.itemId ∈ activeIds content :=
  List.mem_map_of_mem (List.mem_filter.mpr ⟨listed, decide_eq_true active⟩)

theorem settled_of_quiet (recorded : Recorded assistants identifier operations candidate)
    {value : RuleCandidateRevision (ScopeRecords α)} (stored : value ∈ candidate.revisions)
    (quiet : scopeIssues assistants.digest identifier value.content value.records = []) :
    Settled assistants identifier operations candidate value := by
  obtain ⟨silent, complete⟩ := scopeIssues_quiet quiet
  constructor
  · intro permission listed active
    obtain ⟨item, present, covered⟩ := complete permission.itemId (mem_activeIds listed active)
    obtain ⟨linked, decision, decided, inside, current⟩ := scopePart_covered (silent item present) covered
    exact ⟨item, present, linked, decision, decided, inside, current, agreed_of_decided recorded stored present decided⟩
  · intro item present decision decided aside permission listed active linked
    have other : decision.disposition ≠ .IN_SCOPE := by
      rcases aside with preparation | outside
      · rw [preparation]
        decide
      · rw [outside]
        decide
    have unlinked := scopePart_outside (silent item present) decided other
    have inside : permission.itemId ∈ linkedTo (activeIds value.content) item.source :=
      List.mem_filter.mpr ⟨linked, decide_eq_true (mem_activeIds listed active)⟩
    rw [unlinked] at inside
    cases inside
  · intro item present reference refers target related
    obtain ⟨confirmed, -⟩ := scopePart_quiet (silent item present)
    have holds := confirmed_targets present confirmed refers target related
    obtain ⟨now, located, stands⟩ := (Option.any_eq_true _ _).mp holds
    obtain ⟨confirmed', chosen⟩ := of_decide_eq_true stands
    obtain ⟨decision, inside, fingerprint⟩ := (Option.any_eq_true _ _).mp chosen
    obtain ⟨known, about⟩ := Table.latest_some located
    obtain ⟨decidedNow, inScope⟩ := inScope_some.mp inside
    have here := recorded_unmarked known decidedNow
    obtain ⟨-, -, answer, -⟩ := scopeItems_mem present
    have listed := answerOf_reference (answer.symm.trans refers)
    obtain ⟨made, known', revision, before, there, -, confirmedThen, earlier, insideThen, fingerprintThen⟩ :=
      recorded.related value stored reference listed target related
    obtain ⟨decidedThen, wasInScope⟩ := inScope_some.mp insideThen
    obtain ⟨prints, requirement, timeScope⟩ :=
      scopeDecisionFingerprint_injective (fingerprintThen.trans (of_decide_eq_true fingerprint).symm)
    have meaning := sameMeaning_of_decisions recorded stored there here ⟨confirmedThen, decidedThen⟩
      ⟨confirmed', decidedNow⟩ prints
    exact ⟨now, here, about, made, known', revision, before, there, earlier, decision,
      ⟨confirmedThen, decidedThen⟩, ⟨confirmed', decidedNow⟩, wasInScope, inScope, meaning, requirement, timeScope⟩

/-- A revision without scope issues is covered by human decisions, no requirement disappears, and a batch that is
refused changes nothing. -/
theorem scope_settled (assistants : Assistants α β κ) (identifier : String)
    (operations : List (Operation κ (ScopeRequest β))) :
    (∀ value ∈ (runCandidate (scopeDesk assistants identifier) operations).revisions,
      scopeIssues assistants.digest identifier value.content value.records = [] →
      Settled assistants identifier operations (runCandidate (scopeDesk assistants identifier) operations) value) ∧
    ((runCandidate (scopeDesk assistants identifier) operations).revisions.Pairwise fun earlier later =>
      requirementIds earlier ⊆ requirementIds later) ∧
    ∀ setting command choices error, command.body.command = .batch choices →
      operate (scopeDesk assistants identifier) (runCandidate (scopeDesk assistants identifier) operations)
        (.review setting command) = .error error →
      perform (scopeDesk assistants identifier) (runCandidate (scopeDesk assistants identifier) operations)
        (.review setting command) = runCandidate (scopeDesk assistants identifier) operations := by
  have recorded := @run_recorded _ _ _ assistants identifier operations
  refine ⟨fun value stored quiet => settled_of_quiet recorded stored quiet, recorded.kept, ?_⟩
  intro setting command choices error _ refused
  unfold perform
  rw [refused]

end Settled

end Jiejian.Boundaries.ScopeDecisions
