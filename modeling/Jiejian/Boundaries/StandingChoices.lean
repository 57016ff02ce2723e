import Jiejian.Boundaries.Selections

namespace Jiejian.Boundaries.StandingChoices

open Library Library.Document Library.Outcome Library.Sorting Library.History
open Protocol.Codec Proposals Scenarios Candidates CandidateService Selections

/-- Where a scenario is decided by a selection and nothing conflicts, the permissions are those of its option. -/
def Effective (choices : Choices) (permissions : List ProposedPermissionItem) : Prop :=
  ∀ state ∈ choices.states, state.status = some .SELECT → ∀ option ∈ state.option,
    (∀ item ∈ option.replacements, item.itemId ∉ choices.conflicts) → ∀ item ∈ option.replacements,
    Table.lookup (·.itemId) permissions item.itemId = some item

/-- The choices that stand in a revision are what its permissions say. -/
def InForce {ρ : Type} (reading : Reading) (candidate : Candidate ρ) (value : RuleCandidateRevision ρ) : Prop :=
  Effective (scenarioState reading candidate value) value.content.permissions

/-- The edit brings no selection back: a scenario that is selected after it was selected right before it, with the
same meaning and in no conflict. -/
def Continues {ρ : Type} (reading : Reading) (candidate : Candidate ρ) (current : RuleCandidateRevision ρ)
    (incoming : CandidateContent RuleScenario) : Prop :=
  ∀ scenario ∈ incoming.scenarios, ∀ decision ∈ standingDecision reading candidate incoming
      (candidate.decisionsUpTo current.revision) scenario, decision.action = .SELECT →
    ∃ old ∈ current.content.scenarios, old.scenarioId = scenario.scenarioId ∧
      sameMeaning reading current incoming old scenario = true ∧
      standingDecision reading candidate current.content (candidate.decisionsUpTo current.revision) old = some decision ∧
      ∀ option ∈ chosenOption old decision, ∀ item ∈ option.replacements,
        item.itemId ∉ (scenarioState reading candidate current).conflicts

/-- The condition on a step: a save continues the choices of the revision that it edits. -/
def Kept {ρ κ γ : Type} (desk : Desk ρ κ γ) (candidate : Candidate ρ) : Operation κ γ → Prop
  | .save _ command => ∀ current ∈ candidate.head, ∀ content, savedContent desk (some current) command = .ok content →
      Continues desk.toReading candidate current content
  | _ => True

section States

variable {ρ : Type} {reading : Reading} {candidate grown : Candidate ρ} {content : CandidateContent RuleScenario}
  {history : List RuleCandidateDecision} {scenario : RuleScenario}

/-- What a selected scenario rests on. -/
theorem stateOf_select (selected : (stateOf reading candidate content history scenario).status = some .SELECT) :
    ∃ decision option, standingDecision reading candidate content history scenario = some decision ∧
      decision.action = .SELECT ∧ chosenOption scenario decision = some option ∧
      stateOf reading candidate content history scenario =
        ⟨scenario.scenarioId, some .SELECT, some decision, some option⟩ := by
  unfold stateOf at selected ⊢
  dsimp only at selected ⊢
  obtain ⟨chosen, present⟩ := Option.filter_eq_some_iff.mp selected
  obtain ⟨decision, standing, action⟩ := Option.map_eq_some_iff.mp chosen
  rw [standing, Option.bind_some] at present ⊢
  obtain ⟨option, found⟩ : ∃ option, chosenOption scenario decision = some option := by
    apply Option.isSome_iff_exists.mp
    simpa using present
  refine ⟨decision, option, rfl, action, found, ?_⟩
  rw [found, Option.map_some, action]
  rfl

theorem chosenOption_mem {decision : RuleCandidateDecision} {option : RuleScenarioOption}
    (found : chosenOption scenario decision = some option) :
    option ∈ scenario.options ∧ some option.optionId = decision.optionId :=
  ⟨List.mem_of_find?_eq_some found, by simpa using List.find?_some found⟩

/-- An item of a selection that is not in conflict is the replacement under its id. -/
theorem choicesOf_replacement {states : List ScenarioState} {state : ScenarioState} {option : RuleScenarioOption}
    (listed : state ∈ states) (selected : state.status = some .SELECT) (chosen : state.option = some option)
    {item : ProposedPermissionItem} (inside : item ∈ option.replacements) (free : item.itemId ∉ (choicesOf states).conflicts) :
    Table.lookup ProposedPermissionItem.itemId (choicesOf states).replacements item.itemId = some item := by
  have gathered : item ∈ states.flatMap (·.replacements) := by
    apply List.mem_flatMap.mpr
    refine ⟨state, listed, ?_⟩
    unfold ScenarioState.replacements
    rw [if_pos selected, chosen]
    exact inside
  have kept := (gathers_foldl (states.flatMap ScenarioState.replacements)).kept item gathered free
  rw [← kept]
  apply Table.lookup_filter
  intro row _ same
  rw [same]
  exact decide_eq_true free

end States

section Soundness

variable {ρ : Type} {reading : Reading} {candidate grown : Candidate ρ}

/-- What holds of a candidate between its operations. -/
structure Sound (reading : Reading) (candidate : Candidate ρ) : Prop where
  numbered : Numbered RuleCandidateRevision.revision 1 candidate.revisions
  frozen : ∀ value ∈ candidate.revisions, Frozen reading value.content
  ordered : candidate.decisions.Pairwise fun earlier later => earlier.outputRevision < later.outputRevision
  placed : ∀ decision ∈ candidate.decisions, decision.outputRevision = decision.expectedRevision + 1 ∧
    decision.outputRevision ≤ candidate.revisions.length
  inForce : ∀ value ∈ candidate.revisions, InForce reading candidate value

theorem Sound.bounded (sound : Sound reading candidate) {value : RuleCandidateRevision ρ}
    (stored : value ∈ candidate.revisions) : value.revision ≤ candidate.revisions.length := by
  have member : value.revision ∈ List.range' 1 candidate.revisions.length := by
    rw [← sound.numbered]
    exact List.mem_map_of_mem stored
  have range := List.mem_range'_1.mp member
  omega

theorem Sound.head_revision (sound : Sound reading candidate) {current : RuleCandidateRevision ρ}
    (head : candidate.head = some current) : current.revision = candidate.revisions.length := by
  have last := congrArg List.getLast? sound.numbered
  rw [List.getLast?_map, show candidate.revisions.getLast? = some current from head, List.getLast?_range'] at last
  by_cases empty : candidate.revisions.length = 0
  · rw [if_pos empty] at last
    cases last
  · rw [if_neg empty, Option.map_some, Option.some.injEq] at last
    omega

theorem decisionsUpTo_eq (sound : Sound reading candidate) (revision : Nat) :
    candidate.decisionsUpTo revision = candidate.decisions.filter fun decision => decision.outputRevision ≤ revision := by
  unfold Candidate.decisionsUpTo
  apply sortedBy_eq_self
  exact (sound.ordered.filter _).imp fun before => Nat.le_of_lt before

theorem decisionsUpTo_head (sound : Sound reading candidate) {current : RuleCandidateRevision ρ}
    (head : candidate.head = some current) : candidate.decisionsUpTo current.revision = candidate.decisions := by
  rw [decisionsUpTo_eq sound, List.filter_eq_self, sound.head_revision head]
  intro decision made
  exact decide_eq_true (sound.placed decision made).2

/-- A candidate that has one more revision, and perhaps a decision that led to it. -/
structure Grown (candidate grown : Candidate ρ) (value : RuleCandidateRevision ρ) (made : List RuleCandidateDecision) :
    Prop where
  revisions : grown.revisions = candidate.revisions ++ [value]
  decisions : grown.decisions = candidate.decisions ++ made
  revision : value.revision = candidate.revisions.length + 1
  placed : ∀ decision ∈ made, decision.expectedRevision = candidate.revisions.length ∧
    decision.outputRevision = candidate.revisions.length + 1
  single : made.length ≤ 1

variable {value : RuleCandidateRevision ρ} {made : List RuleCandidateDecision}

theorem Grown.sameBefore (step : Grown candidate grown value made) (sound : Sound reading candidate)
    {history : List RuleCandidateDecision} (known : history ⊆ grown.decisions) : SameBefore candidate grown history := by
  intro decision listed
  have other : decision.expectedRevision ≠ value.revision := by
    rw [step.revision]
    rcases List.mem_append.mp (step.decisions ▸ known listed) with earlier | now
    · have placed := sound.placed decision earlier
      omega
    · have placed := step.placed decision now
      omega
  unfold Candidate.get Table.lookup
  rw [step.revisions, List.find?_append, List.find?_singleton, if_neg (by simpa using other.symm), Option.or_none]

theorem Grown.ordered (step : Grown candidate grown value made) (sound : Sound reading candidate) :
    grown.decisions.Pairwise fun earlier later => earlier.outputRevision < later.outputRevision := by
  rw [step.decisions, List.pairwise_append]
  refine ⟨sound.ordered, ?_, ?_⟩
  · cases made with
    | nil => exact .nil
    | cons decision rest =>
      have short := step.single
      cases rest with
      | nil => exact List.pairwise_singleton _ _
      | cons _ _ => simp at short
  · intro earlier before later now
    have placed := sound.placed earlier before
    have placed' := step.placed later now
    omega

theorem Grown.history_old (step : Grown candidate grown value made) {revision : Nat} (old : revision ≤ candidate.revisions.length) :
    grown.decisionsUpTo revision = candidate.decisionsUpTo revision := by
  unfold Candidate.decisionsUpTo
  congr 1
  rw [step.decisions, List.filter_append]
  have later : made.filter (fun decision => decision.outputRevision ≤ revision) = [] := by
    rw [List.filter_eq_nil_iff]
    intro decision now
    have placed := step.placed decision now
    simp only [decide_eq_true_eq]
    omega
  rw [later, List.append_nil]

theorem Grown.history_new (step : Grown candidate grown value made) (sound : Sound reading candidate) :
    grown.decisionsUpTo value.revision = grown.decisions := by
  unfold Candidate.decisionsUpTo
  have all : grown.decisions.filter (fun decision => decision.outputRevision ≤ value.revision) = grown.decisions := by
    rw [List.filter_eq_self, step.revision, step.decisions]
    intro decision listed
    rw [decide_eq_true_eq]
    rcases List.mem_append.mp listed with earlier | now
    · have placed := sound.placed decision earlier
      omega
    · have placed := step.placed decision now
      omega
  rw [all]
  exact sortedBy_eq_self ((step.ordered sound).imp fun before => Nat.le_of_lt before)

/-- The choices that stand in a revision that is already stored do not change. -/
theorem Grown.scenarioState_old (step : Grown candidate grown value made) (sound : Sound reading candidate)
    {old : RuleCandidateRevision ρ} (stored : old ∈ candidate.revisions) :
    scenarioState reading grown old = scenarioState reading candidate old := by
  have history := step.history_old (sound.bounded stored)
  have known : (if old.content.scenarios.isEmpty then [] else candidate.decisionsUpTo old.revision) ++
      (none : Option RuleCandidateDecision).toList ⊆ grown.decisions := by
    intro decision listed
    rw [Option.toList_none, List.append_nil] at listed
    split at listed
    · cases listed
    · rw [step.decisions]
      rw [decisionsUpTo_eq sound] at listed
      exact List.mem_append_left _ (List.mem_filter.mp listed).1
  unfold scenarioState
  dsimp only
  rw [history, stateOf_grown (step.sameBefore sound known)]

/-- The choices that stand in the new revision, told from the candidate before it. -/
theorem Grown.scenarioState_new (step : Grown candidate grown value made) (sound : Sound reading candidate) :
    scenarioState reading grown value =
      choicesOf (value.content.scenarios.map (stateOf reading candidate value.content grown.decisions)) := by
  unfold scenarioState
  dsimp only
  rw [step.history_new sound, Option.toList_none, List.append_nil]
  by_cases empty : value.content.scenarios = []
  · rw [empty]
    rfl
  · have some' : value.content.scenarios.isEmpty = false := by simpa using empty
    rw [some', if_neg Bool.false_ne_true, stateOf_grown (step.sameBefore sound (List.Subset.refl _))]

/-- One more revision keeps the candidate sound, when it is frozen and the choices stand in it. -/
theorem Grown.sound (step : Grown candidate grown value made) (sound : Sound reading candidate)
    (frozen : Frozen reading value.content) (inForce : InForce reading grown value) : Sound reading grown where
  numbered := by
    rw [step.revisions]
    apply sound.numbered.append rfl
    apply numbered_one
    rw [step.revision]
    omega
  frozen := by
    intro other stored
    rw [step.revisions] at stored
    rcases List.mem_append.mp stored with earlier | last
    · exact sound.frozen other earlier
    · rw [List.mem_singleton.mp last]
      exact frozen
  ordered := step.ordered sound
  placed := by
    intro decision listed
    rw [step.decisions] at listed
    rw [step.revisions, List.length_append, List.length_singleton]
    rcases List.mem_append.mp listed with earlier | now
    · have placed := sound.placed decision earlier
      exact ⟨placed.1, by omega⟩
    · have placed := step.placed decision now
      exact ⟨by omega, by omega⟩
  inForce := by
    intro other stored
    rw [step.revisions] at stored
    rcases List.mem_append.mp stored with earlier | last
    · unfold InForce
      rw [step.scenarioState_old sound earlier]
      exact sound.inForce other earlier
    · rw [List.mem_singleton.mp last]
      exact inForce

end Soundness

end Jiejian.Boundaries.StandingChoices
