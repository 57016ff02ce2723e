import Jiejian.Boundaries.StandingChoices

namespace Jiejian.Boundaries.ApprovedChoices

open Library Library.Document Library.Outcome Library.Sorting Library.History
open Protocol.Codec Proposals Scenarios Candidates CandidateService Selections StandingChoices

section Steps

variable {ρ κ γ : Type} {desk : Desk ρ κ γ} {reading : Reading} {candidate next : Candidate ρ} {setting : Setting}
  {content : CandidateContent RuleScenario}

theorem scenarioState_head (sound : Sound reading candidate) {current : RuleCandidateRevision ρ}
    (head : candidate.head = some current) (extra : Option RuleCandidateDecision) :
    scenarioState reading candidate current extra = choicesOf
      (current.content.scenarios.map (stateOf reading candidate current.content (candidate.decisions ++ extra.toList))) := by
  unfold scenarioState
  dsimp only
  rw [decisionsUpTo_head sound head]
  by_cases empty : current.content.scenarios = []
  · rw [empty]
    rfl
  · have some' : current.content.scenarios.isEmpty = false := by simpa using empty
    rw [some', if_neg Bool.false_ne_true]

/-- The selections take effect when the permissions are replaced by what they gathered. -/
theorem effective_replaced (frozen : Frozen reading content) {states : List ScenarioState}
    (shaped : ∀ state ∈ states, ∀ option ∈ state.option, ∃ scenario ∈ content.scenarios, option ∈ scenario.options) :
    Effective (choicesOf states) (replacedBy (choicesOf states).replacements content.permissions) := by
  intro state listed selected option chosen free item inside
  obtain ⟨scenario, asked, offered⟩ := shaped state listed option chosen
  apply lookup_replacedBy
  · exact choicesOf_replacement listed selected chosen inside (free item inside)
  · exact frozen.inside scenario asked option offered (List.mem_map_of_mem inside)

theorem stateOf_option {history : List RuleCandidateDecision} {scenario : RuleScenario} {option : RuleScenarioOption}
    (chosen : (stateOf reading candidate content history scenario).option = some option) : option ∈ scenario.options := by
  obtain ⟨decision, -, found⟩ := Option.bind_eq_some_iff.mp chosen
  exact (chosenOption_mem found).1

/-- Neither the permissions nor the open questions matter to what stands. -/
theorem stateOf_decided (choices : Choices) (action : DecisionAction) (question : String)
    (history : List RuleCandidateDecision) :
    stateOf reading candidate (decidedContent choices action question content) history =
      stateOf reading candidate content history := rfl

theorem review_sound {command : ReviewCommand γ} (sound : Sound desk.toReading candidate)
    (reviewed : Service.review desk candidate setting command = .ok next) : Sound desk.toReading next := by
  obtain ⟨current, content, value, head, froze, revision, same, rfl⟩ := review_ok reviewed
  have stored := List.mem_of_getLast? head
  have unchanged : value.content = current.content := by
    rw [same]
    exact scopedContent_thawed (sound.frozen current stored) froze
  have step : Grown candidate { candidate with revisions := candidate.revisions ++ [value] } value [] :=
    ⟨rfl, (List.append_nil _).symm, by rw [revision, sound.head_revision head], by simp, by simp⟩
  apply step.sound sound
  · rw [unchanged]
    exact sound.frozen current stored
  · have inForce := sound.inForce current stored
    unfold InForce at inForce ⊢
    rw [scenarioState_head sound head, Option.toList_none, List.append_nil] at inForce
    rw [step.scenarioState_new sound, unchanged]
    exact inForce

theorem decide_sound {command : RuleCandidateDecide} (sound : Sound desk.toReading candidate)
    (decided : Service.decide desk candidate setting command = .ok next) : Sound desk.toReading next := by
  obtain ⟨current, scenario, content, head, expected, -, froze, same⟩ := decide_ok decided
  have stored := List.mem_of_getLast? head
  have frozen := sound.frozen current stored
  have counted := sound.head_revision head
  have replaced : content = decidedContent (scenarioState desk.toReading candidate current
      (some (decisionOf desk setting command current.revision))) command.action scenario.question current.content :=
    scopedContent_thawed frozen froze
  have step : Grown candidate next { current with revision := current.revision + 1, content }
      [decisionOf desk setting command current.revision] := by
    refine ⟨by rw [same], by rw [same], by rw [counted], ?_, by simp⟩
    intro decision listed
    rw [List.mem_singleton.mp listed]
    exact ⟨expected.trans counted, congrArg (· + 1) counted⟩
  apply step.sound sound
  · exact (scopedContent_ok froze).2
  · unfold InForce
    rw [step.scenarioState_new sound, replaced, step.decisions, stateOf_decided,
      scenarioState_head sound head (some (decisionOf desk setting command current.revision))]
    apply effective_replaced frozen
    intro state listed option chosen
    obtain ⟨scenario, asked, rfl⟩ := List.mem_map.mp listed
    exact ⟨scenario, asked, stateOf_option chosen⟩

/-- What the check of an edit says about a scenario that stays selected. -/
theorem checkScenario_selected {current : RuleCandidateRevision ρ} {incoming : CandidateContent RuleScenario}
    {choices : Choices} {old scenario : RuleScenario} (checked : checkScenario reading current incoming choices old = .ok ())
    (found : incoming.scenarios.find? (fun item => item.scenarioId = old.scenarioId) = some scenario)
    (same : sameMeaning reading current incoming old scenario = true) {state : ScenarioState}
    (listed : choices.stateOf old.scenarioId = some state) (selected : state.status = some .SELECT)
    {option : RuleScenarioOption} (offered : option ∈ old.options)
    (chosen : some option.optionId = state.decision.bind (·.optionId)) {item : ProposedPermissionItem}
    (inside : item ∈ option.replacements) (free : item.itemId ∉ choices.conflicts) :
    Table.lookup ProposedPermissionItem.itemId incoming.permissions item.itemId = choices.replacement item.itemId := by
  obtain ⟨-, -, kept⟩ := bind_eq_ok.mp checked
  exact (require_eq_ok.mp kept scenario found same state listed selected option offered chosen item inside).resolve_left free

/-- Scenarios of one meaning are written alike. -/
theorem sameMeaning_input {current : RuleCandidateRevision ρ} {incoming : CandidateContent RuleScenario}
    (frozen : Frozen reading current.content) (frozen' : Frozen reading incoming) {old scenario : RuleScenario}
    (here : old ∈ current.content.scenarios) (there : scenario ∈ incoming.scenarios)
    (same : sameMeaning reading current incoming old scenario = true) :
    old.toRuleScenarioInput = scenario.toRuleScenarioInput := by
  rcases of_decide_eq_true same with fingerprints | ⟨told, keys⟩
  · have print := frozen.fingerprint here
    have print' := frozen'.fingerprint there
    rw [print, print'] at fingerprints
    exact (scenarioFingerprint_injective fingerprints).symm
  · obtain ⟨key, found⟩ := Option.ne_none_iff_exists'.mp told
    exact scenarioDependencies_injective found (keys ▸ found)

theorem choices_stateOf {current : RuleCandidateRevision ρ} {history : List RuleCandidateDecision}
    (frozen : Frozen reading current.content) {scenario : RuleScenario} (asked : scenario ∈ current.content.scenarios) :
    (choicesOf (current.content.scenarios.map (stateOf reading candidate current.content history))).stateOf
      scenario.scenarioId = some (stateOf reading candidate current.content history scenario) := by
  have keyed : Table.Keyed ScenarioState.scenarioId
      (current.content.scenarios.map (stateOf reading candidate current.content history)) := by
    unfold Table.Keyed
    rw [List.map_map]
    exact frozen.named
  exact keyed.lookup_mem (List.mem_map_of_mem asked)

/-- An edit that brings no selection back leaves the selected permissions as they are. -/
theorem edit_effective {current : RuleCandidateRevision ρ} {incoming : CandidateContent RuleScenario}
    (sound : Sound reading candidate) (head : candidate.head = some current) (frozen : Frozen reading incoming)
    (checked : checkCandidateEdit reading candidate current incoming = .ok ())
    (continues : Continues reading candidate current incoming) :
    Effective (choicesOf (incoming.scenarios.map (stateOf reading candidate incoming candidate.decisions)))
      incoming.permissions := by
  intro state listed selected option chosen _ item inside
  obtain ⟨scenario, asked, rfl⟩ := List.mem_map.mp listed
  obtain ⟨decision, picked, standing, action, found, shape⟩ := stateOf_select selected
  rw [shape, Option.mem_def, Option.some.injEq] at chosen
  subst chosen
  have frozen' := sound.frozen current (List.mem_of_getLast? head)
  have standing' : decision ∈ standingDecision reading candidate incoming (candidate.decisionsUpTo current.revision)
      scenario := by
    rw [decisionsUpTo_head sound head]
    exact standing
  obtain ⟨old, asked', named, same, stood, free⟩ := continues scenario asked decision standing' action
  have written := sameMeaning_input frozen' frozen asked' asked same
  have offered : chosenOption old decision = some picked := by
    rw [← found]
    unfold chosenOption
    rw [written]
  have choices := scenarioState_head sound head none
  rw [Option.toList_none, List.append_nil] at choices
  rw [decisionsUpTo_head sound head] at stood
  have state : stateOf reading candidate current.content candidate.decisions old =
      ⟨old.scenarioId, some .SELECT, some decision, some picked⟩ := by
    simp [stateOf, stood, offered, action]
  obtain ⟨-, -, checks⟩ := bind_eq_ok.mp checked
  have look := @choices_stateOf _ reading candidate current candidate.decisions frozen' old asked'
  have unconflicted := free picked offered item inside
  rw [choices] at unconflicted checks
  rw [state] at look
  have kept := checkScenario_selected (forM_eq_ok.mp checks old asked') (named ▸ frozen.named.lookup_mem asked) same look
    rfl (chosenOption_mem offered).1 (chosenOption_mem offered).2 inside unconflicted
  rw [kept]
  have member := List.mem_map_of_mem (f := stateOf reading candidate current.content candidate.decisions) asked'
  rw [state] at member
  exact choicesOf_replacement member rfl rfl inside unconflicted

theorem save_sound {command : RuleCandidateSave κ} (sound : Sound desk.toReading candidate)
    (saved : Service.save desk candidate setting command = .ok next)
    (kept : Kept desk candidate (.save setting command)) : Sound desk.toReading next := by
  obtain ⟨content, value, made, guarded, revision, same, rfl⟩ := save_ok saved
  obtain ⟨input, -, froze⟩ := bind_eq_ok.mp made
  have frozen : Frozen desk.toReading value.content := same ▸ (scopedContent_ok froze).2
  cases head : candidate.head with
  | none =>
    have empty : candidate.revisions = [] := List.getLast?_eq_none_iff.mp head
    have undecided : candidate.decisions = [] := by
      apply List.eq_nil_iff_forall_not_mem.mpr
      intro decision listed
      have placed := sound.placed decision listed
      rw [empty, List.length_nil] at placed
      omega
    have step : Grown candidate { candidate with revisions := candidate.revisions ++ [value] } value [] :=
      ⟨rfl, (List.append_nil _).symm, by rw [revision, head, empty]; rfl, by simp, by simp⟩
    apply step.sound sound frozen
    unfold InForce
    rw [step.scenarioState_new sound]
    dsimp only
    rw [undecided]
    -- no decision has been made, so nothing is selected
    intro state listed selected
    obtain ⟨scenario, -, rfl⟩ := List.mem_map.mp listed
    cases selected
  | some current =>
    have step : Grown candidate { candidate with revisions := candidate.revisions ++ [value] } value [] :=
      ⟨rfl, (List.append_nil _).symm, by rw [revision, head, Option.map_some, sound.head_revision head]; rfl, by simp,
        by simp⟩
    apply step.sound sound frozen
    unfold InForce
    rw [step.scenarioState_new sound]
    rw [head] at made guarded
    obtain ⟨⟨⟩, checked, -⟩ := bind_eq_ok.mp guarded
    rw [same] at frozen ⊢
    exact edit_effective sound head frozen checked (kept current head content made)

end Steps

section Runs

variable {ρ κ γ : Type} {desk : Desk ρ κ γ} {candidate : Candidate ρ}

theorem sound_empty (reading : Reading) : Sound reading ({} : Candidate ρ) where
  numbered := rfl
  frozen := fun _ stored => absurd stored List.not_mem_nil
  ordered := .nil
  placed := fun _ listed => absurd listed List.not_mem_nil
  inForce := fun _ stored => absurd stored List.not_mem_nil

theorem perform_ok {next : Candidate ρ} {operation : Operation κ γ} (done : operate desk candidate operation = .ok next) :
    perform desk candidate operation = next := by
  unfold perform
  rw [done]

theorem perform_sound (candidate : Candidate ρ) (operation : Operation κ γ) (kept : Kept desk candidate operation)
    (sound : Sound desk.toReading candidate) : Sound desk.toReading (perform desk candidate operation) := by
  unfold perform
  cases done : operate desk candidate operation with
  | error _ => exact sound
  | ok next =>
    cases operation with
    | save setting command => exact save_sound sound done kept
    | decide setting command => exact decide_sound sound done
    | review setting command => exact review_sound sound done

theorem run_sound {operations : List (Operation κ γ)}
    (kept : Transition.Along (perform desk) (Kept desk) {} operations) :
    Sound desk.toReading (runCandidate desk operations) :=
  Transition.run_invariant_along perform_sound kept (sound_empty desk.toReading)

/-- The permissions of a proposal carry what was selected in the candidate that it was made from. -/
def Carries (proposedPermissions : List ProposedPermissionItem) (states : List ScenarioState) : Prop :=
  ∀ state ∈ states, state.status = some .SELECT → ∀ option ∈ state.option, ∀ item ∈ option.replacements,
    ∃ proposed ∈ proposedPermissions, { proposed with writeMode := item.writeMode } = item

theorem validateApprovalSource_carries (sound : Sound desk.toReading candidate) {source : ProposalSource}
    {currentBasis : String} {proposedPermissions : List ProposedPermissionItem}
    {accepted : RuleCandidateRevision ρ × List ScenarioState}
    (validated : validateApprovalSource desk candidate source currentBasis proposedPermissions = .ok accepted) :
    Carries proposedPermissions accepted.2 := by
  obtain ⟨value, head, rest⟩ := bind_eq_ok.mp validated
  obtain ⟨_, _, rest⟩ := bind_eq_ok.mp rest
  obtain ⟨_, settled, rest⟩ := bind_eq_ok.mp rest
  obtain ⟨_, _, rest⟩ := bind_eq_ok.mp rest
  obtain ⟨_, _, rest⟩ := bind_eq_ok.mp rest
  obtain ⟨_, same, rest⟩ := bind_eq_ok.mp rest
  cases rest
  intro state listed selected option chosen item inside
  have inForce := sound.inForce value (List.mem_of_getLast? (orRaise_eq_ok.mp head))
  have free : ∀ other ∈ option.replacements,
      other.itemId ∉ (scenarioState desk.toReading candidate value).conflicts := by
    rw [(require_eq_ok.mp settled).2]
    exact fun _ _ => List.not_mem_nil
  obtain ⟨stored, -⟩ := Table.lookup_some (inForce state listed selected option chosen free item inside)
  obtain ⟨proposed, found, equal⟩ := (Option.any_eq_true _ _).mp (require_eq_ok.mp same item stored)
  exact ⟨proposed, (Table.latest_some found).1, of_decide_eq_true equal⟩

/-- In a run whose saves bring no selection back, what a human selected is what the permissions say, in every revision
and in every proposal that is approved. -/
theorem choices_in_force (desk : Desk ρ κ γ) (operations : List (Operation κ γ))
    (kept : Transition.Along (perform desk) (Kept desk) {} operations) :
    (∀ value ∈ (runCandidate desk operations).revisions,
      InForce desk.toReading (runCandidate desk operations) value) ∧
    ∀ source currentBasis proposedPermissions accepted,
      validateApprovalSource desk (runCandidate desk operations) source currentBasis proposedPermissions = .ok accepted →
      Carries proposedPermissions accepted.2 := by
  have sound := run_sound kept
  exact ⟨sound.inForce, fun _ _ _ _ => validateApprovalSource_carries sound⟩

end Runs

section Sample

variable (digest : Digest)

def sampleDesk : Desk Unit Unit Unit where
  digest := digest
  normalizedRuleText := id
  textHash := id
  records := ()
  carryAssistance := fun _ _ _ => .ok ()
  reviewRecords := fun _ _ => .ok ([], ())
  openIssues := fun _ => false

def sampleSetting : Setting where
  projectId := "project"
  candidateId := "rcd"
  draft := { basisId := "rb" }
  decisionId := "rcdcn"

def sampleItem (expectation : Protocol.Cases.Expectation) : ProposedPermissionItem where
  itemId := "pperm"
  writeMode := .CREATE
  effectiveState := .ACTIVE
  subjectActorItemId := "pactr"
  businessActionItemId := "pactn"
  resourceOwnerActorItemId := "pactr"
  relation := .OWNS
  expectation := expectation
  protectedEffectItemIds := ["peff"]

def sampleScenario : RuleScenarioInput where
  scenarioId := "rsc"
  originalExcerpt := "preview"
  question := "download?"
  options := [⟨"rop_allow", "allow", "allow", [sampleItem .ALLOW]⟩, ⟨"rop_deny", "deny", "deny", [sampleItem .DENY]⟩]

/-- One permission, with or without the question about it. -/
def sampleContent {σ : Type} (expectation : Protocol.Cases.Expectation) (scenarios : List σ) : CandidateContent σ where
  originalText := "preview"
  actors := [{ writeMode := .CREATE, itemId := "pactr", displayName := "member", effectiveState := .ACTIVE }]
  actions :=
    [{ writeMode := .CREATE, itemId := "pactn", displayName := "file", primaryResourceConcept := "file",
       operationKind := .READ, stateChanging := false, effectiveState := .ACTIVE,
       effectCatalog := [{ itemId := "peff", businessLabel := "read", effectKind := .FILE_CONTENT_DELIVERY,
                           resourceConcept := "file" }] }]
  permissions := [sampleItem expectation]
  scenarios := scenarios

def sampleFrozen : RuleScenario :=
  ⟨sampleScenario, "preview", scenarioFingerprint (sampleDesk digest).toReading (sampleContent .ALLOW [sampleScenario])
    sampleScenario⟩

def sampleSave (expectedRevision : Option Nat) (scenarios : List RuleScenarioInput) : RuleCandidateSave Unit where
  expectedBasisId := "rb"
  expectedRevision := expectedRevision
  content := sampleContent .ALLOW scenarios
  assistance := ()

def sampleDecide : RuleCandidateDecide where
  operationId := "operation"
  expectedBasisId := "rb"
  expectedRevision := 1
  scenarioId := "rsc"
  scenarioFingerprint := (sampleFrozen digest).scenarioFingerprint
  action := .SELECT
  optionId := some "rop_deny"

def sampleRevision (revision : Nat) (content : CandidateContent RuleScenario) : RuleCandidateRevision Unit where
  revision := revision
  basisId := "rb"
  content := content
  records := ()

def sampleDecision : RuleCandidateDecision := decisionOf (sampleDesk digest) sampleSetting (sampleDecide digest) 1

/-- The author asks, a human denies, and the author takes the question out to allow again. -/
def sampleEdits : List (Operation Unit Unit) :=
  [.save sampleSetting (sampleSave none [sampleScenario]), .decide sampleSetting (sampleDecide digest),
    .save sampleSetting (sampleSave (some 2) [])]

/-- Then the question comes back as it was. -/
def sampleOperations : List (Operation Unit Unit) :=
  sampleEdits digest ++ [.save sampleSetting (sampleSave (some 3) [sampleScenario])]

def sampleAsked : RuleCandidateRevision Unit := sampleRevision 1 (sampleContent .ALLOW [sampleFrozen digest])

def sampleDecided : RuleCandidateRevision Unit := sampleRevision 2 (sampleContent .DENY [sampleFrozen digest])

def sampleEmptied : RuleCandidateRevision Unit := sampleRevision 3 (sampleContent .ALLOW [])

def sampleReturned : RuleCandidateRevision Unit := sampleRevision 4 (sampleContent .ALLOW [sampleFrozen digest])

theorem sample_state (candidate : Candidate Unit) (content : CandidateContent RuleScenario) :
    stateOf (sampleDesk digest).toReading candidate content [sampleDecision digest] (sampleFrozen digest) =
      ⟨"rsc", some .SELECT, some (sampleDecision digest),
        some ⟨"rop_deny", "deny", "deny", [sampleItem .DENY]⟩⟩ := by
  have standing : standingDecision (sampleDesk digest).toReading candidate content [sampleDecision digest]
      (sampleFrozen digest) = some (sampleDecision digest) :=
    Option.filter_eq_some_iff.mpr ⟨rfl, Bool.or_eq_true_iff.mpr (.inl (decide_eq_true rfl))⟩
  unfold stateOf
  rw [standing]
  rfl

theorem sample_bounded : sampleScenario.boundedOptions = .ok () := rfl

theorem sample_told : "preview" ≠ "" ∧ 1 ≤ occurrences "preview" "preview" := by decide

theorem sample_froze (expectation : Protocol.Cases.Expectation) :
    freezeScenario (sampleDesk digest).toReading (sampleContent expectation [sampleScenario]) sampleScenario =
      .ok (sampleFrozen digest) :=
  bind_eq_ok.mpr ⟨(), require_eq_ok.mpr sample_told, bind_eq_ok.mpr ⟨(), sample_bounded, rfl⟩⟩

theorem sample_scoped (expectation : Protocol.Cases.Expectation) :
    scopedContent (sampleDesk digest).toReading (sampleContent expectation [sampleScenario]) =
      .ok (sampleContent expectation [sampleFrozen digest]) := by
  have scenarios : [sampleScenario].mapM
      (freezeScenario (sampleDesk digest).toReading (sampleContent expectation [sampleScenario])) =
        .ok [sampleFrozen digest] := by
    rw [List.mapM_cons, sample_froze]
    rfl
  exact bind_eq_ok.mpr ⟨[sampleFrozen digest], scenarios, bind_eq_ok.mpr ⟨(), rfl, rfl⟩⟩

theorem sample_asked : perform (sampleDesk digest) {} (.save sampleSetting (sampleSave none [sampleScenario])) =
    ⟨[sampleAsked digest], []⟩ := by
  have saved : Service.save (sampleDesk digest) {} sampleSetting (sampleSave none [sampleScenario]) =
      .ok ⟨[sampleAsked digest], []⟩ :=
    bind_eq_ok.mpr ⟨(), rfl, bind_eq_ok.mpr ⟨none, rfl, bind_eq_ok.mpr ⟨sampleContent .ALLOW [sampleFrozen digest],
      bind_eq_ok.mpr ⟨sampleContent .ALLOW [sampleScenario], rfl, sample_scoped digest .ALLOW⟩,
      bind_eq_ok.mpr ⟨(), rfl, bind_eq_ok.mpr ⟨(), rfl, bind_eq_ok.mpr ⟨(), rfl, rfl⟩⟩⟩⟩⟩⟩
  exact perform_ok saved

/-- The choices that stand where the question is asked after the decision. -/
theorem sample_choices (revision : Nat) (expectation : Protocol.Cases.Expectation) (candidate : Candidate Unit)
    (extra : Option RuleCandidateDecision)
    (history : candidate.decisionsUpTo revision ++ extra.toList = [sampleDecision digest]) :
    scenarioState (sampleDesk digest).toReading candidate
        (sampleRevision revision (sampleContent expectation [sampleFrozen digest])) extra =
      ⟨[⟨"rsc", some .SELECT, some (sampleDecision digest), some ⟨"rop_deny", "deny", "deny", [sampleItem .DENY]⟩⟩],
        [sampleItem .DENY], []⟩ := by
  have stated := sample_state digest candidate (sampleContent expectation [sampleFrozen digest])
  rw [← history] at stated
  show choicesOf [stateOf (sampleDesk digest).toReading candidate (sampleContent expectation [sampleFrozen digest])
    (candidate.decisionsUpTo revision ++ extra.toList) (sampleFrozen digest)] = _
  rw [stated]
  rfl

theorem sample_decided : perform (sampleDesk digest) ⟨[sampleAsked digest], []⟩
    (.decide sampleSetting (sampleDecide digest)) =
      ⟨[sampleAsked digest, sampleDecided digest], [sampleDecision digest]⟩ := by
  have choices := sample_choices digest 1 .ALLOW ⟨[sampleAsked digest], []⟩ (some (sampleDecision digest)) rfl
  have froze : scopedContent (sampleDesk digest).toReading (thawed (decidedContent
      (scenarioState (sampleDesk digest).toReading ⟨[sampleAsked digest], []⟩ (sampleAsked digest)
        (some (sampleDecision digest))) .SELECT "download?" (sampleContent .ALLOW [sampleFrozen digest]))) =
      .ok (sampleContent .DENY [sampleFrozen digest]) := by
    unfold sampleAsked at choices ⊢
    rw [choices]
    exact sample_scoped digest .DENY
  have decided : Service.decide (sampleDesk digest) ⟨[sampleAsked digest], []⟩ sampleSetting (sampleDecide digest) =
      .ok ⟨[sampleAsked digest, sampleDecided digest], [sampleDecision digest]⟩ :=
    bind_eq_ok.mpr ⟨(), rfl, bind_eq_ok.mpr ⟨sampleAsked digest, rfl, bind_eq_ok.mpr ⟨sampleFrozen digest, rfl,
      bind_eq_ok.mpr ⟨(), require_eq_ok.mpr rfl, bind_eq_ok.mpr ⟨(), rfl,
        bind_eq_ok.mpr ⟨_, froze, bind_eq_ok.mpr ⟨(), rfl, rfl⟩⟩⟩⟩⟩⟩⟩
  exact perform_ok decided

/-- The question may be taken out: it is settled. -/
theorem sample_emptied : perform (sampleDesk digest) ⟨[sampleAsked digest, sampleDecided digest], [sampleDecision digest]⟩
    (.save sampleSetting (sampleSave (some 2) [])) =
      ⟨[sampleAsked digest, sampleDecided digest, sampleEmptied], [sampleDecision digest]⟩ := by
  have choices := sample_choices digest 2 .DENY ⟨[sampleAsked digest, sampleDecided digest], [sampleDecision digest]⟩ none rfl
  have checked : checkCandidateEdit (sampleDesk digest).toReading
      ⟨[sampleAsked digest, sampleDecided digest], [sampleDecision digest]⟩ (sampleDecided digest)
      (sampleContent .ALLOW []) = .ok () := by
    unfold checkCandidateEdit sampleDecided at *
    rw [choices]
    rfl
  have saved : Service.save (sampleDesk digest) ⟨[sampleAsked digest, sampleDecided digest], [sampleDecision digest]⟩
      sampleSetting (sampleSave (some 2) []) =
      .ok ⟨[sampleAsked digest, sampleDecided digest, sampleEmptied], [sampleDecision digest]⟩ :=
    bind_eq_ok.mpr ⟨(), rfl, bind_eq_ok.mpr ⟨some (sampleDecided digest), rfl, bind_eq_ok.mpr ⟨sampleContent .ALLOW [], rfl,
      bind_eq_ok.mpr ⟨(), bind_eq_ok.mpr ⟨(), checked, rfl⟩, bind_eq_ok.mpr ⟨(), rfl, bind_eq_ok.mpr ⟨(), rfl, rfl⟩⟩⟩⟩⟩⟩
  exact perform_ok saved

/-- Nothing guards the question when it comes back. -/
theorem sample_returned : perform (sampleDesk digest)
    ⟨[sampleAsked digest, sampleDecided digest, sampleEmptied], [sampleDecision digest]⟩
    (.save sampleSetting (sampleSave (some 3) [sampleScenario])) =
      ⟨[sampleAsked digest, sampleDecided digest, sampleEmptied, sampleReturned digest], [sampleDecision digest]⟩ := by
  have saved : Service.save (sampleDesk digest)
      ⟨[sampleAsked digest, sampleDecided digest, sampleEmptied], [sampleDecision digest]⟩ sampleSetting
      (sampleSave (some 3) [sampleScenario]) =
      .ok ⟨[sampleAsked digest, sampleDecided digest, sampleEmptied, sampleReturned digest], [sampleDecision digest]⟩ :=
    bind_eq_ok.mpr ⟨(), rfl, bind_eq_ok.mpr ⟨some sampleEmptied, rfl, bind_eq_ok.mpr ⟨sampleContent .ALLOW [sampleFrozen digest],
      bind_eq_ok.mpr ⟨sampleContent .ALLOW [sampleScenario], rfl, sample_scoped digest .ALLOW⟩,
      bind_eq_ok.mpr ⟨(), rfl, bind_eq_ok.mpr ⟨(), rfl, bind_eq_ok.mpr ⟨(), rfl, rfl⟩⟩⟩⟩⟩⟩
  exact perform_ok saved

theorem sample_edited : runCandidate (sampleDesk digest) (sampleEdits digest) =
    ⟨[sampleAsked digest, sampleDecided digest, sampleEmptied], [sampleDecision digest]⟩ := by
  unfold runCandidate sampleEdits
  rw [Transition.run_cons, sample_asked, Transition.run_cons, sample_decided, Transition.run_cons, sample_emptied]
  rfl

theorem sample_run : runCandidate (sampleDesk digest) (sampleOperations digest) =
    ⟨[sampleAsked digest, sampleDecided digest, sampleEmptied, sampleReturned digest], [sampleDecision digest]⟩ := by
  have edited := sample_edited digest
  unfold runCandidate at edited ⊢
  unfold sampleOperations
  rw [Transition.run_snoc, edited, sample_returned]

/-- The human denied, the selection stands again, and the permission allows. -/
theorem sample_reverted : sampleReturned textDigest ∈
      (runCandidate (sampleDesk textDigest) (sampleOperations textDigest)).revisions ∧
    ¬ InForce (sampleDesk textDigest).toReading (runCandidate (sampleDesk textDigest) (sampleOperations textDigest))
      (sampleReturned textDigest) := by
  rw [sample_run]
  refine ⟨by simp, ?_⟩
  intro inForce
  have choices := sample_choices textDigest 4 .ALLOW
    ⟨[sampleAsked textDigest, sampleDecided textDigest, sampleEmptied, sampleReturned textDigest],
      [sampleDecision textDigest]⟩ none rfl
  unfold InForce sampleReturned at *
  rw [choices] at inForce
  have denied := inForce _ (List.mem_singleton.mpr rfl) rfl _ rfl (by simp) _ (List.mem_singleton.mpr rfl)
  have allowed : some (sampleItem .ALLOW) = some (sampleItem .DENY) := denied
  exact absurd allowed (by decide)

/-- Before the question comes back, the edits meet the condition. -/
theorem sample_kept : sampleDecided textDigest ∈
      (runCandidate (sampleDesk textDigest) (sampleEdits textDigest)).revisions ∧
    InForce (sampleDesk textDigest).toReading (runCandidate (sampleDesk textDigest) (sampleEdits textDigest))
      (sampleDecided textDigest) := by
  have stored : sampleDecided textDigest ∈
      (runCandidate (sampleDesk textDigest) (sampleEdits textDigest)).revisions := by
    rw [sample_edited]
    simp
  refine ⟨stored, (choices_in_force (sampleDesk textDigest) (sampleEdits textDigest) ⟨?_, trivial, ?_, trivial⟩).1 _ stored⟩
  · intro current head
    cases head
  · rw [sample_asked, sample_decided]
    intro current head content saved
    cases head
    cases saved
    intro scenario asked
    cases asked

end Sample

end Jiejian.Boundaries.ApprovedChoices
