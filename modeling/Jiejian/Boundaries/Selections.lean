import Jiejian.Boundaries.CandidateService

namespace Jiejian.Boundaries.Selections

open Library Library.Document Library.Outcome Library.Sorting
open Protocol.Codec Proposals Scenarios Candidates CandidateService

section Gathering

/-- Where the selections agree on an item, the item they agree on is gathered. -/
structure Gathers (items : List ProposedPermissionItem) (gathered : Gathered) : Prop where
  kept : ∀ item ∈ items, item.itemId ∉ gathered.conflicts →
    Table.lookup (·.itemId) gathered.replacements item.itemId = some item

theorem add_replacements (gathered : Gathered) (item : ProposedPermissionItem) :
    (gathered.add item).replacements = Table.put ProposedPermissionItem.itemId gathered.replacements item := rfl

theorem gathers_add {items : List ProposedPermissionItem} {gathered : Gathered} (gathers : Gathers items gathered)
    (item : ProposedPermissionItem) : Gathers (items ++ [item]) (gathered.add item) := by
  constructor
  intro other listed free
  have grown : other.itemId ∉ gathered.conflicts := by
    intro conflict
    apply free
    unfold Gathered.add
    dsimp only
    split
    · exact List.mem_append_left _ conflict
    · exact conflict
  rcases List.mem_append.mp listed with earlier | last
  · by_cases same : other.itemId = item.itemId
    · -- the id has been gathered before: the two items agree, or the id is in conflict
      have found := gathers.kept other earlier grown
      rw [same] at found free
      have agree : other = item := by
        by_contra different
        apply free
        unfold Gathered.add
        dsimp only
        rw [found, if_pos (by simpa using different)]
        exact List.mem_append_right _ (by simp)
      rw [add_replacements, agree, Table.lookup_put_self]
    · rw [add_replacements, Table.lookup_put_other _ same]
      exact gathers.kept other earlier grown
  · rw [add_replacements, List.mem_singleton.mp last, Table.lookup_put_self]

theorem gathers_foldl (items : List ProposedPermissionItem) : Gathers items (items.foldl Gathered.add {}) := by
  induction items using List.reverseRecOn with
  | nil => exact ⟨fun item listed => absurd listed List.not_mem_nil⟩
  | append_singleton items item ih =>
    rw [List.foldl_append]
    exact gathers_add ih item

end Gathering

section Content

variable {reading : Reading} {input : CandidateContent RuleScenarioInput} {content : CandidateContent RuleScenario}

/-- What a frozen content is made of. -/
structure Frozen (reading : Reading) (content : CandidateContent RuleScenario) : Prop where
  scenarios : content.scenarios.mapM (fun scenario => freezeScenario reading content scenario.toRuleScenarioInput) =
    .ok content.scenarios
  permissions : Table.Keyed ProposedPermissionItem.itemId content.permissions
  named : Table.Keyed (·.scenarioId) content.scenarios
  inside : ∀ scenario ∈ content.scenarios, ∀ option ∈ scenario.options,
    option.itemIds ⊆ content.permissions.map (·.itemId)

theorem Frozen.fingerprint (frozen : Frozen reading content) {scenario : RuleScenario}
    (listed : scenario ∈ content.scenarios) :
    scenario.scenarioFingerprint = scenarioFingerprint reading content scenario.toRuleScenarioInput := by
  have paired := mapM_eq_ok_iff.mp frozen.scenarios
  obtain ⟨other, member, made⟩ := partner_left paired listed
  obtain ⟨same, fingerprint⟩ := freezeScenario_ok made
  rw [fingerprint, ← same]

theorem inputs_of_frozen {inputs : List RuleScenarioInput} {scenarios : List RuleScenario}
    (paired : List.Forall₂ (fun scenario frozen => freezeScenario reading input scenario = .ok frozen) inputs scenarios) :
    scenarios.map (·.toRuleScenarioInput) = inputs := by
  induction paired with
  | nil => rfl
  | cons made _ ih => rw [List.map_cons, (freezeScenario_ok made).1, ih]

theorem scopedContent_ok (froze : scopedContent reading input = .ok content) :
    thawed content = input ∧ Frozen reading content := by
  obtain ⟨scenarios, frozen, rest⟩ := bind_eq_ok.mp froze
  obtain ⟨_, verified, same⟩ := bind_eq_ok.mp rest
  cases same
  have inputs := inputs_of_frozen (mapM_eq_ok_iff.mp frozen)
  obtain ⟨_, unique, rest'⟩ := bind_eq_ok.mp verified
  obtain ⟨_, named, rest'⟩ := bind_eq_ok.mp rest'
  obtain ⟨_, inside, -⟩ := bind_eq_ok.mp rest'
  have distinct : (scenarios.map (·.scenarioId)).Nodup := require_eq_ok.mp named
  refine ⟨?_, ?_, (require_eq_ok.mp unique).2.2.1, distinct, require_eq_ok.mp inside⟩
  · unfold thawed
    dsimp only
    rw [inputs]
  · rw [← inputs, List.mapM_map] at frozen
    exact frozen

/-- Freezing again what only changed its permissions and its open questions changes nothing more. -/
theorem scopedContent_thawed (frozen : Frozen reading content) {permissions : List ProposedPermissionItem}
    {questions : List String} {after : CandidateContent RuleScenario}
    (froze : scopedContent reading (thawed { content with permissions, unresolvedQuestions := questions }) = .ok after) :
    after = { content with permissions, unresolvedQuestions := questions } := by
  obtain ⟨scenarios, made, rest⟩ := bind_eq_ok.mp froze
  obtain ⟨_, _, same⟩ := bind_eq_ok.mp rest
  have kept : scenarios = content.scenarios := by
    have inputs : (thawed { content with permissions, unresolvedQuestions := questions }).scenarios =
        content.scenarios.map (·.toRuleScenarioInput) := rfl
    rw [inputs, List.mapM_map] at made
    exact Except.ok.inj (made.symm.trans frozen.scenarios)
  cases same
  rw [kept]
  rfl

end Content

section Reading

variable {ρ : Type} {reading : Reading} {candidate grown : Candidate ρ}

theorem lookup_replacedBy {choices permissions : List ProposedPermissionItem} {item : ProposedPermissionItem}
    (gathered : Table.lookup ProposedPermissionItem.itemId choices item.itemId = some item)
    (present : item.itemId ∈ permissions.map (·.itemId)) :
    Table.lookup ProposedPermissionItem.itemId (replacedBy choices permissions) item.itemId = some item := by
  have keeps : ∀ known : ProposedPermissionItem,
      ((Table.lookup ProposedPermissionItem.itemId choices known.itemId).getD known).itemId = known.itemId := by
    intro known
    cases found : Table.lookup ProposedPermissionItem.itemId choices known.itemId with
    | none => rfl
    | some other => exact (Table.lookup_some found).2
  unfold replacedBy
  rw [Table.lookup_map keeps]
  cases found : Table.lookup ProposedPermissionItem.itemId permissions item.itemId with
  | none =>
    obtain ⟨known, listed, same⟩ := List.mem_map.mp present
    exact absurd same (Table.lookup_none.mp found known listed)
  | some known =>
    obtain ⟨-, same⟩ := Table.lookup_some found
    show some ((Table.lookup ProposedPermissionItem.itemId choices known.itemId).getD known) = some item
    rw [same, gathered]
    rfl

/-- Two candidates that store the same under the revisions that the decisions name. -/
def SameBefore (candidate grown : Candidate ρ) (history : List RuleCandidateDecision) : Prop :=
  ∀ decision ∈ history, grown.get decision.expectedRevision = candidate.get decision.expectedRevision

theorem standingDecision_grown {content : CandidateContent RuleScenario} {history : List RuleCandidateDecision}
    (same : SameBefore candidate grown history) (scenario : RuleScenario) :
    standingDecision reading grown content history scenario =
      standingDecision reading candidate content history scenario := by
  unfold standingDecision
  cases latest : Table.latest (·.scenarioId) history scenario.scenarioId with
  | none => rfl
  | some decision =>
    have stored := same decision (Table.latest_some latest).1
    simp only [Option.filter_some, sameDependencies, stored]

theorem stateOf_grown {content : CandidateContent RuleScenario} {history : List RuleCandidateDecision}
    (same : SameBefore candidate grown history) :
    stateOf reading grown content history = stateOf reading candidate content history := by
  funext scenario
  unfold stateOf
  rw [standingDecision_grown same]

end Reading

end Jiejian.Boundaries.Selections
