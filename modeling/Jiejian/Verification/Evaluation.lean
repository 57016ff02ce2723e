import Jiejian.Protocol.Requests
import Jiejian.Verification.Decisions

namespace Jiejian.Verification.Evaluation

open Library Library.Document Library.Outcome Library.Sorting Errors
open Protocol.Codec Protocol.Conditions Protocol.Cases Protocol.Requests Models Decisions

variable {digest : Digest}

theorem reasons_not_vulnerable (reasons : List String) :
    (if reasons = [] then CaseVerdict.SAFE else .INCONCLUSIVE) ≠ .VULNERABLE := by
  by_cases closed : reasons = []
  · rw [if_pos closed]
    decide
  · rw [if_neg closed]
    decide

/-- A case is vulnerable exactly when its conditions held, it expects absence and a decisive proof
is confirmed for it. -/
theorem evaluateCheckCase_vulnerable {facts : CheckDecisionInput} :
    (evaluateCheckCase digest facts).verdict = .VULNERABLE ↔
      collectedConditionsStatus digest facts.case.permission.conditions facts.conditionObservations = .MATCH ∧
        facts.case.expectsAbsence = true ∧ confirmedEffects facts ≠ [] := by
  unfold evaluateCheckCase
  dsimp only
  by_cases matched : collectedConditionsStatus digest facts.case.permission.conditions facts.conditionObservations = .MATCH
  · rw [if_neg (not_not.mpr matched)]
    by_cases confirmed : facts.case.expectsAbsence = true ∧ confirmedEffects facts ≠ []
    · rw [if_pos confirmed]
      exact ⟨fun _ => ⟨matched, confirmed⟩, fun _ => rfl⟩
    · rw [if_neg confirmed]
      constructor
      · intro vulnerable
        exact absurd vulnerable (reasons_not_vulnerable _)
      · intro holds
        exact absurd holds.2 confirmed
  · rw [if_pos matched]
    constructor
    · intro vulnerable
      cases vulnerable
    · intro holds
      exact absurd holds.1 matched

/-- A confirmed effect is the effect of a trusted fact of a decisive proof. -/
theorem mem_confirmedEffects {facts : CheckDecisionInput} {effectId : String} :
    effectId ∈ confirmedEffects facts ↔
      facts.attributed = true ∧ ∃ fact, some fact ∈ requiredFacts facts ∧ confirmedFact fact = true ∧
        fact.effectId = effectId := by
  unfold confirmedEffects
  by_cases attributed : facts.attributed = true
  · rw [if_pos attributed, mem_sortedSet, List.mem_map]
    constructor
    · rintro ⟨fact, inside, same⟩
      obtain ⟨listed, confirmed⟩ := List.mem_filter.mp inside
      obtain ⟨entry, stored, shown⟩ := List.mem_filterMap.mp listed
      have present : entry = some fact := shown
      exact ⟨attributed, fact, present ▸ stored, confirmed, same⟩
    · rintro ⟨-, fact, stored, confirmed, same⟩
      exact ⟨fact, List.mem_filter.mpr ⟨List.mem_filterMap.mpr ⟨some fact, stored, rfl⟩, confirmed⟩, same⟩
  · rw [if_neg attributed]
    constructor
    · intro member
      cases member
    · intro holds
      exact absurd holds.1 attributed

theorem confirmedEffects_ne_nil {facts : CheckDecisionInput} :
    confirmedEffects facts ≠ [] ↔
      facts.attributed = true ∧ ∃ fact, some fact ∈ requiredFacts facts ∧ confirmedFact fact = true := by
  constructor
  · intro nonempty
    obtain ⟨effectId, member⟩ := List.exists_mem_of_ne_nil _ nonempty
    obtain ⟨attributed, fact, stored, confirmed, -⟩ := mem_confirmedEffects.mp member
    exact ⟨attributed, fact, stored, confirmed⟩
  · rintro ⟨attributed, fact, stored, confirmed⟩
    exact List.ne_nil_of_mem (mem_confirmedEffects.mpr ⟨attributed, fact, stored, confirmed, rfl⟩)

/-- What expects absence is not decided without its control. -/
theorem evaluateCheckCase_uncontrolled {facts : CheckDecisionInput}
    (matched : collectedConditionsStatus digest facts.case.permission.conditions facts.conditionObservations = .MATCH)
    (absence : facts.case.expectsAbsence = true) (unconfirmed : confirmedEffects facts = [])
    (uncontrolled : facts.allowControlVerdict ≠ some .SAFE) :
    (evaluateCheckCase digest facts).verdict = .INCONCLUSIVE := by
  have reasons : openReasons facts ++ (if facts.case.expectsAbsence then denyReasons facts else allowReasons facts) ≠
      [] := by
    simp [absence, denyReasons, reason, uncontrolled]
  have nothing : ¬ (facts.case.expectsAbsence = true ∧ confirmedEffects facts ≠ []) := by
    rintro ⟨-, confirmed⟩
    exact confirmed unconfirmed
  unfold evaluateCheckCase
  dsimp only
  rw [if_neg (not_not.mpr matched), if_neg nothing]
  exact if_neg reasons

theorem reason_eq_nil {condition : Bool} {code : String} : reason condition code = [] ↔ condition = false := by
  cases condition <;> simp [reason]

/-- What a safe case that expects absence has shown. -/
structure SafelyAbsent (facts : CheckDecisionInput) : Prop where
  attributed : facts.attributed = true
  baseline : facts.baselineTrusted = true
  recovery : facts.recoveryVerified = true
  execution : facts.execution ≠ .FAILED ∧ facts.execution ≠ .UNKNOWN
  unaccepted : facts.case.invocationKind = none → facts.execution ≠ .ACCEPTED
  control : facts.allowControlVerdict = some .SAFE
  required : ∀ entry ∈ requiredFacts facts, ∃ fact, entry = some fact ∧ fact.trusted = true ∧
    fact.state = .ABSENT ∧ fact.closure = .CLOSED

theorem evaluateCheckCase_safe {facts : CheckDecisionInput} (safe : (evaluateCheckCase digest facts).verdict = .SAFE)
    (absence : facts.case.expectsAbsence = true) : SafelyAbsent facts := by
  unfold evaluateCheckCase at safe
  dsimp only at safe
  by_cases matched : collectedConditionsStatus digest facts.case.permission.conditions facts.conditionObservations = .MATCH
  swap
  · rw [if_pos matched] at safe
    cases safe
  rw [if_neg (not_not.mpr matched)] at safe
  by_cases confirmed : facts.case.expectsAbsence = true ∧ confirmedEffects facts ≠ []
  · rw [if_pos confirmed] at safe
    cases safe
  rw [if_neg confirmed, absence] at safe
  have reasons : openReasons facts ++ denyReasons facts = [] := by
    by_contra some
    have inconclusive : (if openReasons facts ++ denyReasons facts = [] then CaseVerdict.SAFE else .INCONCLUSIVE) =
        .INCONCLUSIVE := if_neg some
    simp only [if_true] at safe
    rw [inconclusive] at safe
    cases safe
  simp only [openReasons, denyReasons, List.append_eq_nil_iff, reason_eq_nil] at reasons
  obtain ⟨⟨⟨⟨⟨⟨⟨⟨identity, run⟩, resource⟩, baseline⟩, recovery⟩, execution⟩, unknown⟩, closure⟩,
    ⟨accepted, control⟩, absent⟩ := reasons
  simp only [decide_eq_false_iff_not, not_not, Bool.not_eq_false'] at identity run resource baseline recovery control
  simp only [Bool.or_eq_false_iff, decide_eq_false_iff_not] at execution
  refine ⟨?_, baseline, recovery, execution, ?_, control, ?_⟩
  · simp [CheckDecisionInput.attributed, identity, run, resource]
  · intro single happened
    simp [happened, single] at accepted
  · intro entry member
    have known := List.any_eq_false.mp unknown entry member
    have closed := List.any_eq_false.mp closure entry member
    have gone := List.any_eq_false.mp absent entry member
    cases entry with
    | none => exact absurd rfl known
    | some fact =>
      simp only [Bool.not_eq_true, Bool.or_eq_false_iff, Bool.not_eq_false'] at known
      simp only [Bool.not_eq_true, decide_eq_false_iff_not, not_not] at closed gone
      exact ⟨fact, rfl, known.1, gone, closed⟩

theorem safelyAbsent_unconfirmed {facts : CheckDecisionInput} (safe : SafelyAbsent facts) : confirmedEffects facts = [] := by
  by_contra confirmed
  obtain ⟨-, fact, required, trusted⟩ := confirmedEffects_ne_nil.mp confirmed
  obtain ⟨other, same, -, state, -⟩ := safe.required _ required
  cases Option.some.inj same
  simp [confirmedFact, state] at trusted

/-- Whatever has shown all of this under its conditions is safe. -/
theorem evaluateCheckCase_of_safe {facts : CheckDecisionInput} (absence : facts.case.expectsAbsence = true)
    (matched : collectedConditionsStatus digest facts.case.permission.conditions facts.conditionObservations = .MATCH)
    (safe : SafelyAbsent facts) : (evaluateCheckCase digest facts).verdict = .SAFE := by
  have unconfirmed := safelyAbsent_unconfirmed safe
  have attributed := safe.attributed
  simp only [CheckDecisionInput.attributed, Bool.and_eq_true, decide_eq_true_eq] at attributed
  obtain ⟨⟨identity, run⟩, resource⟩ := attributed
  have accepted : (decide (facts.execution = .ACCEPTED) && decide (facts.case.invocationKind = none)) = false := by
    by_cases single : facts.case.invocationKind = none
    · simp [safe.unaccepted single]
    · simp [single]
  have unknown : openReasons facts = [] := by
    simp only [openReasons, List.append_eq_nil_iff, reason_eq_nil]
    refine ⟨⟨⟨⟨⟨⟨⟨?_, ?_⟩, ?_⟩, ?_⟩, ?_⟩, ?_⟩, ?_⟩, ?_⟩
    · simp [identity]
    · simp [run]
    · simp [resource]
    · simp [safe.baseline]
    · simp [safe.recovery]
    · simp [safe.execution]
    · apply List.any_eq_false.mpr
      intro entry member
      obtain ⟨fact, rfl, trusted, state, -⟩ := safe.required entry member
      simp [trusted, state]
    · apply List.any_eq_false.mpr
      intro entry member
      obtain ⟨fact, rfl, -, -, closure⟩ := safe.required entry member
      simp [closure]
  have denied : denyReasons facts = [] := by
    simp only [denyReasons, List.append_eq_nil_iff, reason_eq_nil]
    refine ⟨⟨accepted, by simp [safe.control]⟩, ?_⟩
    apply List.any_eq_false.mpr
    intro entry member
    obtain ⟨fact, rfl, -, state, -⟩ := safe.required entry member
    simp [state]
  unfold evaluateCheckCase
  dsimp only
  rw [if_neg (not_not.mpr matched), if_neg (by simp [unconfirmed])]
  simp [absence, unknown, denied]

/-- The proofs of an accepted case have fingerprints of their own. -/
theorem proofs_keyed {case : ExecutionCase} (accepted : validateActionCase digest case = .ok ()) :
    Table.Keyed EffectProofRequirement.proofFingerprint case.proofRequirements := by
  unfold validateActionCase at accepted
  obtain ⟨_, -, later⟩ := bind_eq_ok.mp accepted
  obtain ⟨_, proofs, case'⟩ := bind_eq_ok.mp later
  have fingerprints : ∀ proof ∈ case.proofRequirements,
      proof.proofFingerprint = contentHash digest "EffectProofRequirement" (.dict proof.facts) := by
    intro proof member
    have checked := forM_eq_ok.mp proofs proof member
    unfold EffectProofRequirement.validateProof at checked
    simp only [bind_eq_ok, require_eq_ok] at checked
    exact checked.choose_spec.2.choose_spec.2
  have distinct : (case.proofRequirements.map fun proof => (proof.effectId, proof.level)).Nodup := by
    unfold ExecutionCase.validateCase at case'
    simp only [bind_eq_ok, require_eq_ok] at case'
    obtain ⟨_, -, _, -, _, -, _, -, _, -, _, -, _, -, _, -, _, -, _, -, _, -, _, distinct, -⟩ := case'
    exact distinct
  rw [Table.Keyed, List.Nodup, List.pairwise_map]
  rw [List.Nodup, List.pairwise_map] at distinct
  refine distinct.imp_of_mem ?_
  intro first second inFirst inSecond differ same
  rw [fingerprints first inFirst, fingerprints second inSecond] at same
  have documents := contentHash_injective same
  have effects := field_of_canonical_eq documents "effect_id"
  have levels := field_of_canonical_eq documents "level"
  simp [EffectProofRequirement.facts] at effects levels
  apply differ
  rw [effects]
  cases first with
  | mk firstEffect firstLevel =>
    cases second with
    | mk secondEffect secondLevel =>
      cases firstLevel <;> cases secondLevel <;> simp [ProofLevel.value] at levels ⊢

theorem mem_requiredEntries {facts : CheckDecisionInput} {entry : Option CheckEffectFact} :
    entry ∈ requiredFacts facts ↔ ∃ proof ∈ facts.case.proofRequirements, proof.level = .VERDICT_REQUIRED ∧
      Table.latest CheckEffectFact.proofFingerprint facts.effects proof.proofFingerprint = entry := by
  unfold requiredFacts
  simp only [List.mem_map, List.mem_filter, decide_eq_true_eq, and_assoc]

/-- The fact found for a proof is the one projected for it. -/
theorem latest_projected {facts : CheckDecisionInput} {observations : List CheckObservation}
    (keyed : Table.Keyed EffectProofRequirement.proofFingerprint facts.case.proofRequirements)
    (projected : facts.effects = projectCheckEffectFacts facts.case observations) {proof : EffectProofRequirement}
    (member : proof ∈ facts.case.proofRequirements) :
    Table.latest CheckEffectFact.proofFingerprint facts.effects proof.proofFingerprint =
      some (effectFact observations proof) := by
  have factKeyed : Table.Keyed CheckEffectFact.proofFingerprint facts.effects := by
    rw [projected, projectCheckEffectFacts, Table.Keyed, List.map_map]
    exact keyed
  have stored : effectFact observations proof ∈ facts.effects := by
    rw [projected]
    exact List.mem_map.mpr ⟨proof, member, rfl⟩
  exact factKeyed.latest_mem stored

/-- The decisive facts of an accepted case are those of its decisive proofs. -/
theorem mem_requiredFacts {facts : CheckDecisionInput} {observations : List CheckObservation}
    (keyed : Table.Keyed EffectProofRequirement.proofFingerprint facts.case.proofRequirements)
    (projected : facts.effects = projectCheckEffectFacts facts.case observations) {fact : CheckEffectFact} :
    some fact ∈ requiredFacts facts ↔ ∃ proof ∈ facts.case.proofRequirements,
      proof.level = .VERDICT_REQUIRED ∧ effectFact observations proof = fact := by
  rw [mem_requiredEntries]
  constructor
  · rintro ⟨proof, member, level, found⟩
    rw [latest_projected keyed projected member] at found
    exact ⟨proof, member, level, Option.some.inj found⟩
  · rintro ⟨proof, member, level, same⟩
    refine ⟨proof, member, level, ?_⟩
    rw [latest_projected keyed projected member, same]

/-- A decisive proof of the case is confirmed by a trusted observation. -/
def DecisivelyConfirmed (case : ExecutionCase) (observations : List CheckObservation) : Prop :=
  ∃ proof ∈ case.proofRequirements, proof.level = .VERDICT_REQUIRED ∧
    confirmedFact (effectFact observations proof) = true

/-- The decision of a case from its observations: vulnerable exactly for a decisive confirmation,
attributed and under its conditions. -/
theorem decideCase_vulnerable {digest : Digest} {case : ExecutionCase} {outcome : CheckCaseOutcome}
    {observations : List CheckObservation} {control : Option CaseVerdict} {decision : CheckDecision}
    (accepted : validateActionCase digest case = .ok ())
    (decided : decideCase digest case outcome observations control = .ok decision) :
    decision.verdict = .VULNERABLE ↔
      collectedConditionsStatus digest case.permission.conditions outcome.conditionObservations = .MATCH ∧
        case.expectsAbsence = true ∧ outcome.attributed = true ∧ DecisivelyConfirmed case observations := by
  unfold decideCase at decided
  obtain ⟨_, -, same⟩ := bind_eq_ok.mp decided
  have evaluated := Except.ok.inj same
  rw [← evaluated, evaluateCheckCase_vulnerable, confirmedEffects_ne_nil]
  apply and_congr_right
  intro _
  apply and_congr_right
  intro _
  apply and_congr
  · exact Iff.rfl
  · constructor
    · rintro ⟨fact, required, confirmed⟩
      obtain ⟨proof, member, level, same⟩ := (mem_requiredFacts (proofs_keyed accepted) rfl).mp required
      exact ⟨proof, member, level, same ▸ confirmed⟩
    · rintro ⟨proof, member, level, confirmed⟩
      exact ⟨_, (mem_requiredFacts (proofs_keyed accepted) rfl).mpr ⟨proof, member, level, rfl⟩, confirmed⟩

end Jiejian.Verification.Evaluation
