import Jiejian.Protocol.Pairs
import Jiejian.Verification.Evaluation

namespace Jiejian.Verification.Continuity

open Library Library.Outcome Library.Sorting Errors
open Protocol.Codec Protocol.Conditions Protocol.Cases Protocol.Actions Protocol.Requests Protocol.Pairs
open Models Decisions Evaluation

inductive AuthorizationContinuityState where
  | INTACT
  | ORPHAN_EFFECT_CONFIRMED
  | UNKNOWN
  deriving DecidableEq, Repr

structure AuthorizationEffectReference where
  effectId : String
  resourceId : String
  deriving DecidableEq, Repr

structure AuthorizationContinuityAssessment where
  caseId : String
  actionId : String
  state : AuthorizationContinuityState
  protectedEffects : List AuthorizationEffectReference
  confirmedEffects : List AuthorizationEffectReference
  unknownEffects : List AuthorizationEffectReference
  reasonCodes : List String
  deriving DecidableEq, Repr

def AuthorizationEffectReference.order (reference : AuthorizationEffectReference) : String ×ₗ String :=
  toLex (reference.effectId, reference.resourceId)

/-- `validate_unique_effects`. -/
def validateUniqueEffects (values : List AuthorizationEffectReference) :
    Except Raised (List AuthorizationEffectReference) := do
  require values.Nodup (.ValueError "authorization continuity effect references must be unique")
  return sortedBy AuthorizationEffectReference.order values

/-- `validate_state_shape`. -/
def AuthorizationContinuityAssessment.validateStateShape (assessment : AuthorizationContinuityAssessment) :
    Except Raised Unit := do
  require (assessment.confirmedEffects ⊆ assessment.protectedEffects ∧
      assessment.unknownEffects ⊆ assessment.protectedEffects)
    (.ValueError "continuity result references an unprotected effect")
  require (∀ reference ∈ assessment.confirmedEffects, reference ∉ assessment.unknownEffects)
    (.ValueError "continuity effect cannot be both confirmed and unknown")
  match assessment.state with
  | .ORPHAN_EFFECT_CONFIRMED =>
    require (assessment.confirmedEffects ≠ [])
      (.ValueError "confirmed orphan continuity requires a confirmed effect")
  | .UNKNOWN =>
    require (assessment.confirmedEffects = [] ∧ assessment.unknownEffects ≠ [])
      (.ValueError "unknown continuity requires only unknown protected effects")
  | .INTACT =>
    require (assessment.confirmedEffects = [] ∧ assessment.unknownEffects = [])
      (.ValueError "intact continuity requires every protected effect to be absent")

/-- The facts of the decisive proofs of one effect. -/
def effectValues (facts : CheckDecisionInput) (effectId : String) : List (Option CheckEffectFact) :=
  (facts.case.proofRequirements.filter fun proof => proof.level = .VERDICT_REQUIRED ∧ proof.effectId = effectId).map
    fun proof => Table.latest CheckEffectFact.proofFingerprint facts.effects proof.proofFingerprint

def trustedValues (facts : CheckDecisionInput) (effectId : String) : List CheckEffectFact :=
  ((effectValues facts effectId).filterMap id).filter (·.trusted)

def confirmedReference (facts : CheckDecisionInput) (reference : AuthorizationEffectReference) : Bool :=
  facts.attributed && (trustedValues facts reference.effectId).any fun value => value.state = .CONFIRMED

def absentReference (facts : CheckDecisionInput) (reference : AuthorizationEffectReference) : Bool :=
  facts.attributed && facts.baselineTrusted && effectValues facts reference.effectId ≠ [] &&
    (trustedValues facts reference.effectId).length = (effectValues facts reference.effectId).length &&
    (trustedValues facts reference.effectId).all fun value => value.state = .ABSENT && value.closure = .CLOSED

def continuityState (confirmed unknown : List AuthorizationEffectReference) : AuthorizationContinuityState :=
  if confirmed ≠ [] then .ORPHAN_EFFECT_CONFIRMED
  else if unknown ≠ [] then .UNKNOWN
  else .INTACT

def AuthorizationContinuityState.reason : AuthorizationContinuityState → String
  | .ORPHAN_EFFECT_CONFIRMED => "DENY_PROTECTED_EFFECT_CONFIRMED"
  | .UNKNOWN => "PROTECTED_EFFECT_EVIDENCE_INCOMPLETE"
  | .INTACT => "ALL_PROTECTED_EFFECTS_RELIABLY_ABSENT"

/-- The effects of the case on its resource. -/
def protectedReferences (case : ExecutionCase) : List AuthorizationEffectReference :=
  case.protectedEffectIds.map fun effectId => ⟨effectId, case.resourceId⟩

def confirmedReferences (facts : CheckDecisionInput) : List AuthorizationEffectReference :=
  (protectedReferences facts.case).filter (confirmedReference facts)

def unknownReferences (facts : CheckDecisionInput) : List AuthorizationEffectReference :=
  (protectedReferences facts.case).filter fun reference =>
    !confirmedReference facts reference && !absentReference facts reference

/-- `assess_check_authorization_continuity`. -/
def assessCheckAuthorizationContinuity (action : ExecutionAction) (facts : CheckDecisionInput) :
    Except Raised AuthorizationContinuityAssessment := do
  let case := facts.case
  require (case ∈ action.cases) (.ValueError "continuity case is outside the frozen action")
  require (case.permission.expectation = .DENY) (.ValueError "authorization continuity requires a frozen DENY case")
  let state := continuityState (confirmedReferences facts) (unknownReferences facts)
  let protectedEffects ← validateUniqueEffects (protectedReferences case)
  let confirmedEffects ← validateUniqueEffects (confirmedReferences facts)
  let unknownEffects ← validateUniqueEffects (unknownReferences facts)
  let assessment : AuthorizationContinuityAssessment :=
    { caseId := case.caseId
      actionId := action.actionId
      state := state
      protectedEffects := protectedEffects
      confirmedEffects := confirmedEffects
      unknownEffects := unknownEffects
      reasonCodes := [state.reason] }
  assessment.validateStateShape
  return assessment

section Shape

variable {case : ExecutionCase} {digest : Digest} {facts : CheckDecisionInput}

/-- What an accepted case says of its effects and its decisive proofs. -/
structure Proven (case : ExecutionCase) : Prop where
  effects : case.protectedEffectIds.Nodup
  proofs : ∀ proof ∈ case.proofRequirements, proof.effectId ∈ case.protectedEffectIds
  decided : ∀ effectId ∈ case.protectedEffectIds, ∃ proof ∈ case.proofRequirements,
    proof.level = .VERDICT_REQUIRED ∧ proof.effectId = effectId
  keyed : Table.Keyed EffectProofRequirement.proofFingerprint case.proofRequirements

theorem accepted_proven (accepted : validateActionCase digest case = .ok ()) : Proven case := by
  have keyed := proofs_keyed accepted
  unfold validateActionCase at accepted
  obtain ⟨_, -, later⟩ := bind_eq_ok.mp accepted
  obtain ⟨_, -, valid⟩ := bind_eq_ok.mp later
  unfold ExecutionCase.validateCase at valid
  simp only [bind_eq_ok, require_eq_ok] at valid
  obtain ⟨_, -, _, -, _, -, _, -, _, -, _, -, _, -, _, -, _, ordered, _, -, _, proofs, _, -, decided⟩ := valid
  refine ⟨?_, fun proof member => (proofs proof member).2, ?_, keyed⟩
  · have increasing := sortedSet_eq_self.mp ordered.1
    exact increasing.imp fun before => ne_of_lt before
  · intro effectId member
    obtain ⟨proof, listed, same⟩ := List.mem_map.mp (decided.mem_iff.mpr member)
    obtain ⟨stored, level⟩ := List.mem_filter.mp listed
    exact ⟨proof, stored, by simpa using level, same⟩

theorem protectedReferences_nodup (proven : Proven case) : (protectedReferences case).Nodup := by
  apply proven.effects.map
  intro first second same
  exact congrArg AuthorizationEffectReference.effectId same

theorem mem_protectedReferences {reference : AuthorizationEffectReference} :
    reference ∈ protectedReferences case ↔
      reference.effectId ∈ case.protectedEffectIds ∧ reference.resourceId = case.resourceId := by
  unfold protectedReferences
  constructor
  · intro member
    obtain ⟨effectId, listed, rfl⟩ := List.mem_map.mp member
    exact ⟨listed, rfl⟩
  · rintro ⟨listed, same⟩
    refine List.mem_map.mpr ⟨reference.effectId, listed, ?_⟩
    rw [← same]

theorem validateUniqueEffects_ok {values : List AuthorizationEffectReference} (distinct : values.Nodup) :
    validateUniqueEffects values = .ok (sortedBy AuthorizationEffectReference.order values) := by
  unfold validateUniqueEffects
  exact bind_eq_ok.mpr ⟨(), require_eq_ok.mpr distinct, rfl⟩

theorem sortedBy_eq_nil {α κ : Type} [LinearOrder κ] {key : α → κ} {items : List α} :
    sortedBy key items = [] ↔ items = [] := by
  constructor
  · intro empty
    apply List.eq_nil_of_length_eq_zero
    rw [← (sortedBy_perm key items).length_eq, empty]
    rfl
  · rintro rfl
    rfl

@[simp] theorem continuityState_sorted {key : AuthorizationEffectReference → String ×ₗ String}
    (confirmed unknown : List AuthorizationEffectReference) :
    continuityState (sortedBy key confirmed) (sortedBy key unknown) = continuityState confirmed unknown := by
  simp [continuityState, sortedBy_eq_nil]

/-- The state that the two lists give passes the check of the shape. -/
theorem validateStateShape_ok {assessment : AuthorizationContinuityAssessment}
    (state : assessment.state = continuityState assessment.confirmedEffects assessment.unknownEffects)
    (confirmedInside : assessment.confirmedEffects ⊆ assessment.protectedEffects)
    (unknownInside : assessment.unknownEffects ⊆ assessment.protectedEffects)
    (apart : ∀ reference ∈ assessment.confirmedEffects, reference ∉ assessment.unknownEffects) :
    assessment.validateStateShape = .ok () := by
  unfold AuthorizationContinuityAssessment.validateStateShape
  apply bind_eq_ok.mpr
  refine ⟨(), require_eq_ok.mpr ⟨confirmedInside, unknownInside⟩, bind_eq_ok.mpr ⟨(), require_eq_ok.mpr apart, ?_⟩⟩
  rw [state]
  by_cases confirmed : assessment.confirmedEffects = []
  · by_cases unknown : assessment.unknownEffects = []
    · have intact : continuityState assessment.confirmedEffects assessment.unknownEffects = .INTACT := by
        simp [continuityState, confirmed, unknown]
      rw [intact]
      exact require_eq_ok.mpr ⟨confirmed, unknown⟩
    · have open' : continuityState assessment.confirmedEffects assessment.unknownEffects = .UNKNOWN := by
        simp [continuityState, confirmed, unknown]
      rw [open']
      exact require_eq_ok.mpr ⟨confirmed, unknown⟩
  · have orphan : continuityState assessment.confirmedEffects assessment.unknownEffects = .ORPHAN_EFFECT_CONFIRMED := by
      simp [continuityState, confirmed]
    rw [orphan]
    exact require_eq_ok.mpr confirmed

/-- An assessment of a DENY case of the action never fails. -/
theorem assess_ok {action : ExecutionAction} (proven : Proven facts.case) (member : facts.case ∈ action.cases)
    (deny : facts.case.permission.expectation = .DENY) :
    ∃ assessment, assessCheckAuthorizationContinuity action facts = .ok assessment ∧
      assessment.state = continuityState (confirmedReferences facts) (unknownReferences facts) ∧
      assessment.confirmedEffects = sortedBy AuthorizationEffectReference.order (confirmedReferences facts) := by
  have distinct := protectedReferences_nodup proven
  have confirmedDistinct : (confirmedReferences facts).Nodup := distinct.filter _
  have unknownDistinct : (unknownReferences facts).Nodup := distinct.filter _
  let assessment : AuthorizationContinuityAssessment :=
    { caseId := facts.case.caseId
      actionId := action.actionId
      state := continuityState (confirmedReferences facts) (unknownReferences facts)
      protectedEffects := sortedBy AuthorizationEffectReference.order (protectedReferences facts.case)
      confirmedEffects := sortedBy AuthorizationEffectReference.order (confirmedReferences facts)
      unknownEffects := sortedBy AuthorizationEffectReference.order (unknownReferences facts)
      reasonCodes := [(continuityState (confirmedReferences facts) (unknownReferences facts)).reason] }
  have shaped : assessment.validateStateShape = .ok () := by
    apply validateStateShape_ok (continuityState_sorted _ _).symm
    · intro reference listed
      exact mem_sortedBy.mpr (List.mem_of_mem_filter (mem_sortedBy.mp listed))
    · intro reference listed
      exact mem_sortedBy.mpr (List.mem_of_mem_filter (mem_sortedBy.mp listed))
    · intro reference listed unlisted
      have confirmed := (List.mem_filter.mp (mem_sortedBy.mp listed)).2
      have unconfirmed := (List.mem_filter.mp (mem_sortedBy.mp unlisted)).2
      simp [confirmed] at unconfirmed
  refine ⟨assessment, ?_, rfl, rfl⟩
  unfold assessCheckAuthorizationContinuity
  refine bind_eq_ok.mpr ⟨(), require_eq_ok.mpr member, bind_eq_ok.mpr ⟨(), require_eq_ok.mpr deny, ?_⟩⟩
  refine bind_eq_ok.mpr ⟨_, validateUniqueEffects_ok distinct, bind_eq_ok.mpr
    ⟨_, validateUniqueEffects_ok confirmedDistinct, bind_eq_ok.mpr ⟨_, validateUniqueEffects_ok unknownDistinct, ?_⟩⟩⟩
  exact bind_eq_ok.mpr ⟨(), shaped, rfl⟩

end Shape

section Agreement

variable {digest : Digest} {facts : CheckDecisionInput}

/-- The fact found for a proof is about the effect of that proof. -/
theorem latest_effect (proven : Proven facts.case) (associated : facts.validateProofAssociations = .ok ())
    {proof : EffectProofRequirement} (member : proof ∈ facts.case.proofRequirements) {fact : CheckEffectFact}
    (found : Table.latest CheckEffectFact.proofFingerprint facts.effects proof.proofFingerprint = some fact) :
    fact.effectId = proof.effectId := by
  obtain ⟨listed, named⟩ := Table.latest_some found
  unfold CheckDecisionInput.validateProofAssociations at associated
  obtain ⟨_, pairs, -⟩ := bind_eq_ok.mp associated
  have frozen := (require_eq_ok.mp pairs).2 _ (List.mem_map.mpr ⟨fact, listed, rfl⟩)
  obtain ⟨other, stored, same⟩ := List.mem_map.mp frozen
  obtain ⟨sameEffect, sameProof⟩ := Prod.mk.inj same
  have identical := proven.keyed.eq_of_mem stored member (sameProof.trans named)
  rw [← sameEffect, identical]

theorem mem_effectValues {effectId : String} {entry : Option CheckEffectFact} :
    entry ∈ effectValues facts effectId ↔ ∃ proof ∈ facts.case.proofRequirements, proof.level = .VERDICT_REQUIRED ∧
      proof.effectId = effectId ∧
      Table.latest CheckEffectFact.proofFingerprint facts.effects proof.proofFingerprint = entry := by
  unfold effectValues
  simp only [List.mem_map, List.mem_filter, decide_eq_true_eq, and_assoc]

theorem mem_trustedValues {effectId : String} {value : CheckEffectFact} :
    value ∈ trustedValues facts effectId ↔ some value ∈ effectValues facts effectId ∧ value.trusted = true := by
  unfold trustedValues
  rw [List.mem_filter, List.mem_filterMap]
  constructor
  · rintro ⟨⟨entry, listed, same⟩, trusted⟩
    have shown : entry = some value := same
    exact ⟨shown ▸ listed, trusted⟩
  · rintro ⟨listed, trusted⟩
    exact ⟨⟨some value, listed, rfl⟩, trusted⟩

theorem confirmedFact_iff {fact : CheckEffectFact} :
    confirmedFact fact = true ↔ fact.trusted = true ∧ fact.state = .CONFIRMED := by
  unfold confirmedFact
  rw [Bool.and_eq_true, decide_eq_true_eq]
  exact and_comm

/-- Grouped by effect or not, the decisive proofs confirm the same effects. -/
theorem confirmedReference_iff (proven : Proven facts.case) (associated : facts.validateProofAssociations = .ok ())
    {reference : AuthorizationEffectReference} :
    confirmedReference facts reference = true ↔ reference.effectId ∈ confirmedEffects facts := by
  rw [mem_confirmedEffects]
  unfold confirmedReference
  rw [Bool.and_eq_true, List.any_eq_true]
  apply and_congr_right
  intro _
  constructor
  · rintro ⟨value, listed, state⟩
    obtain ⟨present, trusted⟩ := mem_trustedValues.mp listed
    obtain ⟨proof, member, level, effect, found⟩ := mem_effectValues.mp present
    have confirmed := confirmedFact_iff.mpr ⟨trusted, of_decide_eq_true state⟩
    exact ⟨value, mem_requiredEntries.mpr ⟨proof, member, level, found⟩, confirmed,
      (latest_effect proven associated member found).trans effect⟩
  · rintro ⟨fact, required, confirmed, effect⟩
    obtain ⟨proof, member, level, found⟩ := mem_requiredEntries.mp required
    obtain ⟨trusted, state⟩ := confirmedFact_iff.mp confirmed
    have about := (latest_effect proven associated member found).symm.trans effect
    exact ⟨fact, mem_trustedValues.mpr ⟨mem_effectValues.mpr ⟨proof, member, level, about, found⟩, trusted⟩,
      decide_eq_true state⟩

/-- A confirmed effect is one the case protects. -/
theorem confirmed_protected (proven : Proven facts.case) (associated : facts.validateProofAssociations = .ok ())
    {effectId : String} (confirmed : effectId ∈ confirmedEffects facts) : effectId ∈ facts.case.protectedEffectIds := by
  obtain ⟨-, fact, required, -, effect⟩ := mem_confirmedEffects.mp confirmed
  obtain ⟨proof, member, -, found⟩ := mem_requiredEntries.mp required
  have about := (latest_effect proven associated member found).symm.trans effect
  rw [← about]
  exact proven.proofs proof member

theorem mem_confirmedReferences (proven : Proven facts.case) (associated : facts.validateProofAssociations = .ok ())
    {reference : AuthorizationEffectReference} :
    reference ∈ confirmedReferences facts ↔
      reference.effectId ∈ confirmedEffects facts ∧ reference.resourceId = facts.case.resourceId := by
  unfold confirmedReferences
  rw [List.mem_filter, mem_protectedReferences, confirmedReference_iff proven associated]
  constructor
  · rintro ⟨⟨-, resource⟩, confirmed⟩
    exact ⟨confirmed, resource⟩
  · rintro ⟨confirmed, resource⟩
    exact ⟨⟨confirmed_protected proven associated confirmed, resource⟩, confirmed⟩

theorem confirmedReferences_ne_nil (proven : Proven facts.case)
    (associated : facts.validateProofAssociations = .ok ()) :
    confirmedReferences facts ≠ [] ↔ confirmedEffects facts ≠ [] := by
  constructor
  · intro nonempty
    obtain ⟨reference, member⟩ := List.exists_mem_of_ne_nil _ nonempty
    exact List.ne_nil_of_mem ((mem_confirmedReferences proven associated).mp member).1
  · intro nonempty
    obtain ⟨effectId, member⟩ := List.exists_mem_of_ne_nil _ nonempty
    have listed : ⟨effectId, facts.case.resourceId⟩ ∈ confirmedReferences facts :=
      (mem_confirmedReferences proven associated).mpr ⟨member, rfl⟩
    exact List.ne_nil_of_mem listed

theorem trusted_length {values : List (Option CheckEffectFact)}
    (known : ∀ entry ∈ values, ∃ fact, entry = some fact ∧ fact.trusted = true) :
    ((values.filterMap id).filter (·.trusted)).length = values.length := by
  induction values with
  | nil => rfl
  | cons entry rest ih =>
    obtain ⟨fact, rfl, trusted⟩ := known entry List.mem_cons_self
    have later := ih fun other member => known other (List.mem_cons_of_mem _ member)
    simp only [List.filterMap_cons_some (f := id) (b := fact) rfl, List.filter_cons, trusted, if_true, List.length_cons,
      later]

/-- Where every decisive proof is safely absent, no protected effect stays unknown. -/
theorem unknownReferences_nil (proven : Proven facts.case) (safe : SafelyAbsent facts) : unknownReferences facts = [] := by
  apply List.filter_eq_nil_iff.mpr
  intro reference member
  obtain ⟨listed, -⟩ := mem_protectedReferences.mp member
  have required : ∀ entry ∈ effectValues facts reference.effectId, ∃ fact, entry = some fact ∧
      fact.trusted = true ∧ fact.state = .ABSENT ∧ fact.closure = .CLOSED := by
    intro entry inside
    obtain ⟨proof, stored, level, -, found⟩ := mem_effectValues.mp inside
    exact safe.required entry (mem_requiredEntries.mpr ⟨proof, stored, level, found⟩)
  have filled : effectValues facts reference.effectId ≠ [] := by
    obtain ⟨proof, stored, level, effect⟩ := proven.decided reference.effectId listed
    exact List.ne_nil_of_mem (mem_effectValues.mpr ⟨proof, stored, level, effect, rfl⟩)
  have complete : (trustedValues facts reference.effectId).length = (effectValues facts reference.effectId).length := by
    apply trusted_length
    intro entry inside
    obtain ⟨fact, same, trusted, -⟩ := required entry inside
    exact ⟨fact, same, trusted⟩
  have gone : (trustedValues facts reference.effectId).all (fun value => value.state = .ABSENT && value.closure = .CLOSED) =
      true := by
    apply List.all_eq_true.mpr
    intro value inside
    obtain ⟨fact, same, -, state, closure⟩ := required _ (mem_trustedValues.mp inside).1
    cases Option.some.inj same
    simp [state, closure]
  have absent : absentReference facts reference = true := by
    simp [absentReference, safe.attributed, safe.baseline, filled, complete, gone]
  simp [absent]

/-- Both readers of a DENY experiment say the same: the verdict is vulnerable exactly where the continuity is
broken, by the same effects, and a safe verdict leaves it intact. -/
theorem readers_agree (digest : Digest) (action : ExecutionAction) (facts : CheckDecisionInput)
    (accepted : validateActionCase digest facts.case = .ok ()) (associated : facts.validateProofAssociations = .ok ())
    (member : facts.case ∈ action.cases) (deny : facts.case.permission.expectation = .DENY)
    (absence : facts.case.expectsAbsence = true)
    (matched : collectedConditionsStatus digest facts.case.permission.conditions facts.conditionObservations = .MATCH) :
    ∃ assessment, assessCheckAuthorizationContinuity action facts = .ok assessment ∧
      ((evaluateCheckCase digest facts).verdict = .VULNERABLE ↔ assessment.state = .ORPHAN_EFFECT_CONFIRMED) ∧
      ((evaluateCheckCase digest facts).verdict = .VULNERABLE →
        ∀ effectId, effectId ∈ (evaluateCheckCase digest facts).confirmedForbiddenEffectIds ↔
          effectId ∈ assessment.confirmedEffects.map (·.effectId)) ∧
      ((evaluateCheckCase digest facts).verdict = .SAFE → assessment.state = .INTACT) := by
  have proven := accepted_proven accepted
  obtain ⟨assessment, assessed, state, confirmedEffects'⟩ := assess_ok proven member deny
  have vulnerable : (evaluateCheckCase digest facts).verdict = .VULNERABLE ↔ confirmedEffects facts ≠ [] := by
    rw [evaluateCheckCase_vulnerable]
    exact ⟨fun holds => holds.2.2, fun confirmed => ⟨matched, absence, confirmed⟩⟩
  have orphan : assessment.state = .ORPHAN_EFFECT_CONFIRMED ↔ confirmedReferences facts ≠ [] := by
    rw [state]
    unfold continuityState
    by_cases confirmed : confirmedReferences facts = []
    · by_cases unknown : unknownReferences facts = [] <;> simp [confirmed, unknown]
    · simp [confirmed]
  refine ⟨assessment, assessed, ?_, ?_, ?_⟩
  · rw [vulnerable, orphan, confirmedReferences_ne_nil proven associated]
  · intro broken effectId
    have ids : (evaluateCheckCase digest facts).confirmedForbiddenEffectIds = confirmedEffects facts := by
      unfold evaluateCheckCase
      dsimp only
      rw [if_neg (not_not.mpr matched), if_pos ⟨absence, vulnerable.mp broken⟩]
    rw [ids, confirmedEffects', List.mem_map]
    constructor
    · intro confirmed
      have listed : ⟨effectId, facts.case.resourceId⟩ ∈ confirmedReferences facts :=
        (mem_confirmedReferences proven associated).mpr ⟨confirmed, rfl⟩
      exact ⟨_, mem_sortedBy.mpr listed, rfl⟩
    · rintro ⟨reference, listed, rfl⟩
      exact ((mem_confirmedReferences proven associated).mp (mem_sortedBy.mp listed)).1
  · intro safe
    have unconfirmed : confirmedReferences facts = [] := by
      by_contra confirmed
      have broken := vulnerable.mpr ((confirmedReferences_ne_nil proven associated).mp confirmed)
      rw [safe] at broken
      cases broken
    have known := unknownReferences_nil proven (evaluateCheckCase_safe safe absence)
    rw [state]
    simp [continuityState, unconfirmed, known]

end Agreement

def sampleProofs : List EffectProofRequirement := [decisiveProof textDigest "resource"]

/-- A forbidden effect that its decisive proof confirms. -/
def confirmedSample : CheckDecisionInput where
  case := identified textDigest "action" 1 (deniedCase "resource" sampleProofs)
  execution := .ACCEPTED
  actualIdentity := .MATCH
  runCorrelated := true
  resourceCorrelated := true
  baselineTrusted := true
  recoveryVerified := true
  allowControlVerdict := some .SAFE
  effects := [⟨"effect", (decisiveProof textDigest "resource").proofFingerprint, .CONFIRMED, true, true, true, true, .CLOSED⟩]
  conditionObservations := []

theorem confirmedSample_associated : confirmedSample.validateProofAssociations = .ok () := by
  unfold CheckDecisionInput.validateProofAssociations
  refine bind_eq_ok.mpr ⟨(), require_eq_ok.mpr ⟨by simp [confirmedSample], ?_⟩, require_eq_ok.mpr ⟨?_, ?_⟩⟩
  · intro pair member
    have same := List.mem_singleton.mp member
    rw [same]
    exact List.mem_singleton.mpr rfl
  · intro observation member
    cases member
  · exact List.nodup_nil

theorem confirmedSample_read :
    ∃ assessment, assessCheckAuthorizationContinuity
        (pairAction textDigest "action" (deniedCase "resource" sampleProofs) (ownersCase "resource" sampleProofs))
        confirmedSample = .ok assessment ∧
      ((evaluateCheckCase textDigest confirmedSample).verdict = .VULNERABLE ↔
        assessment.state = .ORPHAN_EFFECT_CONFIRMED) ∧
      ((evaluateCheckCase textDigest confirmedSample).verdict = .VULNERABLE →
        ∀ effectId, effectId ∈ (evaluateCheckCase textDigest confirmedSample).confirmedForbiddenEffectIds ↔
          effectId ∈ assessment.confirmedEffects.map (·.effectId)) ∧
      ((evaluateCheckCase textDigest confirmedSample).verdict = .SAFE → assessment.state = .INTACT) :=
  readers_agree textDigest _ confirmedSample (identified_valid (deniedCase_valid sample_decisive))
    confirmedSample_associated (by simp [pairAction, confirmedSample]) rfl rfl rfl

end Jiejian.Verification.Continuity
