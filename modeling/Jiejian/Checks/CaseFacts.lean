import Jiejian.Checks.Plan

namespace Jiejian.Checks.CaseFacts

open Library Library.Document Library.Outcome Library.Sorting Errors
open Protocol.Codec Protocol.Conditions Protocol.Cases Protocol.Actions
open Preparation.Models Preparation.Identities Preparation.Requirements Plan

@[simp] theorem gap_cases (state : Compiled) (action : BusinessActionRevision) (reason : String)
    (intentId effectId : Option String) : (state.gap action reason intentId effectId).cases = state.cases := by
  unfold Compiled.gap
  dsimp only
  by_cases known : CheckPlanGap.mk action.actionId action.revision reason intentId effectId ∈ state.gaps
  · rw [if_pos known]
  · rw [if_neg known]

/-- A gap once found stays in the plan. -/
theorem gap_ne_nil (state : Compiled) (action : BusinessActionRevision) (reason : String)
    (intentId effectId : Option String) : (state.gap action reason intentId effectId).gaps ≠ [] := by
  unfold Compiled.gap
  dsimp only
  by_cases known : CheckPlanGap.mk action.actionId action.revision reason intentId effectId ∈ state.gaps
  · rw [if_pos known]
    exact List.ne_nil_of_mem known
  · rw [if_neg known]
    simp

/-- No state in which a gap was just found is free of gaps. -/
theorem gap_not_gapless {state next : Compiled} {action : BusinessActionRevision} {reason : String}
    {intentId effectId : Option String} (found : state.gap action reason intentId effectId = next) :
    next.gaps ≠ [] := by
  subst found
  exact gap_ne_nil state action reason intentId effectId

theorem proofFor_valid {digest : Digest} {effect : BusinessEffectDefinition} {binding : ActionEvidenceBinding}
    {resourceId : String} {level : ProofLevel} {rule : ProofRule} {reference : ProofReference}
    (kind : referenceKindMatches rule reference = true) (decides : rule = .RECORDED_SUPPORT → level = .SUPPORTING) :
    (proofFor digest effect binding resourceId level rule reference).validateProof digest = .ok () := by
  simp only [EffectProofRequirement.validateProof, bind_eq_ok, require_eq_ok]
  exact ⟨(), kind, (), decides, rfl⟩

/-- A derived proof is about the effect and the resource it was derived for, and passes its reader. -/
theorem deriveEffectProof_facts {digest : Digest} {effect : BusinessEffectDefinition}
    {binding : ActionEvidenceBinding} {resourceId : String}
    {capabilities : List RegisteredEffectProofCapability} {proof : EffectProofRequirement}
    (derived : deriveEffectProof digest effect binding resourceId capabilities = .ok proof) :
    proof.effectId = effect.effectId ∧ proof.resourceId = resourceId ∧ proof.validateProof digest = .ok () := by
  unfold deriveEffectProof at derived
  dsimp only at derived
  cases source : binding.source with
  | HTTP_ENTITY_QUERY flowId flowRevision entityQuery =>
    rw [source] at derived
    by_cases disclosure : effect.effectKind = .DATA_DISCLOSURE
    · simp only [if_pos disclosure, Except.ok.injEq] at derived
      subst derived
      exact ⟨rfl, rfl, proofFor_valid rfl (by simp)⟩
    · simp [if_neg disclosure] at derived
  | REGISTERED_OBSERVER reference =>
    rw [source] at derived
    simp only [Except.ok.injEq] at derived
    subst derived
    exact ⟨rfl, rfl, proofFor_valid rfl (by simp)⟩
  | RECORDED_OBSERVATION recordingId draftRevision draftSha256 stepId template =>
    rw [source] at derived
    by_cases sufficient : presenceTemplate effect.effectKind template = true
    · simp only [sufficient, if_true, Except.ok.injEq] at derived
      subst derived
      exact ⟨rfl, rfl, proofFor_valid rfl (by simp)⟩
    · simp only [sufficient, Bool.false_eq_true, if_false, Except.ok.injEq] at derived
      subst derived
      exact ⟨rfl, rfl, proofFor_valid rfl (fun _ => rfl)⟩

section Proofs

variable (digest : Digest) (prepared : PreparedActionInput)

/-- The proof that leaves no gap for an effect, if there is one. -/
def effectProof (resource : ActionResourceBinding) (effectId : String) : Option EffectProofRequirement :=
  match prepared.evidence.find? (fun item => item.effectId = effectId),
      prepared.action.effectCatalog.find? (fun item => item.effectId = effectId) with
  | some binding, some effect =>
    match deriveEffectProof digest effect binding resource.actualResourceId prepared.observerCapabilities with
    | .ok proof =>
      if resource.resourceInjection.fromResponse ∧
          ¬ createdProofSupported effect proof effectId prepared.observerCapabilities then none
      else if proof.level ≠ .VERDICT_REQUIRED then none
      else some proof
    | .error _ => none
  | _, _ => none

variable {digest prepared}

theorem effectProof_facts {resource : ActionResourceBinding} {effectId : String} {proof : EffectProofRequirement}
    (proved : effectProof digest prepared resource effectId = some proof) :
    proof.effectId = effectId ∧ proof.resourceId = resource.actualResourceId ∧ proof.level = .VERDICT_REQUIRED ∧
      proof.validateProof digest = .ok () := by
  unfold effectProof at proved
  cases evidence : prepared.evidence.find? (fun item => item.effectId = effectId) with
  | none => simp [evidence] at proved
  | some binding =>
    cases declared : prepared.action.effectCatalog.find? (fun item => item.effectId = effectId) with
    | none => simp [evidence, declared] at proved
    | some effect =>
      have named : effect.effectId = effectId := by simpa using List.find?_some declared
      cases derived : deriveEffectProof digest effect binding resource.actualResourceId
          prepared.observerCapabilities with
      | error raised => simp [evidence, declared, derived] at proved
      | ok found =>
        have facts := deriveEffectProof_facts derived
        simp only [evidence, declared, derived] at proved
        by_cases created : resource.resourceInjection.fromResponse ∧
            ¬ createdProofSupported effect found effectId prepared.observerCapabilities
        · rw [if_pos created] at proved
          cases proved
        · rw [if_neg created] at proved
          by_cases decisive : found.level ≠ .VERDICT_REQUIRED
          · rw [if_pos decisive] at proved
            cases proved
          · rw [if_neg decisive] at proved
            have same : found = proof := by simpa using proved
            subst same
            exact ⟨facts.1.trans named, facts.2.1, not_not.mp decisive, facts.2.2⟩

/-- A step of the proof loop that leaves no gap adds the effect's proof and nothing else. -/
theorem proveEffect_gapless {permission : PermissionIntentRevision} {resource : ActionResourceBinding}
    {state next : Compiled} {proofs added : List EffectProofRequirement} {effectId : String}
    (stepped : proveEffect digest prepared permission resource (state, proofs) effectId = .ok (next, added))
    (gapless : next.gaps = []) :
    next = state ∧ ∃ proof, effectProof digest prepared resource effectId = some proof ∧ added = proofs ++ [proof] := by
  unfold proveEffect at stepped
  unfold effectProof
  dsimp only at stepped
  cases evidence : prepared.evidence.find? (fun item => item.effectId = effectId) with
  | none =>
    simp only [evidence, Except.ok.injEq, Prod.mk.injEq] at stepped
    exact absurd gapless (gap_not_gapless stepped.1)
  | some binding =>
    cases declared : prepared.action.effectCatalog.find? (fun item => item.effectId = effectId) with
    | none =>
      simp only [evidence, declared, Except.ok.injEq, Prod.mk.injEq] at stepped
      exact absurd gapless (gap_not_gapless stepped.1)
    | some effect =>
      simp only [evidence, declared] at stepped
      obtain ⟨proof, derived, later⟩ := bind_eq_ok.mp stepped
      simp only [derived]
      by_cases created : resource.resourceInjection.fromResponse ∧
          ¬ createdProofSupported effect proof effectId prepared.observerCapabilities
      · rw [if_pos created] at later
        simp only [pure, Except.pure, Except.ok.injEq, Prod.mk.injEq] at later
        exact absurd gapless (gap_not_gapless later.1)
      · rw [if_neg created] at later ⊢
        by_cases decisive : proof.level ≠ .VERDICT_REQUIRED
        · rw [if_pos decisive] at later
          simp only [pure, Except.pure, Except.ok.injEq, Prod.mk.injEq] at later
          exact absurd gapless (gap_not_gapless later.1)
        · rw [if_neg decisive] at later ⊢
          simp only [pure, Except.pure, Except.ok.injEq, Prod.mk.injEq] at later
          exact ⟨later.1.symm, proof, rfl, later.2.symm⟩

/-- The proof loop without gaps lists the proofs of the effects in their order. -/
theorem proveEffects_gapless {permission : PermissionIntentRevision} {resource : ActionResourceBinding}
    {effects : List String} {state next : Compiled} {proofs : List EffectProofRequirement}
    (walked : effects.foldlM (proveEffect digest prepared permission resource) (state, []) = .ok (next, proofs))
    (gapless : next.gaps = []) :
    next = state ∧ List.Forall₂ (fun effectId proof => effectProof digest prepared resource effectId = some proof)
      effects proofs := by
  have walk := foldlM_reflecting (fun entry : Compiled × List EffectProofRequirement => entry.1.gaps = [])
    (fun done entry => entry.1 = state ∧
      List.Forall₂ (fun effectId proof => effectProof digest prepared resource effectId = some proof) done entry.2)
    []
    (by
      intro entry effectId after stepped shown
      rw [← (proveEffect_gapless stepped shown).1]
      exact shown)
    (by
      intro done entry effectId after _ stepped shown holds
      obtain ⟨same, proof, proved, added⟩ := proveEffect_gapless stepped shown
      refine ⟨same.trans holds.1, ?_⟩
      rw [added]
      exact List.rel_append holds.2 (.cons proved .nil))
    walked gapless
  simpa using walk.2 ⟨rfl, .nil⟩

theorem verdictEffects_of_proofs {resource : ActionResourceBinding} {effects : List String}
    {proofs : List EffectProofRequirement}
    (related : List.Forall₂ (fun effectId proof => effectProof digest prepared resource effectId = some proof)
      effects proofs) : verdictEffects proofs = effects := by
  induction related with
  | nil => rfl
  | cons here _ ih =>
    have facts := effectProof_facts here
    simp only [verdictEffects] at ih ⊢
    rw [List.filter_cons_of_pos (by simp [facts.2.2.1]), List.map_cons, ih, facts.1]

theorem effectIds_of_proofs {resource : ActionResourceBinding} {effects : List String}
    {proofs : List EffectProofRequirement}
    (related : List.Forall₂ (fun effectId proof => effectProof digest prepared resource effectId = some proof)
      effects proofs) : proofs.map (·.effectId) = effects := by
  induction related with
  | nil => rfl
  | cons here _ ih => rw [List.map_cons, ih, (effectProof_facts here).1]

theorem proof_of_mem {resource : ActionResourceBinding} {effects : List String}
    {proofs : List EffectProofRequirement} {proof : EffectProofRequirement}
    (related : List.Forall₂ (fun effectId proof => effectProof digest prepared resource effectId = some proof)
      effects proofs) (member : proof ∈ proofs) :
    ∃ effectId, effectProof digest prepared resource effectId = some proof := by
  obtain ⟨effectId, _, proved⟩ := partner_left related member
  exact ⟨effectId, proved⟩

variable (digest prepared) in
/-- The payload of a case whose compilation leaves no gap. -/
def gaplessPayload (permission : PermissionIntentRevision) (effects : List String)
    (sourceFingerprint : Option String) (configFingerprint : String) (payload : ExecutionCase) : Prop :=
  ∃ material proofs, caseMaterial digest prepared permission = .ok material ∧
    List.Forall₂ (fun effectId proof => effectProof digest prepared material.resource effectId = some proof)
      effects proofs ∧
    payload = casePayload digest prepared permission material effects proofs sourceFingerprint configFingerprint

/-- A permission and its effects determine the payload. -/
theorem gaplessPayload_unique {permission : PermissionIntentRevision} {effects : List String}
    {sourceFingerprint : Option String} {configFingerprint : String} {first second : ExecutionCase}
    (left : gaplessPayload digest prepared permission effects sourceFingerprint configFingerprint first)
    (right : gaplessPayload digest prepared permission effects sourceFingerprint configFingerprint second) :
    first = second := by
  obtain ⟨material, proofs, found, proved, built⟩ := left
  obtain ⟨material', proofs', found', proved', built'⟩ := right
  have sameMaterial : material = material' := Except.ok.inj (found.symm.trans found')
  subst sameMaterial
  have sameProofs : proofs = proofs' := by
    clear built built'
    induction proved generalizing proofs' with
    | nil => cases proved'; rfl
    | cons here _ ih =>
      cases proved' with
      | cons here' later' => rw [ih _ later', Option.some.inj (here.symm.trans here')]
  rw [built, built', sameProofs]

/-- The case `make_case` records for a payload in one more role. -/
abbrev recordedCase (digest : Digest) (prepared : PreparedActionInput) (cases : List ExecutionCase)
    (role : CaseRole) (payload : ExecutionCase) : ExecutionCase :=
  roleCase cases (payloadId digest prepared.action payload) role payload

/-- `make_case` without gaps records the case of the permission's payload. -/
theorem makeCase_gapless {permission : PermissionIntentRevision} {sourceFingerprint : Option String}
    {configFingerprint : String} {state next : Compiled} {effects : List String} {role : CaseRole}
    {result : Option ExecutionCase}
    (made : makeCase digest prepared permission sourceFingerprint configFingerprint state effects role =
      .ok (next, result))
    (gapless : next.gaps = []) :
    ∃ payload, gaplessPayload digest prepared permission effects sourceFingerprint configFingerprint payload ∧
      permission.toFrozenPermission.validateSemantics = .ok () ∧
      (recordedCase digest prepared state.cases role payload).validateCase = .ok () ∧
      result = some (recordedCase digest prepared state.cases role payload) ∧
      next = { state with
        cases := Table.put ExecutionCase.caseId state.cases (recordedCase digest prepared state.cases role payload) } := by
  unfold makeCase at made
  cases found : caseMaterial digest prepared permission with
  | error reason =>
    simp only [found, Except.ok.injEq, Prod.mk.injEq] at made
    exact absurd gapless (gap_not_gapless made.1)
  | ok material =>
    simp only [found] at made
    obtain ⟨⟨proved, proofs⟩, walked, later⟩ := bind_eq_ok.mp made
    dsimp only at later
    by_cases incomplete : ¬ SameSet (verdictEffects proofs) effects
    · -- A missing verdict proof has already left a gap.
      rw [if_pos incomplete] at later
      simp only [pure, Except.pure, Except.ok.injEq, Prod.mk.injEq] at later
      have same := later.1
      subst same
      have kept := proveEffects_gapless walked gapless
      refine absurd ?_ incomplete
      have decided := verdictEffects_of_proofs kept.2
      rw [decided]
      exact sameSet_of_mem_iff fun _ => Iff.rfl
    · rw [if_neg incomplete] at later
      obtain ⟨_, semantics, recorded⟩ := bind_eq_ok.mp later
      simp only [pure, Except.pure, Except.ok.injEq] at recorded
      generalize built : casePayload digest prepared permission material effects proofs sourceFingerprint
        configFingerprint = payload at recorded
      unfold recordCase at recorded
      dsimp only at recorded
      cases valid : (recordedCase digest prepared proved.cases role payload).validateCase with
      | error raised =>
        rw [valid] at recorded
        simp only [Prod.mk.injEq] at recorded
        exact absurd gapless (gap_not_gapless recorded.1)
      | ok done =>
        rw [valid] at recorded
        simp only [Prod.mk.injEq] at recorded
        have provedGapless : proved.gaps = [] := by
          have kept : proved.gaps = next.gaps := by rw [← recorded.1]
          rw [kept, gapless]
        obtain ⟨same, related⟩ := proveEffects_gapless walked provedGapless
        subst same
        exact ⟨payload, ⟨material, proofs, found, related, built.symm⟩, semantics, valid, recorded.2.symm,
          recorded.1.symm⟩

end Proofs

end Jiejian.Checks.CaseFacts
