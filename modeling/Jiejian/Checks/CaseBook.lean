import Jiejian.Checks.CaseFacts
import Jiejian.Protocol.Requests

namespace Jiejian.Checks.CaseBook

open Library Library.Document Library.Outcome Library.Sorting Errors
open Protocol.Codec Protocol.Conditions Protocol.Cases Protocol.Actions Protocol.Requests
open Preparation.Models Preparation.Identities Preparation.Requirements Plan CaseFacts

@[simp] theorem mem_sortedRoles {roles : List CaseRole} {role : CaseRole} :
    role ∈ sortedRoles roles ↔ role ∈ roles := by
  simp [sortedRoles]

theorem canonical_strings_injective {left right : List String}
    (same : (strings left).canonical = (strings right).canonical) : left = right := by
  simp only [strings, canonical_list, List.map_map, Json.list.injEq] at same
  refine List.map_injective_iff.mpr ?_ same
  intro first second equal
  simpa using equal

section

variable (digest : Digest) (prepared : PreparedActionInput) (sourceFingerprint : Option String)
  (configFingerprint : String)

/-- A case the compiler recorded for a permission and some of its effects. -/
structure Recorded (permission : PermissionIntentRevision) (effects : List String) (case : ExecutionCase) : Prop where
  listed : permission ∈ prepared.permissions
  increasing : effects.Pairwise (· < ·)
  payload : ∃ payload,
    gaplessPayload digest prepared permission effects sourceFingerprint configFingerprint payload ∧
      case = { payload with caseId := payloadId digest prepared.action payload, roles := case.roles }
  semantics : permission.toFrozenPermission.validateSemantics = .ok ()
  valid : case.validateCase = .ok ()

variable {digest prepared sourceFingerprint configFingerprint}
variable {permission : PermissionIntentRevision} {effects : List String} {case : ExecutionCase}

theorem Recorded.permission_eq (recorded : Recorded digest prepared sourceFingerprint configFingerprint permission
    effects case) : case.permission = permission.toFrozenPermission := by
  obtain ⟨payload, ⟨material, proofs, -, -, built⟩, same⟩ := recorded.payload
  rw [same, built]
  rfl

theorem Recorded.effects_eq (recorded : Recorded digest prepared sourceFingerprint configFingerprint permission
    effects case) : case.protectedEffectIds = effects := by
  obtain ⟨payload, ⟨material, proofs, -, -, built⟩, same⟩ := recorded.payload
  have sorted : sortedBy id effects = effects := sortedBy_of_increasing (by simpa using recorded.increasing)
  calc
    case.protectedEffectIds = sortedBy id effects := by rw [same, built]; rfl
    _ = effects := sorted

/-- The case follows no scenario and freezes the fingerprints of the plan. -/
theorem Recorded.plain (recorded : Recorded digest prepared sourceFingerprint configFingerprint permission effects
    case) : case.occurrenceId = none ∧ case.sourceFingerprint = sourceFingerprint ∧
      case.configFingerprint = configFingerprint := by
  obtain ⟨payload, ⟨material, proofs, -, -, built⟩, same⟩ := recorded.payload
  rw [same, built]
  exact ⟨rfl, rfl, rfl⟩

/-- The proofs of the case pass their reader and stand in the reader's order. -/
theorem Recorded.proofs (recorded : Recorded digest prepared sourceFingerprint configFingerprint permission effects
    case) : (∀ proof ∈ case.proofRequirements, proof.validateProof digest = .ok ()) ∧
      sortedBy EffectProofRequirement.order case.proofRequirements = case.proofRequirements := by
  obtain ⟨payload, ⟨material, proofs, -, related, built⟩, same⟩ := recorded.payload
  have listed : case.proofRequirements = proofs := by rw [same, built]; rfl
  rw [listed]
  constructor
  · intro proof member
    obtain ⟨effectId, proved⟩ := proof_of_mem related member
    exact (effectProof_facts proved).2.2.2
  · apply sortedBy_of_increasing
    have increasing := recorded.increasing
    rw [← effectIds_of_proofs related, List.pairwise_map] at increasing
    rw [List.pairwise_map]
    exact increasing.imp fun before => Prod.Lex.toLex_lt_toLex.mpr (.inl before)

/-- The compiler's id of the case is the one its reader recomputes. -/
theorem Recorded.identified (recorded : Recorded digest prepared sourceFingerprint configFingerprint permission
    effects case) :
    case.caseId = caseContentId digest prepared.action.actionId prepared.action.revision case := by
  have ordered := recorded.proofs.2
  obtain ⟨payload, -, same⟩ := recorded.payload
  have id : case.caseId = payloadId digest prepared.action payload := by rw [same]
  have facts : case.facts = payload.facts := by rw [same]; rfl
  rw [id, payloadId, caseContentId, ordered, ← facts]

/-- Cases with one id were recorded for the same permission and effects, and differ at most in
their roles. -/
theorem Recorded.unique (keyed : Table.Keyed (fun item : PermissionIntentRevision => item.intentId)
      prepared.permissions)
    {other : PermissionIntentRevision} {effects' : List String} {case' : ExecutionCase}
    (first : Recorded digest prepared sourceFingerprint configFingerprint permission effects case)
    (second : Recorded digest prepared sourceFingerprint configFingerprint other effects' case')
    (sameId : case.caseId = case'.caseId) :
    permission = other ∧ effects = effects' ∧ case' = { case with roles := case'.roles } := by
  obtain ⟨payload, made, same⟩ := first.payload
  obtain ⟨payload', made', same'⟩ := second.payload
  have ids : payloadId digest prepared.action payload = payloadId digest prepared.action payload' := by
    calc
      _ = case.caseId := by rw [same]
      _ = case'.caseId := sameId
      _ = _ := by rw [same']
  have facts := field_of_canonical_eq (contentId_injective ids) "facts"
  simp only [field_dict, fieldOf_cons, String.reduceEq, if_false, if_true, Option.map_some,
    Option.some.injEq] at facts
  have permissions := field_of_canonical_eq facts "permission"
  simp only [field_dict, ExecutionCase.facts, List.cons_append, fieldOf_cons, if_true, Option.map_some,
    Option.some.injEq] at permissions
  have intents := field_of_canonical_eq permissions "intent_id"
  simp only [FrozenPermission.dump, field_dict, List.cons_append, fieldOf_cons, if_true, Option.map_some,
    Option.some.injEq, canonical_str, Json.str.injEq] at intents
  have effectIds := field_of_canonical_eq facts "protected_effect_ids"
  simp only [field_dict, ExecutionCase.facts, List.cons_append, fieldOf_cons, String.reduceEq, if_false, if_true,
    Option.map_some, Option.some.injEq] at effectIds
  have sameEffects : effects = effects' := by
    have listed := first.effects_eq
    have listed' := second.effects_eq
    rw [same] at listed
    rw [same'] at listed'
    rw [← listed, ← listed']
    exact canonical_strings_injective effectIds
  have samePermission : permission = other := by
    apply keyed.eq_of_mem first.listed second.listed
    have frozen := first.permission_eq
    have frozen' := second.permission_eq
    rw [same] at frozen
    rw [same'] at frozen'
    calc
      permission.intentId = payload.permission.intentId := by rw [← frozen]
      _ = payload'.permission.intentId := intents
      _ = other.intentId := by rw [← frozen']
  subst samePermission
  subst sameEffects
  have samePayload := gaplessPayload_unique made made'
  refine ⟨rfl, rfl, ?_⟩
  rw [same, same', samePayload]

end

end Jiejian.Checks.CaseBook
