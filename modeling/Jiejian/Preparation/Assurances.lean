import Jiejian.Preparation.Conflicts

namespace Jiejian.Preparation.Assurances

open Library Library.Document Library.Outcome Library.Sorting Errors
open Protocol.Codec Protocol.Conditions Protocol.Cases Models Identities Colors Merging Allocation Slots Planning
open Requirements Conflicts

section Controls

variable {digest : Digest} {action : BusinessActionRevision} {current : List PermissionIntentRevision}
  {bindings : List ActionAllowControlBinding}

theorem mem_compileAllowControls {control : AllowControlRequirement} :
    control ∈ compileAllowControls digest action current bindings ↔ ∃ deny ∈ current, deny.expectation = .DENY ∧
      compileAllowControl digest action (allowPermissions current) bindings deny = control := by
  simp only [compileAllowControls, List.mem_map, List.mem_filter, decide_eq_true_iff, and_assoc]

theorem resolveControl_mem {identities selected : List PermissionReference} {allow : PermissionReference}
    (resolved : resolveControl identities selected = some allow) : allow ∈ identities := by
  unfold resolveControl at resolved
  split at resolved
  · cases resolved
  · rw [Option.some.inj resolved]
    exact List.mem_singleton.mpr rfl
  · split at resolved
    · rename_i only
      have inside : allow ∈ identities.filter fun item => item ∈ selected := by
        rw [only, Option.some.inj resolved]
        exact List.mem_singleton.mpr rfl
      exact (List.mem_filter.mp inside).1
    · cases resolved

/-- The control of a DENY permission is a valid ALLOW permission over the same owner. -/
theorem resolved_control {deny : PermissionIntentRevision} {allow : PermissionReference}
    (resolved : (compileAllowControl digest action (allowPermissions current) bindings deny).resolvedAllowPermission =
      some allow) :
    ∃ item ∈ current, item.toPermissionReference = allow ∧ item.expectation = .ALLOW ∧
      (item.resourceOwnerActorId, item.resourceOwnerActorRevision) =
        (deny.resourceOwnerActorId, deny.resourceOwnerActorRevision) := by
  have candidate := resolveControl_mem resolved
  unfold bestCandidates at candidate
  obtain ⟨item, ranked, named⟩ := List.mem_map.mp candidate
  obtain ⟨allowed, fits⟩ := List.mem_filter.mp (List.mem_filter.mp ranked).1
  obtain ⟨listed, allows⟩ := List.mem_filter.mp allowed
  have facts := of_decide_eq_true fits
  exact ⟨item, listed, named, (of_decide_eq_true allows).1, facts.2.2.1⟩

theorem allValid_iff : allValid current = true ↔ ∀ item ∈ current, relationValid item.toFrozenPermission = true := by
  rw [allValid, List.all_eq_true]

/-- Valid permissions and their controls are fit for the planner. -/
theorem plannable_controls (distinct : (current.map fun item => item.intentId).Nodup)
    (valid : allValid current = true) : Plannable current (compileAllowControls digest action current bindings) := by
  refine ⟨allValid_iff.mp valid, distinct, ?_⟩
  intro control listed allow resolved
  obtain ⟨deny, inDeny, -, rfl⟩ := mem_compileAllowControls.mp listed
  obtain ⟨item, inItem, named, -, owner⟩ := resolved_control resolved
  exact ⟨deny, inDeny, item, inItem, rfl, congrArg PermissionReference.intentId named, owner⟩

/-- Stored permissions are planned when their relations are valid, and not at all otherwise. -/
theorem planIdentities_eq_ok (distinct : (current.map fun item => item.intentId).Nodup)
    (stored : ∀ item ∈ current, ConditionRelation item.toFrozenPermission)
    {identities : IdentityRequirementPlan} {reasons : List String}
    (planned : planIdentities digest current (compileAllowControls digest action current bindings) =
      .ok (identities, reasons)) :
    reasons = [] ∧ (allValid current = true →
        plan digest current (compileAllowControls digest action current bindings) = .ok identities) ∧
      (allValid current = false → identities = emptyPlan) := by
  unfold planIdentities at planned
  by_cases valid : allValid current = true
  · simp only [if_pos valid] at planned
    cases made : plan digest current (compileAllowControls digest action current bindings) with
    | ok result =>
      rw [made] at planned
      obtain ⟨rfl, rfl⟩ := Prod.mk.inj (Except.ok.inj planned)
      exact ⟨rfl, fun _ => rfl, fun invalid => by rw [valid] at invalid; cases invalid⟩
    | error error =>
      rw [made] at planned
      cases error with
      | ValueError text =>
        have conflict := (plan_eq_error (plannable_controls distinct valid) made).2
        exact absurd conflict (no_conflict distinct stored)
      | _ => cases planned
  · simp only [if_neg valid, plan_nil] at planned
    obtain ⟨rfl, rfl⟩ := Prod.mk.inj (Except.ok.inj planned)
    exact ⟨rfl, fun holds => absurd holds valid, fun _ => rfl⟩

end Controls

/-- What an accepted compilation is, field by field. -/
structure Compiled (digest : Digest) (action : BusinessActionRevision) (current : List PermissionIntentRevision)
    (bindings : List ActionAllowControlBinding) (contract : ActionAssuranceContract) : Prop where
  actionId : contract.actionId = action.actionId
  actionRevision : contract.actionRevision = action.revision
  actionSemanticFingerprint : contract.actionSemanticFingerprint = action.semanticFingerprint
  permissions : contract.permissions = current.map (·.toPermissionReference)
  allowControls : contract.allowControls = compileAllowControls digest action current bindings
  planned : allValid current = true →
    plan digest current (compileAllowControls digest action current bindings) = .ok contract.identityRequirements
  unplanned : allValid current = false → contract.identityRequirements = emptyPlan
  resources : contract.resources = resourceRequirements contract.identityRequirements
  effectEvidence : contract.effectEvidence = evidenceRequirements current
  recoveryRequired : contract.recoveryRequired = action.stateChanging
  reasonCodes : contract.reasonCodes =
    permissionReasons action current (compileAllowControls digest action current bindings)
  status : contract.status = if contract.reasonCodes = [] then .READY else .BLOCKED

theorem compile_eq_ok {digest : Digest} {action : BusinessActionRevision} {permissions : List PermissionIntentRevision}
    {bindings : List ActionAllowControlBinding} {contract : ActionAssuranceContract}
    (distinct : ((currentPermissions action permissions).map fun item => item.intentId).Nodup)
    (stored : ∀ item ∈ currentPermissions action permissions, ConditionRelation item.toFrozenPermission)
    (compiled : compileActionAssurance digest action permissions bindings = .ok contract) :
    Compiled digest action (currentPermissions action permissions) bindings contract := by
  unfold compileActionAssurance at compiled
  obtain ⟨⟨identities, reasons⟩, planned, made⟩ := bind_eq_ok.mp compiled
  obtain ⟨rfl, valid, invalid⟩ := planIdentities_eq_ok distinct stored planned
  have same := Except.ok.inj made
  rw [← same]
  exact ⟨rfl, rfl, rfl, rfl, rfl, valid, invalid, rfl, rfl, rfl, List.append_nil _, rfl⟩

end Jiejian.Preparation.Assurances
