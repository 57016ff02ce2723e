import Jiejian.Preparation.Assurances

namespace Jiejian.Checks.Selection

open Library Library.Document Library.Outcome Library.Sorting Errors
open Protocol.Codec Protocol.Conditions Protocol.Cases
open Preparation.Models Preparation.Identities Preparation.Allocation Preparation.Planning Preparation.Requirements
open Preparation.Conflicts Preparation.Assurances

/-- `resolve_selected_permissions`: the exact ACTIVE revisions that a person selected. -/
def resolveSelectedPermissions (current : List PermissionIntentRevision) (selected : List PermissionReference) :
    Except JiejianError (List PermissionReference) := do
  require (selected ≠ [] ∧ selected.Nodup ∧
      selected ⊆ (current.filter fun item => item.effectiveState = .ACTIVE).map (·.toPermissionReference))
    ⟨.STATE_PRECONDITION, "所选权限规则已变化，请重新选择。"⟩
  return selected

/-- The selected permissions and the resolved controls of the selected DENY permissions. -/
def retainedKeys (current : List PermissionIntentRevision) (selected : List PermissionReference)
    (controls : List AllowControlRequirement) : List PermissionReference :=
  (current.filter fun item => item.toPermissionReference ∈ selected).map (·.toPermissionReference) ++
    controls.filterMap (·.resolvedAllowPermission)

/-- `any(key[0] == value for key in keys)`. -/
def namedBy (keys : List PermissionReference) (intentId : String) : Bool :=
  keys.any fun key => key.intentId = intentId

/-- The reasons of the recompiled contract, with those about controls read from the kept controls instead. -/
def projectedReasons (recompiled : List String) (controls : List AllowControlRequirement) : List String :=
  sortedSet (
    (recompiled.filter fun code => code ≠ "ALLOW_CONTROL_SELECTION_REQUIRED" ∧ code ≠ "ALLOW_CONTROL_REQUIRED") ++
    (if ∃ item ∈ controls, item.candidateAllowPermissions = [] then ["ALLOW_CONTROL_REQUIRED"] else []) ++
    (if ∃ item ∈ controls, item.candidateAllowPermissions ≠ [] ∧ item.resolvedAllowPermission = none then
      ["ALLOW_CONTROL_SELECTION_REQUIRED"] else []))

/-- The slots of some positions; the position of an anonymous subject has none. -/
def slotIdsOf (positions : List PermissionIdentitySlots) : List String :=
  positions.flatMap fun item => item.subjectSlotId.toList ++ [item.resourceOwnerSlotId]

/-- The slots of the full plan that the kept positions use, without what refers to the others. -/
def projectedSlots (keys : List PermissionReference) (slotIds : List String) (slots : List IdentityRequirementSlot) :
    List IdentityRequirementSlot :=
  (slots.filter fun item => item.slotId ∈ slotIds).map fun item => { item with
    requiredByIntentIds := item.requiredByIntentIds.filter (namedBy keys)
    distinctSlotIds := item.distinctSlotIds.filter fun value => value ∈ slotIds }

def projectedIdentities (keys : List PermissionReference) (oldPlan : IdentityRequirementPlan) :
    IdentityRequirementPlan :=
  let positions := oldPlan.permissions.filter fun item => item.permission ∈ keys
  { oldPlan with
    permissions := positions
    slots := projectedSlots keys (slotIdsOf positions) oldPlan.slots }

def projectedResources (keys : List PermissionReference) (positions : List PermissionIdentitySlots)
    (resources : List ActionResourceRequirement) : List ActionResourceRequirement :=
  (resources.filter fun item => item.ownerSlotId ∈ positions.map (·.resourceOwnerSlotId)).map fun item =>
    { item with requiredByIntentIds := item.requiredByIntentIds.filter (namedBy keys) }

/-- The recompiled contract with the parts that the full contract keeps. -/
def projectedContract (digest : Digest) (keys : List PermissionReference) (controls : List AllowControlRequirement)
    (assurance recompiled : ActionAssuranceContract) : ActionAssuranceContract :=
  let identities := projectedIdentities keys assurance.identityRequirements
  let reasons := projectedReasons recompiled.reasonCodes controls
  let contract := { recompiled with
    allowControls := controls
    identityRequirements := identities
    resources := projectedResources keys identities.permissions assurance.resources
    status := if reasons = [] then .READY else .BLOCKED
    reasonCodes := reasons }
  { contract with fingerprint := canonicalSha256 digest contract.facts }

/-- `select_assurance`; `none` when no permission of the action is selected. -/
def selectAssurance (digest : Digest) (action : BusinessActionRevision) (current : List PermissionIntentRevision)
    (assurance : ActionAssuranceContract) (selected : List PermissionReference) :
    Except Raised (Option (List PermissionIntentRevision × ActionAssuranceContract)) := do
  if (current.filter fun item => item.toPermissionReference ∈ selected) = [] then
    return none
  let controls := assurance.allowControls.filter fun item => item.denyPermission ∈ selected
  let keys := retainedKeys current selected controls
  let permissions := current.filter fun item => item.toPermissionReference ∈ keys
  let recompiled ← compileActionAssurance digest action permissions []
  return some (permissions, projectedContract digest keys controls assurance recompiled)

/-- The rule is current for the action and in force. -/
def InForce (action : BusinessActionRevision) (item : PermissionIntentRevision) : Prop :=
  item.projectId = action.projectId ∧ item.businessActionId = action.actionId ∧
    item.actionRevision = action.revision ∧ item.effectiveState = .ACTIVE

/-- Current rules of an action, as they are stored, and a selection of rules in force. -/
structure Selectable (action : BusinessActionRevision) (current : List PermissionIntentRevision)
    (selected : List PermissionReference) : Prop where
  distinct : (current.map fun item => item.intentId).Nodup
  stored : ∀ item ∈ current, ConditionRelation item.toFrozenPermission
  inForce : ∀ item ∈ current, item.toPermissionReference ∈ selected → InForce action item

/-- A selection accepted for a boundary is a selection of each of its actions' rules. -/
theorem selectable_of_resolved {permissions : List PermissionIntentRevision}
    {references selected : List PermissionReference}
    (resolved : resolveSelectedPermissions permissions references = .ok selected)
    (distinct : (permissions.map fun item => item.intentId).Nodup)
    (stored : ∀ item ∈ permissions, ConditionRelation item.toFrozenPermission) {action : BusinessActionRevision}
    (current : ∀ item ∈ permissions, item.businessActionId = action.actionId →
      item.projectId = action.projectId ∧ item.actionRevision = action.revision) :
    Selectable action (permissions.filter fun item => item.businessActionId = action.actionId) selected := by
  obtain ⟨_, checked, same⟩ := bind_eq_ok.mp resolved
  obtain ⟨-, -, active⟩ := require_eq_ok.mp checked
  have equal := Except.ok.inj same
  subst equal
  have named : ∀ {item}, item ∈ (permissions.filter fun item => item.businessActionId = action.actionId) →
      item ∈ permissions ∧ item.businessActionId = action.actionId := by
    intro item listed
    simpa using List.mem_filter.mp listed
  refine ⟨distinct.sublist (List.filter_sublist.map _), fun item listed => stored item (named listed).1, ?_⟩
  intro item listed chosen
  obtain ⟨other, inOther, reference⟩ := List.mem_map.mp (active chosen)
  obtain ⟨member, state⟩ := List.mem_filter.mp inOther
  have same : other = item := Table.Keyed.eq_of_mem distinct member (named listed).1
    (congrArg PermissionReference.intentId reference)
  rw [same] at state
  obtain ⟨project, revision⟩ := current item (named listed).1 (named listed).2
  exact ⟨project, (named listed).2, revision, of_decide_eq_true state⟩

/-- The rule is selected, or resolves the control of a selected DENY rule. -/
def Retained (controls : List AllowControlRequirement) (selected : List PermissionReference)
    (reference : PermissionReference) : Prop :=
  reference ∈ selected ∨
    ∃ control ∈ controls, control.denyPermission ∈ selected ∧ control.resolvedAllowPermission = some reference

/-- The reasons that are about the retained rules and their controls. -/
inductive Concerns (digest : Digest) (action : BusinessActionRevision) (retained : List PermissionIntentRevision)
    (controls : List AllowControlRequirement) : String → Prop
  | relation {item : PermissionIntentRevision} (listed : item ∈ retained)
      (inconsistent : relationValid item.toFrozenPermission = false) :
      Concerns digest action retained controls "PERMISSION_RELATION_REVIEW_REQUIRED"
  | revision {item : PermissionIntentRevision} (listed : item ∈ retained)
      (unknown : ¬item.protectedEffectIds ⊆ action.effectCatalog.map (·.effectId)) :
      Concerns digest action retained controls "PERMISSION_REVISION_REVIEW_REQUIRED"
  | twin (raised : plan digest retained controls = .error (.ValueError "CHECK_TWIN_INVARIANT_REQUIRED")) :
      Concerns digest action retained controls "CHECK_TWIN_INVARIANT_REQUIRED"
  | distinct (raised : plan digest retained controls = .error (.ValueError "IDENTITY_DISTINCT_REQUIRED")) :
      Concerns digest action retained controls "IDENTITY_DISTINCT_REQUIRED"
  | control {control : AllowControlRequirement} (listed : control ∈ controls)
      (missing : control.candidateAllowPermissions = []) :
      Concerns digest action retained controls "ALLOW_CONTROL_REQUIRED"
  | choice {control : AllowControlRequirement} (listed : control ∈ controls)
      (ambiguous : control.candidateAllowPermissions ≠ []) (unresolved : control.resolvedAllowPermission = none) :
      Concerns digest action retained controls "ALLOW_CONTROL_SELECTION_REQUIRED"

/-- Two slots for one account. -/
def SameAccount (kept slot : IdentityRequirementSlot) : Prop :=
  kept.slotId = slot.slotId ∧ kept.actorId = slot.actorId ∧ kept.actorRevision = slot.actorRevision ∧
    kept.ordinal = slot.ordinal

/-- The contract of a selection is the part of the full contract about the retained rules, and no weaker. -/
structure Projects (digest : Digest) (action : BusinessActionRevision) (current : List PermissionIntentRevision)
    (full : ActionAssuranceContract) (selected : List PermissionReference)
    (permissions : List PermissionIntentRevision) (contract : ActionAssuranceContract) : Prop where
  retained : ∀ item, item ∈ permissions ↔
    item ∈ current ∧ Retained full.allowControls selected item.toPermissionReference
  controls : contract.allowControls = full.allowControls.filter fun item => item.denyPermission ∈ selected
  positions : contract.identityRequirements.permissions = full.identityRequirements.permissions.filter fun entry =>
    entry.permission ∈ permissions.map (·.toPermissionReference)
  slots : ∀ slot ∈ full.identityRequirements.slots,
    (∃ entry ∈ contract.identityRequirements.permissions, Uses entry slot.slotId) →
      ∃ kept ∈ contract.identityRequirements.slots, SameAccount kept slot
  used : ∀ kept ∈ contract.identityRequirements.slots,
    (∃ slot ∈ full.identityRequirements.slots, SameAccount kept slot) ∧
      ∃ entry ∈ contract.identityRequirements.permissions, Uses entry kept.slotId
  owners : ∀ entry ∈ contract.identityRequirements.permissions, ∃ resource ∈ contract.resources,
    resource.ownerSlotId = entry.resourceOwnerSlotId ∧ entry.permission.intentId ∈ resource.requiredByIntentIds
  owned : ∀ resource ∈ contract.resources, ∃ entry ∈ contract.identityRequirements.permissions,
    entry.resourceOwnerSlotId = resource.ownerSlotId
  ready : contract.status = .READY →
    (∀ item ∈ permissions, ∃ entry ∈ contract.identityRequirements.permissions,
      entry.permission = item.toPermissionReference) ∧
    ∀ code ∈ full.reasonCodes, Concerns digest action permissions contract.allowControls code →
      code ∈ contract.reasonCodes
  complete : (∀ item ∈ current, InForce action item → item.toPermissionReference ∈ selected) →
    contract.reasonCodes.Perm full.reasonCodes ∧
      { contract with reasonCodes := full.reasonCodes, fingerprint := full.fingerprint } = full

/-- Nothing about the retained rules is left for a person. -/
structure Settled (action : BusinessActionRevision) (current : List PermissionIntentRevision)
    (controls : List AllowControlRequirement) (selected : List PermissionReference) : Prop where
  relations : ∀ item ∈ current, Retained controls selected item.toPermissionReference →
    relationValid item.toFrozenPermission = true
  effects : ∀ item ∈ current, Retained controls selected item.toPermissionReference →
    item.protectedEffectIds ⊆ action.effectCatalog.map (·.effectId)
  controls : ∀ control ∈ controls, control.denyPermission ∈ selected → control.resolvedAllowPermission ≠ none

/-- The selection can be projected: the full contract has a plan of identities or the selected part needs a
person anyway, and when everything is selected some rule is a valid ALLOW rule or a DENY rule. -/
def Projectable (digest : Digest) (action : BusinessActionRevision) (current : List PermissionIntentRevision)
    (bindings : List ActionAllowControlBinding) (selected : List PermissionReference) : Prop :=
  ((∀ item ∈ current, InForce action item → relationValid item.toFrozenPermission = true) ∨
    ¬Settled action current
      (compileAllowControls digest action (currentPermissions action current) bindings) selected) ∧
  ((∀ item ∈ current, InForce action item → item.toPermissionReference ∈ selected) →
    ∃ item ∈ current, InForce action item ∧
      (item.expectation = .ALLOW → relationValid item.toFrozenPermission = true))

end Jiejian.Checks.Selection
