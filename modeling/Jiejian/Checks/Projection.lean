import Jiejian.Checks.Selection

namespace Jiejian.Checks.Projection

open Library Library.Document Library.Outcome Library.Sorting Errors
open Protocol.Codec Protocol.Conditions Protocol.Cases
open Preparation.Models Preparation.Identities Preparation.Allocation Preparation.Planning Preparation.Requirements
open Preparation.Conflicts Preparation.Assurances Selection

theorem mem_currentPermissions {action : BusinessActionRevision} {permissions : List PermissionIntentRevision}
    {item : PermissionIntentRevision} :
    item ∈ currentPermissions action permissions ↔ item ∈ permissions ∧ InForce action item := by
  rw [currentPermissions, mem_orderedPermissions, List.mem_filter, decide_eq_true_iff, InForce]

theorem mem_permissionReasons {action : BusinessActionRevision} {current : List PermissionIntentRevision}
    {controls : List AllowControlRequirement} {code : String} :
    code ∈ permissionReasons action current controls ↔
      (current = [] ∧ code = "PERMISSION_SEMANTICS_REQUIRED") ∨
      (allValid current = false ∧ code = "PERMISSION_RELATION_REVIEW_REQUIRED") ∨
      ((¬∀ item ∈ current, item.protectedEffectIds ⊆ action.effectCatalog.map (·.effectId)) ∧
        code = "PERMISSION_REVISION_REVIEW_REQUIRED") ∨
      ((allowPermissions current = [] ∨ ∃ item ∈ controls, item.candidateAllowPermissions = []) ∧
        code = "ALLOW_CONTROL_REQUIRED") ∨
      ((∃ item ∈ controls, item.candidateAllowPermissions ≠ [] ∧ item.resolvedAllowPermission = none) ∧
        code = "ALLOW_CONTROL_SELECTION_REQUIRED") := by
  unfold permissionReasons
  simp only [List.mem_append, List.mem_ite_nil_left, List.mem_ite_nil_right, List.mem_singleton, or_assoc,
    Bool.not_eq_true]

theorem mem_projectedReasons {recompiled : List String} {controls : List AllowControlRequirement} {code : String} :
    code ∈ projectedReasons recompiled controls ↔
      (code ∈ recompiled ∧ code ≠ "ALLOW_CONTROL_SELECTION_REQUIRED" ∧ code ≠ "ALLOW_CONTROL_REQUIRED") ∨
      ((∃ item ∈ controls, item.candidateAllowPermissions = []) ∧ code = "ALLOW_CONTROL_REQUIRED") ∨
      ((∃ item ∈ controls, item.candidateAllowPermissions ≠ [] ∧ item.resolvedAllowPermission = none) ∧
        code = "ALLOW_CONTROL_SELECTION_REQUIRED") := by
  unfold projectedReasons
  simp only [mem_sortedSet, List.mem_append, List.mem_filter, decide_eq_true_iff, List.mem_ite_nil_right,
    List.mem_singleton, or_assoc]

theorem nodup_permissionReasons (action : BusinessActionRevision) (current : List PermissionIntentRevision)
    (controls : List AllowControlRequirement) : (permissionReasons action current controls).Nodup := by
  have absent : ∀ (condition : Prop) [Decidable condition] (code : String),
      List.Sublist (if condition then [] else [code]) [code] := by
    intro condition _ code
    by_cases holds : condition
    · rw [if_pos holds]
      exact List.nil_sublist _
    · rw [if_neg holds]
  have present : ∀ (condition : Prop) [Decidable condition] (code : String),
      List.Sublist (if condition then [code] else []) [code] := by
    intro condition _ code
    by_cases holds : condition
    · rw [if_pos holds]
    · rw [if_neg holds]
      exact List.nil_sublist _
  have inside : List.Sublist (permissionReasons action current controls)
      (["PERMISSION_SEMANTICS_REQUIRED"] ++ ["PERMISSION_RELATION_REVIEW_REQUIRED"] ++
        ["PERMISSION_REVISION_REVIEW_REQUIRED"] ++ ["ALLOW_CONTROL_REQUIRED"] ++
        ["ALLOW_CONTROL_SELECTION_REQUIRED"]) := by
    unfold permissionReasons
    exact ((((present _ _).append (absent _ _)).append (absent _ _)).append (present _ _)).append (present _ _)
  exact List.Nodup.sublist inside (by decide)

theorem mem_slotIdsOf {positions : List PermissionIdentitySlots} {slotId : String} :
    slotId ∈ slotIdsOf positions ↔ ∃ entry ∈ positions, Uses entry slotId := by
  simp only [slotIdsOf, List.mem_flatMap, List.mem_append, Option.mem_toList, List.mem_singleton, Uses,
    eq_comm]

theorem mem_resourceRequirements {identities : IdentityRequirementPlan} {resource : ActionResourceRequirement} :
    resource ∈ resourceRequirements identities ↔
      ∃ entry ∈ identities.permissions, resource = ⟨entry.resourceOwnerSlotId, sortedSet ((identities.permissions.filter
        fun item => item.resourceOwnerSlotId = entry.resourceOwnerSlotId).map fun item => item.permission.intentId)⟩ := by
  unfold resourceRequirements
  rw [List.mem_map]
  constructor
  · rintro ⟨slotId, listed, made⟩
    obtain ⟨entry, member, rfl⟩ := List.mem_map.mp (mem_sortedSet.mp listed)
    exact ⟨entry, member, made.symm⟩
  · rintro ⟨entry, member, made⟩
    exact ⟨entry.resourceOwnerSlotId, mem_sortedSet.mpr (List.mem_map.mpr ⟨entry, member, rfl⟩), made.symm⟩

section Selected

variable {digest : Digest} {action : BusinessActionRevision} {current : List PermissionIntentRevision}
  {bindings : List ActionAllowControlBinding} {full recompiled contract : ActionAssuranceContract}
  {selected : List PermissionReference} {permissions : List PermissionIntentRevision}

/-- The kept controls of a selection. -/
abbrev keptControls (full : ActionAssuranceContract) (selected : List PermissionReference) :
    List AllowControlRequirement :=
  full.allowControls.filter fun item => item.denyPermission ∈ selected

theorem selectAssurance_eq_ok (accepted : selectAssurance digest action current full selected =
      .ok (some (permissions, contract))) :
    (∃ item ∈ current, item.toPermissionReference ∈ selected) ∧
      permissions = (current.filter fun item =>
        item.toPermissionReference ∈ retainedKeys current selected (keptControls full selected)) ∧
      ∃ recompiled, compileActionAssurance digest action permissions [] = .ok recompiled ∧
        contract = projectedContract digest (retainedKeys current selected (keptControls full selected))
          (keptControls full selected) full recompiled := by
  unfold selectAssurance at accepted
  by_cases none : (current.filter fun item => item.toPermissionReference ∈ selected) = []
  · rw [if_pos none] at accepted
    cases accepted
  · rw [if_neg none] at accepted
    obtain ⟨recompiled, compiled, made⟩ := bind_eq_ok.mp accepted
    obtain ⟨rfl, rfl⟩ := Prod.mk.inj (Option.some.inj (Except.ok.inj made))
    obtain ⟨item, member⟩ := List.exists_mem_of_ne_nil _ none
    obtain ⟨listed, chosen⟩ := List.mem_filter.mp member
    exact ⟨⟨item, listed, of_decide_eq_true chosen⟩, rfl, recompiled, compiled, rfl⟩

theorem mem_retainedKeys {item : PermissionIntentRevision} (listed : item ∈ current) :
    item.toPermissionReference ∈ retainedKeys current selected (keptControls full selected) ↔
      Retained full.allowControls selected item.toPermissionReference := by
  unfold retainedKeys Retained
  rw [List.mem_append, List.mem_map, List.mem_filterMap]
  constructor
  · rintro (⟨other, member, same⟩ | ⟨control, member, resolved⟩)
    · have chosen := of_decide_eq_true (List.mem_filter.mp member).2
      rw [same] at chosen
      exact .inl chosen
    · obtain ⟨inFull, denied⟩ := List.mem_filter.mp member
      exact .inr ⟨control, inFull, of_decide_eq_true denied, resolved⟩
  · rintro (chosen | ⟨control, inFull, denied, resolved⟩)
    · exact .inl ⟨item, List.mem_filter.mpr ⟨listed, decide_eq_true chosen⟩, rfl⟩
    · exact .inr ⟨control, List.mem_filter.mpr ⟨inFull, decide_eq_true denied⟩, resolved⟩

theorem named_of_listed (everything : ∀ item ∈ current, InForce action item → item.toPermissionReference ∈ selected)
    {item : PermissionIntentRevision} (listed : item ∈ currentPermissions action current) :
    item.toPermissionReference ∈ retainedKeys current selected (keptControls full selected) := by
  obtain ⟨member, force⟩ := mem_currentPermissions.mp listed
  exact (mem_retainedKeys member).mpr (.inl (everything item member force))

/-- The values of an accepted selection. -/
structure Projected (digest : Digest) (action : BusinessActionRevision) (current : List PermissionIntentRevision)
    (bindings : List ActionAllowControlBinding) (full : ActionAssuranceContract) (selected : List PermissionReference)
    (permissions : List PermissionIntentRevision) (recompiled contract : ActionAssuranceContract) : Prop where
  selectable : Selectable action current selected
  compiled : Compiled digest action (currentPermissions action current) bindings full
  chosen : ∃ item ∈ current, item.toPermissionReference ∈ selected
  permissions_eq : permissions = current.filter fun item =>
    item.toPermissionReference ∈ retainedKeys current selected (keptControls full selected)
  again : Compiled digest action (currentPermissions action permissions) [] recompiled
  contract_eq : contract = projectedContract digest (retainedKeys current selected (keptControls full selected))
    (keptControls full selected) full recompiled

theorem nodup_current (selectable : Selectable action current selected) :
    ((currentPermissions action current).map fun item => item.intentId).Nodup := by
  unfold currentPermissions orderedPermissions
  rw [nodup_map_sortedBy]
  exact selectable.distinct.sublist (List.filter_sublist.map _)

theorem projected_of_accepted (selectable : Selectable action current selected)
    (compiled : compileActionAssurance digest action current bindings = .ok full)
    (accepted : selectAssurance digest action current full selected = .ok (some (permissions, contract))) :
    ∃ recompiled, Projected digest action current bindings full selected permissions recompiled contract := by
  obtain ⟨chosen, kept, recompiled, again, made⟩ := selectAssurance_eq_ok accepted
  have stored : ∀ item ∈ currentPermissions action current, ConditionRelation item.toFrozenPermission :=
    fun item listed => selectable.stored item (mem_currentPermissions.mp listed).1
  have part : permissions.Sublist current := by
    rw [kept]
    exact List.filter_sublist
  have distinct : ((currentPermissions action permissions).map fun item => item.intentId).Nodup := by
    unfold currentPermissions orderedPermissions
    rw [nodup_map_sortedBy]
    exact selectable.distinct.sublist ((List.filter_sublist.trans part).map _)
  refine ⟨recompiled, selectable, compile_eq_ok (nodup_current selectable) stored compiled, chosen, kept, ?_, made⟩
  apply compile_eq_ok distinct _ again
  intro item listed
  exact selectable.stored item (part.subset (mem_currentPermissions.mp listed).1)

namespace Projected

variable (projected : Projected digest action current bindings full selected permissions recompiled contract)

include projected

theorem mem_permissions (item : PermissionIntentRevision) :
    item ∈ permissions ↔ item ∈ current ∧ Retained full.allowControls selected item.toPermissionReference := by
  rw [projected.permissions_eq, List.mem_filter, decide_eq_true_iff]
  exact and_congr_right fun listed => mem_retainedKeys listed

theorem mem_fullControls {control : AllowControlRequirement} :
    control ∈ full.allowControls ↔ ∃ deny ∈ currentPermissions action current, deny.expectation = .DENY ∧
      compileAllowControl digest action (allowPermissions (currentPermissions action current)) bindings deny =
        control := by
  rw [projected.compiled.allowControls, mem_compileAllowControls]

theorem unresolved_of_missing {control : AllowControlRequirement} (inFull : control ∈ full.allowControls)
    (missing : control.candidateAllowPermissions = []) : control.resolvedAllowPermission = none := by
  obtain ⟨deny, -, -, rfl⟩ := projected.mem_fullControls.mp inFull
  cases resolved : (compileAllowControl digest action (allowPermissions (currentPermissions action current)) bindings
      deny).resolvedAllowPermission with
  | none => rfl
  | some allow =>
    have candidate := resolveControl_mem resolved
    rw [show bestCandidates deny _ = [] from missing] at candidate
    cases candidate

/-- Every retained rule is in force: it is selected, or it stands as a control among the rules in force. -/
theorem inForce {item : PermissionIntentRevision} (listed : item ∈ permissions) : InForce action item := by
  obtain ⟨member, retained⟩ := (projected.mem_permissions item).mp listed
  rcases retained with chosen | ⟨control, inFull, _, resolved⟩
  · exact projected.selectable.inForce item member chosen
  · obtain ⟨deny, -, -, rfl⟩ := projected.mem_fullControls.mp inFull
    obtain ⟨other, inOther, named, -, -⟩ := resolved_control resolved
    obtain ⟨inCurrent, force⟩ := mem_currentPermissions.mp inOther
    have same : other = item := Table.Keyed.eq_of_mem projected.selectable.distinct inCurrent member
      (congrArg PermissionReference.intentId named)
    rw [← same]
    exact force

theorem mem_recompiled {item : PermissionIntentRevision} :
    item ∈ currentPermissions action permissions ↔ item ∈ permissions := by
  rw [mem_currentPermissions]
  exact ⟨fun both => both.1, fun listed => ⟨listed, projected.inForce listed⟩⟩

theorem recompiled_nonempty : currentPermissions action permissions ≠ [] := by
  obtain ⟨item, listed, chosen⟩ := projected.chosen
  have member := projected.mem_recompiled.mpr ((projected.mem_permissions item).mpr ⟨listed, .inl chosen⟩)
  exact List.ne_nil_of_mem member

theorem reasonCodes_eq :
    contract.reasonCodes = projectedReasons recompiled.reasonCodes (keptControls full selected) := by
  rw [projected.contract_eq]
  rfl

theorem status_eq : contract.status = if contract.reasonCodes = [] then .READY else .BLOCKED := by
  rw [projected.contract_eq]
  rfl

/-- The projection is READY exactly when nothing about the retained rules is left for a person. -/
theorem ready_iff : contract.status = .READY ↔ Settled action current full.allowControls selected := by
  have empty : contract.status = .READY ↔ ∀ code, code ∉ contract.reasonCodes := by
    rw [projected.status_eq, ← List.eq_nil_iff_forall_not_mem]
    by_cases none : contract.reasonCodes = []
    · simp [none]
    · simp [none]
  rw [empty]
  simp only [projected.reasonCodes_eq, mem_projectedReasons, projected.again.reasonCodes, mem_permissionReasons]
  constructor
  · intro clear
    refine ⟨?_, ?_, ?_⟩
    · intro item listed retained
      by_contra invalid
      apply clear "PERMISSION_RELATION_REVIEW_REQUIRED"
      refine .inl ⟨.inr (.inl ⟨?_, rfl⟩), by decide, by decide⟩
      have member := projected.mem_recompiled.mpr ((projected.mem_permissions item).mpr ⟨listed, retained⟩)
      rw [← Bool.not_eq_true, allValid_iff]
      exact fun all => invalid (all item member)
    · intro item listed retained
      by_contra unknown
      apply clear "PERMISSION_REVISION_REVIEW_REQUIRED"
      refine .inl ⟨.inr (.inr (.inl ⟨?_, rfl⟩)), by decide, by decide⟩
      have member := projected.mem_recompiled.mpr ((projected.mem_permissions item).mpr ⟨listed, retained⟩)
      exact fun all => unknown (all item member)
    · intro control inFull denied unresolved
      have kept : control ∈ keptControls full selected := List.mem_filter.mpr ⟨inFull, decide_eq_true denied⟩
      by_cases missing : control.candidateAllowPermissions = []
      · exact clear "ALLOW_CONTROL_REQUIRED" (.inr (.inl ⟨⟨control, kept, missing⟩, rfl⟩))
      · exact clear "ALLOW_CONTROL_SELECTION_REQUIRED" (.inr (.inr ⟨⟨control, kept, missing, unresolved⟩, rfl⟩))
  · intro settled code found
    have resolves : ∀ control ∈ keptControls full selected, control.resolvedAllowPermission ≠ none := by
      intro control kept
      obtain ⟨inFull, denied⟩ := List.mem_filter.mp kept
      exact settled.controls control inFull (of_decide_eq_true denied)
    rcases found with ⟨reason, notChoice, notControl⟩ | ⟨⟨control, kept, missing⟩, _⟩ |
      ⟨⟨control, kept, _, unresolved⟩, _⟩
    · rcases reason with ⟨none, _⟩ | ⟨invalid, _⟩ | ⟨unknown, _⟩ | ⟨_, same⟩ | ⟨_, same⟩
      · exact projected.recompiled_nonempty none
      · rw [← Bool.not_eq_true, allValid_iff] at invalid
        apply invalid
        intro item member
        obtain ⟨listed, retained⟩ := (projected.mem_permissions item).mp (projected.mem_recompiled.mp member)
        exact settled.relations item listed retained
      · apply unknown
        intro item member
        obtain ⟨listed, retained⟩ := (projected.mem_permissions item).mp (projected.mem_recompiled.mp member)
        exact settled.effects item listed retained
      · exact notControl same
      · exact notChoice same
    · exact resolves control kept (projected.unresolved_of_missing (List.mem_filter.mp kept).1 missing)
    · exact resolves control kept unresolved

theorem identities_eq : contract.identityRequirements =
    projectedIdentities (retainedKeys current selected (keptControls full selected)) full.identityRequirements := by
  rw [projected.contract_eq]
  rfl

theorem slots_eq : contract.identityRequirements.slots = projectedSlots
    (retainedKeys current selected (keptControls full selected))
    (slotIdsOf contract.identityRequirements.permissions) full.identityRequirements.slots := by
  rw [projected.identities_eq]
  rfl

theorem resources_eq : contract.resources = projectedResources
    (retainedKeys current selected (keptControls full selected))
    contract.identityRequirements.permissions full.resources := by
  rw [projected.identities_eq, projected.contract_eq]
  rfl

/-- The retained rules have the slots that the full plan gives them. -/
theorem slot_kept {slot : IdentityRequirementSlot} (member : slot ∈ full.identityRequirements.slots)
    (inUse : ∃ entry ∈ contract.identityRequirements.permissions, Uses entry slot.slotId) :
    ∃ kept ∈ contract.identityRequirements.slots, SameAccount kept slot := by
  rw [projected.slots_eq, projectedSlots]
  refine ⟨_, List.mem_map.mpr ⟨slot, List.mem_filter.mpr ⟨member, ?_⟩, rfl⟩, rfl, rfl, rfl, rfl⟩
  exact decide_eq_true (mem_slotIdsOf.mpr inUse)

theorem slot_used {kept : IdentityRequirementSlot} (member : kept ∈ contract.identityRequirements.slots) :
    (∃ slot ∈ full.identityRequirements.slots, SameAccount kept slot) ∧
      ∃ entry ∈ contract.identityRequirements.permissions, Uses entry kept.slotId := by
  rw [projected.slots_eq, projectedSlots] at member
  obtain ⟨slot, inFull, rfl⟩ := List.mem_map.mp member
  obtain ⟨listed, inUse⟩ := List.mem_filter.mp inFull
  exact ⟨⟨slot, listed, rfl, rfl, rfl, rfl⟩, mem_slotIdsOf.mp (of_decide_eq_true inUse)⟩

theorem owner_used {resource : ActionResourceRequirement} (member : resource ∈ contract.resources) :
    ∃ entry ∈ contract.identityRequirements.permissions, entry.resourceOwnerSlotId = resource.ownerSlotId := by
  rw [projected.resources_eq, projectedResources] at member
  obtain ⟨other, kept, rfl⟩ := List.mem_map.mp member
  obtain ⟨entry, listed, same⟩ := List.mem_map.mp (of_decide_eq_true (List.mem_filter.mp kept).2)
  exact ⟨entry, listed, same⟩

section Everything

variable (everything : ∀ item ∈ current, InForce action item → item.toPermissionReference ∈ selected)

include everything

theorem current_eq : currentPermissions action permissions = currentPermissions action current := by
  have same : (permissions.filter fun item => item.projectId = action.projectId ∧
        item.businessActionId = action.actionId ∧ item.actionRevision = action.revision ∧
        item.effectiveState = .ACTIVE) =
      current.filter fun item => item.projectId = action.projectId ∧ item.businessActionId = action.actionId ∧
        item.actionRevision = action.revision ∧ item.effectiveState = .ACTIVE := by
    rw [projected.permissions_eq, List.filter_filter]
    apply List.filter_congr
    intro item listed
    rw [Bool.eq_iff_iff, Bool.and_eq_true, decide_eq_true_iff, decide_eq_true_iff]
    refine and_iff_left_of_imp fun force => (mem_retainedKeys listed).mpr (.inl (everything item listed force))
  unfold currentPermissions
  rw [same]

theorem keptControls_eq : keptControls full selected = full.allowControls := by
  rw [keptControls, List.filter_eq_self]
  intro control inFull
  obtain ⟨deny, listed, -, rfl⟩ := projected.mem_fullControls.mp inFull
  obtain ⟨member, force⟩ := mem_currentPermissions.mp listed
  exact decide_eq_true (everything deny member force)

/-- Every name in the full plan is that of a rule in force or of a slot in use. -/
theorem slot_closed {slot : IdentityRequirementSlot} (member : slot ∈ full.identityRequirements.slots) :
    (∃ entry ∈ full.identityRequirements.permissions, Uses entry slot.slotId) ∧
      (∀ intentId ∈ slot.requiredByIntentIds,
        namedBy (retainedKeys current selected (keptControls full selected)) intentId = true) ∧
      ∀ slotId ∈ slot.distinctSlotIds, ∃ entry ∈ full.identityRequirements.permissions, Uses entry slotId := by
  by_cases valid : allValid (currentPermissions action current) = true
  · obtain ⟨parents, specs, pairs, planned⟩ := plan_eq_ok (projected.compiled.planned valid)
    refine ⟨planned.slot_used member, ?_, fun slotId listed => planned.distinct_used member listed⟩
    intro intentId required
    obtain ⟨item, listed, same⟩ := planned.required_named member required
    have named := @named_of_listed action current full selected everything item listed
    exact List.any_eq_true.mpr ⟨_, named, decide_eq_true same⟩
  · rw [projected.compiled.unplanned (by simpa using valid)] at member
    cases member

/-- The reasons agree unless the only rules in force are ALLOW rules with invalid relations. -/
theorem reasons_iff : contract.reasonCodes.Perm full.reasonCodes ↔
    allowPermissions (currentPermissions action current) ≠ [] ∨
      ∃ item ∈ currentPermissions action current, item.expectation = .DENY := by
  have filled : currentPermissions action current ≠ [] := by
    rw [← projected.current_eq everything]
    exact projected.recompiled_nonempty
  have members : ∀ code, code ∈ contract.reasonCodes ↔
      (code ∈ full.reasonCodes ∧ code ≠ "ALLOW_CONTROL_REQUIRED") ∨
      ((∃ item ∈ full.allowControls, item.candidateAllowPermissions = []) ∧ code = "ALLOW_CONTROL_REQUIRED") := by
    intro code
    rw [projected.reasonCodes_eq, mem_projectedReasons, projected.again.reasonCodes, projected.compiled.reasonCodes,
      mem_permissionReasons, mem_permissionReasons, projected.current_eq everything,
      projected.keptControls_eq everything, projected.compiled.allowControls]
    constructor
    · rintro (⟨none | invalid | unknown | control | choice, notChoice, notControl⟩ | missing | ambiguous)
      · exact absurd none.1 filled
      · exact .inl ⟨.inr (.inl invalid), notControl⟩
      · exact .inl ⟨.inr (.inr (.inl unknown)), notControl⟩
      · exact absurd control.2 notControl
      · exact absurd choice.2 notChoice
      · exact .inr missing
      · refine .inl ⟨.inr (.inr (.inr (.inr ambiguous))), ?_⟩
        rw [ambiguous.2]
        decide
    · rintro (⟨none | invalid | unknown | control | choice, notControl⟩ | missing)
      · exact absurd none.1 filled
      · refine .inl ⟨.inr (.inl invalid), ?_, notControl⟩
        rw [invalid.2]
        decide
      · refine .inl ⟨.inr (.inr (.inl unknown)), ?_, notControl⟩
        rw [unknown.2]
        decide
      · exact absurd control.2 notControl
      · exact .inr (.inr choice)
      · exact .inr (.inl missing)
  have required : "ALLOW_CONTROL_REQUIRED" ∈ full.reasonCodes ↔
      allowPermissions (currentPermissions action current) = [] ∨
      ∃ item ∈ full.allowControls, item.candidateAllowPermissions = [] := by
    rw [projected.compiled.reasonCodes, mem_permissionReasons, projected.compiled.allowControls]
    simp
  have fullOnce : full.reasonCodes.Nodup := by
    rw [projected.compiled.reasonCodes]
    exact nodup_permissionReasons _ _ _
  have once : contract.reasonCodes.Nodup := by
    rw [projected.reasonCodes_eq, projectedReasons]
    exact (sortedSet_increasing _).imp fun before => ne_of_lt before
  rw [List.perm_ext_iff_of_nodup once fullOnce]
  constructor
  · intro same
    by_contra neither
    obtain ⟨noAllow, noDeny⟩ := not_or.mp neither
    have kept := (same _).mpr (required.mpr (.inl (not_not.mp noAllow)))
    rcases (members _).mp kept with ⟨_, differs⟩ | ⟨⟨control, inFull, _⟩, _⟩
    · exact differs rfl
    · obtain ⟨deny, listed, denied, _⟩ := projected.mem_fullControls.mp inFull
      exact noDeny ⟨deny, listed, denied⟩
  · intro enough code
    rw [members]
    constructor
    · rintro (⟨listed, _⟩ | ⟨missing, rfl⟩)
      · exact listed
      · exact required.mpr (.inr missing)
    · intro listed
      by_cases control : code = "ALLOW_CONTROL_REQUIRED"
      · refine .inr ⟨?_, control⟩
        rw [control] at listed
        rcases required.mp listed with none | missing
        · obtain ⟨deny, inForce, denied⟩ := enough.resolve_left (not_not.mpr none)
          refine ⟨_, projected.mem_fullControls.mpr ⟨deny, inForce, denied, rfl⟩, ?_⟩
          rw [none]
          rfl
        · exact missing
      · exact .inl ⟨listed, control⟩

end Everything

end Projected

end Selected

/-- A rule on the owner's own resource, and one whose relation names another actor as the owner. -/
def readRule (intentId owner : String) : PermissionIntentRevision :=
  { ownRule .AUTHENTICATED with
    intentId := intentId
    resourceOwnerActorId := owner
    conditions := none }

def readAction : BusinessActionRevision where
  actionId := "action_read"
  projectId := "project"
  revision := 1
  stateChanging := false
  effectCatalog := [⟨"effect_read", .DATA_DISCLOSURE⟩]
  semanticFingerprint := "fingerprint"

end Jiejian.Checks.Projection
