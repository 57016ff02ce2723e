import Jiejian.Preparation.Planning
import Jiejian.Preparation.Requirements

namespace Jiejian.Preparation.Conflicts

open Library Library.Document Library.Outcome Library.Sorting Errors
open Protocol.Codec Protocol.Conditions Protocol.Cases Models Identities Colors Merging Allocation Slots Planning
open Requirements

/-- Two positions that must be one account and must be two accounts. -/
def Conflict (permissions : List PermissionIntentRevision) (controls : List AllowControlRequirement) : Prop :=
  ∃ left right, Relation.EqvGen (MustShare permissions controls) left right ∧ MustDiffer permissions controls left right

theorem conflict_congr {permissions : List PermissionIntentRevision} {controls : List AllowControlRequirement} :
    Conflict (orderedPermissions permissions) controls ↔ Conflict permissions controls := by
  unfold Conflict
  simp only [mustShare_eq, mustDiffer_congr]

/-- What the planner may rely on: valid relations, one permission for each intent, and controls between
permissions over one owner. -/
structure Plannable (permissions : List PermissionIntentRevision) (controls : List AllowControlRequirement) : Prop where
  relations : ∀ item ∈ permissions, relationValid item.toFrozenPermission = true
  distinct : (permissions.map fun item => item.intentId).Nodup
  owners : ∀ control ∈ controls, ∀ allow, control.resolvedAllowPermission = some allow →
    ∃ deny ∈ permissions, ∃ item ∈ permissions, deny.intentId = control.denyPermission.intentId ∧
      item.intentId = allow.intentId ∧ (item.resourceOwnerActorId, item.resourceOwnerActorRevision) =
        (deny.resourceOwnerActorId, deny.resourceOwnerActorRevision)

theorem Plannable.ordered {permissions : List PermissionIntentRevision} {controls : List AllowControlRequirement}
    (plannable : Plannable permissions controls) : Plannable (orderedPermissions permissions) controls := by
  refine ⟨fun item listed => plannable.relations item (mem_orderedPermissions.mp listed),
    nodup_map_sortedBy.mpr plannable.distinct, ?_⟩
  intro control listed allow resolved
  obtain ⟨deny, inDeny, item, inItem, facts⟩ := plannable.owners control listed allow resolved
  exact ⟨deny, mem_orderedPermissions.mpr inDeny, item, mem_orderedPermissions.mpr inItem, facts⟩

section Merges

variable {ordered : List PermissionIntentRevision} {controls : List AllowControlRequirement}

theorem Plannable.actorOf_owner (plannable : Plannable ordered controls) {item : PermissionIntentRevision}
    (listed : item ∈ ordered) :
    actorOf ordered (item.intentId, .owner) = some (item.resourceOwnerActorId, item.resourceOwnerActorRevision) := by
  have found := Table.Keyed.lookup_mem plannable.distinct listed
  rw [actorOf, found]
  rfl

theorem Plannable.actorOf_subject (plannable : Plannable ordered controls) {item : PermissionIntentRevision}
    (listed : item ∈ ordered) :
    actorOf ordered (item.intentId, .subject) = some (item.subjectActorId, item.subjectActorRevision) := by
  have found := Table.Keyed.lookup_mem plannable.distinct listed
  rw [actorOf, found]
  rfl

/-- A merge of two positions of one actor succeeds. -/
theorem merge_total {pairs : List (Position × Position)} {parents : Parents} (merging : Merging ordered pairs parents)
    {left right : Position} (inLeft : left ∈ ordered.flatMap positionsOf) (inRight : right ∈ ordered.flatMap positionsOf)
    (actors : actorOf ordered left = actorOf ordered right) :
    ∃ next, merge ordered parents left right = .ok next ∧ ∃ pairs, Merging ordered pairs next := by
  have checked : require ((parentOf parents left).isSome ∧ (parentOf parents right).isSome ∧
      actorOf ordered left = actorOf ordered right) (Raised.ValueError "CHECK_TWIN_INVARIANT_REQUIRED") = .ok () :=
    require_eq_ok.mpr ⟨(merging.keys left).mpr inLeft, (merging.keys right).mpr inRight, actors⟩
  have succeeds : ∃ next, merge ordered parents left right = .ok next := by
    unfold merge
    rw [checked]
    cases sorted : sortedBy positionOrder [root parents left, root parents right] with
    | nil => exact ⟨parents, rfl⟩
    | cons first rest =>
      match rest with
      | [] => exact ⟨parents, rfl⟩
      | [second] => exact ⟨_, rfl⟩
      | _ :: _ :: _ => exact ⟨parents, rfl⟩
  obtain ⟨next, done⟩ := succeeds
  exact ⟨next, done, _, merging.merge done⟩

theorem Plannable.mergeOwns_total (plannable : Plannable ordered controls) {pairs : List (Position × Position)}
    {parents : Parents} (merging : Merging ordered pairs parents) {item : PermissionIntentRevision}
    (listed : item ∈ ordered) :
    ∃ next, mergeOwns ordered parents item = .ok next ∧ ∃ pairs, Merging ordered pairs next := by
  unfold mergeOwns
  by_cases owns : anonymousCondition item.conditions = false ∧ item.relation = .OWNS
  · rw [if_pos owns]
    have valid := plannable.relations item listed
    rw [relationValid, owns.2] at valid
    apply merge_total merging
    · exact List.mem_flatMap.mpr ⟨item, listed, positionsOf_subject.mpr owns.1⟩
    · exact List.mem_flatMap.mpr ⟨item, listed, positionsOf_owner item⟩
    · rw [plannable.actorOf_subject listed, plannable.actorOf_owner listed]
      exact congrArg some (by simpa using valid)
  · rw [if_neg owns]
    exact ⟨parents, rfl, pairs, merging⟩

theorem Plannable.mergeControl_total (plannable : Plannable ordered controls) {pairs : List (Position × Position)}
    {parents : Parents} (merging : Merging ordered pairs parents) {control : AllowControlRequirement}
    (listed : control ∈ controls) :
    ∃ next, mergeControl ordered parents control = .ok next ∧ ∃ pairs, Merging ordered pairs next := by
  unfold mergeControl
  cases resolved : control.resolvedAllowPermission with
  | none => exact ⟨parents, rfl, pairs, merging⟩
  | some allow =>
    obtain ⟨deny, inDeny, item, inItem, denyNamed, itemNamed, owner⟩ := plannable.owners control listed allow resolved
    dsimp only
    rw [← denyNamed, ← itemNamed]
    apply merge_total merging
    · exact List.mem_flatMap.mpr ⟨deny, inDeny, positionsOf_owner deny⟩
    · exact List.mem_flatMap.mpr ⟨item, inItem, positionsOf_owner item⟩
    · rw [plannable.actorOf_owner inDeny, plannable.actorOf_owner inItem, owner]

/-- No merge of plannable permissions fails. -/
theorem Plannable.mergeAll_total (plannable : Plannable ordered controls) :
    ∃ parents, mergeAll ordered controls = .ok parents := by
  have afterOwns : ∃ owned, ordered.foldlM (mergeOwns ordered)
      ((ordered.flatMap positionsOf).map fun position => (position, position)) = .ok owned ∧
      ∃ pairs, Merging ordered pairs owned :=
    foldlM_total (fun _ _ listed ⟨_, holds⟩ => plannable.mergeOwns_total holds listed)
      ⟨[], merging_initial plannable.distinct⟩
  obtain ⟨owned, first, merging⟩ := afterOwns
  have afterControls : ∃ parents, controls.foldlM (mergeControl ordered) owned = .ok parents ∧
      ∃ pairs, Merging ordered pairs parents :=
    foldlM_total (fun _ _ listed ⟨_, holds⟩ => plannable.mergeControl_total holds listed) merging
  obtain ⟨parents, second, _⟩ := afterControls
  exact ⟨parents, bind_eq_ok.mpr ⟨owned, first, second⟩⟩

end Merges

/-- An error that no reading of the permissions explains. -/
def Internal (error : Raised) : Prop := ∀ text, error ≠ .ValueError text

theorem keyError_internal : Internal .KeyError := by
  intro text same
  cases same

theorem assertionError_internal : Internal .AssertionError := by
  intro text same
  cases same

theorem stopIteration_internal : Internal .StopIteration := by
  intro text same
  cases same

theorem greedyColors_internal {neighbors : List (List Nat)} (nodes : Nat) :
    RaisesOnly Internal (greedyColors neighbors nodes) := by
  induction nodes with
  | zero => exact raisesOnly_ok
  | succ nodes ih =>
    rw [greedyColors]
    refine raisesOnly_bind ih ?_
    intro colors _
    refine raisesOnly_bind (raisesOnly_orRaise fun _ => stopIteration_internal) ?_
    intro color _
    exact raisesOnly_ok

theorem actorSlots_internal {digest : Digest} {ordered : List PermissionIntentRevision} {parents : Parents}
    {edges : List Edge} (actor : Actor) : RaisesOnly Internal (actorSlots digest ordered parents edges actor) := by
  have colored : RaisesOnly Internal (colorComponents (graph (components ordered parents actor) edges)) := by
    unfold colorComponents
    refine raisesOnly_bind (greedyColors_internal _) ?_
    intro greedy _
    by_cases large : (graph (components ordered parents actor) edges).length > 12 ∨
        graph (components ordered parents actor) edges = []
    · rw [if_pos large]
      exact raisesOnly_ok
    · rw [if_neg large]
      exact raisesOnly_orRaise fun _ => assertionError_internal
  unfold actorSlots
  refine raisesOnly_bind colored ?_
  intro colors _
  exact raisesOnly_ok

theorem edgeSlots_internal {slots : List SlotSpec} (edge : Edge) : RaisesOnly Internal (edgeSlots slots edge) := by
  unfold edgeSlots
  refine raisesOnly_bind (raisesOnly_orRaise fun _ => keyError_internal) ?_
  intro left _
  refine raisesOnly_bind (raisesOnly_orRaise fun _ => keyError_internal) ?_
  intro right _
  refine raisesOnly_bind (raisesOnly_require assertionError_internal) ?_
  intro _ _
  exact raisesOnly_ok

theorem permissionSlots_internal {slots : List SlotSpec} (item : PermissionIntentRevision) :
    RaisesOnly Internal (permissionSlots slots item) := by
  unfold permissionSlots
  refine raisesOnly_bind (raisesOnly_orRaise fun _ => keyError_internal) ?_
  intro owner _
  exact raisesOnly_ok

/-- A failed edge of a plannable list is a missing position or a conflict. -/
theorem checkEdge_eq_error {ordered : List PermissionIntentRevision} {controls : List AllowControlRequirement}
    {parents : Parents} (merging : Merging ordered (ordered.flatMap ownPairs ++ controls.flatMap controlPairs) parents)
    {edge : Edge} (member : edge ∈ edgesOf ordered parents) {text : String}
    (raised : checkEdge parents edge = .error (.ValueError text)) :
    text = "IDENTITY_DISTINCT_REQUIRED" ∧ Conflict ordered controls := by
  unfold checkEdge require at raised
  by_cases known : (parentOf parents edge.1).isSome ∧ (parentOf parents edge.2).isSome
  · rw [if_pos known] at raised
    by_cases differ : root parents edge.1 ≠ root parents edge.2
    · rw [if_pos differ] at raised
      cases raised
    · rw [if_neg differ] at raised
      have same : "IDENTITY_DISTINCT_REQUIRED" = text := by simpa [bind, Except.bind] using raised
      have joined := (root_eq_iff merging).mp (not_not.mp differ)
      refine ⟨same.symm, ?_⟩
      rcases (mustDiffer_iff_edge merging).mpr (.inl member) with forward | backward
      · exact ⟨edge.1, edge.2, joined, forward⟩
      · exact ⟨edge.2, edge.1, joined.symm, backward⟩
  · rw [if_neg known] at raised
    cases raised

/-- The part of a plan after the positions are merged. -/
def allocate (digest : Digest) (ordered : List PermissionIntentRevision) (parents : Parents) :
    Except Raised IdentityRequirementPlan := do
  (edgesOf ordered parents).forM (checkEdge parents)
  let specs ← (actorsOf ordered parents).mapM (actorSlots digest ordered parents (edgesOf ordered parents))
  let pairs ← (edgesOf ordered parents).mapM (edgeSlots specs.flatten)
  let assigned ← ordered.mapM (permissionSlots specs.flatten)
  return {
    allocationMode := if ∃ actor ∈ actorsOf ordered parents, 12 < (components ordered parents actor).length
      then .CONSERVATIVE else .EXACT
    slots := specs.flatten.map (requirementSlot pairs)
    permissions := assigned }

theorem Plannable.plan_eq {permissions : List PermissionIntentRevision} {controls : List AllowControlRequirement}
    (plannable : Plannable (orderedPermissions permissions) controls) {parents : Parents}
    (merged : mergeAll (orderedPermissions permissions) controls = .ok parents) (digest : Digest) :
    plan digest permissions controls = allocate digest (orderedPermissions permissions) parents := by
  obtain ⟨owned, first, second⟩ := bind_eq_ok.mp merged
  have valid : require (∀ item ∈ orderedPermissions permissions, relationValid item.toFrozenPermission = true)
      (Raised.ValueError "PERMISSION_RELATION_REVIEW_REQUIRED") = .ok () := require_eq_ok.mpr plannable.relations
  have unique : require ((orderedPermissions permissions).map fun item => item.intentId).Nodup
      (Raised.ValueError "current permission identities must be unique") = .ok () :=
    require_eq_ok.mpr plannable.distinct
  unfold plan
  dsimp only
  rw [valid, unique, first]
  show (controls.foldlM (mergeControl (orderedPermissions permissions)) owned >>= fun parents =>
    allocate digest (orderedPermissions permissions) parents) = _
  rw [second]
  rfl

/-- Once positions are merged, only an edge can reject the permissions. -/
theorem allocate_errors (digest : Digest) (ordered : List PermissionIntentRevision) (parents : Parents) :
    RaisesOnly (fun error => (∃ edge ∈ edgesOf ordered parents, checkEdge parents edge = .error error) ∨ Internal error)
      (allocate digest ordered parents) := by
  unfold allocate
  refine raisesOnly_bind (fun error raised => .inl (forM_eq_error raised)) ?_
  intro _ _
  refine RaisesOnly.mono ?_ fun _ => Or.inr
  refine raisesOnly_bind (raisesOnly_mapM actorSlots_internal) ?_
  intro specs _
  refine raisesOnly_bind (raisesOnly_mapM edgeSlots_internal) ?_
  intro pairs _
  refine raisesOnly_bind (raisesOnly_mapM permissionSlots_internal) ?_
  intro assigned _
  exact raisesOnly_ok

/-- The planner rejects plannable permissions only for a conflict. -/
theorem plan_eq_error {digest : Digest} {permissions : List PermissionIntentRevision}
    {controls : List AllowControlRequirement} (plannable : Plannable permissions controls) {text : String}
    (raised : plan digest permissions controls = .error (.ValueError text)) :
    text = "IDENTITY_DISTINCT_REQUIRED" ∧ Conflict permissions controls := by
  have sorted := plannable.ordered
  obtain ⟨parents, merged⟩ := sorted.mergeAll_total
  rw [sorted.plan_eq merged] at raised
  rw [← conflict_congr]
  rcases allocate_errors digest _ parents _ raised with ⟨edge, member, failed⟩ | internal
  · exact checkEdge_eq_error (merging_all sorted.distinct merged) member failed
  · exact absurd rfl (internal text)

/-- The plan of no permissions. -/
def emptyPlan : IdentityRequirementPlan where
  allocationMode := .EXACT
  slots := []
  permissions := []

theorem plan_nil (digest : Digest) : plan digest [] [] = .ok emptyPlan := rfl

/-- `condition_relation` and `meaningful_condition`: what every stored rule with conditions satisfies. -/
structure ConditionRelation (permission : FrozenPermission) : Prop where
  anonymous : anonymousCondition permission.conditions = true → permission.relation = .OTHER_ROLE
  crossing : crossTenant permission.conditions = true → permission.relation ≠ .OWNS
  tenantless : anonymousCondition permission.conditions = true →
    ∀ conditions, permission.conditions = some conditions → conditions.tenant = none

/-- The subject of a rule that is not about an own resource shares its account with no other position. -/
theorem subject_alone {permissions : List PermissionIntentRevision} {controls : List AllowControlRequirement}
    (distinct : (permissions.map fun item => item.intentId).Nodup) {item : PermissionIntentRevision}
    (listed : item ∈ permissions) (relation : item.relation ≠ .OWNS) {left right : Position}
    (related : Relation.EqvGen (MustShare permissions controls) left right) :
    left = (item.intentId, .subject) ↔ right = (item.intentId, .subject) := by
  have step : ∀ first second, MustShare permissions controls first second →
      (first = (item.intentId, Place.subject)) = (second = (item.intentId, Place.subject)) := by
    intro first second share
    apply propext
    cases share with
    | owns member authenticated owns =>
      constructor
      · intro same
        have ids := (Prod.mk.inj same).1
        have equal := Table.Keyed.eq_of_mem distinct member listed ids
        rw [equal] at owns
        exact absurd owns relation
      · intro same
        cases (Prod.mk.inj same).2
    | twin member resolved =>
      constructor
      · intro same
        cases (Prod.mk.inj same).2
      · intro same
        cases (Prod.mk.inj same).2
  have same := congrArg (Quot.lift (fun position => position = (item.intentId, Place.subject)) step)
    (Quot.eqvGen_sound related)
  exact iff_of_eq same

theorem crossing_of_opposed {left right : PermissionIntentRevision} (opposed : opposedTenants left right = true) :
    crossTenant left.conditions = true ∨ crossTenant right.conditions = true := by
  unfold opposedTenants at opposed
  cases first : left.conditions with
  | none =>
    rw [first] at opposed
    cases opposed
  | some conditions =>
    cases second : right.conditions with
    | none =>
      rw [first, second] at opposed
      cases opposed
    | some others =>
      rw [first, second] at opposed
      rcases of_decide_eq_true opposed with ⟨_, differs⟩ | ⟨differs, _⟩
      · exact .inr (by simpa [crossTenant] using differs)
      · exact .inl (by simpa [crossTenant] using differs)

/-- Stored rules never ask for a conflict. -/
theorem no_conflict {permissions : List PermissionIntentRevision} {controls : List AllowControlRequirement}
    (distinct : (permissions.map fun item => item.intentId).Nodup)
    (stored : ∀ item ∈ permissions, ConditionRelation item.toFrozenPermission) : ¬Conflict permissions controls := by
  rintro ⟨left, right, related, differ⟩
  cases differ with
  | accounts listed authenticated relation =>
    have same := (subject_alone distinct listed relation related).mp rfl
    cases (Prod.mk.inj same).2
  | @tenants first second inFirst inSecond opposed owner =>
    have apart : first.intentId ≠ second.intentId := by
      intro same
      have equal := Table.Keyed.eq_of_mem distinct inFirst inSecond same
      rw [equal, opposedTenants_self] at opposed
      cases opposed
    rcases crossing_of_opposed opposed with crossing | crossing
    · have same := (subject_alone distinct inFirst ((stored first inFirst).crossing crossing) related).mp rfl
      exact apart (Prod.mk.inj same).1.symm
    · have same := (subject_alone distinct inSecond ((stored second inSecond).crossing crossing) related).mpr rfl
      exact apart (Prod.mk.inj same).1

end Jiejian.Preparation.Conflicts
