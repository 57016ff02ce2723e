import Jiejian.Preparation.Colors
import Jiejian.Preparation.Merging
import Mathlib.Logic.Relation

namespace Jiejian.Preparation.Allocation

open Library Library.Document Library.Outcome Library.Sorting Errors
open Protocol.Codec Protocol.Conditions Protocol.Cases Models Identities Colors Merging

/-- Two positions that every allocation must give to one account. -/
inductive MustShare (permissions : List PermissionIntentRevision) (controls : List AllowControlRequirement) :
    Position → Position → Prop
  | owns {item : PermissionIntentRevision} (listed : item ∈ permissions)
      (authenticated : anonymousCondition item.conditions = false) (relation : item.relation = .OWNS) :
      MustShare permissions controls (item.intentId, .subject) (item.intentId, .owner)
  | twin {control : AllowControlRequirement} {allow : PermissionReference} (listed : control ∈ controls)
      (resolved : control.resolvedAllowPermission = some allow) :
      MustShare permissions controls (control.denyPermission.intentId, .owner) (allow.intentId, .owner)

/-- Two positions that no allocation may give to one account. -/
inductive MustDiffer (permissions : List PermissionIntentRevision) (controls : List AllowControlRequirement) :
    Position → Position → Prop
  | accounts {item : PermissionIntentRevision} (listed : item ∈ permissions)
      (authenticated : anonymousCondition item.conditions = false) (relation : item.relation ≠ .OWNS) :
      MustDiffer permissions controls (item.intentId, .subject) (item.intentId, .owner)
  | tenants {left right : PermissionIntentRevision} (listedLeft : left ∈ permissions)
      (listedRight : right ∈ permissions) (opposed : opposedTenants left right = true)
      (owner : Relation.EqvGen (MustShare permissions controls) (left.intentId, .owner) (right.intentId, .owner)) :
      MustDiffer permissions controls (left.intentId, .subject) (right.intentId, .subject)

/-- The parents after every required merge. -/
def mergeAll (ordered : List PermissionIntentRevision) (controls : List AllowControlRequirement) :
    Except Raised Parents := do
  let own := (ordered.flatMap positionsOf).map fun position => (position, position)
  let owned ← ordered.foldlM (mergeOwns ordered) own
  controls.foldlM (mergeControl ordered) owned

/-- The positions of one actor revision. -/
def actorPositions (permissions : List PermissionIntentRevision) (actor : Actor) : List Position :=
  (permissions.flatMap positionsOf).filter fun position => actorOf permissions position = some actor

/-- The groups of positions that merging leaves to one actor revision. -/
def actorGroups (permissions : List PermissionIntentRevision) (controls : List AllowControlRequirement)
    (actor : Actor) : List (List Position) :=
  match mergeAll (orderedPermissions permissions) controls with
  | .ok parents => components (orderedPermissions permissions) parents actor
  | .error _ => []

/-- The slot a plan assigns to a position. -/
def slotAt (result : IdentityRequirementPlan) (position : Position) : Option String :=
  (result.permissions.find? fun entry => entry.permission.intentId = position.1).bind fun entry =>
    match position.2 with
    | .subject => entry.subjectSlotId
    | .owner => some entry.resourceOwnerSlotId

/-- An assignment of accounts to the positions of one actor that keeps every rule between them. -/
structure Assignment {β : Type} (permissions : List PermissionIntentRevision)
    (controls : List AllowControlRequirement) (actor : Actor) (account : Position → β) : Prop where
  shares : ∀ left ∈ actorPositions permissions actor, ∀ right ∈ actorPositions permissions actor,
    MustShare permissions controls left right → account left = account right
  differs : ∀ left ∈ actorPositions permissions actor, ∀ right ∈ actorPositions permissions actor,
    MustDiffer permissions controls left right → account left ≠ account right

def actorSlotsOf (result : IdentityRequirementPlan) (actor : Actor) : List IdentityRequirementSlot :=
  result.slots.filter fun slot => (slot.actorId, slot.actorRevision) = actor

section Merges

variable {ordered : List PermissionIntentRevision} {controls : List AllowControlRequirement}

/-- What holds between merges: the keys are the positions, every processed pair is joined, and
what respects the processed pairs respects the parents. -/
structure Merging (ordered : List PermissionIntentRevision) (pairs : List (Position × Position))
    (parents : Parents) : Prop where
  forest : Forest parents
  keys : ∀ position, (parentOf parents position).isSome ↔ position ∈ ordered.flatMap positionsOf
  actors : Respecting (actorOf ordered) parents
  joined : ∀ pair ∈ pairs, root parents pair.1 = root parents pair.2 ∧
    (parentOf parents pair.1).isSome ∧ (parentOf parents pair.2).isSome
  respecting : ∀ {β : Type} {value : Position → β}, (∀ pair ∈ pairs, value pair.1 = value pair.2) →
    Respecting value parents

theorem Merging.merge {pairs : List (Position × Position)} {parents next : Parents}
    (merging : Merging ordered pairs parents) {left right : Position}
    (done : merge ordered parents left right = .ok next) : Merging ordered (pairs ++ [(left, right)]) next := by
  obtain ⟨merged, actors, knownLeft, knownRight⟩ := merge_merged merging.forest done
  refine ⟨merged.forest, ?_, merged.respecting merging.actors actors, ?_, ?_⟩
  · intro position
    rw [merged.keys]
    exact merging.keys position
  · intro pair member
    rw [merged.keys, merged.keys]
    rcases List.mem_append.mp member with old | new
    · obtain ⟨same, first, second⟩ := merging.joined pair old
      exact ⟨merged.kept first second same, first, second⟩
    · have same : pair = (left, right) := by simpa using new
      subst same
      exact ⟨merged.joined, knownLeft, knownRight⟩
  · intro β value agrees
    apply merged.respecting
    · exact merging.respecting fun pair member => agrees pair (by simp [member])
    · exact agrees (left, right) (by simp)

def ownPairs (item : PermissionIntentRevision) : List (Position × Position) :=
  if anonymousCondition item.conditions = false ∧ item.relation = .OWNS then
    [((item.intentId, .subject), (item.intentId, .owner))]
  else []

def controlPairs (control : AllowControlRequirement) : List (Position × Position) :=
  match control.resolvedAllowPermission with
  | none => []
  | some allow => [((control.denyPermission.intentId, .owner), (allow.intentId, .owner))]

theorem positionsOf_named {item : PermissionIntentRevision} {position : Position}
    (inside : position ∈ positionsOf item) : position.1 = item.intentId := by
  unfold positionsOf at inside
  by_cases anonymous : anonymousCondition item.conditions = true
  · rw [if_pos anonymous, List.mem_singleton] at inside
    rw [inside]
  · rw [if_neg anonymous, List.mem_cons, List.mem_singleton] at inside
    rcases inside with rfl | rfl <;> rfl

theorem nodup_positions (distinct : (ordered.map fun item => item.intentId).Nodup) :
    (ordered.flatMap positionsOf).Nodup := by
  rw [List.nodup_flatMap]
  constructor
  · intro item _
    unfold positionsOf
    by_cases anonymous : anonymousCondition item.conditions = true
    · simp [anonymous]
    · simp [anonymous]
  · rw [List.Nodup, List.pairwise_map] at distinct
    refine distinct.imp ?_
    intro first second differ position inFirst inSecond
    exact differ ((positionsOf_named inFirst).symm.trans (positionsOf_named inSecond))

theorem merging_initial (distinct : (ordered.map fun item => item.intentId).Nodup) :
    Merging ordered [] ((ordered.flatMap positionsOf).map fun position => (position, position)) := by
  have keyed : Table.Keyed Prod.fst ((ordered.flatMap positionsOf).map fun position => (position, position)) := by
    have same : (Prod.fst ∘ fun position : Position => (position, position)) = id := rfl
    rw [Table.Keyed, List.map_map, same, List.map_id]
    exact nodup_positions distinct
  have self : ∀ position parent,
      parentOf ((ordered.flatMap positionsOf).map fun position => (position, position)) position = some parent →
        parent = position ∧ position ∈ ordered.flatMap positionsOf := by
    intro position parent stored
    obtain ⟨other, member, same⟩ := List.mem_map.mp (mem_of_parentOf stored)
    simp only [Prod.mk.injEq] at same
    exact ⟨same.2.symm.trans same.1, same.1 ▸ member⟩
  refine ⟨⟨keyed, ?_, ?_⟩, ?_, ?_, by simp, ?_⟩
  · intro position parent stored
    rw [(self position parent stored).1, stored]
    rfl
  · intro position parent stored
    exact .inl (self position parent stored).1
  · intro position
    rw [parentOf_isSome_iff, List.map_map]
    simp
  · intro position parent stored
    rw [(self position parent stored).1]
  · intro β value _ position parent stored
    rw [(self position parent stored).1]

theorem merging_all (distinct : (ordered.map fun item => item.intentId).Nodup) {parents : Parents}
    (merged : mergeAll ordered controls = .ok parents) :
    Merging ordered (ordered.flatMap ownPairs ++ controls.flatMap controlPairs) parents := by
  obtain ⟨owned, first, second⟩ := bind_eq_ok.mp merged
  have afterOwns := (foldlM_reflecting (fun _ => True)
    (fun done state => Merging ordered (done.flatMap ownPairs) state) []
    (fun _ _ _ _ _ => trivial)
    (by
      intro done state item next _ stepped _ holds
      rw [List.flatMap_append, List.flatMap_singleton]
      unfold mergeOwns at stepped
      unfold ownPairs
      by_cases owns : anonymousCondition item.conditions = false ∧ item.relation = .OWNS
      · rw [if_pos owns] at stepped ⊢
        exact holds.merge stepped
      · rw [if_neg owns] at stepped ⊢
        have same : state = next := by simpa using stepped
        rw [List.append_nil, ← same]
        exact holds)
    first trivial).2 (merging_initial distinct)
  have afterControls := (foldlM_reflecting (fun _ => True)
    (fun done state => Merging ordered (ordered.flatMap ownPairs ++ done.flatMap controlPairs) state) []
    (fun _ _ _ _ _ => trivial)
    (by
      intro done state control next _ stepped _ holds
      rw [List.flatMap_append, List.flatMap_singleton, ← List.append_assoc]
      unfold mergeControl at stepped
      cases resolved : control.resolvedAllowPermission with
      | none =>
        rw [resolved] at stepped
        have same : state = next := by simpa using stepped
        have alone : controlPairs control = [] := by rw [controlPairs, resolved]
        rw [alone, List.append_nil, ← same]
        exact holds
      | some allow =>
        rw [resolved] at stepped
        have pair : controlPairs control = [((control.denyPermission.intentId, .owner), (allow.intentId, .owner))] := by
          rw [controlPairs, resolved]
        rw [pair]
        exact holds.merge stepped)
    second trivial).2 (by simpa using afterOwns)
  simpa using afterControls

theorem mustShare_iff_pair {left right : Position} :
    MustShare ordered controls left right ↔
      (left, right) ∈ ordered.flatMap ownPairs ++ controls.flatMap controlPairs := by
  constructor
  · intro share
    cases share with
    | owns listed authenticated relation =>
      refine List.mem_append_left _ (List.mem_flatMap.mpr ⟨_, listed, ?_⟩)
      rw [ownPairs, if_pos ⟨authenticated, relation⟩]
      exact List.mem_singleton.mpr rfl
    | twin listed resolved =>
      refine List.mem_append_right _ (List.mem_flatMap.mpr ⟨_, listed, ?_⟩)
      rw [controlPairs, resolved]
      exact List.mem_singleton.mpr rfl
  · intro member
    rcases List.mem_append.mp member with own | twin
    · obtain ⟨item, listed, inside⟩ := List.mem_flatMap.mp own
      unfold ownPairs at inside
      by_cases owns : anonymousCondition item.conditions = false ∧ item.relation = .OWNS
      · rw [if_pos owns, List.mem_singleton, Prod.mk.injEq] at inside
        rw [inside.1, inside.2]
        exact .owns listed owns.1 owns.2
      · rw [if_neg owns] at inside
        cases inside
    · obtain ⟨control, listed, inside⟩ := List.mem_flatMap.mp twin
      unfold controlPairs at inside
      cases resolved : control.resolvedAllowPermission with
      | none =>
        rw [resolved] at inside
        cases inside
      | some allow =>
        rw [resolved, List.mem_singleton, Prod.mk.injEq] at inside
        rw [inside.1, inside.2]
        exact .twin listed resolved

/-- Merging joins exactly the positions that must share an account. -/
theorem root_eq_iff {parents : Parents} (merging : Merging ordered
      (ordered.flatMap ownPairs ++ controls.flatMap controlPairs) parents) {left right : Position} :
    root parents left = root parents right ↔ Relation.EqvGen (MustShare ordered controls) left right := by
  constructor
  · intro same
    have respects : Respecting (Quot.mk (MustShare ordered controls)) parents :=
      merging.respecting fun pair member => Quot.sound (mustShare_iff_pair.mpr member)
    have classes : Quot.mk (MustShare ordered controls) left = Quot.mk (MustShare ordered controls) right := by
      rw [← respects.root_eq left, ← respects.root_eq right, same]
    exact Quot.eqvGen_exact classes
  · intro related
    induction related with
    | rel first second share => exact (merging.joined _ (mustShare_iff_pair.mp share)).1
    | refl first => rfl
    | symm first second _ ih => exact ih.symm
    | trans first second third _ _ ih ih' => exact ih.trans ih'

end Merges

end Jiejian.Preparation.Allocation
