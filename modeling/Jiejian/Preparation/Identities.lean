import Jiejian.Preparation.Models
import Mathlib.Data.List.Lex

namespace Jiejian.Preparation.Identities

open Library Library.Document Library.Outcome Library.Sorting Errors
open Protocol.Codec Protocol.Conditions Protocol.Cases Protocol.Actions Models

inductive AllocationMode where
  | EXACT
  | CONSERVATIVE
  deriving DecidableEq, Repr

def AllocationMode.value : AllocationMode → String
  | .EXACT => "EXACT"
  | .CONSERVATIVE => "CONSERVATIVE"

structure IdentityRequirementSlot where
  slotId : String
  actorId : String
  actorRevision : Nat
  ordinal : Nat
  requiredByIntentIds : List String
  distinctSlotIds : List String
  deriving DecidableEq, Repr

def IdentityRequirementSlot.dump (slot : IdentityRequirementSlot) : Json :=
  .dict [("slot_id", .str slot.slotId), ("actor_id", .str slot.actorId),
    ("actor_revision", natural slot.actorRevision), ("ordinal", natural slot.ordinal),
    ("required_by_intent_ids", strings slot.requiredByIntentIds), ("distinct_slot_ids", strings slot.distinctSlotIds)]

structure PermissionIdentitySlots where
  permission : PermissionReference
  subjectSlotId : Option String
  resourceOwnerSlotId : String
  deriving DecidableEq, Repr

def PermissionIdentitySlots.dump (slots : PermissionIdentitySlots) : Json :=
  .dict [("permission", slots.permission.dump), ("subject_slot_id", nullable .str slots.subjectSlotId),
    ("resource_owner_slot_id", .str slots.resourceOwnerSlotId)]

structure IdentityRequirementPlan where
  allocationMode : AllocationMode
  slots : List IdentityRequirementSlot
  permissions : List PermissionIdentitySlots
  deriving DecidableEq, Repr

def IdentityRequirementPlan.dump (plan : IdentityRequirementPlan) : Json :=
  .dict [("allocation_mode", .str plan.allocationMode.value), ("slots", .list (plan.slots.map (·.dump))),
    ("permissions", .list (plan.permissions.map (·.dump)))]

structure AllowControlRequirement where
  denyPermission : PermissionReference
  protectedEffectIds : List String
  candidateAllowPermissions : List PermissionReference
  resolvedAllowPermission : Option PermissionReference
  selectionFingerprint : String
  deriving DecidableEq, Repr

def AllowControlRequirement.dump (control : AllowControlRequirement) : Json :=
  .dict [("deny_permission", control.denyPermission.dump),
    ("protected_effect_ids", strings control.protectedEffectIds),
    ("candidate_allow_permissions", .list (control.candidateAllowPermissions.map (·.dump))),
    ("resolved_allow_permission", nullable (·.dump) control.resolvedAllowPermission),
    ("selection_fingerprint", .str control.selectionFingerprint)]

/-- `_relation_valid`. -/
def relationValid (permission : FrozenPermission) : Bool :=
  match permission.relation with
  | .OWNS | .SAME_ROLE_OTHER_ACCOUNT =>
    (permission.subjectActorId, permission.subjectActorRevision) =
      (permission.resourceOwnerActorId, permission.resourceOwnerActorRevision)
  | .OTHER_ROLE => permission.subjectActorId ≠ permission.resourceOwnerActorId

/-- The colors that the neighbors of the next node already have. -/
def unavailable (neighbors : List (List Nat)) (colors : List Nat) : List Nat :=
  (neighbors.getD colors.length []).filterMap fun other => colors[other]?

/-- The greedy colors of the first nodes. -/
def greedyColors (neighbors : List (List Nat)) : Nat → Except Raised (List Nat)
  | 0 => .ok []
  | nodes + 1 => do
    let colors ← greedyColors neighbors nodes
    let color ← orRaise ((List.range neighbors.length).find? fun color => color ∉ unavailable neighbors colors)
      .StopIteration
    return colors ++ [color]

/-- The exhaustive search for colors below `limit`; `used` is how many occur already. -/
def assign (neighbors : List (List Nat)) (limit : Nat) : Nat → List Nat → Nat → Option (List Nat)
  | 0, colors, _ => some colors
  | remaining + 1, colors, used =>
    (List.range (min (used + 1) limit)).findSome? fun color =>
      if color ∈ unavailable neighbors colors then none
      else assign neighbors limit remaining (colors ++ [color]) (max used (color + 1))

def maximum (values : List Nat) : Nat := values.foldl max 0

/-- `_color_components`: the least number of colors for a small graph, greedy colors for a large one. -/
def colorComponents (neighbors : List (List Nat)) : Except Raised (List Nat) := do
  let greedy ← greedyColors neighbors neighbors.length
  if neighbors.length > 12 ∨ neighbors = [] then
    return greedy
  orRaise ((List.range' 1 (maximum greedy + 1)).findSome? fun limit => assign neighbors limit neighbors.length [] 0)
    .AssertionError

inductive Place where
  | subject
  | owner
  deriving DecidableEq, Repr

def Place.value : Place → String
  | .subject => "subject"
  | .owner => "owner"

/-- The part a test identity plays in one permission. -/
abbrev Position := String × Place

abbrev Actor := String × Nat

def positionOrder (position : Position) : String ×ₗ String := toLex (position.1, position.2.value)

/-- An anonymous permission has no subject identity. -/
def positionsOf (permission : PermissionIntentRevision) : List Position :=
  if anonymousCondition permission.conditions then [(permission.intentId, .owner)]
  else [(permission.intentId, .subject), (permission.intentId, .owner)]

def actorOf (ordered : List PermissionIntentRevision) (position : Position) : Option Actor :=
  (Table.lookup (fun item : PermissionIntentRevision => item.intentId) ordered position.1).map fun item =>
    match position.2 with
    | .subject => (item.subjectActorId, item.subjectActorRevision)
    | .owner => (item.resourceOwnerActorId, item.resourceOwnerActorRevision)

/-- The positions merged so far, each with its parent. -/
abbrev Parents := List (Position × Position)

def parentOf (parents : Parents) (position : Position) : Option Position :=
  (Table.lookup Prod.fst parents position).map Prod.snd

/-- The walk to the root; no chain is longer than the number of positions. -/
def rootWithin (parents : Parents) : Nat → Position → Position
  | 0, position => position
  | fuel + 1, position =>
    match parentOf parents position with
    | none => position
    | some parent => if parent = position then position else rootWithin parents fuel parent

def root (parents : Parents) (position : Position) : Position :=
  rootWithin parents parents.length position

def merge (ordered : List PermissionIntentRevision) (parents : Parents) (left right : Position) :
    Except Raised Parents := do
  require ((parentOf parents left).isSome ∧ (parentOf parents right).isSome ∧
      actorOf ordered left = actorOf ordered right)
    (.ValueError "CHECK_TWIN_INVARIANT_REQUIRED")
  match sortedBy positionOrder [root parents left, root parents right] with
  | [first, second] => return Table.replace Prod.fst parents (second, first)
  | _ => return parents

def mergeOwns (ordered : List PermissionIntentRevision) (parents : Parents) (item : PermissionIntentRevision) :
    Except Raised Parents :=
  if anonymousCondition item.conditions = false ∧ item.relation = .OWNS then
    merge ordered parents (item.intentId, .subject) (item.intentId, .owner)
  else .ok parents

def mergeControl (ordered : List PermissionIntentRevision) (parents : Parents) (control : AllowControlRequirement) :
    Except Raised Parents :=
  match control.resolvedAllowPermission with
  | none => .ok parents
  | some allow => merge ordered parents (control.denyPermission.intentId, .owner) (allow.intentId, .owner)

abbrev Edge := Position × Position

/-- A rule between different accounts separates its subject from its owner. -/
def relationEdges (ordered : List PermissionIntentRevision) : List Edge :=
  ordered.filterMap fun item =>
    if anonymousCondition item.conditions = false ∧ item.relation ≠ .OWNS then
      some ((item.intentId, .subject), (item.intentId, .owner))
    else none

/-- One rule is about the owner's tenant and the other about a different one. -/
def opposedTenants (left right : PermissionIntentRevision) : Bool :=
  match left.conditions, right.conditions with
  | some first, some second => (first.tenant = some .SAME ∧ second.tenant = some .DIFFERENT) ∨
      (first.tenant = some .DIFFERENT ∧ second.tenant = some .SAME)
  | _, _ => false

/-- Subjects of opposed tenants over one owner must be different accounts. -/
def tenantEdges (parents : Parents) : List PermissionIntentRevision → List Edge
  | [] => []
  | left :: rest => (rest.filterMap fun right =>
      if opposedTenants left right ∧ root parents (left.intentId, .owner) = root parents (right.intentId, .owner) then
        some ((left.intentId, .subject), (right.intentId, .subject))
      else none) ++ tenantEdges parents rest

def representatives (parents : Parents) : List Position :=
  sortedBy positionOrder ((parents.map fun entry => root parents entry.1).dedup)

def groupOf (parents : Parents) (representative : Position) : List Position :=
  (sortedBy positionOrder (parents.map Prod.fst)).filter fun position => root parents position = representative

/-- The groups of one actor's positions, in order. -/
def components (ordered : List PermissionIntentRevision) (parents : Parents) (actor : Actor) :
    List (List Position) :=
  sortedBy (fun group : List Position => group.map positionOrder)
    (((representatives parents).filter fun representative => actorOf ordered representative = some actor).map
      (groupOf parents))

def actorsOf (ordered : List PermissionIntentRevision) (parents : Parents) : List Actor :=
  sortedBy (fun actor : Actor => toLex actor) (((representatives parents).filterMap (actorOf ordered)).dedup)

def groupIndex (groups : List (List Position)) (position : Position) : Option Nat :=
  groups.findIdx? fun group => position ∈ group

/-- The groups that an edge joins to the group of one number. -/
def neighborsOf (groups : List (List Position)) (edges : List Edge) (node : Nat) : List Nat :=
  (edges.flatMap fun edge =>
    match groupIndex groups edge.1, groupIndex groups edge.2 with
    | some left, some right => (if left = node then [right] else []) ++ (if right = node then [left] else [])
    | _, _ => []).dedup

def graph (groups : List (List Position)) (edges : List Edge) : List (List Nat) :=
  (List.range groups.length).map (neighborsOf groups edges)

def positionDump (ordered : List PermissionIntentRevision) (position : Position) : Json :=
  .dict [("permission", nullable (fun item : PermissionIntentRevision => item.toPermissionReference.dump)
      (Table.lookup (fun item : PermissionIntentRevision => item.intentId) ordered position.1)),
    ("position", .str position.2.value)]

def slotIdOf (digest : Digest) (ordered : List PermissionIntentRevision) (actor : Actor) (positions : List Position) :
    String :=
  "isl_" ++ digest.short (canonicalSha256 digest (.dict [("actor_id", .str actor.1),
    ("actor_revision", natural actor.2), ("positions", .list (positions.map (positionDump ordered)))]))

/-- A slot before its distinct slots are known, with the positions it serves. -/
structure SlotSpec where
  slotId : String
  actor : Actor
  ordinal : Nat
  positions : List Position

def slotSpec (digest : Digest) (ordered : List PermissionIntentRevision) (actor : Actor)
    (groups : List (List Position)) (colors : List Nat) (color : Nat) : SlotSpec :=
  let positions := sortedBy positionOrder
    (((groups.zip colors).filter fun entry => entry.2 = color).flatMap Prod.fst)
  { slotId := slotIdOf digest ordered actor positions, actor := actor, ordinal := color + 1, positions := positions }

def actorSlots (digest : Digest) (ordered : List PermissionIntentRevision) (parents : Parents) (edges : List Edge)
    (actor : Actor) : Except Raised (List SlotSpec) := do
  let groups := components ordered parents actor
  let colors ← colorComponents (graph groups edges)
  return (List.range (maximum colors + 1)).map (slotSpec digest ordered actor groups colors)

/-- `position_slots.get(position)`. -/
def positionSlot (specs : List SlotSpec) (position : Position) : Option String :=
  (specs.reverse.find? fun spec => position ∈ spec.positions).map (·.slotId)

/-- The two slots of an edge, which must differ. -/
def edgeSlots (specs : List SlotSpec) (edge : Edge) : Except Raised (String × String) := do
  let left ← orRaise (positionSlot specs edge.1) .KeyError
  let right ← orRaise (positionSlot specs edge.2) .KeyError
  require (left ≠ right) .AssertionError
  return (left, right)

def distinctSlots (pairs : List (String × String)) (slotId : String) : List String :=
  sortedSet (pairs.flatMap fun pair =>
    (if pair.1 = slotId then [pair.2] else []) ++ (if pair.2 = slotId then [pair.1] else []))

def requirementSlot (pairs : List (String × String)) (spec : SlotSpec) : IdentityRequirementSlot where
  slotId := spec.slotId
  actorId := spec.actor.1
  actorRevision := spec.actor.2
  ordinal := spec.ordinal
  requiredByIntentIds := sortedSet (spec.positions.map Prod.fst)
  distinctSlotIds := distinctSlots pairs spec.slotId

def permissionSlots (specs : List SlotSpec) (item : PermissionIntentRevision) :
    Except Raised PermissionIdentitySlots := do
  let owner ← orRaise (positionSlot specs (item.intentId, .owner)) .KeyError
  return { permission := item.toPermissionReference
           subjectSlotId := positionSlot specs (item.intentId, .subject)
           resourceOwnerSlotId := owner }

/-- `root(left) == root(right)` for one edge: both ends are read from the parents. -/
def checkEdge (parents : Parents) (edge : Edge) : Except Raised Unit := do
  require ((parentOf parents edge.1).isSome ∧ (parentOf parents edge.2).isSome) .KeyError
  require (root parents edge.1 ≠ root parents edge.2) (.ValueError "IDENTITY_DISTINCT_REQUIRED")

/-- The permissions in the order of the plan. -/
def orderedPermissions (permissions : List PermissionIntentRevision) : List PermissionIntentRevision :=
  sortedBy (fun item : PermissionIntentRevision => (toLex (item.intentId, item.revision) : String ×ₗ Nat)) permissions

/-- `IdentityRequirementPlanner().plan`. -/
def plan (digest : Digest) (permissions : List PermissionIntentRevision) (controls : List AllowControlRequirement) :
    Except Raised IdentityRequirementPlan := do
  let ordered := orderedPermissions permissions
  require (∀ item ∈ ordered, relationValid item.toFrozenPermission = true)
    (.ValueError "PERMISSION_RELATION_REVIEW_REQUIRED")
  require (ordered.map fun item => item.intentId).Nodup
    (.ValueError "current permission identities must be unique")
  let own := (ordered.flatMap positionsOf).map fun position => (position, position)
  let owned ← ordered.foldlM (mergeOwns ordered) own
  let parents ← controls.foldlM (mergeControl ordered) owned
  let edges := relationEdges ordered ++ tenantEdges parents ordered
  edges.forM (checkEdge parents)
  let specs ← (actorsOf ordered parents).mapM (actorSlots digest ordered parents edges)
  let slots := specs.flatten
  let pairs ← edges.mapM (edgeSlots slots)
  let assigned ← ordered.mapM (permissionSlots slots)
  return {
    allocationMode := if ∃ actor ∈ actorsOf ordered parents, 12 < (components ordered parents actor).length
      then .CONSERVATIVE else .EXACT
    slots := slots.map (requirementSlot pairs)
    permissions := assigned }

end Jiejian.Preparation.Identities
