import Jiejian.Preparation.Slots

namespace Jiejian.Preparation.Planning

open Library Library.Document Library.Outcome Library.Sorting Errors
open Protocol.Codec Protocol.Conditions Protocol.Cases Models Identities Colors Merging Allocation Slots

/-- Every edge of a plan: the pairs of positions that its slots keep apart. -/
def edgesOf (ordered : List PermissionIntentRevision) (parents : Parents) : List Edge :=
  relationEdges ordered ++ tenantEdges parents ordered

/-- The intermediate values of an accepted plan. -/
structure Planned (digest : Digest) (permissions : List PermissionIntentRevision)
    (controls : List AllowControlRequirement) (result : IdentityRequirementPlan) (parents : Parents)
    (specs : List (List SlotSpec)) (pairs : List (String × String)) : Prop where
  relations : ∀ item ∈ orderedPermissions permissions, relationValid item.toFrozenPermission = true
  distinct : ((orderedPermissions permissions).map fun item => item.intentId).Nodup
  merged : mergeAll (orderedPermissions permissions) controls = .ok parents
  separated : ∀ edge ∈ edgesOf (orderedPermissions permissions) parents, checkEdge parents edge = .ok ()
  allocated : Allocated digest (orderedPermissions permissions) parents
    (edgesOf (orderedPermissions permissions) parents) specs
  paired : List.Forall₂ (fun edge pair => edgeSlots specs.flatten edge = .ok pair)
    (edgesOf (orderedPermissions permissions) parents) pairs
  slots : result.slots = specs.flatten.map (requirementSlot pairs)
  assigned : List.Forall₂ (fun item entry => permissionSlots specs.flatten item = .ok entry)
    (orderedPermissions permissions) result.permissions

theorem plan_eq_ok {digest : Digest} {permissions : List PermissionIntentRevision}
    {controls : List AllowControlRequirement} {result : IdentityRequirementPlan}
    (accepted : plan digest permissions controls = .ok result) :
    ∃ parents specs pairs, Planned digest permissions controls result parents specs pairs := by
  unfold plan at accepted
  dsimp only at accepted
  obtain ⟨_, relations, rest⟩ := bind_eq_ok.mp accepted
  obtain ⟨_, distinct, rest⟩ := bind_eq_ok.mp rest
  obtain ⟨owned, first, rest⟩ := bind_eq_ok.mp rest
  obtain ⟨parents, second, rest⟩ := bind_eq_ok.mp rest
  obtain ⟨_, separated, rest⟩ := bind_eq_ok.mp rest
  obtain ⟨specs, allocated, rest⟩ := bind_eq_ok.mp rest
  obtain ⟨pairs, paired, rest⟩ := bind_eq_ok.mp rest
  obtain ⟨assigned, made, rest⟩ := bind_eq_ok.mp rest
  have same := Except.ok.inj rest
  refine ⟨parents, specs, pairs, require_eq_ok.mp relations, require_eq_ok.mp distinct, ?_,
    forM_eq_ok.mp separated, mapM_eq_ok_iff.mp allocated, mapM_eq_ok_iff.mp paired, ?_, ?_⟩
  · unfold mergeAll
    exact bind_eq_ok.mpr ⟨owned, first, second⟩
  · rw [← same]
  · rw [← same]
    exact mapM_eq_ok_iff.mp made

section Accepted

variable {digest : Digest} {permissions : List PermissionIntentRevision} {controls : List AllowControlRequirement}
  {result : IdentityRequirementPlan} {parents : Parents} {specs : List (List SlotSpec)}
  {pairs : List (String × String)}

theorem Planned.merging (planned : Planned digest permissions controls result parents specs pairs) :
    Merging (orderedPermissions permissions) ((orderedPermissions permissions).flatMap ownPairs ++
      controls.flatMap controlPairs) parents :=
  merging_all planned.distinct planned.merged

@[simp] theorem mem_orderedPermissions {item : PermissionIntentRevision} :
    item ∈ orderedPermissions permissions ↔ item ∈ permissions :=
  mem_sortedBy

/-- The plan stores for each permission what it reads for its positions. -/
theorem Planned.slotAt_eq (planned : Planned digest permissions controls result parents specs pairs)
    {item : PermissionIntentRevision} (listed : item ∈ permissions) (place : Place) :
    slotAt result (item.intentId, place) = positionSlot specs.flatten (item.intentId, place) := by
  have inOrdered : item ∈ orderedPermissions permissions := mem_orderedPermissions.mpr listed
  have named : ∀ {other entry}, permissionSlots specs.flatten other = .ok entry →
      entry.permission.intentId = other.intentId ∧
      entry.subjectSlotId = positionSlot specs.flatten (other.intentId, .subject) ∧
      some entry.resourceOwnerSlotId = positionSlot specs.flatten (other.intentId, .owner) := by
    intro other entry made
    unfold permissionSlots at made
    obtain ⟨owner, found, last⟩ := bind_eq_ok.mp made
    have same := Except.ok.inj last
    rw [← same]
    exact ⟨rfl, rfl, (orRaise_eq_ok.mp found).symm⟩
  obtain ⟨mine, inResult, made⟩ := partner_right planned.assigned inOrdered
  have present : (result.permissions.find? fun entry => entry.permission.intentId = item.intentId).isSome := by
    rw [List.find?_isSome]
    exact ⟨mine, inResult, by simpa using (named made).1⟩
  obtain ⟨entry, found⟩ := Option.isSome_iff_exists.mp present
  obtain ⟨other, inOther, madeOther⟩ := partner_left planned.assigned (List.mem_of_find?_eq_some found)
  have key : entry.permission.intentId = item.intentId := by simpa using List.find?_some found
  have same : other = item :=
    Table.Keyed.eq_of_mem planned.distinct inOther inOrdered ((named madeOther).1.symm.trans key)
  subst same
  obtain ⟨-, subject, owner⟩ := named madeOther
  cases place with
  | subject => simp only [slotAt, found, Option.bind_some, subject]
  | owner => simp only [slotAt, found, Option.bind_some, owner]

theorem mem_positions {position : Position} :
    position ∈ (orderedPermissions permissions).flatMap positionsOf ↔ position ∈ permissions.flatMap positionsOf := by
  simp only [List.mem_flatMap, mem_orderedPermissions]

theorem Planned.actorOf_eq (planned : Planned digest permissions controls result parents specs pairs)
    (position : Position) : actorOf (orderedPermissions permissions) position = actorOf permissions position := by
  unfold actorOf
  have same := Table.Keyed.lookup_perm planned.distinct (sortedBy_perm _ permissions) position.1
  exact congrArg _ same

/-- The position of an item, with the part it is for. -/
theorem exists_item {position : Position} (listed : position ∈ permissions.flatMap positionsOf) :
    ∃ item ∈ permissions, position = (item.intentId, position.2) := by
  obtain ⟨item, member, inside⟩ := List.mem_flatMap.mp listed
  exact ⟨item, member, Prod.ext (positionsOf_named inside) rfl⟩

theorem Planned.slotAt_listed (planned : Planned digest permissions controls result parents specs pairs)
    {position : Position} (listed : position ∈ permissions.flatMap positionsOf) :
    slotAt result position = positionSlot specs.flatten position := by
  obtain ⟨item, member, same⟩ := exists_item listed
  rw [same]
  exact planned.slotAt_eq member position.2

/-- Every position has a slot of its actor revision. -/
theorem Planned.position_slot (planned : Planned digest permissions controls result parents specs pairs)
    {position : Position} (listed : position ∈ permissions.flatMap positionsOf) :
    ∃ slot ∈ result.slots, slotAt result position = some slot.slotId ∧
      actorOf permissions position = some (slot.actorId, slot.actorRevision) := by
  obtain ⟨actor, node, color, spec, serves, found⟩ :=
    positionSlot_eq_some planned.merging planned.allocated (mem_positions.mpr listed)
  have owned : spec.actor = actor := by
    obtain ⟨colors, slots, -, -, -, made⟩ := serves.colored
    rw [made]
    rfl
  refine ⟨requirementSlot pairs spec, ?_, ?_, ?_⟩
  · rw [planned.slots]
    exact List.mem_map.mpr ⟨spec, serves.member, rfl⟩
  · rw [planned.slotAt_listed listed, found]
    rfl
  · rw [← planned.actorOf_eq position, serves.owned, ← owned]
    rfl

theorem Planned.slotAt_none (planned : Planned digest permissions controls result parents specs pairs)
    {item : PermissionIntentRevision} (listed : item ∈ permissions)
    (anonymous : anonymousCondition item.conditions = true) : slotAt result (item.intentId, .subject) = none := by
  rw [planned.slotAt_eq listed]
  apply positionSlot_eq_none planned.merging planned.allocated
  intro member
  obtain ⟨other, inOther, inside⟩ := List.mem_flatMap.mp member
  have same : other = item :=
    Table.Keyed.eq_of_mem planned.distinct inOther (mem_orderedPermissions.mpr listed) (positionsOf_named inside).symm
  subst same
  have authenticated := positionsOf_subject.mp inside
  rw [anonymous] at authenticated
  cases authenticated

theorem mustShare_congr {left right : Position} :
    MustShare (orderedPermissions permissions) controls left right ↔ MustShare permissions controls left right := by
  constructor
  · intro share
    cases share with
    | owns listed authenticated relation => exact .owns (mem_orderedPermissions.mp listed) authenticated relation
    | twin listed resolved => exact .twin listed resolved
  · intro share
    cases share with
    | owns listed authenticated relation => exact .owns (mem_orderedPermissions.mpr listed) authenticated relation
    | twin listed resolved => exact .twin listed resolved

theorem mustShare_eq : MustShare (orderedPermissions permissions) controls = MustShare permissions controls := by
  funext left right
  exact propext mustShare_congr

theorem mustDiffer_congr {left right : Position} :
    MustDiffer (orderedPermissions permissions) controls left right ↔ MustDiffer permissions controls left right := by
  constructor
  · intro differ
    cases differ with
    | accounts listed authenticated relation =>
      exact .accounts (mem_orderedPermissions.mp listed) authenticated relation
    | tenants inLeft inRight opposed owner =>
      rw [mustShare_eq] at owner
      exact .tenants (mem_orderedPermissions.mp inLeft) (mem_orderedPermissions.mp inRight) opposed owner
  · intro differ
    cases differ with
    | accounts listed authenticated relation =>
      exact .accounts (mem_orderedPermissions.mpr listed) authenticated relation
    | tenants inLeft inRight opposed owner =>
      rw [← mustShare_eq] at owner
      exact .tenants (mem_orderedPermissions.mpr inLeft) (mem_orderedPermissions.mpr inRight) opposed owner

/-- Positions that must share an account share a slot. -/
theorem Planned.shared (planned : Planned digest permissions controls result parents specs pairs)
    {left right : Position} (share : MustShare permissions controls left right) :
    slotAt result left = slotAt result right := by
  have pair := mustShare_iff_pair.mp (mustShare_congr.mpr share)
  obtain ⟨same, knownLeft, knownRight⟩ := planned.merging.joined _ pair
  have inLeft := (planned.merging.keys left).mp knownLeft
  have inRight := (planned.merging.keys right).mp knownRight
  rw [planned.slotAt_listed (mem_positions.mp inLeft), planned.slotAt_listed (mem_positions.mp inRight)]
  exact positionSlot_congr planned.merging planned.allocated inLeft inRight same

theorem edgeSlots_eq_ok {slots : List SlotSpec} {edge : Edge} {pair : String × String} :
    edgeSlots slots edge = .ok pair ↔
      positionSlot slots edge.1 = some pair.1 ∧ positionSlot slots edge.2 = some pair.2 ∧ pair.1 ≠ pair.2 := by
  unfold edgeSlots
  simp only [bind_eq_ok, orRaise_eq_ok, require_eq_ok]
  constructor
  · rintro ⟨left, foundLeft, right, foundRight, _, differ, same⟩
    have built := Except.ok.inj same
    rw [← built]
    exact ⟨foundLeft, foundRight, differ⟩
  · rintro ⟨foundLeft, foundRight, differ⟩
    exact ⟨pair.1, foundLeft, pair.2, foundRight, (), differ, rfl⟩

/-- Positions that must differ have two slots, and the plan lists the pair. -/
theorem Planned.apart (planned : Planned digest permissions controls result parents specs pairs)
    {left right : Position} (differ : MustDiffer permissions controls left right) :
    ∃ first second, slotAt result left = some first ∧ slotAt result right = some second ∧ first ≠ second := by
  have read : ∀ {edge}, edge ∈ edgesOf (orderedPermissions permissions) parents →
      ∃ first second, slotAt result edge.1 = some first ∧ slotAt result edge.2 = some second ∧ first ≠ second := by
    intro edge member
    obtain ⟨_, known, _⟩ := bind_eq_ok.mp (planned.separated edge member)
    obtain ⟨knownLeft, knownRight⟩ := require_eq_ok.mp known
    obtain ⟨pair, -, read⟩ := partner_right planned.paired member
    obtain ⟨atLeft, atRight, distinct⟩ := edgeSlots_eq_ok.mp read
    have inLeft := mem_positions.mp ((planned.merging.keys edge.1).mp knownLeft)
    have inRight := mem_positions.mp ((planned.merging.keys edge.2).mp knownRight)
    rw [planned.slotAt_listed inLeft, planned.slotAt_listed inRight]
    exact ⟨pair.1, pair.2, atLeft, atRight, distinct⟩
  rcases (mustDiffer_iff_edge planned.merging).mp (.inl (mustDiffer_congr.mpr differ)) with edge | edge
  · exact read edge
  · obtain ⟨first, second, atFirst, atSecond, distinct⟩ := read edge
    exact ⟨second, first, atSecond, atFirst, distinct.symm⟩

theorem mem_distinctSlots {slotId other : String} :
    other ∈ distinctSlots pairs slotId ↔ (slotId, other) ∈ pairs ∨ (other, slotId) ∈ pairs := by
  unfold distinctSlots
  rw [mem_sortedSet, List.mem_flatMap]
  constructor
  · rintro ⟨⟨first, second⟩, member, inside⟩
    rcases List.mem_append.mp inside with left | right
    · by_cases same : first = slotId
      · rw [if_pos same, List.mem_singleton] at left
        subst same left
        exact .inl member
      · rw [if_neg same] at left
        cases left
    · by_cases same : second = slotId
      · rw [if_pos same, List.mem_singleton] at right
        subst same right
        exact .inr member
      · rw [if_neg same] at right
        cases right
  · rintro (member | member)
    · exact ⟨_, member, by simp⟩
    · exact ⟨_, member, by simp⟩

/-- The slots of one actor among those of all actors. -/
theorem flatten_filter {related : Actor → List SlotSpec → Prop} {actors : List Actor}
    (allocated : List.Forall₂ related actors specs)
    (owned : ∀ actor slots, related actor slots → ∀ spec ∈ slots, spec.actor = actor) (distinct : actors.Nodup)
    (actor : Actor) :
    (actor ∈ actors ∧ related actor (specs.flatten.filter fun spec => spec.actor = actor)) ∨
      (actor ∉ actors ∧ (specs.flatten.filter fun spec => spec.actor = actor) = []) := by
  induction allocated with
  | nil => exact .inr ⟨List.not_mem_nil, rfl⟩
  | @cons first slots rest others here _ ih =>
    obtain ⟨fresh, later⟩ := List.nodup_cons.mp distinct
    rw [List.flatten_cons, List.filter_append]
    by_cases same : first = actor
    · have all : (slots.filter fun spec => spec.actor = actor) = slots := by
        rw [List.filter_eq_self]
        intro spec member
        simpa using (owned first slots here spec member).trans same
      have none : (others.flatten.filter fun spec => spec.actor = actor) = [] := by
        rcases ih later with ⟨again, _⟩ | ⟨_, empty⟩
        · rw [← same] at again
          exact absurd again fresh
        · exact empty
      rw [all, none, List.append_nil, ← same]
      exact .inl ⟨by simp, here⟩
    · have none : (slots.filter fun spec => spec.actor = actor) = [] := by
        rw [List.filter_eq_nil_iff]
        intro spec member counted
        exact same ((owned first slots here spec member).symm.trans (by simpa using counted))
      rw [none, List.nil_append]
      rcases ih later with ⟨member, holds⟩ | ⟨absent, empty⟩
      · exact .inl ⟨by simp [member], holds⟩
      · refine .inr ⟨?_, empty⟩
        intro member
        rcases List.mem_cons.mp member with here' | there
        · exact same here'.symm
        · exact absent there

/-- The slots of an actor, or none when no position is its own. -/
theorem Planned.actor_slots (planned : Planned digest permissions controls result parents specs pairs)
    (actor : Actor) :
    (actor ∈ actorsOf (orderedPermissions permissions) parents ∧ ∃ colors slots,
      Colored digest (orderedPermissions permissions) parents (edgesOf (orderedPermissions permissions) parents)
        actor colors slots ∧ actorSlotsOf result actor = slots.map (requirementSlot pairs)) ∨
      actorSlotsOf result actor = [] := by
  have owned : ∀ actor slots, actorSlots digest (orderedPermissions permissions) parents
      (edgesOf (orderedPermissions permissions) parents) actor = .ok slots → ∀ spec ∈ slots, spec.actor = actor := by
    intro other slots made spec member
    obtain ⟨colors, colored⟩ := actorSlots_eq_ok.mp made
    rw [colored.slots_eq] at member
    obtain ⟨color, -, same⟩ := List.mem_map.mp member
    rw [← same]
    rfl
  have distinct : (actorsOf (orderedPermissions permissions) parents).Nodup := by
    unfold actorsOf
    exact (sortedBy_perm _ _).nodup_iff.mpr (List.nodup_dedup _)
  have mine : actorSlotsOf result actor =
      (specs.flatten.filter fun spec => spec.actor = actor).map (requirementSlot pairs) := by
    rw [actorSlotsOf, planned.slots, List.filter_map]
    rfl
  rw [mine]
  rcases flatten_filter planned.allocated owned distinct actor with ⟨member, made⟩ | ⟨_, empty⟩
  · obtain ⟨colors, colored⟩ := actorSlots_eq_ok.mp made
    exact .inl ⟨member, colors, _, colored, rfl⟩
  · rw [empty]
    exact .inr rfl

/-- The ordinals of an actor count from one without a gap. -/
theorem Planned.ordinals (planned : Planned digest permissions controls result parents specs pairs) (actor : Actor) :
    (actorSlotsOf result actor).map (·.ordinal) = List.range' 1 (actorSlotsOf result actor).length := by
  rcases planned.actor_slots actor with ⟨_, colors, slots, colored, mine⟩ | empty
  · rw [mine, colored.slots_eq, List.map_map, List.map_map, List.length_map, List.length_map, List.length_range,
      List.range'_eq_map_range]
    apply List.map_congr_left
    intro color _
    exact Nat.add_comm color 1
  · rw [empty]
    rfl

theorem mem_actorPositions {actor : Actor} {position : Position} :
    position ∈ actorPositions permissions actor ↔
      position ∈ permissions.flatMap positionsOf ∧ actorOf permissions position = some actor := by
  rw [actorPositions, List.mem_filter, decide_eq_true_iff]

/-- The positions of a group have one account in every assignment. -/
theorem Planned.account_eq (planned : Planned digest permissions controls result parents specs pairs) {β : Type}
    {account : Position → β} {actor : Actor} (assignment : Assignment permissions controls actor account)
    {left right : Position} (inLeft : left ∈ actorPositions permissions actor)
    (inRight : right ∈ actorPositions permissions actor) (same : root parents left = root parents right) :
    account left = account right := by
  classical
  let value : Position → Option β := fun position =>
    if position ∈ actorPositions permissions actor then some (account position) else none
  have respects : Respecting value parents := by
    apply planned.merging.respecting
    intro pair member
    obtain ⟨joined, knownLeft, knownRight⟩ := planned.merging.joined pair member
    have roots := planned.merging.actors.root_eq
    have actors : actorOf permissions pair.1 = actorOf permissions pair.2 := by
      rw [← planned.actorOf_eq, ← planned.actorOf_eq, ← roots pair.1, ← roots pair.2, joined]
    have listedLeft := mem_positions.mp ((planned.merging.keys pair.1).mp knownLeft)
    have listedRight := mem_positions.mp ((planned.merging.keys pair.2).mp knownRight)
    have share : MustShare permissions controls pair.1 pair.2 :=
      mustShare_congr.mp (mustShare_iff_pair.mpr member)
    by_cases mine : actorOf permissions pair.1 = some actor
    · have left' := mem_actorPositions.mpr ⟨listedLeft, mine⟩
      have right' := mem_actorPositions.mpr ⟨listedRight, actors.symm.trans mine⟩
      simp only [value, if_pos left', if_pos right', assignment.shares _ left' _ right' share]
    · have left' : pair.1 ∉ actorPositions permissions actor := fun inside => mine (mem_actorPositions.mp inside).2
      have right' : pair.2 ∉ actorPositions permissions actor :=
        fun inside => mine (actors.trans (mem_actorPositions.mp inside).2)
      simp only [value, if_neg left', if_neg right']
  have values : value left = value right := by
    rw [← respects.root_eq left, ← respects.root_eq right, same]
  simp only [value, if_pos inLeft, if_pos inRight] at values
  exact Option.some.inj values

theorem mem_neighborsOf {groups : List (List Position)} {edges : List Edge} {node other : Nat} :
    other ∈ neighborsOf groups edges node ↔ ∃ edge ∈ edges,
      (groupIndex groups edge.1 = some node ∧ groupIndex groups edge.2 = some other) ∨
        (groupIndex groups edge.2 = some node ∧ groupIndex groups edge.1 = some other) := by
  unfold neighborsOf
  rw [List.mem_dedup, List.mem_flatMap]
  apply exists_congr
  intro edge
  apply and_congr_right
  intro _
  cases left : groupIndex groups edge.1 with
  | none => simp
  | some first =>
    cases right : groupIndex groups edge.2 with
    | none => simp
    | some second =>
      simp only [List.mem_append, List.mem_ite_nil_right, List.mem_singleton, Option.some.injEq]
      constructor
      · rintro (⟨rfl, rfl⟩ | ⟨rfl, rfl⟩)
        · exact .inl ⟨rfl, rfl⟩
        · exact .inr ⟨rfl, rfl⟩
      · rintro (⟨rfl, rfl⟩ | ⟨rfl, rfl⟩)
        · exact .inl ⟨rfl, rfl⟩
        · exact .inr ⟨rfl, rfl⟩

theorem component_nonempty {ordered : List PermissionIntentRevision} (forest : Forest parents) {actor : Actor}
    {group : List Position} (member : group ∈ components ordered parents actor) : ∃ position, position ∈ group := by
  obtain ⟨representative, listed, -, rfl⟩ := mem_components.mp member
  obtain ⟨position, known, rfl⟩ := mem_representatives.mp listed
  have own := root_root forest known
  exact ⟨_, mem_groupOf.mpr own⟩

/-- An actor with few groups has no more slots than any assignment has accounts. -/
theorem Planned.minimal (planned : Planned digest permissions controls result parents specs pairs) {β : Type}
    [DecidableEq β] {account : Position → β} {actor : Actor}
    (assignment : Assignment permissions controls actor account)
    (few : (actorGroups permissions controls actor).length ≤ 12) :
    (actorSlotsOf result actor).length ≤ ((actorPositions permissions actor).map account).dedup.length := by
  rcases planned.actor_slots actor with ⟨member, colors, slots, colored, mine⟩ | empty
  · have groups : actorGroups permissions controls actor =
        components (orderedPermissions permissions) parents actor := by
      rw [actorGroups, planned.merged]
    rw [groups] at few
    generalize grouped : components (orderedPermissions permissions) parents actor = listed at few
    have positions : ∀ {node : Nat} {group position}, listed[node]? = some group → position ∈ group →
        position ∈ actorPositions permissions actor := by
      intro node group position stored inside
      rw [← grouped] at stored
      have owned := (mem_component_iff planned.merging).mp ⟨group, List.mem_of_getElem? stored, inside⟩
      exact mem_actorPositions.mpr ⟨mem_positions.mp owned.1, (planned.actorOf_eq position).symm.trans owned.2⟩
    have accounts : ∀ {node : Nat} {group left right}, listed[node]? = some group → left ∈ group → right ∈ group →
        account left = account right := by
      intro node group left right stored inLeft inRight
      apply planned.account_eq assignment (positions stored inLeft) (positions stored inRight)
      rw [← grouped] at stored
      obtain ⟨representative, -, -, same⟩ := mem_components.mp (List.mem_of_getElem? stored)
      rw [← same] at inLeft inRight
      exact (mem_groupOf.mp inLeft).2.trans (mem_groupOf.mp inRight).2.symm
    let used := ((actorPositions permissions actor).map account).dedup
    let coloring : Nat → Nat := fun node =>
      ((listed[node]?.bind List.head?).map fun position => used.idxOf (account position)).getD 0
    have coloring_eq : ∀ {node : Nat} {group position}, listed[node]? = some group → position ∈ group →
        coloring node = used.idxOf (account position) := by
      intro node group position stored inside
      cases group with
      | nil => cases inside
      | cons first rest =>
        have here : coloring node = used.idxOf (account first) := by
          simp only [coloring, stored, Option.bind_some, List.head?_cons, Option.map_some, Option.getD_some]
        rw [here, accounts stored (by simp) inside]
    have inUsed : ∀ {position}, position ∈ actorPositions permissions actor → account position ∈ used := by
      intro position inside
      exact List.mem_dedup.mpr (List.mem_map.mpr ⟨position, inside, rfl⟩)
    have proper : Proper (graph listed (edgesOf (orderedPermissions permissions) parents))
        (graph listed (edgesOf (orderedPermissions permissions) parents)).length coloring := by
      intro node bound other neighbor _ same
      rw [graph_length] at bound
      have row : (graph listed (edgesOf (orderedPermissions permissions) parents)).getD node [] =
          neighborsOf listed (edgesOf (orderedPermissions permissions) parents) node := by
        rw [graph, List.getD_eq_getElem?_getD, List.getElem?_map, List.getElem?_range bound]
        rfl
      rw [row] at neighbor
      obtain ⟨edge, inEdges, ends⟩ := mem_neighborsOf.mp neighbor
      have clash : ∀ {left right : Nat}, groupIndex listed edge.1 = some left → groupIndex listed edge.2 = some right →
          coloring left ≠ coloring right := by
        intro left right atLeft atRight equal
        rw [← grouped] at atLeft atRight
        obtain ⟨first, stored, inside⟩ := groupIndex_eq_some.mp atLeft
        obtain ⟨second, stored', inside'⟩ := groupIndex_eq_some.mp atRight
        rw [grouped] at stored stored'
        rw [coloring_eq stored inside, coloring_eq stored' inside'] at equal
        have same := (List.idxOf_inj (inUsed (positions stored inside))).mp equal
        have differ := (mustDiffer_iff_edge planned.merging).mpr (.inl inEdges)
        rcases differ with forward | backward
        · exact assignment.differs _ (positions stored inside) _ (positions stored' inside')
            (mustDiffer_congr.mp forward) same
        · exact assignment.differs _ (positions stored' inside') _ (positions stored inside)
            (mustDiffer_congr.mp backward) same.symm
      rcases ends with ⟨first, second⟩ | ⟨first, second⟩
      · exact clash first second same.symm
      · exact clash second first same
    have bounded : ∀ node < (graph listed (edgesOf (orderedPermissions permissions) parents)).length,
        coloring node < used.length := by
      intro node bound
      rw [graph_length] at bound
      have stored : listed[node]? = some listed[node] := List.getElem?_eq_getElem bound
      have inside : listed[node] ∈ components (orderedPermissions permissions) parents actor := by
        rw [grouped]
        exact List.getElem_mem bound
      obtain ⟨position, contained⟩ := component_nonempty planned.merging.forest inside
      rw [coloring_eq stored contained]
      exact List.idxOf_lt_length_of_mem (inUsed (positions stored contained))
    have filled : graph listed (edgesOf (orderedPermissions permissions) parents) ≠ [] := by
      intro none
      have length := graph_length listed (edgesOf (orderedPermissions permissions) parents)
      rw [none, List.length_nil] at length
      simp only [actorsOf, mem_sortedBy, List.mem_dedup, List.mem_filterMap] at member
      obtain ⟨representative, inside, owned⟩ := member
      have group : groupOf parents representative ∈ listed := by
        rw [← grouped]
        exact mem_components.mpr ⟨representative, inside, owned, rfl⟩
      have short := List.length_pos_of_mem group
      omega
    have palette := colored.colored
    rw [grouped] at palette
    have least := colorComponents_minimal palette (by rw [graph_length]; exact few) filled proper bounded
    rw [mine, colored.slots_eq, List.length_map, List.length_map, List.length_range]
    exact least
  · rw [empty]
    exact Nat.zero_le _

/-- The permission has the slot at one of its positions. -/
def Uses (entry : PermissionIdentitySlots) (slotId : String) : Prop :=
  entry.subjectSlotId = some slotId ∨ entry.resourceOwnerSlotId = slotId

theorem uses_of_slotAt {position : Position} {slotId : String} (found : slotAt result position = some slotId) :
    ∃ entry ∈ result.permissions, Uses entry slotId := by
  obtain ⟨entry, first, read⟩ := Option.bind_eq_some_iff.mp found
  refine ⟨entry, List.mem_of_find?_eq_some first, ?_⟩
  cases place : position.2 with
  | subject =>
    rw [place] at read
    exact .inl read
  | owner =>
    rw [place] at read
    exact .inr (Option.some.inj read)

/-- Every slot specification serves a position. -/
theorem Planned.spec_used (planned : Planned digest permissions controls result parents specs pairs) {spec : SlotSpec}
    (member : spec ∈ specs.flatten) : ∃ position ∈ spec.positions, position ∈ permissions.flatMap positionsOf := by
  obtain ⟨slots, inSpecs, inSlots⟩ := List.mem_flatten.mp member
  obtain ⟨actor, inActors, made⟩ := partner_left planned.allocated inSpecs
  obtain ⟨colors, colored⟩ := actorSlots_eq_ok.mp made
  rw [colored.slots_eq] at inSlots
  obtain ⟨color, small, rfl⟩ := List.mem_map.mp inSlots
  -- The actor has a group, so it has colors, and none of them is skipped.
  have filled : colors ≠ [] := by
    intro none
    have length := colored.length_eq
    simp only [actorsOf, mem_sortedBy, List.mem_dedup, List.mem_filterMap] at inActors
    obtain ⟨representative, inside, owned⟩ := inActors
    have group := List.length_pos_of_mem (mem_components.mpr ⟨representative, inside, owned, rfl⟩)
    rw [none, List.length_nil] at length
    omega
  have inUse : color ∈ colors :=
    (colorComponents_gapFree colored.colored).mem filled (by have bound := List.mem_range.mp small; omega)
  obtain ⟨node, stored⟩ := List.mem_iff_getElem?.mp inUse
  have bound : node < (components (orderedPermissions permissions) parents actor).length := by
    rw [← colored.length_eq]
    exact (List.getElem?_eq_some_iff.mp stored).1
  have atGroup := List.getElem?_eq_getElem bound
  obtain ⟨position, inside⟩ := component_nonempty planned.merging.forest (List.mem_of_getElem? atGroup)
  have known := ((mem_component_iff planned.merging).mp ⟨_, List.mem_of_getElem? atGroup, inside⟩).1
  exact ⟨position, mem_slotSpec.mpr ⟨node, _, atGroup, inside, stored⟩, mem_positions.mp known⟩

/-- No slot of a plan is idle. -/
theorem Planned.slot_used (planned : Planned digest permissions controls result parents specs pairs)
    {slot : IdentityRequirementSlot} (member : slot ∈ result.slots) :
    ∃ entry ∈ result.permissions, Uses entry slot.slotId := by
  rw [planned.slots] at member
  obtain ⟨spec, inSpecs, rfl⟩ := List.mem_map.mp member
  obtain ⟨position, contains, listed⟩ := planned.spec_used inSpecs
  obtain ⟨_, _, _, serves⟩ := serves_of_contains planned.merging planned.allocated inSpecs contains
  obtain ⟨_, _, _, other, serves', found⟩ :=
    positionSlot_eq_some planned.merging planned.allocated (mem_positions.mpr listed)
  have same : other = spec := serves'.unique planned.merging serves rfl
  rw [same] at found
  exact uses_of_slotAt ((planned.slotAt_listed listed).trans found)

/-- A slot is required by intents of the plan only. -/
theorem Planned.required_named (planned : Planned digest permissions controls result parents specs pairs)
    {slot : IdentityRequirementSlot} (member : slot ∈ result.slots) {intentId : String}
    (required : intentId ∈ slot.requiredByIntentIds) : ∃ item ∈ permissions, item.intentId = intentId := by
  rw [planned.slots] at member
  obtain ⟨spec, inSpecs, rfl⟩ := List.mem_map.mp member
  obtain ⟨position, contains, rfl⟩ := List.mem_map.mp (mem_sortedSet.mp required)
  obtain ⟨_, _, _, serves⟩ := serves_of_contains planned.merging planned.allocated inSpecs contains
  obtain ⟨group, stored, inside⟩ := groupIndex_eq_some.mp serves.index
  have known := ((mem_component_iff planned.merging).mp ⟨group, List.mem_of_getElem? stored, inside⟩).1
  obtain ⟨item, listed, named⟩ := exists_item (mem_positions.mp known)
  exact ⟨item, listed, (congrArg Prod.fst named).symm⟩

/-- A slot is distinct from slots in use only. -/
theorem Planned.distinct_used (planned : Planned digest permissions controls result parents specs pairs)
    {slot : IdentityRequirementSlot} (member : slot ∈ result.slots) {slotId : String}
    (distinct : slotId ∈ slot.distinctSlotIds) : ∃ entry ∈ result.permissions, Uses entry slotId := by
  have read : ∀ {edge pair}, edge ∈ edgesOf (orderedPermissions permissions) parents →
      edgeSlots specs.flatten edge = .ok pair →
      slotAt result edge.1 = some pair.1 ∧ slotAt result edge.2 = some pair.2 := by
    intro edge pair inEdges made
    obtain ⟨_, known, _⟩ := bind_eq_ok.mp (planned.separated edge inEdges)
    obtain ⟨knownLeft, knownRight⟩ := require_eq_ok.mp known
    obtain ⟨atLeft, atRight, -⟩ := edgeSlots_eq_ok.mp made
    rw [planned.slotAt_listed (mem_positions.mp ((planned.merging.keys edge.1).mp knownLeft)),
      planned.slotAt_listed (mem_positions.mp ((planned.merging.keys edge.2).mp knownRight))]
    exact ⟨atLeft, atRight⟩
  rw [planned.slots] at member
  obtain ⟨spec, -, rfl⟩ := List.mem_map.mp member
  rcases mem_distinctSlots.mp distinct with pair | pair
  · obtain ⟨edge, inEdges, made⟩ := partner_left planned.paired pair
    exact uses_of_slotAt (read inEdges made).2
  · obtain ⟨edge, inEdges, made⟩ := partner_left planned.paired pair
    exact uses_of_slotAt (read inEdges made).1

/-- The order of the permissions does not matter. -/
theorem Planned.plan_perm (planned : Planned digest permissions controls result parents specs pairs)
    {other : List PermissionIntentRevision} (perm : permissions.Perm other) :
    orderedPermissions permissions = orderedPermissions other := by
  apply sortedBy_congr perm
  intro first inFirst second inSecond same
  have keys := toLex.injective same
  apply Table.Keyed.eq_of_mem planned.distinct (mem_orderedPermissions.mpr inFirst)
    (mem_orderedPermissions.mpr inSecond)
  exact (Prod.mk.inj keys).1

end Accepted

/-- What a plan promises: each position has a slot of its actor, the slots follow the rules, and
none of them is spared by another allocation of a small actor. -/
structure SlotAllocation (permissions : List PermissionIntentRevision) (controls : List AllowControlRequirement)
    (result : IdentityRequirementPlan) : Prop where
  entries : result.permissions.map (·.permission) =
    (orderedPermissions permissions).map (·.toPermissionReference)
  owners : ∀ item ∈ permissions, ∃ slot ∈ result.slots,
    slotAt result (item.intentId, .owner) = some slot.slotId ∧ slot.actorId = item.resourceOwnerActorId ∧
      slot.actorRevision = item.resourceOwnerActorRevision
  subjects : ∀ item ∈ permissions, anonymousCondition item.conditions = false → ∃ slot ∈ result.slots,
    slotAt result (item.intentId, .subject) = some slot.slotId ∧ slot.actorId = item.subjectActorId ∧
      slot.actorRevision = item.subjectActorRevision
  anonymous : ∀ item ∈ permissions, anonymousCondition item.conditions = true →
    slotAt result (item.intentId, .subject) = none
  shares : ∀ left right, MustShare permissions controls left right → slotAt result left = slotAt result right
  differs : ∀ left right, MustDiffer permissions controls left right →
    ∃ first second, slotAt result left = some first ∧ slotAt result right = some second ∧ first ≠ second
  symmetric : ∀ first ∈ result.slots, ∀ second ∈ result.slots,
    second.slotId ∈ first.distinctSlotIds → first.slotId ∈ second.distinctSlotIds
  irreflexive : ∀ slot ∈ result.slots, slot.slotId ∉ slot.distinctSlotIds
  ordinals : ∀ actor, (actorSlotsOf result actor).map (·.ordinal) =
    List.range' 1 (actorSlotsOf result actor).length
  minimal : ∀ {β : Type} [DecidableEq β] (account : Position → β) (actor : Actor),
    Assignment permissions controls actor account → (actorGroups permissions controls actor).length ≤ 12 →
    (actorSlotsOf result actor).length ≤ ((actorPositions permissions actor).map account).dedup.length

theorem Planned.slotAllocation {digest : Digest} {permissions : List PermissionIntentRevision}
    {controls : List AllowControlRequirement} {result : IdentityRequirementPlan} {parents : Parents}
    {specs : List (List SlotSpec)} {pairs : List (String × String)}
    (planned : Planned digest permissions controls result parents specs pairs) :
    SlotAllocation permissions controls result := by
  have owners : ∀ {item}, item ∈ permissions → actorOf permissions (item.intentId, .owner) =
      some (item.resourceOwnerActorId, item.resourceOwnerActorRevision) := by
    intro item listed
    have found := Table.Keyed.lookup_mem planned.distinct (mem_orderedPermissions.mpr listed)
    rw [← planned.actorOf_eq, actorOf, found]
    rfl
  have subjects : ∀ {item}, item ∈ permissions → actorOf permissions (item.intentId, .subject) =
      some (item.subjectActorId, item.subjectActorRevision) := by
    intro item listed
    have found := Table.Keyed.lookup_mem planned.distinct (mem_orderedPermissions.mpr listed)
    rw [← planned.actorOf_eq, actorOf, found]
    rfl
  have listedPairs : ∀ pair ∈ pairs, pair.1 ≠ pair.2 := by
    intro pair member
    obtain ⟨edge, -, read⟩ := partner_left planned.paired member
    exact (edgeSlots_eq_ok.mp read).2.2
  have distinctOf : ∀ slot ∈ result.slots, slot.distinctSlotIds = distinctSlots pairs slot.slotId := by
    intro slot member
    rw [planned.slots] at member
    obtain ⟨spec, -, rfl⟩ := List.mem_map.mp member
    rfl
  refine ⟨?_, ?_, ?_, ?_, ?_, ?_, ?_, ?_, planned.ordinals, ?_⟩
  · have assigned := planned.assigned
    generalize orderedPermissions permissions = ordered at assigned ⊢
    generalize result.permissions = entries at assigned ⊢
    induction assigned with
    | nil => rfl
    | cons here _ ih =>
      obtain ⟨owner, _, last⟩ := bind_eq_ok.mp here
      have same := Except.ok.inj last
      rw [List.map_cons, List.map_cons, ih, ← same]
  · intro item listed
    have inside : (item.intentId, .owner) ∈ permissions.flatMap positionsOf :=
      List.mem_flatMap.mpr ⟨item, listed, positionsOf_owner item⟩
    obtain ⟨slot, member, served, owned⟩ := planned.position_slot inside
    rw [owners listed] at owned
    have parts := Prod.mk.inj (Option.some.inj owned)
    exact ⟨slot, member, served, parts.1.symm, parts.2.symm⟩
  · intro item listed authenticated
    have inside : (item.intentId, .subject) ∈ permissions.flatMap positionsOf :=
      List.mem_flatMap.mpr ⟨item, listed, positionsOf_subject.mpr authenticated⟩
    obtain ⟨slot, member, served, owned⟩ := planned.position_slot inside
    rw [subjects listed] at owned
    have parts := Prod.mk.inj (Option.some.inj owned)
    exact ⟨slot, member, served, parts.1.symm, parts.2.symm⟩
  · exact fun item listed hidden => planned.slotAt_none listed hidden
  · exact fun left right share => planned.shared share
  · exact fun left right differ => planned.apart differ
  · intro first inFirst second inSecond listed
    rw [distinctOf first inFirst, mem_distinctSlots] at listed
    rw [distinctOf second inSecond, mem_distinctSlots]
    exact listed.symm
  · intro slot member listed
    rw [distinctOf slot member, mem_distinctSlots] at listed
    rcases listed with here | here
    · exact listedPairs _ here rfl
    · exact listedPairs _ here rfl
  · intro β _ account actor assignment few
    exact planned.minimal assignment few

/-- A rule on the owner's own resource, for a signed-in or for an anonymous caller. -/
def ownRule (principal : Principal) : PermissionIntentRevision where
  intentId := "intent_read"
  revision := 1
  intentHash := "hash"
  expectation := .ALLOW
  relation := .OWNS
  subjectActorId := "actor_user"
  subjectActorRevision := 1
  resourceOwnerActorId := "actor_user"
  resourceOwnerActorRevision := 1
  protectedEffectIds := ["effect_read"]
  conditions := some { principal := principal }
  projectId := "project"
  businessActionId := "action_read"
  actionRevision := 1
  effectiveState := .ACTIVE

end Jiejian.Preparation.Planning
