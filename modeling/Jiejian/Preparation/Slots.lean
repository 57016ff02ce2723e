import Jiejian.Preparation.Allocation

namespace Jiejian.Preparation.Slots

open Library Library.Document Library.Outcome Library.Sorting Errors
open Protocol.Codec Protocol.Conditions Protocol.Cases Models Identities Colors Merging Allocation

theorem positionsOf_owner (item : PermissionIntentRevision) : (item.intentId, .owner) ∈ positionsOf item := by
  unfold positionsOf
  by_cases anonymous : anonymousCondition item.conditions = true
  · rw [if_pos anonymous]
    exact List.mem_singleton.mpr rfl
  · rw [if_neg anonymous]
    simp

theorem positionsOf_subject {item : PermissionIntentRevision} :
    (item.intentId, .subject) ∈ positionsOf item ↔ anonymousCondition item.conditions = false := by
  unfold positionsOf
  cases anonymous : anonymousCondition item.conditions <;> simp

section Groups

variable {ordered : List PermissionIntentRevision} {pairs : List (Position × Position)} {parents : Parents}

theorem actorOf_root (merging : Merging ordered pairs parents) (position : Position) :
    actorOf ordered (root parents position) = actorOf ordered position :=
  merging.actors.root_eq position

/-- The root of a position is a position and its own root. -/
theorem root_root (forest : Forest parents) {position : Position} (known : (parentOf parents position).isSome) :
    (parentOf parents (root parents position)).isSome ∧
      root parents (root parents position) = root parents position := by
  have fixed := (forest.reaches_root known).top_fixed
  have inside : (parentOf parents (root parents position)).isSome := by rw [fixed]; rfl
  exact ⟨inside, (forest.reaches_root inside).unique (.here fixed)⟩

theorem mem_representatives {representative : Position} :
    representative ∈ representatives parents ↔
      ∃ position, (parentOf parents position).isSome ∧ root parents position = representative := by
  simp only [representatives, mem_sortedBy, List.mem_dedup, List.mem_map]
  constructor
  · rintro ⟨entry, member, same⟩
    exact ⟨entry.1, parentOf_isSome_iff.mpr (List.mem_map.mpr ⟨entry, member, rfl⟩), same⟩
  · rintro ⟨position, known, same⟩
    obtain ⟨entry, member, rfl⟩ := List.mem_map.mp (parentOf_isSome_iff.mp known)
    exact ⟨entry, member, same⟩

theorem mem_groupOf {representative position : Position} :
    position ∈ groupOf parents representative ↔
      (parentOf parents position).isSome ∧ root parents position = representative := by
  rw [groupOf, List.mem_filter, mem_sortedBy, ← parentOf_isSome_iff, decide_eq_true_iff]

theorem mem_components {actor : Actor} {group : List Position} :
    group ∈ components ordered parents actor ↔
      ∃ representative ∈ representatives parents, actorOf ordered representative = some actor ∧
        groupOf parents representative = group := by
  simp only [components, mem_sortedBy, List.mem_map, List.mem_filter, decide_eq_true_iff, and_assoc]

/-- Each position lies in a group of its actor, and a group has positions of its actor only. -/
theorem mem_component_iff (merging : Merging ordered pairs parents) {actor : Actor} {position : Position} :
    (∃ group ∈ components ordered parents actor, position ∈ group) ↔
      position ∈ ordered.flatMap positionsOf ∧ actorOf ordered position = some actor := by
  constructor
  · rintro ⟨group, member, inside⟩
    obtain ⟨representative, -, owned, rfl⟩ := mem_components.mp member
    obtain ⟨known, same⟩ := mem_groupOf.mp inside
    refine ⟨(merging.keys position).mp known, ?_⟩
    rw [← actorOf_root merging position, same]
    exact owned
  · rintro ⟨listed, owned⟩
    have known := (merging.keys position).mpr listed
    refine ⟨groupOf parents (root parents position), ?_, mem_groupOf.mpr ⟨known, rfl⟩⟩
    apply mem_components.mpr
    refine ⟨_, mem_representatives.mpr ⟨position, known, rfl⟩, ?_, rfl⟩
    rw [actorOf_root merging]
    exact owned

theorem components_disjoint (ordered : List PermissionIntentRevision) (parents : Parents) (actor : Actor) :
    (components ordered parents actor).Pairwise List.Disjoint := by
  have distinct : (representatives parents).Nodup := by
    have perm := sortedBy_perm positionOrder ((parents.map fun entry => root parents entry.1).dedup)
    exact perm.nodup_iff.mpr (List.nodup_dedup _)
  have apart : (((representatives parents).filter fun representative =>
      actorOf ordered representative = some actor).map (groupOf parents)).Pairwise List.Disjoint := by
    rw [List.pairwise_map]
    refine (distinct.filter _).imp ?_
    intro first second differ position inFirst inSecond
    exact differ ((mem_groupOf.mp inFirst).2.symm.trans (mem_groupOf.mp inSecond).2)
  refine (sortedBy_perm _ _).symm.pairwise apart ?_
  intro first second disjoint
  exact disjoint.symm

/-- A position is in one group only. -/
theorem component_unique {actor : Actor} {left right : Nat} {first second : List Position} {position : Position}
    (atLeft : (components ordered parents actor)[left]? = some first)
    (atRight : (components ordered parents actor)[right]? = some second)
    (inFirst : position ∈ first) (inSecond : position ∈ second) : left = right := by
  have apart := List.pairwise_iff_getElem.mp (components_disjoint ordered parents actor)
  obtain ⟨leftBound, firstGroup⟩ := List.getElem?_eq_some_iff.mp atLeft
  obtain ⟨rightBound, secondGroup⟩ := List.getElem?_eq_some_iff.mp atRight
  rcases Nat.lt_trichotomy left right with before | same | after
  · have disjoint := apart left right leftBound rightBound before
    rw [firstGroup, secondGroup] at disjoint
    exact absurd inSecond (disjoint inFirst)
  · exact same
  · have disjoint := apart right left rightBound leftBound after
    rw [firstGroup, secondGroup] at disjoint
    exact absurd inFirst (disjoint inSecond)

theorem groupIndex_eq_some {actor : Actor} {position : Position} {node : Nat} :
    groupIndex (components ordered parents actor) position = some node ↔
      ∃ group, (components ordered parents actor)[node]? = some group ∧ position ∈ group := by
  unfold groupIndex
  constructor
  · intro found
    obtain ⟨bound, inside, -⟩ := List.findIdx?_eq_some_iff_getElem.mp found
    exact ⟨_, List.getElem?_eq_getElem bound, by simpa using inside⟩
  · rintro ⟨group, stored, inside⟩
    obtain ⟨bound, same⟩ := List.getElem?_eq_some_iff.mp stored
    apply List.findIdx?_eq_some_iff_getElem.mpr
    refine ⟨bound, by simpa [same] using inside, ?_⟩
    intro earlier before taken
    have at' : (components ordered parents actor)[earlier]? = some _ := List.getElem?_eq_getElem (before.trans bound)
    have equal := component_unique at' stored (by simpa using taken) inside
    omega

end Groups

section Specs

variable {digest : Digest} {ordered : List PermissionIntentRevision} {pairs : List (Position × Position)}
  {parents : Parents} {edges : List Edge}

/-- The slots before their distinct slots are known, for each actor of the plan. -/
def Allocated (digest : Digest) (ordered : List PermissionIntentRevision) (parents : Parents) (edges : List Edge)
    (specs : List (List SlotSpec)) : Prop :=
  List.Forall₂ (fun actor slots => actorSlots digest ordered parents edges actor = .ok slots)
    (actorsOf ordered parents) specs

/-- How one slot came about: the color of some groups of its actor. -/
structure Colored (digest : Digest) (ordered : List PermissionIntentRevision) (parents : Parents)
    (edges : List Edge) (actor : Actor) (colors : List Nat) (slots : List SlotSpec) : Prop where
  colored : colorComponents (graph (components ordered parents actor) edges) = .ok colors
  slots_eq : slots = (List.range (maximum colors + 1)).map
    (slotSpec digest ordered actor (components ordered parents actor) colors)

theorem actorSlots_eq_ok {actor : Actor} {slots : List SlotSpec} :
    actorSlots digest ordered parents edges actor = .ok slots ↔
      ∃ colors, Colored digest ordered parents edges actor colors slots := by
  unfold actorSlots
  rw [bind_eq_ok]
  constructor
  · rintro ⟨colors, colored, same⟩
    exact ⟨colors, colored, by simpa [pure, Except.pure] using same.symm⟩
  · rintro ⟨colors, colored, same⟩
    exact ⟨colors, colored, by rw [same]; rfl⟩

theorem graph_length (groups : List (List Position)) (edges : List Edge) :
    (graph groups edges).length = groups.length := by
  rw [graph, List.length_map, List.length_range]

theorem Colored.length_eq {actor : Actor} {colors : List Nat} {slots : List SlotSpec}
    (colored : Colored digest ordered parents edges actor colors slots) :
    colors.length = (components ordered parents actor).length :=
  (colorComponents_length colored.colored).trans (graph_length _ _)

theorem mem_slotSpec {actor : Actor} {groups : List (List Position)} {colors : List Nat} {color : Nat}
    {position : Position} :
    position ∈ (slotSpec digest ordered actor groups colors color).positions ↔
      ∃ (node : Nat) (group : List Position),
        groups[node]? = some group ∧ position ∈ group ∧ colors[node]? = some color := by
  simp only [slotSpec, mem_sortedBy, List.mem_flatMap, List.mem_filter, decide_eq_true_iff]
  constructor
  · rintro ⟨entry, ⟨listed, same⟩, inside⟩
    obtain ⟨node, stored⟩ := List.mem_iff_getElem?.mp listed
    obtain ⟨group, value⟩ := entry
    obtain ⟨atGroup, atColor⟩ := List.getElem?_zip_eq_some.mp stored
    dsimp only at same inside
    exact ⟨node, group, atGroup, inside, same ▸ atColor⟩
  · rintro ⟨node, group, atGroup, inside, atColor⟩
    have stored : (groups.zip colors)[node]? = some (group, color) :=
      List.getElem?_zip_eq_some.mpr ⟨atGroup, atColor⟩
    exact ⟨(group, color), ⟨List.mem_of_getElem? stored, rfl⟩, inside⟩

/-- The slot of a position: of its actor, with the color of its group. -/
structure Serves (digest : Digest) (ordered : List PermissionIntentRevision) (parents : Parents)
    (edges : List Edge) (specs : List (List SlotSpec)) (position : Position) (actor : Actor) (node color : Nat)
    (spec : SlotSpec) : Prop where
  owned : actorOf ordered position = some actor
  index : groupIndex (components ordered parents actor) position = some node
  colored : ∃ colors slots, Colored digest ordered parents edges actor colors slots ∧ slots ∈ specs ∧
    colors[node]? = some color ∧
    spec = slotSpec digest ordered actor (components ordered parents actor) colors color
  member : spec ∈ specs.flatten
  contains : position ∈ spec.positions

theorem mem_actorsOf (merging : Merging ordered pairs parents) {position : Position} {actor : Actor}
    (listed : position ∈ ordered.flatMap positionsOf) (owned : actorOf ordered position = some actor) :
    actor ∈ actorsOf ordered parents := by
  simp only [actorsOf, mem_sortedBy, List.mem_dedup, List.mem_filterMap]
  have known := (merging.keys position).mpr listed
  exact ⟨root parents position, mem_representatives.mpr ⟨position, known, rfl⟩,
    (actorOf_root merging position).trans owned⟩

theorem actorOf_isSome {position : Position} (listed : position ∈ ordered.flatMap positionsOf) :
    (actorOf ordered position).isSome := by
  obtain ⟨item, member, inside⟩ := List.mem_flatMap.mp listed
  rw [actorOf, Option.isSome_map]
  by_contra missing
  have absent := Table.lookup_none.mp (Option.not_isSome_iff_eq_none.mp missing)
  exact absent item member (positionsOf_named inside).symm

/-- Every position is served. -/
theorem exists_serves (merging : Merging ordered pairs parents) {specs : List (List SlotSpec)}
    (allocated : Allocated digest ordered parents edges specs) {position : Position}
    (listed : position ∈ ordered.flatMap positionsOf) :
    ∃ actor node color spec, Serves digest ordered parents edges specs position actor node color spec := by
  obtain ⟨actor, owned⟩ := Option.isSome_iff_exists.mp (actorOf_isSome listed)
  obtain ⟨slots, inSpecs, made⟩ := partner_right allocated (mem_actorsOf merging listed owned)
  obtain ⟨colors, colored⟩ := actorSlots_eq_ok.mp made
  obtain ⟨group, member, inside⟩ := (mem_component_iff merging).mpr ⟨listed, owned⟩
  obtain ⟨node, stored⟩ := List.mem_iff_getElem?.mp member
  have bound : node < colors.length := by
    rw [colored.length_eq]
    exact (List.getElem?_eq_some_iff.mp stored).1
  have atColor : colors[node]? = some colors[node] := List.getElem?_eq_getElem bound
  have small := le_maximum (List.mem_of_getElem? atColor)
  have index : groupIndex (components ordered parents actor) position = some node :=
    groupIndex_eq_some.mpr ⟨group, stored, inside⟩
  refine ⟨actor, node, colors[node], _, owned, index, ⟨colors, slots, colored, inSpecs, atColor, rfl⟩, ?_, ?_⟩
  · refine List.mem_flatten.mpr ⟨slots, inSpecs, ?_⟩
    rw [colored.slots_eq]
    exact List.mem_map.mpr ⟨colors[node], List.mem_range.mpr (by omega), rfl⟩
  · exact mem_slotSpec.mpr ⟨node, group, stored, inside, atColor⟩

/-- A slot that lists a position is the slot of that position. -/
theorem serves_of_contains (merging : Merging ordered pairs parents) {specs : List (List SlotSpec)}
    (allocated : Allocated digest ordered parents edges specs) {spec : SlotSpec} (member : spec ∈ specs.flatten)
    {position : Position} (contains : position ∈ spec.positions) :
    ∃ actor node color, Serves digest ordered parents edges specs position actor node color spec := by
  obtain ⟨slots, inSpecs, inSlots⟩ := List.mem_flatten.mp member
  obtain ⟨actor, -, made⟩ := partner_left allocated inSpecs
  obtain ⟨colors, colored⟩ := actorSlots_eq_ok.mp made
  have listed := inSlots
  rw [colored.slots_eq] at listed
  obtain ⟨color, -, same⟩ := List.mem_map.mp listed
  rw [← same] at contains
  obtain ⟨node, group, stored, inside, atColor⟩ := mem_slotSpec.mp contains
  have owned := ((mem_component_iff merging).mp ⟨group, List.mem_of_getElem? stored, inside⟩).2
  refine ⟨actor, node, color, owned, groupIndex_eq_some.mpr ⟨group, stored, inside⟩,
    ⟨colors, slots, colored, inSpecs, atColor, same.symm⟩, member, ?_⟩
  rw [← same]
  exact mem_slotSpec.mpr ⟨node, group, stored, inside, atColor⟩

/-- Positions of one group have one slot. -/
theorem Serves.unique (merging : Merging ordered pairs parents) {specs : List (List SlotSpec)}
    {left right : Position} {first second : Actor} {node other color hue : Nat} {spec twin : SlotSpec}
    (atLeft : Serves digest ordered parents edges specs left first node color spec)
    (atRight : Serves digest ordered parents edges specs right second other hue twin)
    (same : root parents left = root parents right) : spec = twin := by
  have actors : first = second := by
    have roots := actorOf_root merging left
    rw [same, actorOf_root merging right, atLeft.owned, atRight.owned] at roots
    exact (Option.some.inj roots).symm
  subst actors
  obtain ⟨group, stored, inside⟩ := groupIndex_eq_some.mp atLeft.index
  obtain ⟨group', stored', inside'⟩ := groupIndex_eq_some.mp atRight.index
  have nodes : node = other := by
    apply component_unique stored stored' inside
    obtain ⟨representative, -, -, grouped⟩ := mem_components.mp (List.mem_of_getElem? stored')
    rw [← grouped] at inside' ⊢
    have known := (mem_component_iff merging).mp ⟨group, List.mem_of_getElem? stored, inside⟩
    exact mem_groupOf.mpr ⟨(merging.keys left).mpr known.1, same.trans (mem_groupOf.mp inside').2⟩
  subst nodes
  obtain ⟨colors, slots, colored, -, atColor, made⟩ := atLeft.colored
  obtain ⟨colors', slots', colored', -, atColor', made'⟩ := atRight.colored
  have palettes : colors = colors' := by
    have both := colored.colored.symm.trans colored'.colored
    exact Except.ok.inj both
  subst palettes
  have hues : color = hue := Option.some.inj (atColor.symm.trans atColor')
  rw [made, made', hues]

/-- The slot that the plan reads for a position. -/
theorem positionSlot_eq_some (merging : Merging ordered pairs parents) {specs : List (List SlotSpec)}
    (allocated : Allocated digest ordered parents edges specs) {position : Position}
    (listed : position ∈ ordered.flatMap positionsOf) :
    ∃ actor node color spec, Serves digest ordered parents edges specs position actor node color spec ∧
      positionSlot specs.flatten position = some spec.slotId := by
  obtain ⟨_, _, _, serving, serves⟩ := exists_serves merging allocated listed
  have present : (specs.flatten.reverse.find? fun spec => position ∈ spec.positions).isSome := by
    rw [List.find?_isSome]
    exact ⟨serving, List.mem_reverse.mpr serves.member, by simpa using serves.contains⟩
  obtain ⟨spec, found⟩ := Option.isSome_iff_exists.mp present
  have member : spec ∈ specs.flatten := List.mem_reverse.mp (List.mem_of_find?_eq_some found)
  have contains : position ∈ spec.positions := by simpa using List.find?_some found
  obtain ⟨actor, node, color, serves'⟩ := serves_of_contains merging allocated member contains
  exact ⟨actor, node, color, spec, serves', by rw [positionSlot, found, Option.map_some]⟩

theorem positionSlot_eq_none (merging : Merging ordered pairs parents) {specs : List (List SlotSpec)}
    (allocated : Allocated digest ordered parents edges specs) {position : Position}
    (absent : position ∉ ordered.flatMap positionsOf) : positionSlot specs.flatten position = none := by
  rw [positionSlot, Option.map_eq_none_iff, List.find?_eq_none]
  intro spec member contains
  obtain ⟨actor, node, color, serves⟩ :=
    serves_of_contains merging allocated (List.mem_reverse.mp member) (by simpa using contains)
  obtain ⟨group, stored, inside⟩ := groupIndex_eq_some.mp serves.index
  exact absent ((mem_component_iff merging).mp ⟨group, List.mem_of_getElem? stored, inside⟩).1

/-- Positions that merging joined are read as one slot. -/
theorem positionSlot_congr (merging : Merging ordered pairs parents) {specs : List (List SlotSpec)}
    (allocated : Allocated digest ordered parents edges specs) {left right : Position}
    (listedLeft : left ∈ ordered.flatMap positionsOf) (listedRight : right ∈ ordered.flatMap positionsOf)
    (same : root parents left = root parents right) :
    positionSlot specs.flatten left = positionSlot specs.flatten right := by
  obtain ⟨_, _, _, spec, serves, found⟩ := positionSlot_eq_some merging allocated listedLeft
  obtain ⟨_, _, _, twin, serves', found'⟩ := positionSlot_eq_some merging allocated listedRight
  rw [found, found', serves.unique merging serves' same]

end Specs

section Edges

variable {ordered : List PermissionIntentRevision} {parents : Parents}

theorem opposedTenants_symm (left right : PermissionIntentRevision) :
    opposedTenants left right = opposedTenants right left := by
  unfold opposedTenants
  cases left.conditions with
  | none => cases right.conditions <;> rfl
  | some first =>
    cases right.conditions with
    | none => rfl
    | some second =>
      rw [decide_eq_decide]
      constructor <;> rintro (⟨one, two⟩ | ⟨one, two⟩) <;> simp [one, two]

theorem opposedTenants_self (item : PermissionIntentRevision) : opposedTenants item item = false := by
  unfold opposedTenants
  cases item.conditions with
  | none => rfl
  | some conditions =>
    simp only [decide_eq_false_iff_not]
    rintro (⟨one, two⟩ | ⟨one, two⟩) <;> rw [one] at two <;> cases two

/-- The tenant edges join the opposed subjects over one owner, each pair once. -/
theorem mem_tenantEdges {items : List PermissionIntentRevision} {edge : Edge} (member : edge ∈ tenantEdges parents items) :
    ∃ left ∈ items, ∃ right ∈ items, opposedTenants left right = true ∧
      root parents (left.intentId, .owner) = root parents (right.intentId, .owner) ∧
      edge = ((left.intentId, .subject), (right.intentId, .subject)) := by
  induction items with
  | nil => cases member
  | cons item rest ih =>
    rcases List.mem_append.mp member with here | later
    · obtain ⟨right, listed, made⟩ := List.mem_filterMap.mp here
      by_cases opposed : opposedTenants item right = true ∧
          root parents (item.intentId, .owner) = root parents (right.intentId, .owner)
      · rw [if_pos opposed] at made
        exact ⟨item, by simp, right, by simp [listed], opposed.1, opposed.2, (Option.some.inj made).symm⟩
      · rw [if_neg opposed] at made
        cases made
    · obtain ⟨left, inLeft, right, inRight, facts⟩ := ih later
      exact ⟨left, by simp [inLeft], right, by simp [inRight], facts⟩

theorem tenantEdges_complete {items : List PermissionIntentRevision} {left right : PermissionIntentRevision}
    (inLeft : left ∈ items) (inRight : right ∈ items) (opposed : opposedTenants left right = true)
    (owner : root parents (left.intentId, .owner) = root parents (right.intentId, .owner)) :
    ((left.intentId, .subject), (right.intentId, .subject)) ∈ tenantEdges parents items ∨
      ((right.intentId, .subject), (left.intentId, .subject)) ∈ tenantEdges parents items := by
  induction items with
  | nil => cases inLeft
  | cons item rest ih =>
    have first : ∀ {other}, other ∈ rest → opposedTenants item other = true →
        root parents (item.intentId, .owner) = root parents (other.intentId, .owner) →
        ((item.intentId, .subject), (other.intentId, .subject)) ∈ tenantEdges parents (item :: rest) := by
      intro other listed against shared
      refine List.mem_append_left _ (List.mem_filterMap.mpr ⟨other, listed, ?_⟩)
      rw [if_pos ⟨against, shared⟩]
    rcases List.mem_cons.mp inLeft with rfl | laterLeft
    · rcases List.mem_cons.mp inRight with rfl | laterRight
      · rw [opposedTenants_self] at opposed
        cases opposed
      · exact .inl (first laterRight opposed owner)
    · rcases List.mem_cons.mp inRight with rfl | laterRight
      · rw [opposedTenants_symm] at opposed
        exact .inr (first laterLeft opposed owner.symm)
      · rcases ih laterLeft laterRight with here | swapped
        · exact .inl (List.mem_append_right _ here)
        · exact .inr (List.mem_append_right _ swapped)

theorem mem_relationEdges {edge : Edge} :
    edge ∈ relationEdges ordered ↔ ∃ item ∈ ordered, anonymousCondition item.conditions = false ∧
      item.relation ≠ .OWNS ∧ edge = ((item.intentId, .subject), (item.intentId, .owner)) := by
  unfold relationEdges
  rw [List.mem_filterMap]
  constructor
  · rintro ⟨item, listed, made⟩
    by_cases differs : anonymousCondition item.conditions = false ∧ item.relation ≠ .OWNS
    · rw [if_pos differs] at made
      exact ⟨item, listed, differs.1, differs.2, (Option.some.inj made).symm⟩
    · rw [if_neg differs] at made
      cases made
  · rintro ⟨item, listed, authenticated, relation, rfl⟩
    exact ⟨item, listed, by rw [if_pos ⟨authenticated, relation⟩]⟩

/-- The edges of a plan join exactly the positions that must be different accounts. -/
theorem mustDiffer_iff_edge {controls : List AllowControlRequirement}
    (merging : Merging ordered (ordered.flatMap ownPairs ++ controls.flatMap controlPairs) parents)
    {left right : Position} :
    (MustDiffer ordered controls left right ∨ MustDiffer ordered controls right left) ↔
      (left, right) ∈ relationEdges ordered ++ tenantEdges parents ordered ∨
        (right, left) ∈ relationEdges ordered ++ tenantEdges parents ordered := by
  have forward : ∀ {first second}, MustDiffer ordered controls first second →
      (first, second) ∈ relationEdges ordered ++ tenantEdges parents ordered ∨
        (second, first) ∈ relationEdges ordered ++ tenantEdges parents ordered := by
    intro first second differ
    cases differ with
    | accounts listed authenticated relation =>
      exact .inl (List.mem_append_left _ (mem_relationEdges.mpr ⟨_, listed, authenticated, relation, rfl⟩))
    | tenants inLeft inRight opposed owner =>
      rcases tenantEdges_complete inLeft inRight opposed ((root_eq_iff merging).mpr owner) with here | swapped
      · exact .inl (List.mem_append_right _ here)
      · exact .inr (List.mem_append_right _ swapped)
  have backward : ∀ {first second}, (first, second) ∈ relationEdges ordered ++ tenantEdges parents ordered →
      MustDiffer ordered controls first second := by
    intro first second member
    rcases List.mem_append.mp member with relation | tenant
    · obtain ⟨item, listed, authenticated, differs, same⟩ := mem_relationEdges.mp relation
      rw [Prod.mk.injEq] at same
      rw [same.1, same.2]
      exact .accounts listed authenticated differs
    · obtain ⟨one, inOne, two, inTwo, opposed, owner, same⟩ := mem_tenantEdges tenant
      rw [Prod.mk.injEq] at same
      rw [same.1, same.2]
      exact .tenants inOne inTwo opposed ((root_eq_iff merging).mp owner)
  constructor
  · rintro (differ | differ)
    · exact forward differ
    · exact (forward differ).symm
  · rintro (edge | edge)
    · exact .inl (backward edge)
    · exact .inr (backward edge)

end Edges

end Jiejian.Preparation.Slots
