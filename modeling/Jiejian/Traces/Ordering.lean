import Jiejian.Library.Topological
import Jiejian.Traces.Models

namespace Jiejian.Traces.Ordering

open Errors Library Library.Outcome Library.Sorting Library.Topological Models

def parentsOf (events : List TraceEvent) (eventId : String) : List String :=
  ((byId events eventId).map (·.parentEventIds)).getD []

def entryOf (events : List TraceEvent) (eventId : String) : Nat ×ₗ String :=
  ((byId events eventId).map heapEntry).getD (toLex (0, eventId))

def idsOf (events : List TraceEvent) : List String := events.map (·.eventId)

section Reading

variable {events : List TraceEvent} {event : TraceEvent}

theorem byId_event (keyed : (idsOf events).Nodup) (member : event ∈ events) : byId events event.eventId = some event :=
  Table.Keyed.lookup_mem keyed member

theorem parentsOf_event (keyed : (idsOf events).Nodup) (member : event ∈ events) :
    parentsOf events event.eventId = event.parentEventIds := by
  rw [parentsOf, byId_event keyed member]
  rfl

theorem entryOf_event (keyed : (idsOf events).Nodup) (member : event ∈ events) :
    entryOf events event.eventId = heapEntry event := by
  rw [entryOf, byId_event keyed member]
  rfl

theorem entryOf_id (eventId : String) : (ofLex (entryOf events eventId)).2 = eventId := by
  unfold entryOf
  cases found : byId events eventId with
  | none => rfl
  | some event => exact (Table.lookup_some found).2

theorem entryOf_injective {first second : String} (same : entryOf events first = entryOf events second) :
    first = second := by
  rw [← entryOf_id first, same, entryOf_id]

theorem mem_idsOf {eventId : String} : eventId ∈ idsOf events ↔ ∃ event ∈ events, event.eventId = eventId :=
  List.mem_map

theorem byId_idsOf (keyed : (idsOf events).Nodup) {found : List TraceEvent} (among : ∀ event ∈ found, event ∈ events) :
    (idsOf found).filterMap (byId events) = found := by
  induction found with
  | nil => rfl
  | cons first found ih =>
    have here := byId_event keyed (among first List.mem_cons_self)
    have rest := ih fun event member => among event (List.mem_cons_of_mem _ member)
    unfold idsOf at rest ⊢
    rw [List.map_cons, List.filterMap_cons_some here, rest]

theorem byId_perm (keyed : (idsOf events).Nodup) {events' : List TraceEvent} (perm : events.Perm events') :
    byId events' = byId events := by
  funext eventId
  exact (Table.Keyed.lookup_perm keyed perm eventId).symm

theorem children_nodup (keyed : (idsOf events).Nodup) (eventId : String) : (children events eventId).Nodup :=
  keyed.sublist (List.filter_sublist.map _)

theorem mem_children (keyed : (idsOf events).Nodup) (member : event ∈ events) {parent : String} :
    event.eventId ∈ children events parent ↔ parent ∈ event.parentEventIds := by
  unfold children
  constructor
  · intro listed
    obtain ⟨other, found, same⟩ := List.mem_map.mp listed
    rw [List.mem_filter, decide_eq_true_eq] at found
    have identical := Table.Keyed.eq_of_mem keyed found.1 member same
    exact identical ▸ found.2
  · intro child
    exact List.mem_map_of_mem (List.mem_filter.mpr ⟨member, decide_eq_true child⟩)

theorem children_known {childId parent : String} (child : childId ∈ children events parent) :
    ∃ event ∈ events, event.eventId = childId := by
  obtain ⟨event, found, same⟩ := List.mem_map.mp child
  exact ⟨event, (List.mem_filter.mp found).1, same⟩

end Reading

theorem sortedBy_map {α κ : Type} [LinearOrder κ] (key : α → κ) (items : List α) :
    sortedBy id (items.map key) = (sortedBy key items).map key := by
  have ordered : ((sortedBy key items).map key).Pairwise fun left right => id left ≤ id right := by
    rw [List.pairwise_map]
    exact sortedBy_ordered key items
  calc
    _ = sortedBy id ((sortedBy key items).map key) :=
        sortedBy_congr ((sortedBy_perm key items).symm.map key) fun _ _ _ _ same => same
    _ = _ := sortedBy_eq_self ordered

/-- A new name takes at most one from the names that are missing. -/
theorem length_filter_snoc {names known : List String} {new : String} (unique : names.Nodup) (fresh : new ∉ known) :
    (names.filter (· ∉ known)).length =
      (names.filter (· ∉ known ++ [new])).length + if new ∈ names then 1 else 0 := by
  induction names with
  | nil => rfl
  | cons name names ih =>
    obtain ⟨absent, unique'⟩ := List.nodup_cons.mp unique
    have rest := ih unique'
    by_cases here : name = new
    · subst here
      rw [if_neg absent] at rest
      rw [if_pos List.mem_cons_self, List.filter_cons_of_pos (by simpa using fresh),
        List.filter_cons_of_neg (by simp), List.length_cons]
      omega
    · have same : new ∈ name :: names ↔ new ∈ names := by
        rw [List.mem_cons]
        exact or_iff_right fun eq => here eq.symm
      simp only [same]
      by_cases old : name ∈ known
      · rw [List.filter_cons_of_neg (by simpa using old), List.filter_cons_of_neg (by simp [old])]
        exact rest
      · rw [List.filter_cons_of_pos (by simpa using old), List.filter_cons_of_pos (by simp [old, here]),
          List.length_cons, List.length_cons]
        omega

section Release

variable {events : List TraceEvent} {state : SortState}

/-- Releasing distinct children takes one from each counter, and those that reach zero enter the heap. -/
theorem foldl_release (keyed : (idsOf events).Nodup) {kids : List String} (distinct : kids.Nodup)
    (known : ∀ kid ∈ kids, ∃ event ∈ events, event.eventId = kid) :
    (kids.foldl (release events) state).ordered = state.ordered ∧
      (∀ eventId, (kids.foldl (release events) state).indegree eventId =
        state.indegree eventId - if eventId ∈ kids then 1 else 0) ∧
      (kids.foldl (release events) state).ready =
        state.ready ++ (kids.filter fun kid => state.indegree kid = 1).map (entryOf events) := by
  induction kids generalizing state with
  | nil => simp
  | cons kid kids ih =>
    obtain ⟨fresh, distinct'⟩ := List.nodup_cons.mp distinct
    obtain ⟨event, member, same⟩ := known kid List.mem_cons_self
    obtain ⟨ordered, indegree, ready⟩ := @ih (release events state kid) distinct'
      fun other inside => known other (List.mem_cons_of_mem _ inside)
    have entry : (((byId events kid).map heapEntry).toList) = [entryOf events kid] := by
      rw [← same, byId_event keyed member, entryOf_event keyed member]
      rfl
    have other : ∀ eventId, eventId ≠ kid → (release events state kid).indegree eventId = state.indegree eventId := by
      intro eventId different
      exact Function.update_of_ne different _ _
    rw [List.foldl_cons]
    refine ⟨ordered, ?_, ?_⟩
    · intro eventId
      rw [indegree eventId]
      by_cases here : eventId = kid
      · subst here
        rw [if_neg fresh, if_pos List.mem_cons_self]
        simp [release]
      · rw [other eventId here]
        simp [here]
    · rw [ready]
      have rest : (kids.filter fun kid' => (release events state kid).indegree kid' = 1) =
          kids.filter fun kid' => state.indegree kid' = 1 := by
        apply List.filter_congr
        intro kid' inside
        rw [other kid' fun same => fresh (same ▸ inside)]
      rw [rest]
      by_cases due : state.indegree kid = 1
      · have zero : state.indegree kid - 1 = 0 := by omega
        have entered : (release events state kid).ready = state.ready ++ [entryOf events kid] := by
          simp only [release, zero, if_true, entry]
        rw [entered, List.filter_cons_of_pos (by simpa using due), List.map_cons, List.append_assoc,
          List.singleton_append]
      · have left : ¬ state.indegree kid - 1 = 0 := by omega
        have kept : (release events state kid).ready = state.ready := by
          simp only [release, left, if_false]
        rw [kept, List.filter_cons_of_neg (by simpa using due)]

end Release

/-- The state of the loop after these ids: the counters count the parents that are still missing, and the heap holds the
entries of the events that miss none. -/
structure Tracks (events : List TraceEvent) (emitted : List String) (state : SortState) : Prop where
  ordered : idsOf state.ordered = emitted
  among : ∀ event ∈ state.ordered, event ∈ events
  indegree : ∀ event ∈ events,
    state.indegree event.eventId = ((event.parentEventIds.filter (· ∉ emitted)).length : Int)
  ready : state.ready.Perm ((ready (parentsOf events) (idsOf events) emitted).map (entryOf events))

section Loop

variable {events : List TraceEvent} {emitted : List String} {state : SortState}

theorem initialSort_tracks (keyed : (idsOf events).Nodup) : Tracks events [] (initialSort events) := by
  refine ⟨rfl, fun _ member => absurd member List.not_mem_nil, ?_, ?_⟩
  · intro event member
    simp [initialSort, byId_event keyed member]
  · have same : ready (parentsOf events) (idsOf events) [] =
        idsOf (events.filter fun event => event.parentEventIds.length = 0) := by
      unfold ready idsOf
      rw [List.filter_map]
      congr 1
      apply List.filter_congr
      intro event member
      rw [Function.comp_apply, parentsOf_event keyed member, decide_eq_decide, List.length_eq_zero_iff,
        List.eq_nil_iff_forall_not_mem]
      exact ⟨fun due parent above => absurd (due.2 parent above) List.not_mem_nil,
        fun none' => ⟨List.not_mem_nil, fun parent above => absurd above (none' parent)⟩⟩
    rw [same]
    unfold initialSort idsOf
    rw [List.map_map]
    apply List.Perm.of_eq
    apply List.map_congr_left
    intro event member
    exact (entryOf_event keyed (List.mem_filter.mp member).1).symm

/-- The heap gives up the ready event with the least entry. -/
theorem heappop_tracks (tracks : Tracks events emitted state) :
    heappop state.ready =
      match sortedBy (entryOf events) (ready (parentsOf events) (idsOf events) emitted) with
      | [] => none
      | node :: later => some (entryOf events node, later.map (entryOf events)) := by
  have same : sortedBy id state.ready =
      (sortedBy (entryOf events) (ready (parentsOf events) (idsOf events) emitted)).map (entryOf events) := by
    rw [← sortedBy_map]
    exact sortedBy_congr tracks.ready fun _ _ _ _ same => same
  unfold heappop
  rw [same]
  cases sortedBy (entryOf events) (ready (parentsOf events) (idsOf events) emitted) with
  | nil => rfl
  | cons node later => rfl

/-- A child is ready next exactly when the emitted event was the only parent it still missed. -/
theorem ready_snoc (keyed : (idsOf events).Nodup) (before : Emitted (parentsOf events) (idsOf events) emitted)
    (tracks : Tracks events emitted state) {event : TraceEvent}
    (due : event.eventId ∈ ready (parentsOf events) (idsOf events) emitted) :
    (ready (parentsOf events) (idsOf events) (emitted ++ [event.eventId])).Perm
      ((ready (parentsOf events) (idsOf events) emitted).erase event.eventId ++
        (children events event.eventId).filter fun kid => state.indegree kid = 1) := by
  obtain ⟨_, fresh, known⟩ := mem_ready.mp due
  have distinct : (ready (parentsOf events) (idsOf events) emitted).Nodup := keyed.filter _
  have missing : ∀ child ∈ events, event.eventId ∈ child.parentEventIds →
      (state.indegree child.eventId = 1 ↔ ∀ parent ∈ child.parentEventIds, parent ∈ emitted ++ [event.eventId]) := by
    intro child listed child'
    have unique : (child.parentEventIds.filter (· ∉ emitted)).Nodup := child.parents_unique.filter _
    have inside : event.eventId ∈ child.parentEventIds.filter (· ∉ emitted) :=
      List.mem_filter.mpr ⟨child', decide_eq_true fresh⟩
    rw [tracks.indegree child listed]
    constructor
    · intro one parent above
      have single : (child.parentEventIds.filter (· ∉ emitted)).length = 1 := by omega
      obtain ⟨only, same⟩ := List.length_eq_one_iff.mp single
      by_cases known' : parent ∈ emitted
      · exact List.mem_append_left _ known'
      · have alone : parent ∈ child.parentEventIds.filter (· ∉ emitted) :=
          List.mem_filter.mpr ⟨above, decide_eq_true known'⟩
        rw [same, List.mem_singleton] at alone inside
        rw [alone, ← inside]
        exact List.mem_append_right _ (List.mem_singleton.mpr rfl)
    · intro all
      have alone : (child.parentEventIds.filter (· ∉ emitted)).Perm [event.eventId] := by
        apply (List.perm_ext_iff_of_nodup unique (List.nodup_singleton _)).mpr
        intro parent
        rw [List.mem_singleton]
        constructor
        · intro left
          rw [List.mem_filter, decide_eq_true_eq] at left
          cases List.mem_append.mp (all parent left.1) with
          | inl old => exact absurd old left.2
          | inr new => exact List.mem_singleton.mp new
        · intro same
          exact same ▸ inside
      have one := alone.length_eq
      rw [List.length_singleton] at one
      omega
  have apart : ∀ eventId ∈ ready (parentsOf events) (idsOf events) emitted, eventId ∉ children events event.eventId := by
    intro eventId early child
    obtain ⟨kid, listed, same⟩ := children_known child
    subst same
    have above := (mem_children keyed listed).mp child
    have all := (mem_ready.mp early).2.2
    rw [parentsOf_event keyed listed] at all
    exact fresh (all _ above)
  apply (List.perm_ext_iff_of_nodup (keyed.filter _) ?_).mpr
  · intro eventId
    rw [List.mem_append, distinct.mem_erase_iff]
    constructor
    · intro next
      obtain ⟨listed, unseen, all⟩ := mem_ready.mp next
      obtain ⟨kid, inside, same⟩ := mem_idsOf.mp listed
      subst same
      rw [parentsOf_event keyed inside] at all
      by_cases child : event.eventId ∈ kid.parentEventIds
      · have one := (missing kid inside child).mpr all
        exact .inr (List.mem_filter.mpr ⟨(mem_children keyed inside).mpr child, decide_eq_true one⟩)
      · refine .inl ⟨fun same => unseen (List.mem_append_right _ (List.mem_singleton.mpr same)), mem_ready.mpr
          ⟨listed, fun old => unseen (List.mem_append_left _ old), ?_⟩⟩
        rw [parentsOf_event keyed inside]
        intro parent above
        cases List.mem_append.mp (all parent above) with
        | inl old => exact old
        | inr new => exact absurd (List.mem_singleton.mp new ▸ above) child
    · intro either
      cases either with
      | inl early =>
        obtain ⟨different, early⟩ := early
        obtain ⟨listed, unseen, all⟩ := mem_ready.mp early
        refine mem_ready.mpr ⟨listed, ?_, fun parent above => List.mem_append_left _ (all parent above)⟩
        intro seen
        cases List.mem_append.mp seen with
        | inl old => exact unseen old
        | inr new => exact different (List.mem_singleton.mp new)
      | inr late =>
        obtain ⟨child, one⟩ := List.mem_filter.mp late
        obtain ⟨kid, inside, same⟩ := children_known child
        subst same
        have above := (mem_children keyed inside).mp child
        have parents := parentsOf_event keyed inside
        refine mem_ready.mpr ⟨mem_idsOf.mpr ⟨kid, inside, rfl⟩, ?_, ?_⟩
        · intro seen
          cases List.mem_append.mp seen with
          | inl old => exact fresh (before.causal.parent_mem old (parents.symm ▸ above))
          | inr new => exact kid.not_own_parent (List.mem_singleton.mp new ▸ above)
        · rw [parents]
          exact (missing kid inside above).mp (of_decide_eq_true one)
  · apply List.Nodup.append (distinct.erase _) ((children_nodup keyed _).filter _)
    intro eventId early late
    exact apart eventId (List.mem_of_mem_erase early) (List.mem_filter.mp late).1

/-- One round of the loop emits the next event of the order. -/
theorem release_tracks (keyed : (idsOf events).Nodup) (before : Emitted (parentsOf events) (idsOf events) emitted)
    (tracks : Tracks events emitted state) {event : TraceEvent} (member : event ∈ events) {later : List String}
    (next : sortedBy (entryOf events) (ready (parentsOf events) (idsOf events) emitted) = event.eventId :: later) :
    Tracks events (emitted ++ [event.eventId])
      ((sortedBy id (children events event.eventId)).foldl (release events)
        { state with ready := later.map (entryOf events), ordered := state.ordered ++ [event] }) := by
  have due : event.eventId ∈ ready (parentsOf events) (idsOf events) emitted := by
    have first : event.eventId ∈ sortedBy (entryOf events) (ready (parentsOf events) (idsOf events) emitted) := by
      rw [next]
      exact List.mem_cons_self
    exact mem_sortedBy.mp first
  have fresh := (mem_ready.mp due).2.1
  have sorted := sortedBy_perm id (children events event.eventId)
  obtain ⟨ordered, indegree, readied⟩ := @foldl_release events
    { state with ready := later.map (entryOf events), ordered := state.ordered ++ [event] } keyed
    (sortedBy id (children events event.eventId)) (sorted.nodup_iff.mpr (children_nodup keyed _))
    fun kid inside => children_known (mem_sortedBy.mp inside)
  refine ⟨?_, ?_, ?_, ?_⟩
  · rw [ordered, idsOf, List.map_append, ← tracks.ordered]
    rfl
  · rw [ordered]
    intro other inside
    cases List.mem_append.mp inside with
    | inl old => exact tracks.among other old
    | inr new => exact List.mem_singleton.mp new ▸ member
  · intro child listed
    rw [indegree]
    simp only [mem_sortedBy, mem_children keyed listed]
    have split : (child.parentEventIds.filter (· ∉ emitted)).length =
        (child.parentEventIds.filter (· ∉ emitted ++ [event.eventId])).length +
          if event.eventId ∈ child.parentEventIds then 1 else 0 := length_filter_snoc child.parents_unique fresh
    have counted := tracks.indegree child listed
    by_cases above : event.eventId ∈ child.parentEventIds
    · rw [if_pos above] at split ⊢
      simp only [counted]
      omega
    · rw [if_neg above] at split ⊢
      simp only [counted]
      omega
  · rw [readied]
    have rest : later.Perm ((ready (parentsOf events) (idsOf events) emitted).erase event.eventId) := by
      have whole := (sortedBy_perm (entryOf events) (ready (parentsOf events) (idsOf events) emitted)).erase event.eventId
      rw [next, List.erase_cons_head] at whole
      exact whole
    have after := (ready_snoc keyed before tracks due).map (entryOf events)
    rw [List.map_append] at after
    exact ((rest.map _).append ((sorted.filter _).map _)).trans after.symm

/-- The loop is the order that always takes the ready event with the least entry. -/
theorem sortRounds_emit (keyed : (idsOf events).Nodup) {rounds : Nat}
    (before : Emitted (parentsOf events) (idsOf events) emitted) (tracks : Tracks events emitted state) :
    idsOf (sortRounds events rounds state).ordered =
        emit (parentsOf events) (entryOf events) (idsOf events) rounds emitted ∧
      ∀ event ∈ (sortRounds events rounds state).ordered, event ∈ events := by
  induction rounds generalizing emitted state with
  | zero => exact ⟨tracks.ordered, tracks.among⟩
  | succ rounds ih =>
    unfold sortRounds emit
    rw [heappop_tracks tracks]
    cases next : sortedBy (entryOf events) (ready (parentsOf events) (idsOf events) emitted) with
    | nil => exact ⟨tracks.ordered, tracks.among⟩
    | cons node later =>
      have due : node ∈ ready (parentsOf events) (idsOf events) emitted := by
        have first : node ∈ sortedBy (entryOf events) (ready (parentsOf events) (idsOf events) emitted) := by
          rw [next]
          exact List.mem_cons_self
        exact mem_sortedBy.mp first
      obtain ⟨event, member, same⟩ := mem_idsOf.mp (mem_ready.mp due).1
      subst same
      simp only [entryOf_id, byId_event keyed member]
      exact ih (before.snoc due) (release_tracks keyed before tracks member next)

end Loop

section Whole

variable {events : List TraceEvent}

theorem closed_parents (keyed : (idsOf events).Nodup)
    (known : ∀ event ∈ events, ∀ parent ∈ event.parentEventIds, parent ∈ idsOf events) :
    Closed (parentsOf events) (idsOf events) := by
  intro eventId listed
  obtain ⟨event, member, same⟩ := mem_idsOf.mp listed
  rw [← same, parentsOf_event keyed member]
  exact known event member

/-- What the sort returns: every event, each after its parents. -/
theorem stableTopologicalOrder_ok (keyed : (idsOf events).Nodup) {ordered : List TraceEvent}
    (sorted : stableTopologicalOrder events = .ok ordered) :
    ordered.Perm events ∧ Causal (parentsOf events) (idsOf ordered) ∧
      idsOf ordered = emit (parentsOf events) (entryOf events) (idsOf events) (idsOf events).length [] := by
  obtain ⟨_, full, same⟩ := bind_eq_ok.mp sorted
  have full := require_eq_ok.mp full
  obtain ⟨ids, among⟩ := @sortRounds_emit events [] (initialSort events) keyed events.length emitted_nil
    (initialSort_tracks keyed)
  have same := Except.ok.inj same
  simp only [same] at full ids among
  rw [← (show (idsOf events).length = events.length from List.length_map _)] at ids
  have final : Emitted (parentsOf events) (idsOf events)
      (emit (parentsOf events) (entryOf events) (idsOf events) (idsOf events).length []) := emit_emitted emitted_nil
  rw [← ids] at final
  refine ⟨?_, final.causal, ids⟩
  have distinct : ordered.Nodup := List.Nodup.of_map _ final.distinct
  exact (List.subperm_of_subset distinct among).perm_of_length_le (Nat.le_of_eq full.symm)

theorem stableTopologicalOrder_iff (keyed : (idsOf events).Nodup)
    (known : ∀ event ∈ events, ∀ parent ∈ event.parentEventIds, parent ∈ idsOf events) :
    (∃ ordered, stableTopologicalOrder events = .ok ordered) ↔ Acyclic (parentsOf events) (idsOf events) := by
  have complete : (∀ eventId ∈ idsOf events, eventId ∈
      emit (parentsOf events) (entryOf events) (idsOf events) (idsOf events).length []) ↔
      Acyclic (parentsOf events) (idsOf events) := emit_complete (closed_parents keyed known)
  rw [← complete]
  obtain ⟨ids, among⟩ := @sortRounds_emit events [] (initialSort events) keyed events.length emitted_nil
    (initialSort_tracks keyed)
  have same : (idsOf events).length = events.length := List.length_map _
  rw [← same] at ids among
  have final : Emitted (parentsOf events) (idsOf events)
      (emit (parentsOf events) (entryOf events) (idsOf events) (idsOf events).length []) := emit_emitted emitted_nil
  constructor
  · intro sorted
    obtain ⟨ordered, sorted⟩ := sorted
    obtain ⟨perm, _, eq⟩ := stableTopologicalOrder_ok keyed sorted
    intro eventId listed
    rw [← eq]
    exact (perm.map _).mem_iff.mpr listed
  · intro all
    refine ⟨_, bind_eq_ok.mpr ⟨(), require_eq_ok.mpr ?_, rfl⟩⟩
    have back := (List.subperm_of_subset keyed all).length_le
    have forth := final.length_le
    rw [← ids] at back forth
    have count : (idsOf (sortRounds events (idsOf events).length (initialSort events)).ordered).length =
        (sortRounds events (idsOf events).length (initialSort events)).ordered.length := List.length_map _
    rw [same] at count back forth
    omega

theorem stableTopologicalOrder_perm (keyed : (idsOf events).Nodup) {events' : List TraceEvent}
    (perm : events.Perm events') {ordered : List TraceEvent} (sorted : stableTopologicalOrder events = .ok ordered) :
    stableTopologicalOrder events' = .ok ordered := by
  have read := byId_perm keyed perm
  have parents : parentsOf events' = parentsOf events := by
    funext eventId
    rw [parentsOf, parentsOf, read]
  have entry : entryOf events' = entryOf events := by
    funext eventId
    rw [entryOf, entryOf, read]
  have ids : (idsOf events).Perm (idsOf events') := perm.map _
  have count : events'.length = (idsOf events).length := by
    rw [ids.length_eq]
    exact (List.length_map _).symm
  obtain ⟨again, among⟩ := @sortRounds_emit events' [] (initialSort events') (ids.nodup_iff.mp keyed) events'.length
    emitted_nil (initialSort_tracks (ids.nodup_iff.mp keyed))
  rw [parents, entry, count, ← emit_perm ids fun _ _ _ _ same => entryOf_injective same] at again
  rw [count] at among
  obtain ⟨whole, _, eq⟩ := stableTopologicalOrder_ok keyed sorted
  have same : (sortRounds events' (idsOf events).length (initialSort events')).ordered = ordered := by
    calc
      _ = (idsOf (sortRounds events' (idsOf events).length (initialSort events')).ordered).filterMap (byId events) :=
          (byId_idsOf keyed fun event member => perm.mem_iff.mpr (among event member)).symm
      _ = (idsOf ordered).filterMap (byId events) := by rw [again, eq]
      _ = ordered := byId_idsOf keyed fun event member => whole.mem_iff.mp member
  rw [← count] at same
  have full : (sortRounds events' events'.length (initialSort events')).ordered.length = events'.length := by
    rw [same, whole.length_eq, perm.length_eq]
  exact bind_eq_ok.mpr ⟨(), require_eq_ok.mpr full, congrArg Except.ok same⟩

theorem stableTopologicalOrder_error {error : Raised} (refused : stableTopologicalOrder events = .error error) :
    error = .ValueError "trace event graph contains a cycle" := by
  have only : RaisesOnly (· = .ValueError "trace event graph contains a cycle") (stableTopologicalOrder events) :=
    raisesOnly_bind (raisesOnly_require rfl) fun _ _ => raisesOnly_ok
  exact only error refused

/-- The sort forgets the order the events came in. -/
theorem stableTopologicalOrder_congr (keyed : (idsOf events).Nodup) {events' : List TraceEvent}
    (perm : events'.Perm events) : stableTopologicalOrder events' = stableTopologicalOrder events := by
  have keyed' : (idsOf events').Nodup := (perm.map _).nodup_iff.mpr keyed
  cases sorted : stableTopologicalOrder events with
  | ok ordered => exact stableTopologicalOrder_perm keyed perm.symm sorted
  | error error =>
    cases sorted' : stableTopologicalOrder events' with
    | ok ordered => cases sorted.symm.trans (stableTopologicalOrder_perm keyed' perm sorted')
    | error error' => rw [stableTopologicalOrder_error sorted, stableTopologicalOrder_error sorted']

end Whole

/-- Everything a trace is checked for except its graph. -/
structure Fits (trace : ExecutionTrace) : Prop where
  reasons : trace.reasonCodes.Nodup
  complete : trace.complete = true → trace.events ≠ [] ∧ trace.reasonCodes = []
  incomplete : trace.complete = false → trace.reasonCodes ≠ []
  placed : ∀ event ∈ trace.events, event.caseId = trace.caseId ∧ event.actionId = trace.actionId
  references : ∀ event ∈ trace.events, ∀ reference ∈ scopeReferences event, reference ∈ idsOf trace.events

theorem Fits.perm {trace : ExecutionTrace} (fits : Fits trace) {events : List TraceEvent}
    (perm : events.Perm trace.events) : Fits { trace with events := events } where
  reasons := fits.reasons
  complete done := by
    obtain ⟨some', none'⟩ := fits.complete done
    exact ⟨fun empty => some' (List.nil_perm.mp (empty ▸ perm)), none'⟩
  incomplete := fits.incomplete
  placed event member := fits.placed event (perm.mem_iff.mp member)
  references event member reference refers :=
    (perm.map _).mem_iff.mpr (fits.references event (perm.mem_iff.mp member) reference refers)

theorem validate_sorts {trace : ExecutionTrace} (fits : Fits trace) (keyed : (idsOf trace.events).Nodup)
    (known : ∀ event ∈ trace.events, ∀ parent ∈ event.parentEventIds, parent ∈ idsOf trace.events) :
    trace.validate = (do
      let ordered ← stableTopologicalOrder trace.events
      return { trace with events := ordered, reasonCodes := sortedBy id trace.reasonCodes }) := by
  have checked : trace.events.forM trace.checkEvent = .ok () := by
    apply forM_eq_ok.mpr
    intro event member
    exact bind_eq_ok.mpr ⟨(), require_eq_ok.mpr (fits.placed event member), bind_eq_ok.mpr
      ⟨(), require_eq_ok.mpr (known event member), require_eq_ok.mpr (fits.references event member)⟩⟩
  have passed : ∀ {β : Type} (done : Except Raised Unit) (next : Except Raised β), done = .ok () →
      (done >>= fun _ => next) = next := by
    intro β done next eq
    rw [eq]
    rfl
  have distinct : (trace.events.map (·.eventId)).Nodup := keyed
  unfold ExecutionTrace.validate
  rw [passed _ _ (require_eq_ok.mpr fits.reasons), passed _ _ (require_eq_ok.mpr fits.complete),
    passed _ _ (require_eq_ok.mpr fits.incomplete), passed _ _ (require_eq_ok.mpr distinct), passed _ _ checked]

section Sample

def sampleEvent (eventId : String) (recordedAtUs : Nat) : TraceEvent where
  eventId := eventId
  caseId := "case"
  actionId := "export"
  resourceIds := ["package"]
  kind := .ENTRY
  semanticKey := "request_received"
  recordedAtUs := recordedAtUs
  parents_increasing := .nil
  not_own_parent := List.not_mem_nil

/-- A child that was recorded before its parent. -/
def sampleChild : TraceEvent where
  eventId := "child"
  parentEventIds := ["root-b"]
  caseId := "case"
  actionId := "export"
  resourceIds := ["package"]
  kind := .ENTRY
  semanticKey := "request_received"
  recordedAtUs := 1
  parents_increasing := List.pairwise_singleton _ _
  not_own_parent := by decide

def sampleTrace : ExecutionTrace where
  caseId := "case"
  actionId := "export"
  plannedSubjectId := some "member"
  events := [sampleChild, sampleEvent "root-b" 3, sampleEvent "root-a" 2]
  complete := true

end Sample

end Jiejian.Traces.Ordering
