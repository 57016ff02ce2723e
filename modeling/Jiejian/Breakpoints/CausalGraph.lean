import Jiejian.Breakpoints.Models
import Jiejian.Library.Closures
import Jiejian.Traces.Ordering
import Mathlib.Data.List.Lex

namespace Jiejian.Breakpoints.CausalGraph

open Library Library.Closures Library.DepthFirst Library.Outcome Library.Sorting Library.Topological Errors
open Traces.Models Traces.Ordering Breakpoints.Models

/-- `_Graph`; the events are the values of `by_id`. -/
structure Graph where
  events : List TraceEvent
  ancestors : Cache String
  descendants : Cache String

namespace Graph

variable (graph : Graph)

/-- `graph.ancestors[event_id]`. -/
def above (eventId : String) : List String := (stored graph.ancestors eventId).getD []

/-- `graph.descendants[event_id]`. -/
def below (eventId : String) : List String := (stored graph.descendants eventId).getD []

def roleOf (eventId : String) : String := ((byId graph.events eventId).map (·.kind.value)).getD ""

end Graph

/-- The steps of the longest chain of parents; `rounds` is at least the number of events. -/
def depthFrom (parents : String → List String) : Nat → String → Nat
  | 0, _ => 0
  | rounds + 1, eventId => ((parents eventId).map fun parent => depthFrom parents rounds parent + 1).foldl max 0

/-- `graph.depth[event_id]`. -/
def Graph.depth (graph : Graph) (eventId : String) : Nat :=
  depthFrom (parentsOf graph.events) graph.events.length eventId

/-- `_build_graph`; the sets of the events are formed by calls that are nested at most so deeply. -/
def buildGraph (frames : Nat) (trace : ExecutionTrace) : Except Raised Graph := do
  let ids := idsOf trace.events
  let ancestors ← (closures (parentsOf trace.events) frames ids).mapError fun _ => .RecursionError
  let descendants ← (closures (children trace.events) frames ids).mapError fun _ => .RecursionError
  return ⟨trace.events, ancestors, descendants⟩

/-- `_parent_roles`. -/
def parentRoles (event : TraceEvent) (graph : Graph) : List String := sortedBy id (event.parentEventIds.map graph.roleOf)

abbrev BusinessKey := Nat ×ₗ String ×ₗ List String ×ₗ String ×ₗ String ×ₗ List String ×ₗ String ×ₗ String

/-- `_event_business_key`. -/
def eventBusinessKey (graph : Graph) (event : TraceEvent) : BusinessKey :=
  toLex (graph.depth event.eventId, toLex (event.actionId, toLex (event.resourceIds, toLex (event.kind.value,
    toLex (event.effectId.getD "", toLex (parentRoles event graph, toLex (event.semanticKey, event.eventId)))))))

/-- The events with the ids, in their business order. -/
def inOrder (graph : Graph) (eventIds : List String) : List String :=
  (sortedBy (eventBusinessKey graph) (eventIds.dedup.filterMap (byId graph.events))).map (·.eventId)

/-- `_downstream_events`. -/
def downstreamEvents (primary : Candidate) (candidates : List Candidate) (protectedEvents : List TraceEvent) (graph : Graph) :
    List String :=
  let below := graph.below primary.eventId
  let related := below.filter fun eventId => protectedEvents.any fun event =>
    eventId = event.eventId || eventId ∈ graph.above event.eventId || eventId ∈ graph.below event.eventId
  inOrder graph (related ++ (candidates.map (·.eventId)).filter (· ∈ below))

section Closure

variable {frames : Nat} {trace : ExecutionTrace} {graph : Graph}

theorem buildGraph_eq_ok : buildGraph frames trace = .ok graph ↔
    graph.events = trace.events ∧ closures (parentsOf trace.events) frames (idsOf trace.events) = .ok graph.ancestors ∧
      closures (children trace.events) frames (idsOf trace.events) = .ok graph.descendants := by
  unfold buildGraph
  constructor
  · intro done
    obtain ⟨ancestors, up, done⟩ := bind_eq_ok.mp done
    obtain ⟨descendants, down, same⟩ := bind_eq_ok.mp done
    cases same
    exact ⟨rfl, mapError_eq_ok.mp up, mapError_eq_ok.mp down⟩
  · intro holds
    obtain ⟨events, up, down⟩ := holds
    refine bind_eq_ok.mpr ⟨_, mapError_eq_ok.mpr up, bind_eq_ok.mpr ⟨_, mapError_eq_ok.mpr down, ?_⟩⟩
    rw [← events]
    rfl

/-- The parents of an event of the trace, as a relation from the event. -/
abbrev Descends (trace : ExecutionTrace) : String → String → Prop := Leads (parentsOf trace.events)

theorem mem_above (built : buildGraph frames trace = .ok graph) {eventId other : String}
    (member : eventId ∈ idsOf trace.events) : other ∈ graph.above eventId ↔ Descends trace eventId other := by
  obtain ⟨_, up, _⟩ := buildGraph_eq_ok.mp built
  obtain ⟨set, found, exact'⟩ := closures_sound up member
  unfold Graph.above
  rw [found]
  exact exact' other

theorem mem_below (built : buildGraph frames trace = .ok graph) {eventId other : String}
    (member : eventId ∈ idsOf trace.events) :
    other ∈ graph.below eventId ↔ Leads (children trace.events) eventId other := by
  obtain ⟨_, _, down⟩ := buildGraph_eq_ok.mp built
  obtain ⟨set, found, exact'⟩ := closures_sound down member
  unfold Graph.below
  rw [found]
  exact exact' other

end Closure

/-- What the construction of a trace guarantees of its events. -/
structure Ordered (trace : ExecutionTrace) : Prop where
  keyed : (idsOf trace.events).Nodup
  causal : Causal (parentsOf trace.events) (idsOf trace.events)

theorem validate_ordered {raw trace : ExecutionTrace} (validated : raw.validate = .ok trace) : Ordered trace := by
  obtain ⟨_, _, validated⟩ := bind_eq_ok.mp validated
  obtain ⟨_, _, validated⟩ := bind_eq_ok.mp validated
  obtain ⟨_, _, validated⟩ := bind_eq_ok.mp validated
  obtain ⟨_, distinct, validated⟩ := bind_eq_ok.mp validated
  obtain ⟨_, _, validated⟩ := bind_eq_ok.mp validated
  obtain ⟨ordered, sorted, same⟩ := bind_eq_ok.mp validated
  have keyed : (idsOf raw.events).Nodup := require_eq_ok.mp distinct
  obtain ⟨perm, causal, _⟩ := stableTopologicalOrder_ok keyed sorted
  have parents : parentsOf ordered = parentsOf raw.events := by
    funext eventId
    rw [parentsOf, parentsOf, byId_perm keyed perm.symm]
  cases same
  refine ⟨(perm.map _).nodup_iff.mpr keyed, ?_⟩
  show Causal (parentsOf ordered) (idsOf ordered)
  rw [parents]
  exact causal

section Relations

variable {trace : ExecutionTrace}

theorem Ordered.parents_known (ordered : Ordered trace) {eventId parent : String}
    (above : parent ∈ parentsOf trace.events eventId) : eventId ∈ idsOf trace.events ∧ parent ∈ idsOf trace.events := by
  have known : eventId ∈ idsOf trace.events := by
    by_contra absent
    have missing : byId trace.events eventId = none :=
      Table.lookup_none.mpr fun event member same => absent (mem_idsOf.mpr ⟨event, member, same⟩)
    rw [parentsOf, missing] at above
    cases above
  exact ⟨known, ordered.causal.parent_mem known above⟩

/-- An event is a child of its parents. -/
theorem Ordered.mem_children (ordered : Ordered trace) {eventId parent : String} :
    eventId ∈ children trace.events parent ↔ parent ∈ parentsOf trace.events eventId := by
  constructor
  · intro child
    obtain ⟨event, member, same⟩ := children_known child
    rw [← same] at child ⊢
    rw [parentsOf_event ordered.keyed member]
    exact (Traces.Ordering.mem_children ordered.keyed member).mp child
  · intro above
    obtain ⟨event, member, same⟩ := mem_idsOf.mp (ordered.parents_known above).1
    rw [← same] at above ⊢
    rw [parentsOf_event ordered.keyed member] at above
    exact (Traces.Ordering.mem_children ordered.keyed member).mpr above

/-- What an event leads to descends from it. -/
theorem Ordered.leads_children (ordered : Ordered trace) {eventId other : String} :
    Leads (children trace.events) eventId other ↔ Descends trace other eventId := by
  have same : (fun node child => child ∈ children trace.events node) =
      Function.swap fun node parent => parent ∈ parentsOf trace.events node := by
    funext node child
    exact propext ordered.mem_children
  unfold Leads Descends Leads
  rw [same]
  exact Relation.transGen_swap

theorem Ordered.irreflexive (ordered : Ordered trace) {eventId : String} : ¬Descends trace eventId eventId := by
  intro cycle
  obtain ⟨parent, above, _⟩ := Relation.TransGen.head'_iff.mp cycle
  have acyclic : Acyclic (parentsOf trace.events) (idsOf trace.events) := ordered.causal.acyclic fun _ member => member
  apply acyclic eventId (ordered.parents_known above).1
  exact Relation.transGen_swap.mpr cycle

theorem Ordered.descends_known (ordered : Ordered trace) {eventId other : String} (descends : Descends trace eventId other) :
    eventId ∈ idsOf trace.events ∧ other ∈ idsOf trace.events := by
  refine ⟨?_, ?_⟩
  · obtain ⟨parent, above, _⟩ := Relation.TransGen.head'_iff.mp descends
    exact (ordered.parents_known above).1
  · obtain ⟨child, _, above⟩ := Relation.TransGen.tail'_iff.mp descends
    exact (ordered.parents_known above).2

end Relations

section Depth

variable {parents : String → List String}

theorem le_foldl_max {values : List Nat} {value : Nat} (member : value ∈ values) : value ≤ values.foldl max 0 := by
  have general : ∀ start, start ≤ values.foldl max start ∧ ∀ other ∈ values, other ≤ values.foldl max start := by
    clear member
    induction values with
    | nil => exact fun start => ⟨Nat.le_refl _, fun _ member => absurd member List.not_mem_nil⟩
    | cons first values ih =>
      intro start
      obtain ⟨least, rest⟩ := ih (max start first)
      refine ⟨by rw [List.foldl_cons]; omega, ?_⟩
      intro other listed
      rw [List.foldl_cons]
      cases List.mem_cons.mp listed with
      | inl here => omega
      | inr later => exact rest other later
  exact (general 0).2 value member

/-- More rounds than a path has steps change nothing. -/
theorem depthFrom_stable {most : Nat} {eventId : String} (bounded : Bounded parents (most + 1) eventId) {rounds : Nat}
    (enough : most ≤ rounds) : depthFrom parents rounds eventId = depthFrom parents most eventId := by
  induction most generalizing eventId rounds with
  | zero =>
    have root : parents eventId = [] := List.eq_nil_iff_forall_not_mem.mpr bounded
    cases rounds with
    | zero => rfl
    | succ rounds =>
      unfold depthFrom
      rw [root]
      rfl
  | succ most ih =>
    cases rounds with
    | zero => omega
    | succ rounds =>
      unfold depthFrom
      apply congrArg fun depths : List Nat => depths.foldl max 0
      apply List.map_congr_left
      intro parent above
      rw [ih (bounded parent above) (Nat.le_of_succ_le_succ enough)]

theorem Ordered.bounded {trace : ExecutionTrace} (ordered : Ordered trace) {eventId : String}
    (known : eventId ∈ idsOf trace.events) :
    ∃ before, before < trace.events.length ∧ Bounded (parentsOf trace.events) (before + 1) eventId := by
  obtain ⟨earlier, later, split⟩ := List.append_of_mem known
  refine ⟨earlier.length, ?_, bounded_of_causal ordered.causal split⟩
  have count := congrArg List.length split
  rw [idsOf, List.length_map, List.length_append, List.length_cons] at count
  omega

theorem Ordered.depth_parent {trace : ExecutionTrace} (ordered : Ordered trace) {graph : Graph}
    (events : graph.events = trace.events) {eventId parent : String} (above : parent ∈ parentsOf trace.events eventId) :
    graph.depth parent < graph.depth eventId := by
  obtain ⟨before, inside, bounded⟩ := ordered.bounded (ordered.parents_known above).1
  cases before with
  | zero => exact (bounded parent above).elim
  | succ before =>
    unfold Graph.depth
    rw [events, depthFrom_stable bounded (by omega), depthFrom_stable (bounded parent above) (by omega)]
    have listed : depthFrom (parentsOf trace.events) before parent + 1 ∈
        (parentsOf trace.events eventId).map fun parent => depthFrom (parentsOf trace.events) before parent + 1 :=
      List.mem_map_of_mem above
    exact le_foldl_max listed

/-- What an event descends from is less deep. -/
theorem Ordered.depth_lt {trace : ExecutionTrace} (ordered : Ordered trace) {graph : Graph}
    (events : graph.events = trace.events) {eventId other : String} (descends : Descends trace eventId other) :
    graph.depth other < graph.depth eventId := by
  induction descends with
  | single above => exact ordered.depth_parent events above
  | tail _ above ih => exact Nat.lt_trans (ordered.depth_parent events above) ih

end Depth

/-- No event starts a chain of children that has more events than given. -/
def ShortChains (frames : Nat) (trace : ExecutionTrace) : Prop :=
  ∀ eventId ∈ idsOf trace.events, Bounded (children trace.events) frames eventId

section Build

variable {frames : Nat} {trace : ExecutionTrace}

theorem buildGraph_total (ordered : Ordered trace) (short : ShortChains (frames + 2) trace) :
    ∃ graph, buildGraph (frames + 2) trace = .ok graph := by
  obtain ⟨ancestors, up⟩ := @closures_causal _ _ (parentsOf trace.events) frames _ ordered.causal
  obtain ⟨descendants, down⟩ := closures_total short
  exact ⟨⟨trace.events, ancestors, descendants⟩, buildGraph_eq_ok.mpr ⟨rfl, up, down⟩⟩

/-- The sets of the graph are the strict ancestors and descendants of each event, an event is in neither of its own, and the
depth grows from parent to child. Only the chains of children have to be short: the ancestors are formed in the order of
the trace, so their calls are not nested. -/
theorem graph_exact (raw trace : ExecutionTrace) (frames : Nat) (validated : raw.validate = .ok trace)
    (short : ShortChains (frames + 2) trace) :
    ∃ graph, buildGraph (frames + 2) trace = .ok graph ∧ ∀ event ∈ trace.events, ∀ other ∈ trace.events,
      (other.eventId ∈ graph.above event.eventId ↔
        Relation.TransGen (fun child parent => parent ∈ parentsOf trace.events child) event.eventId other.eventId) ∧
      (event.eventId ∈ graph.below other.eventId ↔ other.eventId ∈ graph.above event.eventId) ∧
      event.eventId ∉ graph.above event.eventId ∧
      (other.eventId ∈ graph.above event.eventId → graph.depth other.eventId < graph.depth event.eventId) := by
  have ordered := validate_ordered validated
  obtain ⟨graph, built⟩ := buildGraph_total ordered short
  refine ⟨graph, built, ?_⟩
  intro event member other member'
  have known : event.eventId ∈ idsOf trace.events := mem_idsOf.mpr ⟨event, member, rfl⟩
  have known' : other.eventId ∈ idsOf trace.events := mem_idsOf.mpr ⟨other, member', rfl⟩
  refine ⟨mem_above built known, ?_, ?_, ?_⟩
  · rw [mem_below built known', mem_above built known, ordered.leads_children]
  · rw [mem_above built known]
    exact ordered.irreflexive
  · rw [mem_above built known]
    exact ordered.depth_lt (buildGraph_eq_ok.mp built).1

end Build

section Sample

theorem no_parents_increasing : ([] : List String).Pairwise (· < ·) := .nil

def requestEvent (caseId : String) : TraceEvent where
  eventId := "request"
  caseId := caseId
  actionId := "action"
  resourceIds := ["resource"]
  kind := .ENTRY
  semanticKey := "request_received"
  recordedAtUs := 1
  parents_increasing := no_parents_increasing
  not_own_parent := List.not_mem_nil

/-- The effect of a request, below it and no authorization. -/
def effectEvent (caseId : String) : TraceEvent where
  eventId := "effect-done"
  parentEventIds := ["request"]
  caseId := caseId
  actionId := "action"
  resourceIds := ["resource"]
  kind := .FINAL_EFFECT
  semanticKey := "effect_done"
  effectId := some "effect"
  evidenceRefs := ["evidence"]
  recordedAtUs := 2
  parents_increasing := List.pairwise_singleton _ _
  not_own_parent := by decide

def plainRun (caseId subjectId : String) : ExecutionTrace where
  caseId := caseId
  actionId := "action"
  plannedSubjectId := some subjectId
  events := [requestEvent caseId, effectEvent caseId]
  complete := true

variable {caseId subjectId : String}

theorem plainRun_valid : (plainRun caseId subjectId).validate = .ok (plainRun caseId subjectId) := by
  have fits : Fits (plainRun caseId subjectId) :=
    { reasons := List.nodup_nil
      complete := fun _ => ⟨List.cons_ne_nil _ _, rfl⟩
      incomplete := fun incomplete => by cases incomplete
      placed := by
        intro event member
        simp only [plainRun, List.mem_cons, List.not_mem_nil, or_false] at member
        rcases member with rfl | rfl <;> exact ⟨rfl, rfl⟩
      references := by
        intro event member reference refers
        simp only [plainRun, List.mem_cons, List.not_mem_nil, or_false] at member
        rcases member with rfl | rfl <;> cases refers }
  have keyed : (idsOf (plainRun caseId subjectId).events).Nodup := by
    show ["request", "effect-done"].Nodup
    decide
  rw [validate_sorts fits keyed ?_]
  · rfl
  · intro event member parent above
    simp only [plainRun, List.mem_cons, List.not_mem_nil, or_false] at member
    rcases member with rfl | rfl
    · cases above
    · rw [List.mem_singleton.mp above]
      exact List.mem_cons_self

theorem plainRun_short : ShortChains 2 (plainRun caseId subjectId) := by
  have below : children (plainRun caseId subjectId).events "request" = ["effect-done"] := rfl
  have leaf : children (plainRun caseId subjectId).events "effect-done" = [] := rfl
  intro eventId known child member last under
  have ids : eventId ∈ ["request", "effect-done"] := known
  cases List.mem_cons.mp ids with
  | inl request =>
    rw [request, below] at member
    rw [List.mem_singleton.mp member, leaf] at under
    cases under
  | inr effect =>
    rw [List.mem_singleton.mp effect, leaf] at member
    cases member

theorem plainRun_exact : ∃ graph, buildGraph 2 (plainRun "case" "member") = .ok graph ∧
    ∀ event ∈ (plainRun "case" "member").events, ∀ other ∈ (plainRun "case" "member").events,
      (other.eventId ∈ graph.above event.eventId ↔ Relation.TransGen
        (fun child parent => parent ∈ parentsOf (plainRun "case" "member").events child) event.eventId other.eventId) ∧
      (event.eventId ∈ graph.below other.eventId ↔ other.eventId ∈ graph.above event.eventId) ∧
      event.eventId ∉ graph.above event.eventId ∧
      (other.eventId ∈ graph.above event.eventId → graph.depth other.eventId < graph.depth event.eventId) :=
  graph_exact (plainRun "case" "member") (plainRun "case" "member") 0 plainRun_valid plainRun_short

end Sample

end Jiejian.Breakpoints.CausalGraph
