import Jiejian.Breakpoints.Evidence
import Jiejian.Breakpoints.Locator

namespace Jiejian.Breakpoints.Located

open Library Library.Closures Library.Outcome Library.Sorting Errors
open Verification.Continuity Traces.Models Traces.Ordering Breakpoints.Models Breakpoints.CausalGraph Breakpoints.Causality
open Breakpoints.Evidence Breakpoints.Locator

/-- The denied run had one of the confirmed effects at the event. -/
def Affected (inputs : FrozenInputs) (effect : TraceEvent) : Prop :=
  effect ∈ inputs.denyTrace.events ∧ realizes inputs.orphanFacts effect = true

/-- The event is the place of a breakpoint of the type, for one of the confirmed effects. -/
def Place (inputs : FrozenInputs) (type : BreakpointType) (place : TraceEvent) : Prop :=
  ∃ effect, Affected inputs effect ∧
    Evident inputs.scope inputs.allowTrace inputs.denyTrace inputs.allowEffectFacts effect type place

theorem Place.member {inputs : FrozenInputs} {type : BreakpointType} {place : TraceEvent} (there : Place inputs type place) :
    place ∈ inputs.denyTrace.events := by
  obtain ⟨effect, affected, evident⟩ := there
  exact evident.member affected.1

/-- The depth of an event below the roots of the denied run. -/
def depthOf (inputs : FrozenInputs) (event : TraceEvent) : Nat := (skeleton inputs.denyTrace).depth event.eventId

/-- What a result says of the place that it names. -/
structure LocatedAt (inputs : FrozenInputs) (result : BreakpointResult) (type : BreakpointType) (place : TraceEvent) :
    Prop where
  evident : Place inputs type place
  shallowest : ∀ other place', Place inputs other place' → depthOf inputs place ≤ depthOf inputs place'
  first : ∀ other place', Place inputs other place' → ¬Descends inputs.denyTrace place.eventId place'.eventId
  certain : result.precision = .EXACT ↔ inputs.allowTrace.complete = true ∧ inputs.denyTrace.complete = true ∧
    ∀ other place', Place inputs other place' → (other, place') = (type, place) ∨
      Descends inputs.denyTrace place'.eventId place.eventId
  boundary : (result.precision = .RANGE ∧ result.rangeEndEventId = some place.eventId ∧
      ∃ parent, place.parentEventIds = [parent] ∧ result.rangeStartEventId = some parent ∧
        result.lastKnownGoodEventId = some parent) ∨
    result.precision ≠ .RANGE ∧ result.firstViolationEventId = some place.eventId
  downstream : ∀ eventId, eventId ∈ result.downstreamEventIds ↔ Descends inputs.denyTrace eventId place.eventId ∧
    ((∃ effect, Affected inputs effect ∧ (eventId = effect.eventId ∨ Descends inputs.denyTrace effect.eventId eventId ∨
        Descends inputs.denyTrace eventId effect.eventId)) ∨
      ∃ other place', Place inputs other place' ∧ place'.eventId = eventId)
  amplifiers : ∀ other, other ∈ result.amplifierTypes ↔ other ≠ type ∧
    ∃ place', Place inputs other place' ∧ Descends inputs.denyTrace place'.eventId place.eventId

section Frozen

variable {frames : Nat} {inputs : FrozenInputs} {graph allowGraph : Graph}

theorem mem_protectedEvents (built : Built frames inputs.denyTrace graph) {effect : TraceEvent} :
    effect ∈ protectedEvents graph inputs.orphanFacts ↔ Affected inputs effect := by
  unfold protectedEvents Affected
  rw [mem_sortedBy, List.mem_filter, built.events]

/-- The candidates of the frozen inputs. -/
def candidatesOf (inputs : FrozenInputs) (graph allowGraph : Graph) : List Candidate :=
  collectCandidates inputs.scope inputs.denyTrace graph (protectedEvents graph inputs.orphanFacts)
    (allowControlEvents inputs.allowTrace allowGraph inputs.allowEffectFacts)

theorem candidatesOf_mark (built : Built frames inputs.denyTrace graph)
    (allowBuilt : Built frames inputs.allowTrace allowGraph) {type : BreakpointType} {eventId : String} :
    (∃ candidate ∈ candidatesOf inputs graph allowGraph, candidate.breakpointType = type ∧ candidate.eventId = eventId) ↔
      ∃ place, Place inputs type place ∧ place.eventId = eventId := by
  have marks := (@collectCandidates_collected inputs.scope inputs.denyTrace graph (protectedEvents graph inputs.orphanFacts)
    (allowControlEvents inputs.allowTrace allowGraph inputs.allowEffectFacts)).marks (type, eventId)
  have split : ∀ candidate : Candidate, Candidate.mark candidate = (type, eventId) ↔
      candidate.breakpointType = type ∧ candidate.eventId = eventId := by
    intro candidate
    rw [Candidate.mark, Prod.mk.injEq]
  simp only [split] at marks
  unfold candidatesOf
  rw [marks]
  simp only [mem_marked, mem_protectedEvents built]
  constructor
  · intro there
    obtain ⟨_, effect, affected, _, member⟩ := there
    obtain ⟨place, _, same, evident⟩ := (built.mem_marksOf allowBuilt affected.1).mp member
    exact ⟨place, ⟨effect, affected, evident⟩, same⟩
  · intro there
    obtain ⟨place, ⟨effect, affected, evident⟩, same⟩ := there
    exact ⟨_, effect, affected, rfl,
      (built.mem_marksOf allowBuilt affected.1).mpr ⟨place, evident.member affected.1, same, evident⟩⟩

/-- Every candidate stands for a place. -/
theorem candidate_place (built : Built frames inputs.denyTrace graph)
    (allowBuilt : Built frames inputs.allowTrace allowGraph) {candidate : Candidate}
    (member : candidate ∈ candidatesOf inputs graph allowGraph) :
    ∃ place, Place inputs candidate.breakpointType place ∧ place.eventId = candidate.eventId :=
  (candidatesOf_mark built allowBuilt).mp ⟨candidate, member, rfl, rfl⟩

theorem place_candidate (built : Built frames inputs.denyTrace graph)
    (allowBuilt : Built frames inputs.allowTrace allowGraph) {type : BreakpointType} {place : TraceEvent}
    (there : Place inputs type place) :
    ∃ candidate ∈ candidatesOf inputs graph allowGraph, candidate.breakpointType = type ∧ candidate.eventId = place.eventId :=
  (candidatesOf_mark built allowBuilt).mpr ⟨place, there, rfl⟩

theorem candidatesOf_keyed : Table.Keyed Candidate.mark (candidatesOf inputs graph allowGraph) :=
  collectCandidates_collected.keyed

end Frozen

section First

variable {frames : Nat} {trace : ExecutionTrace} {graph : Graph} {candidates : List Candidate}

/-- The candidates are at events of the trace. -/
def AtEvents (trace : ExecutionTrace) (candidates : List Candidate) : Prop :=
  ∀ candidate ∈ candidates, candidate.eventId ∈ idsOf trace.events

theorem mem_causalFirst (built : Built frames trace graph) (known : AtEvents trace candidates) {candidate : Candidate} :
    candidate ∈ causalFirst graph candidates ↔ candidate ∈ candidates ∧
      ∀ other ∈ candidates, ¬Descends trace candidate.eventId other.eventId := by
  unfold causalFirst
  rw [List.mem_filter]
  apply and_congr_right
  intro member
  simp only [Bool.not_eq_true', List.any_eq_false, Bool.and_eq_true, decide_eq_true_eq, not_and,
    CausalGraph.mem_above built.graph (known candidate member)]
  constructor
  · intro none' other listed
    by_cases same : other = candidate
    · rw [same]
      exact built.ordered.irreflexive
    · exact none' other listed same
  · exact fun none' other listed _ => none' other listed

/-- Every candidate is one of the first or below one of them. -/
theorem below_first (built : Built frames trace graph) (known : AtEvents trace candidates) {candidate : Candidate}
    (member : candidate ∈ candidates) : ∃ first ∈ causalFirst graph candidates,
      first = candidate ∨ Descends trace candidate.eventId first.eventId := by
  induction size : graph.depth candidate.eventId using Nat.strongRecOn generalizing candidate with
  | ind depth ih =>
    by_cases here : candidate ∈ causalFirst graph candidates
    · exact ⟨candidate, here, .inl rfl⟩
    · rw [mem_causalFirst built known, not_and] at here
      have above := here member
      push Not at above
      obtain ⟨other, listed, descends⟩ := above
      have shallower := built.ordered.depth_lt built.events descends
      obtain ⟨first, inside, where'⟩ := ih _ (size ▸ shallower) listed rfl
      refine ⟨first, inside, .inr ?_⟩
      cases where' with
      | inl same => exact same ▸ descends
      | inr below => exact descends.trans below

theorem candidateKey_depth {left right : Candidate} (before : candidateKey graph left ≤ candidateKey graph right) :
    graph.depth left.eventId ≤ graph.depth right.eventId := by
  unfold candidateKey at before
  exact Prod.Lex.monotone_fst _ _ before

/-- The first candidate of the first ones is the least deep of all. -/
theorem primary_least (built : Built frames trace graph) (known : AtEvents trace candidates) {primary : Candidate}
    (found : (sortedBy (candidateKey graph) (causalFirst graph candidates)).head? = some primary) :
    primary ∈ causalFirst graph candidates ∧
      ∀ candidate ∈ candidates, graph.depth primary.eventId ≤ graph.depth candidate.eventId := by
  obtain ⟨member, least⟩ := head?_sortedBy found
  refine ⟨member, fun candidate listed => ?_⟩
  obtain ⟨first, inside, where'⟩ := below_first built known listed
  have before := candidateKey_depth (least first inside)
  cases where' with
  | inl same => rw [same] at before; exact before
  | inr below => exact Nat.le_trans before (Nat.le_of_lt (built.ordered.depth_lt built.events below))

/-- There is one first candidate exactly when all others are below it. -/
theorem unambiguous (built : Built frames trace graph) (known : AtEvents trace candidates)
    (keyed : Table.Keyed Candidate.mark candidates) {primary : Candidate} (member : primary ∈ causalFirst graph candidates) :
    ¬(causalFirst graph candidates).length > 1 ↔
      ∀ candidate ∈ candidates, candidate = primary ∨ Descends trace candidate.eventId primary.eventId := by
  constructor
  · intro single candidate listed
    obtain ⟨first, inside, where'⟩ := below_first built known listed
    have alone : first = primary := by
      cases shape : causalFirst graph candidates with
      | nil =>
        rw [shape] at member
        cases member
      | cons head rest =>
        rw [shape] at single inside member
        have none' : rest = [] := by
          cases rest with
          | nil => rfl
          | cons second rest => exact absurd (by simp) single
        rw [none'] at inside member
        rw [List.mem_singleton.mp inside, List.mem_singleton.mp member]
    rw [alone] at where'
    exact where'.imp_left Eq.symm
  · intro below more
    have only : ∀ first ∈ causalFirst graph candidates, first = primary := by
      intro first inside
      obtain ⟨listed, none'⟩ := (mem_causalFirst built known).mp inside
      cases below first listed with
      | inl same => exact same
      | inr descends => exact absurd descends (none' primary ((mem_causalFirst built known).mp member).1)
    have distinct : (causalFirst graph candidates).Nodup := (List.Nodup.of_map _ keyed).filter _
    have small := (List.subperm_of_subset distinct fun first inside => List.mem_singleton.mpr (only first inside)).length_le
    rw [List.length_singleton] at small
    omega

end First

section Order

variable {frames : Nat} {trace : ExecutionTrace} {graph : Graph}

theorem inOrder_perm (built : Built frames trace graph) {eventIds : List String}
    (known : ∀ eventId ∈ eventIds, eventId ∈ idsOf trace.events) : (inOrder graph eventIds).Perm eventIds.dedup := by
  have found : ∀ ids : List String, (∀ eventId ∈ ids, eventId ∈ idsOf trace.events) →
      (ids.filterMap (byId graph.events)).map (·.eventId) = ids := by
    intro ids listed
    induction ids with
    | nil => rfl
    | cons eventId ids ih =>
      obtain ⟨event, member, same⟩ := mem_idsOf.mp (listed eventId List.mem_cons_self)
      have here : byId graph.events eventId = some event := by
        rw [built.events, ← same]
        exact byId_event built.ordered.keyed member
      rw [List.filterMap_cons_some here, List.map_cons, same, ih fun other inside => listed other (List.mem_cons_of_mem _ inside)]
  have perm := (sortedBy_perm (eventBusinessKey graph) (eventIds.dedup.filterMap (byId graph.events))).map (·.eventId)
  rw [found _ fun eventId member => known eventId (List.mem_dedup.mp member)] at perm
  exact perm

theorem onlyParent_inOrder (built : Built frames trace graph) {place : TraceEvent} (member : place ∈ trace.events)
    {parent : String} : onlyParent (inOrder graph (parentsOf graph.events place.eventId)) = some parent ↔
      place.parentEventIds = [parent] := by
  have parents : parentsOf graph.events place.eventId = place.parentEventIds := by
    rw [built.events]
    exact parentsOf_event built.ordered.keyed member
  have perm := @inOrder_perm _ _ _ built place.parentEventIds fun parent above => by
    rw [← parentsOf_event built.ordered.keyed member] at above
    exact (built.ordered.parents_known above).2
  rw [place.parents_unique.dedup] at perm
  rw [parents]
  have single : ∀ parents : List String, onlyParent parents = some parent ↔ parents = [parent] := by
    intro parents
    cases parents with
    | nil => simp [onlyParent]
    | cons first rest => cases rest <;> simp [onlyParent]
  rw [single]
  constructor
  · intro same
    rw [same] at perm
    exact List.perm_singleton.mp perm.symm
  · intro same
    rw [same] at perm
    exact List.perm_singleton.mp (same ▸ perm)

end Order

theorem validate_ok {result accepted : BreakpointResult} (validated : result.validate = .ok accepted) :
    accepted = { result with reasonCodes := sortedBy id result.reasonCodes } := by
  obtain ⟨_, _, validated⟩ := bind_eq_ok.mp validated
  obtain ⟨_, _, validated⟩ := bind_eq_ok.mp validated
  obtain ⟨_, _, validated⟩ := bind_eq_ok.mp validated
  obtain ⟨_, _, validated⟩ := bind_eq_ok.mp validated
  obtain ⟨_, _, validated⟩ := bind_eq_ok.mp validated
  obtain ⟨_, _, validated⟩ := bind_eq_ok.mp validated
  obtain ⟨_, _, validated⟩ := bind_eq_ok.mp validated
  obtain ⟨_, _, validated⟩ := bind_eq_ok.mp validated
  exact (Except.ok.inj validated).symm

theorem violationOnly_type {continuity : AuthorizationContinuityAssessment} {refs : List String} {reason : String}
    {result : BreakpointResult} (done : violationOnlyResult continuity refs reason = .ok result) :
    result.breakpointType = none ∧ result.evidenceRefs = refs := by
  unfold violationOnlyResult at done
  rw [validate_ok done]
  exact ⟨rfl, rfl⟩

section Boundary

variable {allowTrace denyTrace : ExecutionTrace} {eventId : String} {parents : List String} {ambiguous : Bool}

theorem precision_exact : (precision allowTrace denyTrace eventId parents ambiguous).precision = .EXACT ↔
    allowTrace.complete = true ∧ denyTrace.complete = true ∧ ambiguous = false := by
  unfold precision
  dsimp only
  by_cases whole : (allowTrace.complete && denyTrace.complete && !ambiguous) = true
  · rw [if_pos whole]
    simp only [Bool.and_eq_true, Bool.not_eq_true', and_assoc] at whole
    simp [whole]
  · rw [if_neg whole]
    simp only [Bool.and_eq_true, Bool.not_eq_true', and_assoc] at whole
    by_cases parent : onlyParent parents ≠ none <;> simp [parent, whole]

/-- Either the range from the one parent to the event, or the event as the first violation. -/
theorem precision_boundary :
    ((precision allowTrace denyTrace eventId parents ambiguous).precision = .RANGE ∧
      (precision allowTrace denyTrace eventId parents ambiguous).rangeEndEventId = some eventId ∧
      ∃ parent, onlyParent parents = some parent ∧
        (precision allowTrace denyTrace eventId parents ambiguous).rangeStartEventId = some parent ∧
        (precision allowTrace denyTrace eventId parents ambiguous).lastKnownGoodEventId = some parent) ∨
    (precision allowTrace denyTrace eventId parents ambiguous).precision ≠ .RANGE ∧
      (precision allowTrace denyTrace eventId parents ambiguous).firstViolationEventId = some eventId := by
  unfold precision
  dsimp only
  by_cases whole : (allowTrace.complete && denyTrace.complete && !ambiguous) = true
  · rw [if_pos whole]
    exact .inr ⟨BreakpointPrecision.noConfusion, rfl⟩
  · rw [if_neg whole]
    cases parent : onlyParent parents with
    | none => exact .inr ⟨BreakpointPrecision.noConfusion, rfl⟩
    | some only => exact .inl ⟨rfl, rfl, only, rfl, rfl, rfl⟩

end Boundary

section Consequences

variable {frames : Nat} {trace : ExecutionTrace} {graph : Graph} {primary : Candidate} {candidates : List Candidate}
  {effects : List TraceEvent}

theorem mem_downstreamEvents (built : Built frames trace graph) (known : primary.eventId ∈ idsOf trace.events)
    (among : ∀ effect ∈ effects, effect ∈ trace.events) {eventId : String} :
    eventId ∈ downstreamEvents primary candidates effects graph ↔ Descends trace eventId primary.eventId ∧
      ((∃ effect ∈ effects, eventId = effect.eventId ∨ Descends trace effect.eventId eventId ∨
          Descends trace eventId effect.eventId) ∨
        ∃ candidate ∈ candidates, candidate.eventId = eventId) := by
  have below : ∀ other, other ∈ graph.below primary.eventId ↔ Descends trace other primary.eventId := by
    intro other
    rw [CausalGraph.mem_below built.graph known, built.ordered.leads_children]
  unfold downstreamEvents
  dsimp only
  rw [(inOrder_perm built ?_).mem_iff, List.mem_dedup, List.mem_append]
  · simp only [List.mem_filter, List.mem_map, below, decide_eq_true_eq, List.any_eq_true, Bool.or_eq_true]
    constructor
    · intro there
      rcases there with ⟨descends, effect, listed, related⟩ | ⟨candidate, descends⟩
      · rw [built.mem_above (among effect listed), built.mem_below (among effect listed), or_assoc] at related
        exact ⟨descends, .inl ⟨effect, listed, related⟩⟩
      · exact ⟨descends, .inr candidate⟩
    · intro there
      rcases there with ⟨descends, ⟨effect, listed, related⟩ | candidate⟩
      · refine .inl ⟨descends, effect, listed, ?_⟩
        rw [built.mem_above (among effect listed), built.mem_below (among effect listed), or_assoc]
        exact related
      · exact .inr ⟨candidate, descends⟩
  · intro other listed
    have descends : Descends trace other primary.eventId := by
      rw [← below]
      cases List.mem_append.mp listed with
      | inl related => exact (List.mem_filter.mp related).1
      | inr marked => exact of_decide_eq_true (List.mem_filter.mp marked).2
    exact (built.ordered.descends_known descends).1

theorem mem_amplifiers (built : Built frames trace graph) (known : primary.eventId ∈ idsOf trace.events)
    {type : BreakpointType} : type ∈ amplifiers primary candidates graph ↔ type ≠ primary.breakpointType ∧
      ∃ candidate ∈ candidates, candidate.breakpointType = type ∧ Descends trace candidate.eventId primary.eventId := by
  unfold amplifiers
  simp only [mem_sortedBy, List.mem_dedup, List.mem_map, List.mem_filter, Bool.and_eq_true, decide_eq_true_eq,
    CausalGraph.mem_below built.graph known, built.ordered.leads_children]
  constructor
  · intro there
    obtain ⟨candidate, ⟨listed, other, descends⟩, same⟩ := there
    exact ⟨same ▸ other, candidate, listed, same, descends⟩
  · intro there
    obtain ⟨other, candidate, listed, same, descends⟩ := there
    exact ⟨candidate, ⟨listed, same ▸ other, descends⟩, same⟩

end Consequences

section Result

variable {frames : Nat} {inputs : FrozenInputs} {graph allowGraph : Graph} {result : BreakpointResult}

theorem candidatesOf_known (built : Built frames inputs.denyTrace graph)
    (allowBuilt : Built frames inputs.allowTrace allowGraph) :
    AtEvents inputs.denyTrace (candidatesOf inputs graph allowGraph) := by
  intro candidate member
  obtain ⟨place, there, same⟩ := candidate_place built allowBuilt member
  exact mem_idsOf.mpr ⟨place, there.member, same⟩

/-- The place that a result at the first candidate is about. -/
theorem resultAt_located (built : Built frames inputs.denyTrace graph)
    (allowBuilt : Built frames inputs.allowTrace allowGraph)
    (done : resultAt inputs graph (protectedEvents graph inputs.orphanFacts) (candidatesOf inputs graph allowGraph) =
      .ok result) :
    ∃ type place, result.breakpointType = some type ∧ LocatedAt inputs result type place := by
  have known := candidatesOf_known built allowBuilt
  obtain ⟨primary, found, done⟩ := bind_eq_ok.mp done
  rw [orRaise_eq_ok] at found
  obtain ⟨_, _, done⟩ := bind_eq_ok.mp done
  obtain ⟨accepted, validated, done⟩ := bind_eq_ok.mp done
  obtain ⟨_, _, same⟩ := bind_eq_ok.mp done
  rw [← Except.ok.inj same, validate_ok validated]
  obtain ⟨isFirst, least⟩ := primary_least built known found
  obtain ⟨listed, none'⟩ := (mem_causalFirst built known).mp isFirst
  obtain ⟨place, there, at'⟩ := candidate_place built allowBuilt listed
  have inside : primary.eventId ∈ idsOf inputs.denyTrace.events := known primary listed
  refine ⟨primary.breakpointType, place, rfl, ?_⟩
  -- what holds of all candidates holds of all places
  have placed : ∀ other place', Place inputs other place' → ∃ candidate ∈ candidatesOf inputs graph allowGraph,
      candidate.breakpointType = other ∧ candidate.eventId = place'.eventId := fun other place' there' =>
    place_candidate built allowBuilt there'
  refine ⟨there, ?_, ?_, ?_, ?_, ?_, ?_⟩
  · intro other place' there'
    obtain ⟨candidate, listed', _, same'⟩ := placed other place' there'
    have shallow := least candidate listed'
    rw [built.depth, built.depth, ← at', same'] at shallow
    exact shallow
  · intro other place' there'
    obtain ⟨candidate, listed', _, same'⟩ := placed other place' there'
    rw [at', ← same']
    exact none' candidate listed'
  · dsimp only [draftOf, boundaryOf]
    rw [precision_exact, decide_eq_false_iff_not, unambiguous built known candidatesOf_keyed isFirst]
    refine and_congr_right fun _ => and_congr_right fun _ => ?_
    constructor
    · intro below other place' there'
      obtain ⟨candidate, listed', type', same'⟩ := placed other place' there'
      cases below candidate listed' with
      | inl eq =>
        refine .inl ?_
        rw [eq] at type' same'
        have identical := Table.Keyed.eq_of_mem built.ordered.keyed there'.member there.member (same'.symm.trans at'.symm)
        rw [identical, type']
      | inr descends =>
        rw [same', ← at'] at descends
        exact .inr descends
    · intro below candidate listed'
      obtain ⟨place', there', same'⟩ := candidate_place built allowBuilt listed'
      cases below _ place' there' with
      | inl eq =>
        obtain ⟨type', identical⟩ := Prod.mk.inj eq
        refine .inl (Table.Keyed.eq_of_mem candidatesOf_keyed listed' listed ?_)
        rw [Candidate.mark, Candidate.mark, type', ← same', identical, at']
      | inr descends =>
        rw [same', at'] at descends
        exact .inr descends
  · dsimp only [draftOf, boundaryOf]
    rw [at']
    have boundary := @precision_boundary inputs.allowTrace inputs.denyTrace primary.eventId
      (inOrder graph (parentsOf graph.events primary.eventId))
      (decide ((causalFirst graph (candidatesOf inputs graph allowGraph)).length > 1))
    cases boundary with
    | inl range =>
      obtain ⟨named, end', parent, only, start, good⟩ := range
      rw [← at', onlyParent_inOrder built there.member] at only
      exact .inl ⟨named, end', parent, only, start, good⟩
    | inr violation => exact .inr violation
  · intro eventId
    dsimp only [draftOf]
    rw [mem_downstreamEvents built inside fun effect member => ((mem_protectedEvents built).mp member).1, at']
    simp only [mem_protectedEvents built, mem_sortedBy]
    apply and_congr_right
    intro _
    apply or_congr_right
    constructor
    · intro there'
      obtain ⟨candidate, listed', same'⟩ := there'
      obtain ⟨place', holds, eq⟩ := candidate_place built allowBuilt listed'
      exact ⟨_, place', holds, eq.trans same'⟩
    · intro there'
      obtain ⟨other, place', holds, eq⟩ := there'
      obtain ⟨candidate, listed', _, same'⟩ := placed other place' holds
      exact ⟨candidate, listed', same'.trans eq⟩
  · intro other
    dsimp only [draftOf]
    rw [mem_amplifiers built inside, at']
    simp only [mem_sortedBy]
    apply and_congr_right
    intro _
    constructor
    · intro there'
      obtain ⟨candidate, listed', type', descends⟩ := there'
      obtain ⟨place', holds, eq⟩ := candidate_place built allowBuilt listed'
      exact ⟨place', type' ▸ holds, eq ▸ descends⟩
    · intro there'
      obtain ⟨place', holds, descends⟩ := there'
      obtain ⟨candidate, listed', type', same'⟩ := placed other place' holds
      exact ⟨candidate, listed', type', same' ▸ descends⟩

/-- What the comparison of the two runs finds: no place and no type, or the type and its first place. -/
theorem locateFrozenEffects_finds (denyOrdered : Ordered inputs.denyTrace) (allowOrdered : Ordered inputs.allowTrace)
    (done : locateFrozenEffects frames inputs = .ok result) :
    (result.breakpointType = none ∧ ∀ type place, ¬Place inputs type place) ∨
      ∃ type place, result.breakpointType = some type ∧ LocatedAt inputs result type place := by
  obtain ⟨graph, graphBuilt, done⟩ := bind_eq_ok.mp done
  obtain ⟨allowGraph, allowGraphBuilt, done⟩ := bind_eq_ok.mp done
  have built : Built frames inputs.denyTrace graph := ⟨denyOrdered, graphBuilt⟩
  have allowBuilt : Built frames inputs.allowTrace allowGraph := ⟨allowOrdered, allowGraphBuilt⟩
  dsimp only at done
  by_cases nothing : protectedEvents graph inputs.orphanFacts = []
  · rw [if_pos nothing] at done
    refine .inl ⟨(violationOnly_type done).1, ?_⟩
    intro type place there
    obtain ⟨effect, affected, _⟩ := there
    have listed := (mem_protectedEvents built).mpr affected
    rw [nothing] at listed
    cases listed
  · rw [if_neg nothing] at done
    by_cases unmarked : candidatesOf inputs graph allowGraph = []
    · have empty : collectCandidates inputs.scope inputs.denyTrace graph (protectedEvents graph inputs.orphanFacts)
          (allowControlEvents inputs.allowTrace allowGraph inputs.allowEffectFacts) = [] := unmarked
      rw [if_pos empty] at done
      refine .inl ⟨(violationOnly_type done).1, ?_⟩
      intro type place there
      obtain ⟨candidate, listed, _⟩ := place_candidate built allowBuilt there
      rw [unmarked] at listed
      cases listed
    · have some' : collectCandidates inputs.scope inputs.denyTrace graph (protectedEvents graph inputs.orphanFacts)
          (allowControlEvents inputs.allowTrace allowGraph inputs.allowEffectFacts) ≠ [] := unmarked
      rw [if_neg some'] at done
      exact .inr (resultAt_located built allowBuilt done)

end Result

end Jiejian.Breakpoints.Located
