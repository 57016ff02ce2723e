import Jiejian.Breakpoints.Causality

namespace Jiejian.Breakpoints.Evidence

open Library Library.Closures Library.Outcome Library.Sorting Errors
open Traces.Models Traces.Ordering Breakpoints.Models Breakpoints.CausalGraph Breakpoints.Causality

/-- The candidates are the marked places, each once, with the effects that marked it. -/
structure Collected (marked : List (String × Mark)) (found : List Candidate) : Prop where
  keyed : Table.Keyed Candidate.mark found
  marks : ∀ mark, (∃ candidate ∈ found, Candidate.mark candidate = mark) ↔ ∃ effectId, (effectId, mark) ∈ marked
  effects : ∀ candidate ∈ found, ∀ effectId,
    effectId ∈ candidate.orphanEventIds ↔ (effectId, Candidate.mark candidate) ∈ marked
  reason : ∀ candidate ∈ found, candidate.reasonCode = "BREAKPOINT_" ++ candidate.breakpointType.value

theorem collected_nil : Collected [] [] :=
  ⟨List.nodup_nil, by simp, fun _ member => absurd member List.not_mem_nil, fun _ member => absurd member List.not_mem_nil⟩

/-- What a place that is met again already has. -/
theorem Collected.prior {marked : List (String × Mark)} {found : List Candidate} (collected : Collected marked found)
    (mark : Mark) (effectId : String) :
    effectId ∈ ((Table.lookup Candidate.mark found mark).map (·.orphanEventIds)).getD [] ↔ (effectId, mark) ∈ marked := by
  cases there : Table.lookup Candidate.mark found mark with
  | none =>
    have absent := Table.lookup_none.mp there
    refine ⟨fun member => absurd member List.not_mem_nil, fun member => ?_⟩
    obtain ⟨candidate, listed, same⟩ := (collected.marks mark).mpr ⟨effectId, member⟩
    exact absurd same (absent candidate listed)
  | some candidate =>
    obtain ⟨listed, same⟩ := Table.lookup_some there
    rw [← same]
    exact collected.effects candidate listed effectId

theorem Collected.add {marked : List (String × Mark)} {found : List Candidate} (collected : Collected marked found)
    (effectId : String) (mark : Mark) : Collected (marked ++ [(effectId, mark)]) (addCandidate effectId found mark) := by
  have member_iff : ∀ other wanted, (other, wanted) ∈ marked ++ [(effectId, mark)] ↔
      (other, wanted) ∈ marked ∨ other = effectId ∧ wanted = mark := by
    intro other wanted
    rw [List.mem_append, List.mem_singleton, Prod.mk.injEq]
  refine ⟨collected.keyed.put _, ?_, ?_, ?_⟩
  · intro wanted
    simp only [member_iff]
    constructor
    · intro there
      obtain ⟨candidate, listed, same⟩ := there
      cases Table.mem_put.mp listed with
      | inl new =>
        rw [new] at same
        exact ⟨effectId, .inr ⟨rfl, same.symm⟩⟩
      | inr old =>
        obtain ⟨other, before⟩ := (collected.marks wanted).mp ⟨candidate, old.1, same⟩
        exact ⟨other, .inl before⟩
    · intro there
      by_cases here : wanted = mark
      · exact ⟨_, Table.mem_put.mpr (.inl rfl), here.symm⟩
      · obtain ⟨other, before⟩ := there
        obtain ⟨candidate, listed, same⟩ := (collected.marks wanted).mpr ⟨other, before.resolve_right fun eq => here eq.2⟩
        exact ⟨candidate, Table.mem_put.mpr (.inr ⟨listed, fun eq => here (same.symm.trans eq)⟩), same⟩
  · intro candidate listed other
    rw [member_iff]
    cases Table.mem_put.mp listed with
    | inl new =>
      rw [new]
      have own : Candidate.mark { breakpointType := mark.1
                                  eventId := mark.2
                                  orphanEventIds := sortedSet
                                    (((Table.lookup Candidate.mark found mark).map (·.orphanEventIds)).getD [] ++ [effectId])
                                  reasonCode := "BREAKPOINT_" ++ mark.1.value } = mark := rfl
      rw [own, mem_sortedSet, List.mem_append, List.mem_singleton, collected.prior]
      simp only [and_true]
    | inr old =>
      rw [collected.effects candidate old.1 other]
      exact (or_iff_left fun eq => old.2 eq.2).symm
  · intro candidate listed
    cases Table.mem_put.mp listed with
    | inl new => rw [new]
    | inr old => exact collected.reason candidate old.1

theorem Collected.all {marked : List (String × Mark)} {found : List Candidate} (collected : Collected marked found)
    (more : List (String × Mark)) :
    Collected (marked ++ more) (more.foldl (fun found pair => addCandidate pair.1 found pair.2) found) := by
  induction more generalizing marked found with
  | nil => rwa [List.append_nil]
  | cons pair more ih =>
    have next := ih (collected.add pair.1 pair.2)
    rwa [List.append_assoc] at next

section Marks

variable {scope : AuthorizationScope} {trace : ExecutionTrace} {graph : Graph} {effects : List TraceEvent}
  {allowControl : List AllowControlEvent}

/-- What all the effects mark. -/
def marked (scope : AuthorizationScope) (trace : ExecutionTrace) (graph : Graph) (effects : List TraceEvent)
    (allowControl : List AllowControlEvent) : List (String × Mark) :=
  effects.flatMap fun effect => (marksOf scope trace graph allowControl effect).map fun mark => (effect.eventId, mark)

theorem collectCandidates_collected : Collected (marked scope trace graph effects allowControl)
    (collectCandidates scope trace graph effects allowControl) := by
  have same : collectCandidates scope trace graph effects allowControl =
      (marked scope trace graph effects allowControl).foldl (fun found pair => addCandidate pair.1 found pair.2) [] := by
    unfold collectCandidates marked
    rw [List.foldl_flatMap]
    congr
    funext found effect
    rw [List.foldl_map]
  rw [same]
  exact collected_nil.all _

theorem mem_marked {effectId : String} {mark : Mark} : (effectId, mark) ∈ marked scope trace graph effects allowControl ↔
    ∃ effect ∈ effects, effect.eventId = effectId ∧ mark ∈ marksOf scope trace graph allowControl effect := by
  unfold marked
  simp only [List.mem_flatMap, List.mem_map, Prod.mk.injEq]
  constructor
  · intro there
    obtain ⟨effect, listed, other, member, same, eq⟩ := there
    exact ⟨effect, listed, same, eq ▸ member⟩
  · intro there
    obtain ⟨effect, listed, same, member⟩ := there
    exact ⟨effect, listed, mark, member, same, rfl⟩

end Marks

/-- The graph without its sets: depths, roles and the business order need the events only. -/
def skeleton (trace : ExecutionTrace) : Graph := ⟨trace.events, [], []⟩

/-- The event uses what an authorization above it hands on to it. -/
def Delegated (trace : ExecutionTrace) (event : TraceEvent) : Prop :=
  ∃ source ∈ trace.events, event.authorityScope.delegatedFromEventId = some source.eventId ∧
    Descends trace event.eventId source.eventId ∧ delegates source event = true

/-- The event acts with more than the contract and the authorizations above it allow. -/
def Exceeds (scope : AuthorizationScope) (trace : ExecutionTrace) (event : TraceEvent) : Prop :=
  ¬Delegated trace event ∧
    ((∃ actionId ∈ event.authorityScope.allowedActionIds, actionId ∉ scope.legalActions ∨ actionId ≠ scope.invariantAction) ∨
      (∃ resourceId ∈ event.authorityScope.allowedResourceIds,
        resourceId ∉ scope.legalResources ∨ resourceId ∉ scope.invariantResources) ∨
      ∃ source, event.credentialSource = some source ∧ ∀ candidate ∈ trace.events,
        Descends trace event.eventId candidate.eventId → candidate.kind = .IDENTITY ∨ candidate.kind = .AUTHORIZATION →
          candidate.credentialSource ≠ some source)

/-- An effect that the allowed run is proved to have had, below an authorization that allowed it. -/
def Controlled (allowTrace : ExecutionTrace) (allowFacts : List LocatedEffect) (event : TraceEvent) : Prop :=
  event ∈ allowTrace.events ∧ realizes (allowFacts.filter (·.state = .CONFIRMED)) event = true ∧
    ∃ candidate ∈ allowTrace.events, candidate.authorizationDecision = some .ALLOW ∧
      relevantAuthorization candidate event = true ∧ Descends allowTrace event.eventId candidate.eventId

def SameEffect (effect control : TraceEvent) : Prop :=
  control.actionId = effect.actionId ∧ control.resourceIds = effect.resourceIds ∧ control.kind = effect.kind ∧
    control.effectId = effect.effectId

/-- The allowed run has the effect on another path than the denied one. -/
def OtherPath (allowTrace trace : ExecutionTrace) (allowFacts : List LocatedEffect) (effect : TraceEvent) : Prop :=
  ∃ control, Controlled allowTrace allowFacts control ∧ SameEffect effect control ∧
    (control.semanticKey = effect.semanticKey ∨
      ∀ other, Controlled allowTrace allowFacts other → SameEffect effect other → other.semanticKey ≠ effect.semanticKey) ∧
    parentRoles control (skeleton allowTrace) ≠ parentRoles effect (skeleton trace)

/-- An identity of the account above the effect, neither of them delegated. -/
def Substitute (trace : ExecutionTrace) (effect : TraceEvent) (subjectId : String) (event : TraceEvent) : Prop :=
  event ∈ trace.events ∧ event.kind = .IDENTITY ∧ event.subjectId = some subjectId ∧
    Descends trace effect.eventId event.eventId ∧ ¬Delegated trace event ∧ ¬Delegated trace effect

/-- What makes an event the place of a breakpoint, said of the traces alone. -/
inductive Evident (scope : AuthorizationScope) (allowTrace trace : ExecutionTrace) (allowFacts : List LocatedEffect)
    (effect : TraceEvent) : BreakpointType → TraceEvent → Prop
  | dispatched (dispatch : TraceEvent) (member : dispatch ∈ trace.events) (complete : trace.complete = true)
      (accepted : ∃ effectId ∈ effect.effectId, effectId ∈ dispatch.dispatchEffectIds)
      (above : Descends trace effect.eventId dispatch.eventId)
      (same : dispatch.caseId = effect.caseId ∧ dispatch.actionId = effect.actionId ∧
        dispatch.resourceIds = effect.resourceIds)
      (before : ∀ event ∈ trace.events, relevantAuthorization event dispatch = true →
        ¬Descends trace dispatch.eventId event.eventId)
      (after : ∃ event ∈ trace.events, relevantAuthorization event dispatch = true ∧
        Descends trace event.eventId dispatch.eventId ∧ event.authorizationDecision ≠ none) :
      Evident scope allowTrace trace allowFacts effect .AUTHORIZATION_LATE dispatch
  | missing (none' : ∀ event ∈ trace.events, relevantAuthorization event effect = false) :
      Evident scope allowTrace trace allowFacts effect .AUTHORIZATION_MISSING effect
  | late (before : ∀ event ∈ trace.events, relevantAuthorization event effect = true →
        ¬Descends trace effect.eventId event.eventId)
      (after : ∃ event ∈ trace.events, relevantAuthorization event effect = true ∧
        Descends trace event.eventId effect.eventId) :
      Evident scope allowTrace trace allowFacts effect .AUTHORIZATION_LATE effect
  | bypassed (some' : ∃ event ∈ trace.events, relevantAuthorization event effect = true)
      (intime : (∃ event ∈ trace.events, relevantAuthorization event effect = true ∧
          Descends trace effect.eventId event.eventId) ∨
        ∀ event ∈ trace.events, relevantAuthorization event effect = true → ¬Descends trace event.eventId effect.eventId)
      (denied : ∀ event ∈ trace.events, relevantAuthorization event effect = true →
        Descends trace effect.eventId event.eventId → event.authorizationDecision ≠ some .ALLOW)
      (other : OtherPath allowTrace trace allowFacts effect) :
      Evident scope allowTrace trace allowFacts effect .AUTHORIZATION_BYPASS effect
  | substituted (event : TraceEvent) (subjectId : String) (known : substitutedSubject scope trace = some subjectId)
      (identity : Substitute trace effect subjectId event)
      (first : ∀ other, Substitute trace effect subjectId other →
        eventBusinessKey (skeleton trace) event ≤ eventBusinessKey (skeleton trace) other) :
      Evident scope allowTrace trace allowFacts effect .IDENTITY_SUBSTITUTION event
  | expanded (event : TraceEvent) (member : event ∈ trace.events)
      (above : Descends trace effect.eventId event.eventId ∨ event = effect)
      (background : isBackgroundActor event ((reliableActualSubject trace).or trace.plannedSubjectId) = true)
      (exceeds : Exceeds scope trace event) :
      Evident scope allowTrace trace allowFacts effect .AUTHORITY_EXPANSION event
  | masked (event : TraceEvent) (member : event ∈ trace.events) (recovery : event.kind = .RECOVERY)
      (below : Descends trace event.eventId effect.eventId) (shared : meets event.resourceIds effect.resourceIds = true) :
      Evident scope allowTrace trace allowFacts effect .COMPENSATION_MASKING event

theorem Evident.member {scope : AuthorizationScope} {allowTrace trace : ExecutionTrace} {allowFacts : List LocatedEffect}
    {effect place : TraceEvent} {type : BreakpointType} (evident : Evident scope allowTrace trace allowFacts effect type place)
    (member : effect ∈ trace.events) : place ∈ trace.events := by
  cases evident with
  | dispatched dispatch listed => exact listed
  | missing => exact member
  | late => exact member
  | bypassed => exact member
  | substituted event subjectId known identity => exact identity.1
  | expanded event listed => exact listed
  | masked event listed => exact listed

section Reading

variable {frames : Nat} {trace allowTrace : ExecutionTrace} {graph allowGraph : Graph} {scope : AuthorizationScope}
  {allowFacts : List LocatedEffect} {effect : TraceEvent}

/-- A graph with what is known of its trace. -/
structure Built (frames : Nat) (trace : ExecutionTrace) (graph : Graph) : Prop where
  ordered : Ordered trace
  graph : buildGraph frames trace = .ok graph

theorem Built.events (built : Built frames trace graph) : graph.events = trace.events := (buildGraph_eq_ok.mp built.graph).1

theorem Built.mem_above (built : Built frames trace graph) {event : TraceEvent} (member : event ∈ trace.events)
    {other : String} : other ∈ graph.above event.eventId ↔ Descends trace event.eventId other :=
  CausalGraph.mem_above built.graph (mem_idsOf.mpr ⟨event, member, rfl⟩)

theorem Built.mem_below (built : Built frames trace graph) {event : TraceEvent} (member : event ∈ trace.events)
    {other : String} : other ∈ graph.below event.eventId ↔ Descends trace other event.eventId := by
  rw [CausalGraph.mem_below built.graph (mem_idsOf.mpr ⟨event, member, rfl⟩), built.ordered.leads_children]

theorem Built.parentRoles (built : Built frames trace graph) (event : TraceEvent) :
    CausalGraph.parentRoles event graph = CausalGraph.parentRoles event (skeleton trace) := by
  have roles : graph.roleOf = (skeleton trace).roleOf := by
    funext eventId
    unfold Graph.roleOf
    rw [built.events]
    rfl
  unfold CausalGraph.parentRoles
  rw [roles]

theorem Built.depth (built : Built frames trace graph) (eventId : String) :
    graph.depth eventId = (skeleton trace).depth eventId := by
  unfold Graph.depth
  rw [built.events]
  rfl

theorem Built.eventBusinessKey (built : Built frames trace graph) (event : TraceEvent) :
    CausalGraph.eventBusinessKey graph event = CausalGraph.eventBusinessKey (skeleton trace) event := by
  unfold CausalGraph.eventBusinessKey
  rw [built.depth, built.parentRoles]

theorem Built.hasLegalDelegation (built : Built frames trace graph) {event : TraceEvent} (member : event ∈ trace.events) :
    Causality.hasLegalDelegation event graph = true ↔ Delegated trace event := by
  unfold Causality.hasLegalDelegation Delegated
  rw [built.events]
  simp only [Option.any_eq_true, Bool.and_eq_true, decide_eq_true_eq, built.mem_above member]
  constructor
  · intro there
    obtain ⟨delegatedFrom, named, above, source, found, fine⟩ := there
    obtain ⟨listed, same⟩ := Table.lookup_some found
    exact ⟨source, listed, same ▸ named, same ▸ above, fine⟩
  · intro there
    obtain ⟨source, listed, named, above, fine⟩ := there
    exact ⟨source.eventId, named, above, source, byId_event built.ordered.keyed listed, fine⟩

theorem Built.exceedsLegalScope (built : Built frames trace graph) {event : TraceEvent} (member : event ∈ trace.events) :
    Causality.exceedsLegalScope event scope trace graph = true ↔ Exceeds scope trace event := by
  have legal := built.hasLegalDelegation member
  have sources : ∀ source, source ∉ subjectSources event trace graph ↔ ∀ candidate ∈ trace.events,
      Descends trace event.eventId candidate.eventId → candidate.kind = .IDENTITY ∨ candidate.kind = .AUTHORIZATION →
        candidate.credentialSource ≠ some source := by
    intro source
    unfold subjectSources
    simp only [List.mem_filterMap, List.mem_filter, Bool.and_eq_true, Bool.or_eq_true, decide_eq_true_eq,
      built.mem_above member]
    constructor
    · intro absent candidate listed above kind same
      exact absent ⟨candidate, ⟨listed, above, kind⟩, same⟩
    · intro absent there
      obtain ⟨candidate, ⟨listed, above, kind⟩, same⟩ := there
      exact absent candidate listed above kind same
  unfold Causality.exceedsLegalScope Exceeds
  rw [← legal]
  by_cases delegated : Causality.hasLegalDelegation event graph = true
  · simp [delegated]
  · rw [if_neg delegated]
    by_cases actions : event.authorityScope.allowedActionIds.any (fun actionId =>
        actionId ∉ scope.legalActions || actionId ≠ scope.invariantAction) = true
    · rw [if_pos actions]
      simp only [List.any_eq_true, Bool.or_eq_true, decide_eq_true_eq] at actions
      exact ⟨fun _ => ⟨delegated, .inl actions⟩, fun _ => rfl⟩
    · rw [if_neg actions]
      simp only [List.any_eq_true, Bool.or_eq_true, decide_eq_true_eq] at actions
      by_cases resources : event.authorityScope.allowedResourceIds.any (fun resourceId =>
          resourceId ∉ scope.legalResources || resourceId ∉ scope.invariantResources) = true
      · rw [if_pos resources]
        simp only [List.any_eq_true, Bool.or_eq_true, decide_eq_true_eq] at resources
        exact ⟨fun _ => ⟨delegated, .inr (.inl resources)⟩, fun _ => rfl⟩
      · rw [if_neg resources]
        simp only [List.any_eq_true, Bool.or_eq_true, decide_eq_true_eq] at resources
        simp only [Option.any_eq_true, decide_eq_true_eq, sources]
        exact ⟨fun there => ⟨delegated, .inr (.inr there)⟩,
          fun there => (there.2.resolve_left actions).resolve_left resources⟩

theorem Built.allowControl (built : Built frames allowTrace allowGraph) {control : AllowControlEvent} :
    control ∈ allowControlEvents allowTrace allowGraph allowFacts ↔
      Controlled allowTrace allowFacts control.event ∧
        control.parentRoles = CausalGraph.parentRoles control.event (skeleton allowTrace) := by
  have allowed : ∀ event ∈ allowTrace.events, hasAllowAuthorization event allowTrace allowGraph = true ↔
      ∃ candidate ∈ allowTrace.events, candidate.authorizationDecision = some .ALLOW ∧
        relevantAuthorization candidate event = true ∧ Descends allowTrace event.eventId candidate.eventId := by
    intro event member
    unfold hasAllowAuthorization
    simp only [List.any_eq_true, Bool.and_eq_true, decide_eq_true_eq, built.mem_above member, and_assoc]
  unfold allowControlEvents Controlled
  simp only [List.mem_map, List.mem_filter, built.events, Bool.and_eq_true]
  constructor
  · intro there
    obtain ⟨event, ⟨listed, real, fine⟩, same⟩ := there
    rw [← same]
    exact ⟨⟨listed, real, (allowed event listed).mp fine⟩, built.parentRoles event⟩
  · intro there
    obtain ⟨⟨listed, real, fine⟩, roles⟩ := there
    refine ⟨control.event, ⟨listed, real, (allowed _ listed).mpr fine⟩, ?_⟩
    rw [built.parentRoles, ← roles]

theorem sameEffect_iff {control : AllowControlEvent} : sameEffect effect control = true ↔ SameEffect effect control.event := by
  unfold sameEffect SameEffect
  simp only [Bool.and_eq_true, decide_eq_true_eq, and_assoc]

theorem Built.controlHasNormalPath (built : Built frames trace graph) (allowBuilt : Built frames allowTrace allowGraph) :
    Causality.controlHasNormalPath effect (allowControlEvents allowTrace allowGraph allowFacts) graph = true ↔
      OtherPath allowTrace trace allowFacts effect := by
  have found : ∀ control, control ∈ (allowControlEvents allowTrace allowGraph allowFacts).filter (sameEffect effect) ↔
      (Controlled allowTrace allowFacts control.event ∧
        control.parentRoles = CausalGraph.parentRoles control.event (skeleton allowTrace)) ∧
        SameEffect effect control.event := by
    intro control
    rw [List.mem_filter, allowBuilt.allowControl, sameEffect_iff]
  have meant : ∀ control, control ∈ ((allowControlEvents allowTrace allowGraph allowFacts).filter (sameEffect effect)).filter
      (fun control => control.event.semanticKey = effect.semanticKey) ↔
      ((Controlled allowTrace allowFacts control.event ∧
        control.parentRoles = CausalGraph.parentRoles control.event (skeleton allowTrace)) ∧
        SameEffect effect control.event) ∧ control.event.semanticKey = effect.semanticKey := by
    intro control
    rw [List.mem_filter, found, decide_eq_true_eq]
  unfold Causality.controlHasNormalPath OtherPath
  dsimp only
  rw [built.parentRoles]
  by_cases semantic : ((allowControlEvents allowTrace allowGraph allowFacts).filter (sameEffect effect)).filter
      (fun control => control.event.semanticKey = effect.semanticKey) ≠ []
  · rw [if_pos semantic]
    simp only [List.any_eq_true, meant, decide_eq_true_eq]
    constructor
    · intro there
      obtain ⟨control, ⟨⟨⟨controlled, roles⟩, same⟩, key⟩, differs⟩ := there
      exact ⟨control.event, controlled, same, .inl key, roles ▸ differs⟩
    · intro there
      obtain ⟨control, controlled, same, key, differs⟩ := there
      refine ⟨⟨control, CausalGraph.parentRoles control (skeleton allowTrace)⟩, ⟨⟨⟨controlled, rfl⟩, same⟩, ?_⟩, differs⟩
      cases key with
      | inl key => exact key
      | inr none' =>
        obtain ⟨other, listed⟩ := List.exists_mem_of_ne_nil _ semantic
        rw [meant] at listed
        exact absurd listed.2 (none' other.event listed.1.1.1 listed.1.2)
  · rw [if_neg semantic]
    simp only [List.any_eq_true, found, decide_eq_true_eq]
    rw [not_not, List.filter_eq_nil_iff] at semantic
    have none' : ∀ other, Controlled allowTrace allowFacts other → SameEffect effect other →
        other.semanticKey ≠ effect.semanticKey := by
      intro other controlled same key
      exact semantic ⟨other, CausalGraph.parentRoles other (skeleton allowTrace)⟩
        ((found _).mpr ⟨⟨controlled, rfl⟩, same⟩) (decide_eq_true key)
    constructor
    · intro there
      obtain ⟨control, ⟨⟨controlled, roles⟩, same⟩, differs⟩ := there
      exact ⟨control.event, controlled, same, .inr none', roles ▸ differs⟩
    · intro there
      obtain ⟨control, controlled, same, _, differs⟩ := there
      exact ⟨⟨control, CausalGraph.parentRoles control (skeleton allowTrace)⟩, ⟨⟨controlled, rfl⟩, same⟩, differs⟩

/-- The place is an event of the trace that is evident for the type. -/
def At (scope : AuthorizationScope) (allowTrace trace : ExecutionTrace) (allowFacts : List LocatedEffect)
    (effect : TraceEvent) (mark : Mark) : Prop :=
  ∃ place ∈ trace.events, place.eventId = mark.2 ∧ Evident scope allowTrace trace allowFacts effect mark.1 place

/-- The events that are chosen, each marked with the type. -/
theorem mem_marks {chosen : TraceEvent → Bool} {type : BreakpointType} {mark : Mark} :
    mark ∈ (trace.events.filter chosen).map (fun event => ((type, event.eventId) : Mark)) ↔
      ∃ event ∈ trace.events, chosen event = true ∧ mark = (type, event.eventId) := by
  simp only [List.mem_map, List.mem_filter, and_assoc, eq_comm]

theorem Built.authorizedLate (built : Built frames trace graph) {dispatch : TraceEvent} (member : dispatch ∈ trace.events) :
    Causality.authorizedLate trace graph dispatch = true ↔
      (∀ event ∈ trace.events, relevantAuthorization event dispatch = true →
        ¬Descends trace dispatch.eventId event.eventId) ∧
      ∃ event ∈ trace.events, relevantAuthorization event dispatch = true ∧
        Descends trace event.eventId dispatch.eventId ∧ event.authorizationDecision ≠ none := by
  unfold Causality.authorizedLate
  simp only [Bool.and_eq_true, Bool.not_eq_true', List.any_eq_false, List.any_eq_true, List.mem_filter,
    decide_eq_true_eq, built.mem_above member, built.mem_below member, Option.isSome_iff_ne_none, and_assoc, and_imp]

theorem Built.dispatches (built : Built frames trace graph) (member : effect ∈ trace.events) {dispatch : TraceEvent} :
    Causality.dispatches graph effect dispatch = true ↔
      (∃ effectId ∈ effect.effectId, effectId ∈ dispatch.dispatchEffectIds) ∧
      Descends trace effect.eventId dispatch.eventId ∧
      dispatch.caseId = effect.caseId ∧ dispatch.actionId = effect.actionId ∧
        dispatch.resourceIds = effect.resourceIds := by
  unfold Causality.dispatches
  simp only [Bool.and_eq_true, Option.any_eq_true, Option.mem_def, decide_eq_true_eq, built.mem_above member, and_assoc]

theorem Built.mem_lateDispatches (built : Built frames trace graph) (member : effect ∈ trace.events) {mark : Mark}
    (listed : mark ∈ lateDispatches trace graph effect) : At scope allowTrace trace allowFacts effect mark := by
  unfold lateDispatches at listed
  by_cases complete : trace.complete = true
  · rw [if_pos complete, mem_marks] at listed
    obtain ⟨dispatch, member', chosen, same⟩ := listed
    rw [Bool.and_eq_true, built.dispatches member, built.authorizedLate member'] at chosen
    obtain ⟨⟨accepted, above, fields⟩, before, after⟩ := chosen
    rw [same]
    exact ⟨dispatch, member', rfl, .dispatched dispatch member' complete accepted above fields before after⟩
  · rw [if_neg complete] at listed
    cases listed

/-- What the authorizations of an effect say of it. -/
theorem Built.authorizationMark (built : Built frames trace graph) (allowBuilt : Built frames allowTrace allowGraph)
    (member : effect ∈ trace.events) {type : BreakpointType} :
    Causality.authorizationMark graph (allowControlEvents allowTrace allowGraph allowFacts) effect = some type ↔
      type = .AUTHORIZATION_MISSING ∧ (∀ event ∈ trace.events, relevantAuthorization event effect = false) ∨
      type = .AUTHORIZATION_LATE ∧ (∀ event ∈ trace.events, relevantAuthorization event effect = true →
          ¬Descends trace effect.eventId event.eventId) ∧
        (∃ event ∈ trace.events, relevantAuthorization event effect = true ∧
          Descends trace event.eventId effect.eventId) ∨
      type = .AUTHORIZATION_BYPASS ∧ (∃ event ∈ trace.events, relevantAuthorization event effect = true) ∧
        ((∃ event ∈ trace.events, relevantAuthorization event effect = true ∧
            Descends trace effect.eventId event.eventId) ∨
          ∀ event ∈ trace.events, relevantAuthorization event effect = true →
            ¬Descends trace event.eventId effect.eventId) ∧
        (∀ event ∈ trace.events, relevantAuthorization event effect = true →
          Descends trace effect.eventId event.eventId → event.authorizationDecision ≠ some .ALLOW) ∧
        OtherPath allowTrace trace allowFacts effect := by
  have none' : trace.events.filter (relevantAuthorization · effect) = [] ↔
      ∀ event ∈ trace.events, relevantAuthorization event effect = false := by
    simp only [List.filter_eq_nil_iff, Bool.not_eq_true]
  have before : (trace.events.filter (relevantAuthorization · effect)).filter
        (fun event => event.eventId ∈ graph.above effect.eventId) = [] ↔
      ∀ event ∈ trace.events, relevantAuthorization event effect = true →
        ¬Descends trace effect.eventId event.eventId := by
    simp only [List.filter_eq_nil_iff, List.mem_filter, decide_eq_true_eq, built.mem_above member, and_imp]
  have after : (trace.events.filter (relevantAuthorization · effect)).filter
        (fun event => event.eventId ∈ graph.below effect.eventId) = [] ↔
      ∀ event ∈ trace.events, relevantAuthorization event effect = true →
        ¬Descends trace event.eventId effect.eventId := by
    simp only [List.filter_eq_nil_iff, List.mem_filter, decide_eq_true_eq, built.mem_below member, and_imp]
  have denied : ((trace.events.filter (relevantAuthorization · effect)).filter
        (fun event => event.eventId ∈ graph.above effect.eventId)).any
        (fun event => event.authorizationDecision = some .ALLOW) = false ↔
      ∀ event ∈ trace.events, relevantAuthorization event effect = true →
        Descends trace effect.eventId event.eventId → event.authorizationDecision ≠ some .ALLOW := by
    simp only [List.any_eq_false, List.mem_filter, decide_eq_true_eq, built.mem_above member, and_imp]
  have somewhere : ∀ {p : TraceEvent → Prop}, ¬(∀ event ∈ trace.events, relevantAuthorization event effect = true → ¬p event) ↔
      ∃ event ∈ trace.events, relevantAuthorization event effect = true ∧ p event := by
    intro p
    push Not
    rfl
  unfold Causality.authorizationMark
  dsimp only
  rw [built.events]
  by_cases absent : trace.events.filter (relevantAuthorization · effect) = []
  · rw [if_pos absent]
    have silent := none'.mp absent
    constructor
    · intro same
      exact .inl ⟨(Option.some.inj same).symm, silent⟩
    · rintro (⟨same, _⟩ | ⟨_, _, event, listed, relevant, _⟩ | ⟨_, ⟨event, listed, relevant⟩, _⟩)
      · rw [same]
      · exact absurd relevant (by rw [silent event listed]; decide)
      · exact absurd relevant (by rw [silent event listed]; decide)
  · rw [if_neg absent]
    have spoken : ¬∀ event ∈ trace.events, relevantAuthorization event effect = false := fun all => absent (none'.mpr all)
    have some' : ∃ event ∈ trace.events, relevantAuthorization event effect = true := by
      push Not at spoken
      simpa using spoken
    by_cases late : (trace.events.filter (relevantAuthorization · effect)).filter
        (fun event => event.eventId ∈ graph.below effect.eventId) ≠ [] ∧
        (trace.events.filter (relevantAuthorization · effect)).filter
        (fun event => event.eventId ∈ graph.above effect.eventId) = []
    · rw [if_pos late]
      have later := somewhere.mp fun all => late.1 (after.mpr all)
      have earlier := before.mp late.2
      constructor
      · intro same
        exact .inr (.inl ⟨(Option.some.inj same).symm, earlier, later⟩)
      · rintro (⟨_, all⟩ | ⟨same, _⟩ | ⟨_, _, intime, _⟩)
        · exact absurd all spoken
        · rw [same]
        · cases intime with
          | inl there =>
            obtain ⟨event, listed, relevant, above⟩ := there
            exact absurd above (earlier event listed relevant)
          | inr none'' =>
            obtain ⟨event, listed, relevant, below⟩ := later
            exact absurd below (none'' event listed relevant)
    · rw [if_neg late]
      have bypass : (!((trace.events.filter (relevantAuthorization · effect)).filter
            (fun event => event.eventId ∈ graph.above effect.eventId)).any
            (fun event => event.authorizationDecision = some .ALLOW) &&
          Causality.controlHasNormalPath effect (allowControlEvents allowTrace allowGraph allowFacts) graph) = true ↔
          (∀ event ∈ trace.events, relevantAuthorization event effect = true →
            Descends trace effect.eventId event.eventId → event.authorizationDecision ≠ some .ALLOW) ∧
            OtherPath allowTrace trace allowFacts effect := by
        rw [Bool.and_eq_true, Bool.not_eq_true', denied, built.controlHasNormalPath allowBuilt]
      have intime : (∃ event ∈ trace.events, relevantAuthorization event effect = true ∧
            Descends trace effect.eventId event.eventId) ∨
          ∀ event ∈ trace.events, relevantAuthorization event effect = true →
            ¬Descends trace event.eventId effect.eventId := by
        rw [← somewhere, ← before, ← after]
        tauto
      have timely : ¬((∀ event ∈ trace.events, relevantAuthorization event effect = true →
          ¬Descends trace effect.eventId event.eventId) ∧
          ∃ event ∈ trace.events, relevantAuthorization event effect = true ∧
            Descends trace event.eventId effect.eventId) := by
        rw [← somewhere, ← before, ← after]
        tauto
      by_cases bypassed : (∀ event ∈ trace.events, relevantAuthorization event effect = true →
          Descends trace effect.eventId event.eventId → event.authorizationDecision ≠ some .ALLOW) ∧
          OtherPath allowTrace trace allowFacts effect
      · rw [if_pos (bypass.mpr bypassed)]
        constructor
        · intro same
          exact .inr (.inr ⟨(Option.some.inj same).symm, some', intime, bypassed⟩)
        · rintro (⟨_, all⟩ | ⟨_, both⟩ | ⟨same, _⟩)
          · exact absurd all spoken
          · exact absurd both timely
          · rw [same]
      · rw [if_neg fun both => bypassed (bypass.mp both)]
        constructor
        · intro same
          cases same
        · rintro (⟨_, all⟩ | ⟨_, both⟩ | ⟨_, _, _, both⟩)
          · exact absurd all spoken
          · exact absurd both timely
          · exact absurd both bypassed

theorem Built.mem_identityEvents (built : Built frames trace graph) (member : effect ∈ trace.events) {subjectId : String}
    {event : TraceEvent} : event ∈ identityEvents graph effect subjectId ↔ Substitute trace effect subjectId event := by
  unfold identityEvents Substitute
  rw [List.mem_filter, built.events]
  apply and_congr_right
  intro listed
  simp only [Bool.and_eq_true, Bool.not_eq_true', Bool.eq_false_iff, ne_eq, built.hasLegalDelegation listed,
    built.hasLegalDelegation member, built.mem_above member, decide_eq_true_eq, and_assoc]

/-- No two events of a trace stand at one place of the business order. -/
theorem eventBusinessKey_injective (keyed : (idsOf trace.events).Nodup) {event other : TraceEvent}
    (listed : event ∈ trace.events) (listed' : other ∈ trace.events)
    (same : CausalGraph.eventBusinessKey graph event = CausalGraph.eventBusinessKey graph other) : event = other := by
  have ids : event.eventId = other.eventId := by
    unfold CausalGraph.eventBusinessKey at same
    simp only [EmbeddingLike.apply_eq_iff_eq, Prod.mk.injEq] at same
    exact same.2.2.2.2.2.2.2
  exact Table.Keyed.eq_of_mem keyed listed listed' ids

theorem Built.mem_identityMark (built : Built frames trace graph) (member : effect ∈ trace.events) {mark : Mark} :
    mark ∈ identityMark scope trace graph effect ↔ ∃ event subjectId, mark = (.IDENTITY_SUBSTITUTION, event.eventId) ∧
      substitutedSubject scope trace = some subjectId ∧ Substitute trace effect subjectId event ∧
      ∀ other, Substitute trace effect subjectId other →
        CausalGraph.eventBusinessKey (skeleton trace) event ≤ CausalGraph.eventBusinessKey (skeleton trace) other := by
  have order : CausalGraph.eventBusinessKey graph = CausalGraph.eventBusinessKey (skeleton trace) := by
    funext event
    exact built.eventBusinessKey event
  unfold identityMark
  rw [order]
  cases substitutedSubject scope trace with
  | none => simp
  | some subjectId =>
    have first : ∀ event, (sortedBy (CausalGraph.eventBusinessKey (skeleton trace))
          (identityEvents graph effect subjectId)).head? = some event ↔
        Substitute trace effect subjectId event ∧ ∀ other, Substitute trace effect subjectId other →
          CausalGraph.eventBusinessKey (skeleton trace) event ≤ CausalGraph.eventBusinessKey (skeleton trace) other := by
      intro event
      constructor
      · intro found
        obtain ⟨listed, least⟩ := head?_sortedBy found
        exact ⟨(built.mem_identityEvents member).mp listed,
          fun other there => least other ((built.mem_identityEvents member).mpr there)⟩
      · intro there
        have listed := (built.mem_identityEvents member).mpr there.1
        refine (head?_sortedBy_iff ?_).mpr ⟨listed, fun other inside =>
          there.2 other ((built.mem_identityEvents member).mp inside)⟩
        intro other inside same
        exact eventBusinessKey_injective built.ordered.keyed ((built.mem_identityEvents member).mp inside).1 there.1.1 same
    simp only [List.mem_map, Option.mem_toList, first, Option.some.injEq]
    constructor
    · intro there
      obtain ⟨event, least, same⟩ := there
      exact ⟨event, subjectId, same.symm, rfl, least⟩
    · intro there
      obtain ⟨event, named, same, eq, least⟩ := there
      rw [← eq] at least
      exact ⟨event, least, same.symm⟩

theorem Built.mem_expansionMarks (built : Built frames trace graph) (member : effect ∈ trace.events) {mark : Mark} :
    mark ∈ expansionMarks scope trace graph effect ↔ ∃ event ∈ trace.events,
      mark = (.AUTHORITY_EXPANSION, event.eventId) ∧
      (Descends trace effect.eventId event.eventId ∨ event = effect) ∧
      isBackgroundActor event ((reliableActualSubject trace).or trace.plannedSubjectId) = true ∧
      Exceeds scope trace event := by
  unfold expansionMarks
  rw [built.events, mem_marks]
  refine exists_congr fun event => and_congr_right fun listed => ?_
  have same : event.eventId = effect.eventId ↔ event = effect :=
    ⟨Table.Keyed.eq_of_mem built.ordered.keyed listed member, fun eq => by rw [eq]⟩
  simp only [Bool.and_eq_true, Bool.or_eq_true, decide_eq_true_eq, built.mem_above member, same,
    built.exceedsLegalScope listed, and_assoc]
  tauto

theorem Built.mem_recoveryMarks (built : Built frames trace graph) (member : effect ∈ trace.events) {mark : Mark} :
    mark ∈ recoveryMarks graph effect ↔ ∃ event ∈ trace.events, mark = (.COMPENSATION_MASKING, event.eventId) ∧
      event.kind = .RECOVERY ∧ Descends trace event.eventId effect.eventId ∧
      meets event.resourceIds effect.resourceIds = true := by
  unfold recoveryMarks
  rw [built.events, mem_marks]
  refine exists_congr fun event => and_congr_right fun _ => ?_
  simp only [Bool.and_eq_true, decide_eq_true_eq, built.mem_below member, and_assoc]
  tauto

/-- An effect marks exactly the places that are evident for it. -/
theorem Built.mem_marksOf (built : Built frames trace graph) (allowBuilt : Built frames allowTrace allowGraph)
    (member : effect ∈ trace.events) {mark : Mark} :
    mark ∈ marksOf scope trace graph (allowControlEvents allowTrace allowGraph allowFacts) effect ↔
      At scope allowTrace trace allowFacts effect mark := by
  unfold marksOf
  simp only [List.mem_append, Option.mem_toList, Option.map_eq_some_iff, or_assoc]
  rw [built.mem_identityMark member, built.mem_expansionMarks member, built.mem_recoveryMarks member]
  constructor
  · intro there
    rcases there with late | ⟨type, own, same⟩ | ⟨event, subjectId, same, known, identity, first⟩ |
      ⟨event, listed, same, above, background, exceeds⟩ | ⟨event, listed, same, recovery, below, shared⟩
    · exact built.mem_lateDispatches member late
    · rw [← same]
      refine ⟨effect, member, rfl, ?_⟩
      rcases (built.authorizationMark allowBuilt member).mp own with ⟨eq, silent⟩ | ⟨eq, before, after⟩ |
        ⟨eq, some', intime, denied, other⟩
      · rw [eq]
        exact .missing silent
      · rw [eq]
        exact .late before after
      · rw [eq]
        exact .bypassed some' intime denied other
    · rw [same]
      exact ⟨event, identity.1, rfl, .substituted event subjectId known identity first⟩
    · rw [same]
      exact ⟨event, listed, rfl, .expanded event listed above background exceeds⟩
    · rw [same]
      exact ⟨event, listed, rfl, .masked event listed recovery below shared⟩
  · intro there
    obtain ⟨place, _, same, evident⟩ := there
    obtain ⟨type, eventId⟩ := mark
    dsimp only at same evident
    rw [← same]
    cases evident with
    | dispatched dispatch listed complete accepted above fields before after =>
      refine .inl ?_
      unfold lateDispatches
      rw [if_pos complete, mem_marks]
      refine ⟨place, listed, ?_, rfl⟩
      rw [Bool.and_eq_true, built.dispatches member, built.authorizedLate listed]
      exact ⟨⟨accepted, above, fields⟩, before, after⟩
    | missing silent => exact .inr (.inl ⟨_, (built.authorizationMark allowBuilt member).mpr (.inl ⟨rfl, silent⟩), rfl⟩)
    | late before after =>
      exact .inr (.inl ⟨_, (built.authorizationMark allowBuilt member).mpr (.inr (.inl ⟨rfl, before, after⟩)), rfl⟩)
    | bypassed some' intime denied other =>
      exact .inr (.inl ⟨_, (built.authorizationMark allowBuilt member).mpr
        (.inr (.inr ⟨rfl, some', intime, denied, other⟩)), rfl⟩)
    | substituted event subjectId known identity first =>
      exact .inr (.inr (.inl ⟨place, subjectId, rfl, known, identity, first⟩))
    | expanded event listed above background exceeds =>
      exact .inr (.inr (.inr (.inl ⟨place, listed, rfl, above, background, exceeds⟩)))
    | masked event listed recovery below shared =>
      exact .inr (.inr (.inr (.inr ⟨place, listed, rfl, recovery, below, shared⟩)))

end Reading

end Jiejian.Breakpoints.Evidence
