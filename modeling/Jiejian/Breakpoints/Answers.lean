import Jiejian.Breakpoints.Located

namespace Jiejian.Breakpoints.Answers

open Library Library.Closures Library.DepthFirst Library.Outcome Library.Sorting Errors
open Protocol.Codec Protocol.Cases Protocol.Actions Protocol.Pairs
open Verification.Models Verification.Decisions Verification.Evaluation Verification.Continuity
open Traces.Models Traces.Ordering Breakpoints.Models Breakpoints.CausalGraph Breakpoints.Causality
open Breakpoints.Evidence Breakpoints.Locator Breakpoints.Located

/-- What the entry checks establish of the frozen inputs, with the bounds of the fields. -/
structure Consistent (frames : Nat) (inputs : FrozenInputs) : Prop where
  denyOrdered : Ordered inputs.denyTrace
  allowOrdered : Ordered inputs.allowTrace
  denyShort : ShortChains (frames + 2) inputs.denyTrace
  allowShort : ShortChains (frames + 2) inputs.allowTrace
  size : inputs.denyTrace.events.length ≤ 512
  broken : inputs.continuity.state = .ORPHAN_EFFECT_CONFIRMED
  confirmed : inputs.continuity.confirmedEffects ≠ []
  effects : inputs.continuity.confirmedEffects.length ≤ 64
  facts : inputs.orphanFacts.map (·.effectId) = inputs.continuity.confirmedEffects.map (·.effectId)
  caseId : inputs.denyTrace.caseId = inputs.continuity.caseId
  actionId : inputs.denyTrace.actionId = inputs.continuity.actionId
  increasing : inputs.publishedRefs.Pairwise (· < ·)
  some' : inputs.publishedRefs ≠ []
  few : inputs.publishedRefs.length ≤ 128
  published : ∀ event ∈ inputs.denyTrace.events, event.evidenceRefs ⊆ inputs.publishedRefs

theorem validateUniqueIds_ok {least most : Nat} {values : List String} (least' : least ≤ values.length)
    (most' : values.length ≤ most) (distinct : values.Nodup) : validateUniqueIds least most values = .ok () :=
  bind_eq_ok.mpr ⟨(), require_eq_ok.mpr ⟨least', most'⟩, require_eq_ok.mpr distinct⟩

/-- A result passes its checks when each part of it does. -/
theorem validate_total {result : BreakpointResult} (effects : validateUniqueIds 1 64 result.orphanEffectIds = .ok ())
    (downstream : validateUniqueIds 0 512 result.downstreamEventIds = .ok ())
    (refs : validateUniqueIds 1 128 result.evidenceRefs = .ok ())
    (amplifiers : result.amplifierTypes.length ≤ 5 ∧ result.amplifierTypes.Nodup)
    (reasons : 1 ≤ result.reasonCodes.length ∧ result.reasonCodes.length ≤ 32 ∧ result.reasonCodes.Nodup)
    (continuity : result.continuity.state = .ORPHAN_EFFECT_CONFIRMED ∧ result.continuity.caseId = result.caseId ∧
      result.continuity.actionId = result.actionId ∧
      SameSet result.orphanEffectIds (result.continuity.confirmedEffects.map (·.effectId)))
    (other : ∀ type ∈ result.breakpointType, type ∉ result.amplifierTypes) (shape : result.validateShape = .ok ()) :
    result.validate = .ok { result with reasonCodes := sortedBy id result.reasonCodes } := by
  unfold BreakpointResult.validate
  rw [effects, downstream, refs]
  refine bind_eq_ok.mpr ⟨(), rfl, bind_eq_ok.mpr ⟨(), rfl, bind_eq_ok.mpr ⟨(), rfl, ?_⟩⟩⟩
  refine bind_eq_ok.mpr ⟨(), require_eq_ok.mpr amplifiers, bind_eq_ok.mpr ⟨(), require_eq_ok.mpr reasons, ?_⟩⟩
  refine bind_eq_ok.mpr ⟨(), require_eq_ok.mpr continuity, bind_eq_ok.mpr ⟨(), require_eq_ok.mpr other, ?_⟩⟩
  exact bind_eq_ok.mpr ⟨(), shape, rfl⟩

section Continuity

variable {frames : Nat} {inputs : FrozenInputs}

/-- The effects of a confirmed break, as a result lists them. -/
theorem orphanEffects_ok {continuity : AuthorizationContinuityAssessment} (confirmed : continuity.confirmedEffects ≠ [])
    (few : continuity.confirmedEffects.length ≤ 64) :
    validateUniqueIds 1 64 (sortedSet (continuity.confirmedEffects.map (·.effectId))) = .ok () := by
  have distinct := (sortedSet_increasing (continuity.confirmedEffects.map (·.effectId))).nodup
  apply validateUniqueIds_ok _ _ distinct
  · obtain ⟨effect, member⟩ := List.exists_mem_of_ne_nil _ confirmed
    have listed : effect.effectId ∈ sortedSet (continuity.confirmedEffects.map (·.effectId)) :=
      mem_sortedSet.mpr (List.mem_map_of_mem member)
    exact List.length_pos_of_mem listed
  · have small := (List.subperm_of_subset distinct fun effectId member => mem_sortedSet.mp member).length_le
    rw [List.length_map] at small
    omega

theorem violationOnlyResult_total {continuity : AuthorizationContinuityAssessment} {refs : List String} {reason : String}
    (broken : continuity.state = .ORPHAN_EFFECT_CONFIRMED) (confirmed : continuity.confirmedEffects ≠ [])
    (few : continuity.confirmedEffects.length ≤ 64) (distinct : refs.Nodup) (some' : refs ≠ []) (most : refs.length ≤ 128)
    (reasons : ["CONFIRMED_ORPHAN_EFFECT", reason, "TRACE_EVIDENCE_INCOMPLETE", "VIOLATION_ONLY"].Nodup) :
    ∃ result, violationOnlyResult continuity refs reason = .ok result := by
  refine ⟨_, validate_total (orphanEffects_ok confirmed few) rfl ?_ ?_ ?_ ?_ ?_ ?_⟩
  · exact validateUniqueIds_ok (List.length_pos_of_ne_nil some') most distinct
  · exact ⟨Nat.zero_le _, List.nodup_nil⟩
  · exact ⟨by simp, by simp, reasons⟩
  · exact ⟨broken, rfl, rfl, sameSet_of_mem_iff fun _ => mem_sortedSet⟩
  · intro type absent
    cases absent
  · exact require_eq_ok.mpr ⟨rfl, rfl, rfl⟩

end Continuity

section Boundary

variable {allowTrace denyTrace : ExecutionTrace} {eventId : String} {parents : List String} {ambiguous : Bool}

theorem precision_reasons :
    (precision allowTrace denyTrace eventId parents ambiguous).reasonCodes.length ≤ 2 := by
  unfold precision
  dsimp only
  by_cases whole : (allowTrace.complete && denyTrace.complete && !ambiguous) = true
  · rw [if_pos whole]
    exact Nat.le_succ 1
  · rw [if_neg whole]
    by_cases parent : onlyParent parents ≠ none
    · rw [if_pos parent]
      exact Nat.le_refl 2
    · rw [if_neg parent]
      exact Nat.le_refl 2

/-- The fields of a boundary are those that its precision asks for. -/
theorem precision_shape {result : BreakpointResult} (typed : result.breakpointType ≠ none)
    (named : result.precision = (precision allowTrace denyTrace eventId parents ambiguous).precision)
    (good : result.lastKnownGoodEventId = (precision allowTrace denyTrace eventId parents ambiguous).lastKnownGoodEventId)
    (first : result.firstViolationEventId = (precision allowTrace denyTrace eventId parents ambiguous).firstViolationEventId)
    (start : result.rangeStartEventId = (precision allowTrace denyTrace eventId parents ambiguous).rangeStartEventId)
    (last : result.rangeEndEventId = (precision allowTrace denyTrace eventId parents ambiguous).rangeEndEventId) :
    result.validateShape = .ok () := by
  unfold precision at named good first start last
  dsimp only at named good first start last
  unfold BreakpointResult.validateShape
  by_cases whole : (allowTrace.complete && denyTrace.complete && !ambiguous) = true
  · rw [if_pos whole] at named good first start last
    rw [named]
    refine bind_eq_ok.mpr ⟨(), require_eq_ok.mpr ⟨typed, ?_⟩, require_eq_ok.mpr ⟨start, last⟩⟩
    rw [first]
    exact Option.some_ne_none _
  · rw [if_neg whole] at named good first start last
    by_cases parent : onlyParent parents ≠ none
    · rw [if_pos parent] at named good first start last
      rw [named]
      refine require_eq_ok.mpr ⟨typed, first, ?_, ?_⟩
      · rw [start]
        exact parent
      · rw [last]
        exact Option.some_ne_none _
    · rw [if_neg parent] at named good first start last
      rw [named]
      exact require_eq_ok.mpr ⟨good, start, last⟩

/-- A boundary names the event and its one parent only. -/
theorem precision_names {named : String}
    (member : named ∈ (precision allowTrace denyTrace eventId parents ambiguous).lastKnownGoodEventId.toList ++
      (precision allowTrace denyTrace eventId parents ambiguous).firstViolationEventId.toList ++
      (precision allowTrace denyTrace eventId parents ambiguous).rangeStartEventId.toList ++
      (precision allowTrace denyTrace eventId parents ambiguous).rangeEndEventId.toList) :
    named = eventId ∨ onlyParent parents = some named := by
  unfold precision at member
  dsimp only at member
  by_cases whole : (allowTrace.complete && denyTrace.complete && !ambiguous) = true
  · rw [if_pos whole] at member
    simp at member
    tauto
  · rw [if_neg whole] at member
    by_cases parent : onlyParent parents ≠ none
    · rw [if_pos parent] at member
      simp at member
      tauto
    · rw [if_neg parent] at member
      simp at member
      tauto

theorem onlyParent_mem {parent : String} (only : onlyParent parents = some parent) : parent ∈ parents := by
  cases parents with
  | nil => cases only
  | cons first rest =>
    cases rest with
    | nil =>
      cases only
      exact List.mem_cons_self
    | cons second rest => cases only

end Boundary

section Draft

variable {frames : Nat} {inputs : FrozenInputs} {graph allowGraph : Graph} {primary : Candidate}
  {candidates : List Candidate} {effects : List TraceEvent}

/-- Beside the type itself there are five others. -/
theorem amplifiers_few : (amplifiers primary candidates graph).length ≤ 5 ∧ (amplifiers primary candidates graph).Nodup ∧
    primary.breakpointType ∉ amplifiers primary candidates graph := by
  have distinct : (amplifiers primary candidates graph).Nodup :=
    (sortedBy_perm _ _).nodup_iff.mpr (List.nodup_dedup _)
  have other : primary.breakpointType ∉ amplifiers primary candidates graph := by
    unfold amplifiers
    simp only [mem_sortedBy, List.mem_dedup, List.mem_map, List.mem_filter, Bool.and_eq_true, decide_eq_true_eq]
    intro there
    obtain ⟨candidate, ⟨_, different, _⟩, same⟩ := there
    exact different same
  refine ⟨?_, distinct, other⟩
  have more : (primary.breakpointType :: amplifiers primary candidates graph).Nodup := List.nodup_cons.mpr ⟨other, distinct⟩
  have all : primary.breakpointType :: amplifiers primary candidates graph ⊆
      [.AUTHORIZATION_MISSING, .AUTHORIZATION_LATE, .AUTHORIZATION_BYPASS, .IDENTITY_SUBSTITUTION, .AUTHORITY_EXPANSION,
        .COMPENSATION_MASKING] := by
    intro type _
    cases type <;> simp
  have small := (List.subperm_of_subset more all).length_le
  exact Nat.le_of_succ_le_succ small

/-- Events are put in order once each. -/
theorem inOrder_nodup {eventIds : List String} : (inOrder graph eventIds).Nodup := by
  have found : ∀ ids : List String, ((ids.filterMap (byId graph.events)).map (·.eventId)).Sublist ids := by
    intro ids
    induction ids with
    | nil => exact List.nil_sublist _
    | cons eventId ids ih =>
      cases there : byId graph.events eventId with
      | none =>
        rw [List.filterMap_cons_none there]
        exact ih.cons _
      | some event =>
        rw [List.filterMap_cons_some there, List.map_cons, (Table.lookup_some there).2]
        exact ih.cons_cons _
  unfold inOrder
  rw [nodup_map_sortedBy]
  exact (List.nodup_dedup eventIds).sublist (found _)

theorem downstream_few (built : Built frames inputs.denyTrace graph) (known : primary.eventId ∈ idsOf inputs.denyTrace.events)
    (among : ∀ effect ∈ effects, effect ∈ inputs.denyTrace.events) :
    (downstreamEvents primary candidates effects graph).Nodup ∧
      downstreamEvents primary candidates effects graph ⊆ idsOf inputs.denyTrace.events := by
  have inside : downstreamEvents primary candidates effects graph ⊆ idsOf inputs.denyTrace.events := by
    intro eventId member
    exact (built.ordered.descends_known ((mem_downstreamEvents built known among).mp member).1).1
  exact ⟨inOrder_nodup, inside⟩

/-- No event brings evidence that is not published. -/
theorem resultRefs_published (published : ∀ event ∈ graph.events, event.evidenceRefs ⊆ inputs.publishedRefs)
    (increasing : inputs.publishedRefs.Pairwise (· < ·)) : resultRefs graph inputs.publishedRefs primary = inputs.publishedRefs := by
  have among : ∀ eventId, eventRefs graph.events eventId ⊆ inputs.publishedRefs := by
    intro eventId
    unfold eventRefs
    cases found : byId graph.events eventId with
    | none => exact List.nil_subset _
    | some event => exact published event (Table.lookup_some found).1
  unfold resultRefs
  refine increasing_ext (sortedSet_increasing _) increasing fun reference => ?_
  rw [mem_sortedSet, List.mem_append, List.mem_append, List.mem_flatMap]
  constructor
  · intro there
    rcases there with (own | here) | ⟨eventId, _, later⟩
    · exact own
    · exact among _ here
    · exact among _ later
  · exact fun own => .inl (.inl own)

theorem draft_total (consistent : Consistent frames inputs) (built : Built (frames + 2) inputs.denyTrace graph)
    (known : primary.eventId ∈ idsOf inputs.denyTrace.events)
    (among : ∀ effect ∈ effects, effect ∈ inputs.denyTrace.events) :
    (draftOf inputs graph effects candidates primary).validate =
      .ok { draftOf inputs graph effects candidates primary with
        reasonCodes := sortedBy id (draftOf inputs graph effects candidates primary).reasonCodes } := by
  have refs : resultRefs graph inputs.publishedRefs primary = inputs.publishedRefs :=
    resultRefs_published (fun event member => consistent.published event (built.events ▸ member)) consistent.increasing
  obtain ⟨few, distinct, other⟩ := @amplifiers_few graph primary (sortedBy (candidateKey graph) candidates)
  obtain ⟨once, inside⟩ := @downstream_few _ inputs graph primary (sortedBy (candidateKey graph) candidates) effects built
    known among
  refine validate_total ?_ ?_ ?_ ⟨few, distinct⟩ ?_ ?_ ?_ ?_
  · dsimp only [draftOf]
    rw [consistent.facts]
    exact orphanEffects_ok consistent.confirmed consistent.effects
  · refine validateUniqueIds_ok (Nat.zero_le _) ?_ once
    have small := (List.subperm_of_subset once inside).length_le
    rw [idsOf, List.length_map] at small
    exact Nat.le_trans small consistent.size
  · dsimp only [draftOf]
    rw [refs]
    exact validateUniqueIds_ok (List.length_pos_of_ne_nil consistent.some') consistent.few consistent.increasing.nodup
  · have most : (["CONFIRMED_ORPHAN_EFFECT", primary.reasonCode] ++
        (boundaryOf inputs graph candidates primary).reasonCodes).dedup.length ≤ 4 := by
      have shorter := (List.dedup_sublist (["CONFIRMED_ORPHAN_EFFECT", primary.reasonCode] ++
        (boundaryOf inputs graph candidates primary).reasonCodes)).length_le
      have two : (boundaryOf inputs graph candidates primary).reasonCodes.length ≤ 2 := precision_reasons
      rw [List.length_append] at shorter
      simp only [List.length_cons, List.length_nil] at shorter
      omega
    refine ⟨?_, Nat.le_trans most (by decide), List.nodup_dedup _⟩
    have first : "CONFIRMED_ORPHAN_EFFECT" ∈ (["CONFIRMED_ORPHAN_EFFECT", primary.reasonCode] ++
        (boundaryOf inputs graph candidates primary).reasonCodes).dedup := List.mem_dedup.mpr List.mem_cons_self
    exact List.length_pos_of_mem first
  · refine ⟨consistent.broken, consistent.caseId.symm, consistent.actionId.symm, ?_⟩
    dsimp only [draftOf]
    rw [consistent.facts]
    exact sameSet_of_mem_iff fun _ => mem_sortedSet
  · intro type same
    cases same
    exact other
  · exact precision_shape (Option.some_ne_none _) rfl rfl rfl rfl rfl

/-- Every event that a draft names is one of the trace. -/
theorem draft_references (built : Built (frames + 2) inputs.denyTrace graph)
    (known : primary.eventId ∈ idsOf inputs.denyTrace.events)
    (among : ∀ effect ∈ effects, effect ∈ inputs.denyTrace.events) {reasons : List String} :
    validateResultEventRefs { draftOf inputs graph effects candidates primary with reasonCodes := reasons } graph =
      .ok () := by
  obtain ⟨_, inside⟩ := @downstream_few _ inputs graph primary (sortedBy (candidateKey graph) candidates) effects built
    known among
  refine require_eq_ok.mpr fun reference member => ?_
  rw [built.events]
  cases List.mem_append.mp member with
  | inl named =>
    cases precision_names named with
    | inl same =>
      rw [same]
      exact known
    | inr only =>
      have listed := onlyParent_mem only
      obtain ⟨place, there, same⟩ := mem_idsOf.mp known
      have parents : ∀ parent ∈ parentsOf graph.events primary.eventId, parent ∈ idsOf inputs.denyTrace.events := by
        intro parent above
        rw [built.events] at above
        exact (built.ordered.parents_known above).2
      rw [(inOrder_perm built parents).mem_iff, List.mem_dedup] at listed
      exact parents reference listed
  | inr below => exact inside below

end Draft

section Frozen

variable {frames : Nat} {inputs : FrozenInputs} {graph allowGraph : Graph}

theorem resultAt_total (consistent : Consistent frames inputs) (built : Built (frames + 2) inputs.denyTrace graph)
    (allowBuilt : Built (frames + 2) inputs.allowTrace allowGraph) (some' : candidatesOf inputs graph allowGraph ≠ []) :
    ∃ result, resultAt inputs graph (protectedEvents graph inputs.orphanFacts) (candidatesOf inputs graph allowGraph) =
      .ok result ∧ result.evidenceRefs = inputs.publishedRefs := by
  have known := candidatesOf_known built allowBuilt
  obtain ⟨candidate, member⟩ := List.exists_mem_of_ne_nil _ some'
  obtain ⟨first, inside, _⟩ := below_first built known member
  cases found : (sortedBy (candidateKey graph) (causalFirst graph (candidatesOf inputs graph allowGraph))).head? with
  | none =>
    rw [List.head?_eq_none_iff] at found
    have listed : first ∈ sortedBy (candidateKey graph) (causalFirst graph (candidatesOf inputs graph allowGraph)) :=
      mem_sortedBy.mpr inside
    rw [found] at listed
    cases listed
  | some primary =>
    have listed := ((mem_causalFirst built known).mp (head?_sortedBy found).1).1
    have at' := known primary listed
    have among : ∀ effect ∈ protectedEvents graph inputs.orphanFacts, effect ∈ inputs.denyTrace.events :=
      fun effect member => ((mem_protectedEvents built).mp member).1
    have refs : resultRefs graph inputs.publishedRefs primary = inputs.publishedRefs :=
      resultRefs_published (fun event member => consistent.published event (built.events ▸ member)) consistent.increasing
    refine ⟨_, bind_eq_ok.mpr ⟨primary, orRaise_eq_ok.mpr found, bind_eq_ok.mpr ⟨(), require_eq_ok.mpr ?_, bind_eq_ok.mpr
      ⟨_, draft_total consistent built at' among, bind_eq_ok.mpr ⟨(), draft_references built at' among, rfl⟩⟩⟩⟩, refs⟩
    rw [refs]
    exact consistent.some'

theorem locateFrozenEffects_total (consistent : Consistent frames inputs) :
    ∃ result, locateFrozenEffects (frames + 2) inputs = .ok result ∧ result.evidenceRefs = inputs.publishedRefs := by
  obtain ⟨graph, graphBuilt⟩ := buildGraph_total consistent.denyOrdered consistent.denyShort
  obtain ⟨allowGraph, allowGraphBuilt⟩ := buildGraph_total consistent.allowOrdered consistent.allowShort
  have built : Built (frames + 2) inputs.denyTrace graph := ⟨consistent.denyOrdered, graphBuilt⟩
  have allowBuilt : Built (frames + 2) inputs.allowTrace allowGraph := ⟨consistent.allowOrdered, allowGraphBuilt⟩
  have violation : ∀ reason, ["CONFIRMED_ORPHAN_EFFECT", reason, "TRACE_EVIDENCE_INCOMPLETE", "VIOLATION_ONLY"].Nodup →
      ∃ result, violationOnlyResult inputs.continuity inputs.publishedRefs reason = .ok result := fun reason distinct =>
    violationOnlyResult_total consistent.broken consistent.confirmed consistent.effects consistent.increasing.nodup
      consistent.some' consistent.few distinct
  have reads : ∀ {outcome : Except Raised BreakpointResult}, locateFrozenEffects (frames + 2) inputs = outcome ↔
      (if protectedEvents graph inputs.orphanFacts = [] then
        violationOnlyResult inputs.continuity inputs.publishedRefs "PROTECTED_EFFECT_EVENT_UNAVAILABLE"
      else if candidatesOf inputs graph allowGraph = [] then
        violationOnlyResult inputs.continuity inputs.publishedRefs "BREAKPOINT_TRACE_UNRESOLVED"
      else resultAt inputs graph (protectedEvents graph inputs.orphanFacts) (candidatesOf inputs graph allowGraph)) =
        outcome := by
    intro outcome
    unfold locateFrozenEffects
    rw [graphBuilt, allowGraphBuilt]
    rfl
  by_cases nothing : protectedEvents graph inputs.orphanFacts = []
  · obtain ⟨result, done⟩ := violation "PROTECTED_EFFECT_EVENT_UNAVAILABLE" (by decide)
    exact ⟨result, reads.mpr (by rw [if_pos nothing, done]), (violationOnly_type done).2⟩
  · by_cases unmarked : candidatesOf inputs graph allowGraph = []
    · obtain ⟨result, done⟩ := violation "BREAKPOINT_TRACE_UNRESOLVED" (by decide)
      exact ⟨result, reads.mpr (by rw [if_neg nothing, if_pos unmarked, done]), (violationOnly_type done).2⟩
    · obtain ⟨result, done, refs⟩ := resultAt_total consistent built allowBuilt unmarked
      exact ⟨result, reads.mpr (by rw [if_neg nothing, if_neg unmarked, done]), refs⟩

end Frozen

theorem assess_named {action : ExecutionAction} {facts : CheckDecisionInput} {assessment : AuthorizationContinuityAssessment}
    (assessed : assessCheckAuthorizationContinuity action facts = .ok assessment) :
    assessment.caseId = facts.case.caseId ∧ assessment.actionId = action.actionId := by
  obtain ⟨_, _, assessed⟩ := bind_eq_ok.mp assessed
  obtain ⟨_, _, assessed⟩ := bind_eq_ok.mp assessed
  obtain ⟨_, _, assessed⟩ := bind_eq_ok.mp assessed
  obtain ⟨_, _, assessed⟩ := bind_eq_ok.mp assessed
  obtain ⟨_, _, assessed⟩ := bind_eq_ok.mp assessed
  obtain ⟨_, _, assessed⟩ := bind_eq_ok.mp assessed
  rw [← Except.ok.inj assessed]
  exact ⟨rfl, rfl⟩

theorem publishedReferences_eq_ok {values published : List String} : publishedReferences values = .ok published ↔
    values.Nodup ∧ (∀ value ∈ values, publicId value = true) ∧ published = sortedBy id values := by
  unfold publishedReferences
  simp only [bind_eq_ok, require_eq_ok]
  constructor
  · intro done
    obtain ⟨_, distinct, _, fine, same⟩ := done
    exact ⟨distinct, fine, (Except.ok.inj same).symm⟩
  · intro done
    obtain ⟨distinct, fine, same⟩ := done
    exact ⟨(), distinct, (), fine, congrArg Except.ok same.symm⟩

section Located

variable {frames : Nat} {inputs : CurrentInputs} {allowTrace denyTrace : ExecutionTrace} {result : BreakpointResult}

/-- A result that is given for two runs is what their comparison finds. -/
theorem locateCurrent_compares (givenAllow : inputs.allowTrace = some allowTrace) (givenDeny : inputs.denyTrace = some denyTrace)
    (done : locateCurrent frames inputs = .ok (some result)) :
    ∃ continuity, assessCheckAuthorizationContinuity inputs.action inputs.denyFacts = .ok continuity ∧
      continuity.state = .ORPHAN_EFFECT_CONFIRMED ∧
      locateFrozenEffects frames (inputs.freeze continuity allowTrace denyTrace (sortedBy id inputs.denyEvidenceRefs)) =
        .ok result := by
  obtain ⟨_, _, done⟩ := bind_eq_ok.mp done
  obtain ⟨continuity, assessed, done⟩ := bind_eq_ok.mp done
  refine ⟨continuity, assessed, ?_⟩
  by_cases broken : continuity.state = .ORPHAN_EFFECT_CONFIRMED
  · rw [if_neg (not_not.mpr broken)] at done
    obtain ⟨denyRefs, denyPublished, done⟩ := bind_eq_ok.mp done
    obtain ⟨_, _, done⟩ := bind_eq_ok.mp done
    obtain ⟨_, _, done⟩ := bind_eq_ok.mp done
    obtain ⟨_, _, done⟩ := bind_eq_ok.mp done
    obtain ⟨_, _, done⟩ := bind_eq_ok.mp done
    obtain ⟨_, _, done⟩ := bind_eq_ok.mp done
    unfold compareTraces at done
    rw [givenAllow, givenDeny] at done
    obtain ⟨found, located, same⟩ := bind_eq_ok.mp done
    rw [← (publishedReferences_eq_ok.mp denyPublished).2.2, ← Option.some.inj (Except.ok.inj same)]
    exact ⟨broken, located⟩
  · rw [if_pos broken] at done
    cases done

/-- Whatever is located is so on evidence that can be read off the two traces: either no event is the place of a breakpoint
and no type is named, or the type and the event are evident, nothing evident lies above the event, the result is exact
only when both traces are complete and everything else that is evident lies below it, and it lists exactly the
consequences and the other types among them. -/
theorem located_current (rawAllow rawDeny : ExecutionTrace) (allowBuilt : rawAllow.validate = .ok allowTrace)
    (denyBuilt : rawDeny.validate = .ok denyTrace) (givenAllow : inputs.allowTrace = some allowTrace)
    (givenDeny : inputs.denyTrace = some denyTrace) (done : locateCurrent frames inputs = .ok (some result)) :
    ∃ continuity, assessCheckAuthorizationContinuity inputs.action inputs.denyFacts = .ok continuity ∧
      let frozen := inputs.freeze continuity allowTrace denyTrace (sortedBy id inputs.denyEvidenceRefs)
      (result.breakpointType = none ∧ ∀ type place, ¬Place frozen type place) ∨
        ∃ type place, result.breakpointType = some type ∧ LocatedAt frozen result type place := by
  obtain ⟨continuity, assessed, _, located⟩ := locateCurrent_compares givenAllow givenDeny done
  refine ⟨continuity, assessed, ?_⟩
  have denyOrdered : Ordered denyTrace := validate_ordered denyBuilt
  have allowOrdered : Ordered allowTrace := validate_ordered allowBuilt
  exact locateFrozenEffects_finds denyOrdered allowOrdered located

end Located

/-- The inputs of one experiment, each within the bounds of its field. -/
structure Admissible (frames : Nat) (inputs : CurrentInputs) : Prop where
  twin : inputs.twin ∈ inputs.action.twins
  denyCase : inputs.denyFacts.case ∈ inputs.action.cases
  allowCase : inputs.allowFacts.case ∈ inputs.action.cases
  pair : inputs.allowFacts.case.caseId = inputs.twin.allowCaseId ∧ inputs.denyFacts.case.caseId = inputs.twin.denyCaseId
  proven : Proven inputs.denyFacts.case
  deny : inputs.denyFacts.case.permission.expectation = .DENY
  effects : inputs.denyFacts.case.protectedEffectIds.length ≤ 16
  denyRefs : inputs.denyEvidenceRefs.Nodup ∧ ∀ value ∈ inputs.denyEvidenceRefs, publicId value = true
  allowRefs : inputs.allowEvidenceRefs.Nodup ∧ ∀ value ∈ inputs.allowEvidenceRefs, publicId value = true
  published : inputs.denyEvidenceRefs ≠ [] ∧ inputs.denyEvidenceRefs.length ≤ 48
  apart : ∀ reference ∈ inputs.denyEvidenceRefs, reference ∉ inputs.allowEvidenceRefs
  identities : (inputs.identities.map (·.identityId)).Nodup
  within : ∀ trace ∈ inputs.denyTrace, withinCase inputs.action inputs.identities inputs.traceNamespace inputs.denyFacts.case
    trace inputs.denyEvidenceRefs
  allowWithin : ∀ trace ∈ inputs.allowTrace, withinCase inputs.action inputs.identities inputs.traceNamespace
    inputs.allowFacts.case trace inputs.allowEvidenceRefs
  built : ∀ trace, inputs.denyTrace = some trace ∨ inputs.allowTrace = some trace →
    (∃ raw : ExecutionTrace, raw.validate = .ok trace) ∧ ShortChains (frames + 2) trace ∧ trace.events.length ≤ 512

section Answers

variable {frames : Nat} {inputs : CurrentInputs}

theorem withinCase_sorted {action : ExecutionAction} {identities : List Protocol.Runtime.CheckIdentity}
    {traceNamespace : Option String} {case : ExecutionCase} {trace : ExecutionTrace} {refs : List String}
    (within : withinCase action identities traceNamespace case trace refs) :
    withinCase action identities traceNamespace case trace (sortedBy id refs) := by
  obtain ⟨caseId, actionId, planned, published, resources⟩ := within
  exact ⟨caseId, actionId, planned, fun event member reference inside => mem_sortedBy.mpr (published event member inside),
    resources⟩

theorem checkTrace_ok {facts : CheckDecisionInput} {trace : Option ExecutionTrace} {refs : List String}
    (within : ∀ given ∈ trace, withinCase inputs.action inputs.identities inputs.traceNamespace facts.case given refs) :
    checkTrace inputs facts trace (sortedBy id refs) = .ok () := by
  cases trace with
  | none => rfl
  | some given => exact require_eq_ok.mpr (withinCase_sorted (within given rfl))

/-- A break is confirmed by effects of the case, each once. -/
theorem confirmed_few (admissible : Admissible frames inputs) {continuity : AuthorizationContinuityAssessment}
    (confirmed : continuity.confirmedEffects = sortedBy AuthorizationEffectReference.order
      (confirmedReferences inputs.denyFacts)) : continuity.confirmedEffects.length ≤ 64 := by
  have sub : (confirmedReferences inputs.denyFacts).length ≤ (protectedReferences inputs.denyFacts.case).length :=
    List.length_filter_le _ _
  have same : (protectedReferences inputs.denyFacts.case).length = inputs.denyFacts.case.protectedEffectIds.length :=
    List.length_map _
  have bound := admissible.effects
  rw [confirmed, (sortedBy_perm _ _).length_eq]
  omega

theorem freeze_consistent (admissible : Admissible frames inputs) {continuity : AuthorizationContinuityAssessment}
    (assessed : assessCheckAuthorizationContinuity inputs.action inputs.denyFacts = .ok continuity)
    (broken : continuity.state = .ORPHAN_EFFECT_CONFIRMED) (some' : continuity.confirmedEffects ≠ [])
    (few : continuity.confirmedEffects.length ≤ 64) {allowTrace denyTrace : ExecutionTrace}
    (givenAllow : inputs.allowTrace = some allowTrace) (givenDeny : inputs.denyTrace = some denyTrace) :
    Consistent frames (inputs.freeze continuity allowTrace denyTrace (sortedBy id inputs.denyEvidenceRefs)) := by
  obtain ⟨⟨rawDeny, denyValid⟩, denyShort, size⟩ := admissible.built denyTrace (.inl givenDeny)
  obtain ⟨⟨rawAllow, allowValid⟩, allowShort, _⟩ := admissible.built allowTrace (.inr givenAllow)
  obtain ⟨caseId, actionId, _, published, _⟩ := withinCase_sorted (admissible.within denyTrace givenDeny)
  obtain ⟨caseId', actionId'⟩ := assess_named assessed
  have perm := sortedBy_perm id inputs.denyEvidenceRefs
  have increasing : (sortedBy id inputs.denyEvidenceRefs).Pairwise (· < ·) := by
    have distinct := perm.nodup_iff.mpr admissible.denyRefs.1
    exact ((sortedBy_ordered id inputs.denyEvidenceRefs).and distinct).imp fun both => lt_of_le_of_ne both.1 both.2
  exact
    { denyOrdered := validate_ordered denyValid
      allowOrdered := validate_ordered allowValid
      denyShort := denyShort
      allowShort := allowShort
      size := size
      broken := broken
      confirmed := some'
      effects := few
      facts := by
        unfold CurrentInputs.freeze
        rw [List.map_map]
        rfl
      caseId := caseId.trans caseId'.symm
      actionId := actionId.trans actionId'.symm
      increasing := increasing
      some' := fun empty => admissible.published.1 (sortedBy_eq_nil.mp empty)
      few := by
        have most := admissible.published.2
        show (sortedBy id inputs.denyEvidenceRefs).length ≤ 128
        rw [perm.length_eq]
        omega
      published := published }

theorem opening_ok (admissible : Admissible frames inputs) : inputs.twin ∈ inputs.action.twins ∧
    inputs.denyFacts.case ∈ inputs.action.cases ∧ inputs.allowFacts.case ∈ inputs.action.cases ∧
    inputs.allowFacts.case.caseId = inputs.twin.allowCaseId ∧ inputs.denyFacts.case.caseId = inputs.twin.denyCaseId :=
  ⟨admissible.twin, admissible.denyCase, admissible.allowCase, admissible.pair⟩

/-- Where no forbidden effect is confirmed there is nothing to locate. -/
theorem locateCurrent_intact (admissible : Admissible frames inputs)
    (whole : confirmedReferences inputs.denyFacts = []) : locateCurrent (frames + 2) inputs = .ok none := by
  obtain ⟨continuity, assessed, state, _⟩ := assess_ok admissible.proven admissible.denyCase admissible.deny
  have intact : continuity.state ≠ .ORPHAN_EFFECT_CONFIRMED := by
    rw [state, whole]
    unfold continuityState
    by_cases unknown : unknownReferences inputs.denyFacts = [] <;> simp [unknown]
  refine bind_eq_ok.mpr ⟨(), require_eq_ok.mpr (opening_ok admissible), bind_eq_ok.mpr ⟨continuity, assessed, ?_⟩⟩
  rw [if_pos intact]
  rfl

/-- A confirmed break gets a result, with the evidence of the denied case. -/
theorem locateCurrent_confirmed (admissible : Admissible frames inputs)
    (confirmed : confirmedReferences inputs.denyFacts ≠ []) :
    ∃ result, locateCurrent (frames + 2) inputs = .ok (some result) ∧
      result.evidenceRefs = sortedBy id inputs.denyEvidenceRefs := by
  obtain ⟨continuity, assessed, state, effects⟩ := assess_ok admissible.proven admissible.denyCase admissible.deny
  have broken : continuity.state = .ORPHAN_EFFECT_CONFIRMED := by
    rw [state]
    unfold continuityState
    rw [if_pos confirmed]
  have some' : continuity.confirmedEffects ≠ [] := by
    rw [effects]
    exact fun empty => confirmed (sortedBy_eq_nil.mp empty)
  have few := confirmed_few admissible effects
  have distinct : (sortedBy id inputs.denyEvidenceRefs).Nodup :=
    (sortedBy_perm _ _).nodup_iff.mpr admissible.denyRefs.1
  have alone : ∃ result, violationOnlyResult continuity (sortedBy id inputs.denyEvidenceRefs)
      "PROTECTED_EFFECT_EVENT_UNAVAILABLE" = .ok result := by
    apply violationOnlyResult_total broken some' few distinct _ _ (by decide)
    · exact fun empty => admissible.published.1 (sortedBy_eq_nil.mp empty)
    · have most := admissible.published.2
      rw [(sortedBy_perm id inputs.denyEvidenceRefs).length_eq]
      omega
  have scoped' : ∀ reference ∈ sortedBy id inputs.denyEvidenceRefs, reference ∉ sortedBy id inputs.allowEvidenceRefs :=
    fun reference member inside => admissible.apart reference (mem_sortedBy.mp member) (mem_sortedBy.mp inside)
  -- the entry checks pass, and what is left is the comparison of the traces
  have entered : ∀ answer, compareTraces (frames + 2) inputs continuity (sortedBy id inputs.denyEvidenceRefs) = .ok answer →
      locateCurrent (frames + 2) inputs = .ok answer := by
    intro answer done
    refine bind_eq_ok.mpr ⟨(), require_eq_ok.mpr (opening_ok admissible), bind_eq_ok.mpr ⟨continuity, assessed, ?_⟩⟩
    rw [if_neg (not_not.mpr broken)]
    refine bind_eq_ok.mpr ⟨_, publishedReferences_eq_ok.mpr ⟨admissible.denyRefs.1, admissible.denyRefs.2, rfl⟩, ?_⟩
    refine bind_eq_ok.mpr ⟨_, publishedReferences_eq_ok.mpr ⟨admissible.allowRefs.1, admissible.allowRefs.2, rfl⟩, ?_⟩
    refine bind_eq_ok.mpr ⟨(), require_eq_ok.mpr scoped', bind_eq_ok.mpr ⟨(), require_eq_ok.mpr admissible.identities, ?_⟩⟩
    exact bind_eq_ok.mpr ⟨(), checkTrace_ok admissible.allowWithin, bind_eq_ok.mpr ⟨(), checkTrace_ok admissible.within, done⟩⟩
  obtain ⟨result, done⟩ := alone
  unfold compareTraces at entered
  cases givenAllow : inputs.allowTrace with
  | none =>
    rw [givenAllow] at entered
    exact ⟨result, entered _ (bind_eq_ok.mpr ⟨result, done, rfl⟩), (violationOnly_type done).2⟩
  | some allowTrace =>
    cases givenDeny : inputs.denyTrace with
    | none =>
      rw [givenAllow, givenDeny] at entered
      exact ⟨result, entered _ (bind_eq_ok.mpr ⟨result, done, rfl⟩), (violationOnly_type done).2⟩
    | some denyTrace =>
      rw [givenAllow, givenDeny] at entered
      obtain ⟨found, compared, refs⟩ := locateFrozenEffects_total
        (freeze_consistent admissible assessed broken some' few givenAllow givenDeny)
      exact ⟨found, entered _ (bind_eq_ok.mpr ⟨found, compared, rfl⟩), refs⟩

/-- The locator answers every experiment that is well formed: with nothing where no forbidden effect is confirmed, and else
with a result that cites the evidence published for the denied case and no other. -/
theorem current_answers (admissible : Admissible frames inputs) :
    ∃ answer, locateCurrent (frames + 2) inputs = .ok answer ∧
      (answer = none ↔ confirmedReferences inputs.denyFacts = []) ∧
      ∀ result ∈ answer, result.evidenceRefs = sortedBy id inputs.denyEvidenceRefs ∧
        ∀ reference ∈ result.evidenceRefs, reference ∉ inputs.allowEvidenceRefs := by
  by_cases whole : confirmedReferences inputs.denyFacts = []
  · refine ⟨none, locateCurrent_intact admissible whole, ⟨fun _ => whole, fun _ => rfl⟩, ?_⟩
    intro result absent
    cases absent
  · obtain ⟨result, done, refs⟩ := locateCurrent_confirmed admissible whole
    refine ⟨some result, done, ⟨fun absent => absurd absent (Option.some_ne_none _), fun empty => absurd empty whole⟩, ?_⟩
    intro other same
    cases same
    refine ⟨refs, fun reference member => ?_⟩
    rw [refs] at member
    exact admissible.apart reference (mem_sortedBy.mp member)

end Answers

section Sample

def deniedSample : ExecutionCase := identified textDigest "action" 1 (deniedCase "resource" sampleProofs)

def controlSample : ExecutionCase := identified textDigest "action" 1 (ownersCase "resource" sampleProofs)

def denySample : ExecutionTrace := plainRun deniedSample.caseId "member"

def allowSample : ExecutionTrace where
  caseId := controlSample.caseId
  actionId := "action"
  plannedSubjectId := some "owner"
  events := [requestEvent controlSample.caseId]
  complete := true

theorem allowSample_valid : allowSample.validate = .ok allowSample := by
  have fits : Fits allowSample :=
    { reasons := List.nodup_nil
      complete := fun _ => ⟨List.cons_ne_nil _ _, rfl⟩
      incomplete := fun incomplete => by cases incomplete
      placed := by
        intro event member
        rw [List.mem_singleton.mp member]
        exact ⟨rfl, rfl⟩
      references := by
        intro event member reference refers
        rw [List.mem_singleton.mp member] at refers
        cases refers }
  rw [validate_sorts fits (by decide) (by decide)]
  rfl

def currentSample : CurrentInputs where
  action := pairAction textDigest "action" (deniedCase "resource" sampleProofs) (ownersCase "resource" sampleProofs)
  twin := sealedTwin textDigest deniedSample controlSample
  allowFacts := { confirmedSample with case := controlSample }
  denyFacts := confirmedSample
  allowTrace := some allowSample
  denyTrace := some denySample
  identities := []
  traceNamespace := none
  allowEvidenceRefs := ["control"]
  denyEvidenceRefs := ["evidence"]

theorem allowSample_short : ShortChains 2 allowSample := by
  have alone : ∀ eventId ∈ idsOf allowSample.events, children allowSample.events eventId = [] := by decide
  intro eventId known child below
  rw [alone eventId known] at below
  cases below

theorem currentSample_admissible : Admissible 0 currentSample where
  twin := List.mem_singleton.mpr rfl
  denyCase := List.mem_cons_self
  allowCase := List.mem_cons_of_mem _ List.mem_cons_self
  pair := ⟨rfl, rfl⟩
  proven := accepted_proven (identified_valid (deniedCase_valid sample_decisive))
  deny := rfl
  effects := by decide
  denyRefs := by decide
  allowRefs := by decide
  published := by decide
  apart := by decide
  identities := List.nodup_nil
  within := by
    intro trace same
    cases same
    refine ⟨rfl, rfl, rfl, ?_, ?_⟩
    · intro event member
      simp only [denySample, plainRun, List.mem_cons, List.not_mem_nil, or_false] at member
      rcases member with rfl | rfl
      · exact List.nil_subset _
      · exact List.Subset.refl _
    · intro event member resourceId listed
      simp only [denySample, plainRun, List.mem_cons, List.not_mem_nil, or_false] at member
      rcases member with rfl | rfl <;> exact List.mem_singleton.mp listed
  allowWithin := by
    intro trace same
    cases same
    refine ⟨rfl, rfl, rfl, ?_, ?_⟩
    · intro event member
      rw [List.mem_singleton.mp member]
      exact List.nil_subset _
    · intro event member resourceId listed
      rw [List.mem_singleton.mp member] at listed
      exact List.mem_singleton.mp listed
  built := by
    intro trace given
    cases given with
    | inl same =>
      cases same
      exact ⟨⟨denySample, plainRun_valid⟩, plainRun_short, by decide⟩
    | inr same =>
      cases same
      exact ⟨⟨allowSample, allowSample_valid⟩, allowSample_short, by decide⟩

/-- The effect of the sample is located: no authorization was asked for it. -/
theorem currentSample_answered : ∃ answer, locateCurrent 2 currentSample = .ok answer ∧
    (answer = none ↔ confirmedReferences confirmedSample = []) ∧
    ∀ result ∈ answer, result.evidenceRefs = sortedBy id ["evidence"] ∧ ∀ reference ∈ result.evidenceRefs,
      reference ∉ ["control"] :=
  current_answers currentSample_admissible

/-- One decisive proof with one fact of its own. -/
theorem required_single {facts : CheckDecisionInput} {proof : EffectProofRequirement} {fact : CheckEffectFact}
    (proofs : facts.case.proofRequirements = [proof]) (level : proof.level = .VERDICT_REQUIRED)
    (effects : facts.effects = [fact]) (same : fact.proofFingerprint = proof.proofFingerprint) :
    some fact ∈ requiredFacts facts := by
  have keyed : Table.Keyed CheckEffectFact.proofFingerprint facts.effects := by
    rw [effects]
    exact List.nodup_singleton _
  refine mem_requiredEntries.mpr ⟨proof, proofs ▸ List.mem_cons_self, level, ?_⟩
  rw [← same]
  exact keyed.latest_mem (effects ▸ List.mem_cons_self)

theorem currentSample_confirmed : confirmedReferences confirmedSample ≠ [] := by
  have required := @required_single confirmedSample (decisiveProof textDigest "resource") _ rfl rfl rfl rfl
  have effect : "effect" ∈ confirmedEffects confirmedSample := mem_confirmedEffects.mpr ⟨rfl, _, required, rfl, rfl⟩
  exact (confirmedReferences_ne_nil currentSample_admissible.proven confirmedSample_associated).mpr (List.ne_nil_of_mem effect)

theorem currentSample_located : ∃ result continuity,
    assessCheckAuthorizationContinuity currentSample.action currentSample.denyFacts = .ok continuity ∧
      let frozen := currentSample.freeze continuity allowSample denySample (sortedBy id ["evidence"])
      (result.breakpointType = none ∧ ∀ type place, ¬Place frozen type place) ∨
        ∃ type place, result.breakpointType = some type ∧ LocatedAt frozen result type place := by
  obtain ⟨result, done, _⟩ := locateCurrent_confirmed currentSample_admissible currentSample_confirmed
  exact ⟨result, located_current allowSample denySample allowSample_valid plainRun_valid rfl rfl done⟩

end Sample

end Jiejian.Breakpoints.Answers
