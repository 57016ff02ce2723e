import Jiejian.Breakpoints.Causality
import Jiejian.Protocol.Runtime

namespace Jiejian.Breakpoints.Locator

open Library Library.Outcome Library.Sorting Errors
open Protocol.Cases Protocol.Actions Protocol.Runtime Verification.Models Verification.Decisions Verification.Continuity
open Traces.Models Traces.Ordering Breakpoints.Models Breakpoints.CausalGraph Breakpoints.Causality

/-- `_PUBLIC_ID`. -/
def publicId (value : String) : Bool :=
  match value.toList with
  | [] => false
  | first :: rest => first.isAlphanum && rest.length ≤ 159 &&
    rest.all fun char => char.isAlphanum || char ∈ ['_', '.', ':', '/', '-']

/-- `_published_refs`. -/
def publishedReferences (values : List String) : Except Raised (List String) := do
  require values.Nodup (.ValueError "published Evidence references must be unique")
  require (∀ value ∈ values, publicId value = true) (.ValueError "published Evidence reference is invalid")
  return sortedBy id values

/-- `_violation_only_result`. -/
def violationOnlyResult (continuity : AuthorizationContinuityAssessment) (evidenceRefs : List String) (reasonCode : String) :
    Except Raised BreakpointResult :=
  BreakpointResult.validate
    { caseId := continuity.caseId
      actionId := continuity.actionId
      breakpointType := none
      precision := .VIOLATION_ONLY
      continuity := continuity
      orphanEffectIds := sortedSet (continuity.confirmedEffects.map (·.effectId))
      evidenceRefs := evidenceRefs
      reasonCodes := ["CONFIRMED_ORPHAN_EFFECT", reasonCode, "TRACE_EVIDENCE_INCOMPLETE", "VIOLATION_ONLY"] }

/-- The candidates that no other one leads to. -/
def causalFirst (graph : Graph) (candidates : List Candidate) : List Candidate :=
  candidates.filter fun candidate => !candidates.any fun other =>
    other ≠ candidate && other.eventId ∈ graph.above candidate.eventId

def eventRefs (events : List TraceEvent) (eventId : String) : List String :=
  ((byId events eventId).map (·.evidenceRefs)).getD []

/-- The published references and those of the events that the result is about. -/
def resultRefs (graph : Graph) (publishedRefs : List String) (primary : Candidate) : List String :=
  sortedSet (publishedRefs ++ eventRefs graph.events primary.eventId ++
    primary.orphanEventIds.flatMap (eventRefs graph.events))

/-- `_validate_result_event_refs`. -/
def validateResultEventRefs (result : BreakpointResult) (graph : Graph) : Except Raised Unit :=
  let references := result.lastKnownGoodEventId.toList ++ result.firstViolationEventId.toList ++
    result.rangeStartEventId.toList ++ result.rangeEndEventId.toList ++ result.downstreamEventIds
  require (∀ reference ∈ references, reference ∈ idsOf graph.events)
    (.ValueError "breakpoint event reference is outside the current Trace")

/-- What is frozen before the graphs are compared. -/
structure FrozenInputs where
  continuity : AuthorizationContinuityAssessment
  allowTrace : ExecutionTrace
  denyTrace : ExecutionTrace
  orphanFacts : List LocatedEffect
  allowEffectFacts : List LocatedEffect
  publishedRefs : List String
  scope : AuthorizationScope

def boundaryOf (inputs : FrozenInputs) (graph : Graph) (candidates : List Candidate) (primary : Candidate) : Boundary :=
  precision inputs.allowTrace inputs.denyTrace primary.eventId (inOrder graph (parentsOf graph.events primary.eventId))
    (decide ((causalFirst graph candidates).length > 1))

/-- The result at a candidate, before it is checked. -/
def draftOf (inputs : FrozenInputs) (graph : Graph) (effects : List TraceEvent) (candidates : List Candidate)
    (primary : Candidate) : BreakpointResult :=
  let ordered := sortedBy (candidateKey graph) candidates
  let boundary := boundaryOf inputs graph candidates primary
  { caseId := inputs.denyTrace.caseId
    actionId := inputs.denyTrace.actionId
    breakpointType := some primary.breakpointType
    precision := boundary.precision
    lastKnownGoodEventId := boundary.lastKnownGoodEventId
    firstViolationEventId := boundary.firstViolationEventId
    rangeStartEventId := boundary.rangeStartEventId
    rangeEndEventId := boundary.rangeEndEventId
    continuity := inputs.continuity
    orphanEffectIds := sortedSet (inputs.orphanFacts.map (·.effectId))
    downstreamEventIds := downstreamEvents primary ordered effects graph
    amplifierTypes := amplifiers primary ordered graph
    evidenceRefs := resultRefs graph inputs.publishedRefs primary
    reasonCodes := (["CONFIRMED_ORPHAN_EFFECT", primary.reasonCode] ++ boundary.reasonCodes).dedup }

/-- The result at the first of the candidates. -/
def resultAt (inputs : FrozenInputs) (graph : Graph) (effects : List TraceEvent) (candidates : List Candidate) :
    Except Raised BreakpointResult := do
  let primary ← orRaise (sortedBy (candidateKey graph) (causalFirst graph candidates)).head?
    (.ValueError "min() arg is an empty sequence")
  require (resultRefs graph inputs.publishedRefs primary ≠ [])
    (.ValueError "breakpoint requires a published Evidence reference")
  let result ← (draftOf inputs graph effects candidates primary).validate
  validateResultEventRefs result graph
  return result

/-- `_locate_frozen_effects`. -/
def locateFrozenEffects (frames : Nat) (inputs : FrozenInputs) : Except Raised BreakpointResult := do
  let graph ← buildGraph frames inputs.denyTrace
  let allowGraph ← buildGraph frames inputs.allowTrace
  let effects := protectedEvents graph inputs.orphanFacts
  if effects = [] then
    violationOnlyResult inputs.continuity inputs.publishedRefs "PROTECTED_EFFECT_EVENT_UNAVAILABLE"
  else
    let allowControl := allowControlEvents inputs.allowTrace allowGraph inputs.allowEffectFacts
    let candidates := collectCandidates inputs.scope inputs.denyTrace graph effects allowControl
    if candidates = [] then
      violationOnlyResult inputs.continuity inputs.publishedRefs "BREAKPOINT_TRACE_UNRESOLVED"
    else resultAt inputs graph effects candidates

def identityOf (identities : List CheckIdentity) (case : ExecutionCase) : Option CheckIdentity :=
  case.subjectTestIdentityId.bind (Table.lookup CheckIdentity.identityId identities)

/-- The account under which the trace has to run. -/
def expectedSubject (identities : List CheckIdentity) (traceNamespace : Option String) (case : ExecutionCase) : Option String :=
  match (identityOf identities case).bind (·.verification) with
  | some mapping =>
    if some mapping.nameSpace = traceNamespace then some mapping.expectedApplicationSubjectId else case.subjectTestIdentityId
  | none => case.subjectTestIdentityId

/-- The trace is the one of the case, and all its evidence is published for it. -/
def withinCase (action : ExecutionAction) (identities : List CheckIdentity) (traceNamespace : Option String)
    (case : ExecutionCase) (trace : ExecutionTrace) (refs : List String) : Prop :=
  trace.caseId = case.caseId ∧ trace.actionId = action.actionId ∧
    trace.plannedSubjectId = expectedSubject identities traceNamespace case ∧
    (∀ event ∈ trace.events, event.evidenceRefs ⊆ refs) ∧
    ∀ event ∈ trace.events, ∀ resourceId ∈ event.resourceIds, resourceId = case.resourceId

instance {action : ExecutionAction} {identities : List CheckIdentity} {traceNamespace : Option String}
    {case : ExecutionCase} {trace : ExecutionTrace} {refs : List String} :
    Decidable (withinCase action identities traceNamespace case trace refs) := by
  unfold withinCase
  exact inferInstance

/-- The account that stands for the subject of the case in the application, with the identity it comes from. -/
def frozenSubject (identities : List CheckIdentity) (traceNamespace : Option String) (case : ExecutionCase) :
    Option (String × String) :=
  (identityOf identities case).bind fun identity =>
    if some identity.identityFingerprint ≠ case.subjectIdentityFingerprint then none
    else identity.verification.bind fun verification =>
      if some verification.nameSpace ≠ traceNamespace then none
      else some (verification.expectedApplicationSubjectId, identity.identityId)

/-- The accounts that exactly one frozen identity stands for. -/
def comparableSubjects (mappings : List (String × String)) : List String :=
  ((mappings.map Prod.fst).dedup).filter fun subject =>
    ((mappings.filter (·.1 = subject)).map Prod.snd).dedup.length = 1

def frozenScope (action : ExecutionAction) (identities : List CheckIdentity) (traceNamespace : Option String)
    (denyCase : ExecutionCase) (denyTrace : ExecutionTrace) : AuthorizationScope :=
  let legalResources := (action.cases.filter fun case => case.permission.expectation = .ALLOW &&
    (frozenSubject identities traceNamespace case).any fun mapping => some mapping.1 = denyTrace.plannedSubjectId).map
      (·.resourceId)
  { knownSubjectIds := comparableSubjects (action.cases.filterMap (frozenSubject identities traceNamespace))
    legalActions := if legalResources ≠ [] then [action.actionId] else []
    legalResources := legalResources
    invariantAction := action.actionId
    invariantResources := [denyCase.resourceId] }

/-- The effects that the allowed case is proved to have had. -/
def allowedEffects (facts : CheckDecisionInput) : List LocatedEffect :=
  if facts.attributed then
    (facts.effects.filter fun fact => fact.state = .CONFIRMED && fact.trusted &&
      (facts.case.proofRequirements.any fun proof =>
        proof.level = .VERDICT_REQUIRED && proof.proofFingerprint = fact.proofFingerprint)).map fun fact =>
      ⟨fact.effectId, facts.case.resourceId, .CONFIRMED⟩
  else []

/-- What `locate_current` is given of one experiment. -/
structure CurrentInputs where
  action : ExecutionAction
  twin : ExecutionTwin
  allowFacts : CheckDecisionInput
  denyFacts : CheckDecisionInput
  allowTrace : Option ExecutionTrace
  denyTrace : Option ExecutionTrace
  identities : List CheckIdentity
  traceNamespace : Option String
  allowEvidenceRefs : List String
  denyEvidenceRefs : List String

/-- What the comparison of the two runs is given. -/
def CurrentInputs.freeze (inputs : CurrentInputs) (continuity : AuthorizationContinuityAssessment)
    (allowTrace denyTrace : ExecutionTrace) (denyRefs : List String) : FrozenInputs where
  continuity := continuity
  allowTrace := allowTrace
  denyTrace := denyTrace
  orphanFacts := continuity.confirmedEffects.map fun effect => ⟨effect.effectId, effect.resourceId, .CONFIRMED⟩
  allowEffectFacts := allowedEffects inputs.allowFacts
  publishedRefs := denyRefs
  scope := frozenScope inputs.action inputs.identities inputs.traceNamespace inputs.denyFacts.case denyTrace

def checkTrace (inputs : CurrentInputs) (facts : CheckDecisionInput) (trace : Option ExecutionTrace) (refs : List String) :
    Except Raised Unit :=
  match trace with
  | none => .ok ()
  | some trace =>
    require (withinCase inputs.action inputs.identities inputs.traceNamespace facts.case trace refs)
      (.ValueError "trace is outside the frozen published case")

/-- The end of `locate_current`: the two runs are compared when both are there. -/
def compareTraces (frames : Nat) (inputs : CurrentInputs) (continuity : AuthorizationContinuityAssessment)
    (denyRefs : List String) : Except Raised (Option BreakpointResult) :=
  match inputs.allowTrace, inputs.denyTrace with
  | some allowTrace, some denyTrace => do
    let result ← locateFrozenEffects frames (inputs.freeze continuity allowTrace denyTrace denyRefs)
    return some result
  | _, _ => do
    let result ← violationOnlyResult continuity denyRefs "PROTECTED_EFFECT_EVENT_UNAVAILABLE"
    return some result

def locateCurrent (frames : Nat) (inputs : CurrentInputs) : Except Raised (Option BreakpointResult) := do
  require (inputs.twin ∈ inputs.action.twins ∧ inputs.denyFacts.case ∈ inputs.action.cases ∧
      inputs.allowFacts.case ∈ inputs.action.cases ∧ inputs.allowFacts.case.caseId = inputs.twin.allowCaseId ∧
      inputs.denyFacts.case.caseId = inputs.twin.denyCaseId)
    (.ValueError "breakpoint inputs must belong to one frozen twin")
  let continuity ← assessCheckAuthorizationContinuity inputs.action inputs.denyFacts
  if continuity.state ≠ .ORPHAN_EFFECT_CONFIRMED then return none
  else
    let denyRefs ← publishedReferences inputs.denyEvidenceRefs
    let allowRefs ← publishedReferences inputs.allowEvidenceRefs
    require (∀ reference ∈ denyRefs, reference ∉ allowRefs) (.ValueError "breakpoint evidence must remain case scoped")
    require (inputs.identities.map (·.identityId)).Nodup (.ValueError "duplicate frozen identity")
    checkTrace inputs inputs.allowFacts inputs.allowTrace allowRefs
    checkTrace inputs inputs.denyFacts inputs.denyTrace denyRefs
    compareTraces frames inputs continuity denyRefs

end Jiejian.Breakpoints.Locator
