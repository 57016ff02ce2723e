import Jiejian.Breakpoints.CausalGraph

namespace Jiejian.Breakpoints.Causality

open Library Library.Outcome Library.Sorting Errors
open Traces.Models Traces.Ordering Breakpoints.Models Breakpoints.CausalGraph

/-- `set(left).intersection(right)` is not empty. -/
def meets (left right : List String) : Bool := left.any fun name => name ∈ right

/-- The event is the effect of one of the facts, on the resource of the fact. -/
def realizes (facts : List LocatedEffect) (event : TraceEvent) : Bool :=
  event.effectId.any fun effectId => event.resourceIds.any fun resourceId =>
    facts.any fun fact => fact.effectId = effectId && fact.resourceId = resourceId

/-- `_protected_events`. -/
def protectedEvents (graph : Graph) (orphanFacts : List LocatedEffect) : List TraceEvent :=
  sortedBy (eventBusinessKey graph) (graph.events.filter (realizes orphanFacts))

/-- `_relevant_authorization`. -/
def relevantAuthorization (event effect : TraceEvent) : Bool :=
  event.kind = .AUTHORIZATION && event.actionId = effect.actionId && meets event.resourceIds effect.resourceIds &&
    (event.authorityScope.allowedActionIds = [] || effect.actionId ∈ event.authorityScope.allowedActionIds) &&
    (event.authorityScope.allowedResourceIds = [] || meets event.authorityScope.allowedResourceIds effect.resourceIds)

/-- `_has_allow_authorization`. -/
def hasAllowAuthorization (event : TraceEvent) (trace : ExecutionTrace) (graph : Graph) : Bool :=
  trace.events.any fun candidate => candidate.authorizationDecision = some .ALLOW &&
    relevantAuthorization candidate event && candidate.eventId ∈ graph.above event.eventId

/-- `_allow_control_events`. -/
def allowControlEvents (trace : ExecutionTrace) (graph : Graph) (facts : List LocatedEffect) : List AllowControlEvent :=
  let confirmed := facts.filter (·.state = .CONFIRMED)
  (graph.events.filter fun event => realizes confirmed event && hasAllowAuthorization event trace graph).map fun event =>
    ⟨event, parentRoles event graph⟩

/-- The control event is the same effect of the same request as the denied one. -/
def sameEffect (denied : TraceEvent) (control : AllowControlEvent) : Bool :=
  control.event.actionId = denied.actionId && control.event.resourceIds = denied.resourceIds &&
    control.event.kind = denied.kind && control.event.effectId = denied.effectId

/-- `_control_has_normal_path`. -/
def controlHasNormalPath (denied : TraceEvent) (allowControl : List AllowControlEvent) (deniedGraph : Graph) : Bool :=
  let found := allowControl.filter (sameEffect denied)
  let semantic := found.filter fun control => control.event.semanticKey = denied.semanticKey
  let selected := if semantic ≠ [] then semantic else found
  selected.any fun control => control.parentRoles ≠ parentRoles denied deniedGraph

/-- `_reliable_actual_subject`. -/
def reliableActualSubject (trace : ExecutionTrace) : Option String :=
  if trace.complete then
    match ((trace.events.filter (·.kind = .IDENTITY)).filterMap (·.subjectId)).dedup with
    | [subjectId] => some subjectId
    | _ => none
  else none

/-- `_is_background_actor`. -/
def isBackgroundActor (event : TraceEvent) (actualSubject : Option String) : Bool :=
  event.actorId ≠ none && event.actorId ≠ actualSubject

/-- The authorization hands its own scope to the event, which stays in it. -/
def delegates (source event : TraceEvent) : Bool :=
  source.kind = .AUTHORIZATION && source.authorizationDecision = some .ALLOW &&
    source.authorityScope.allowedActionIds ≠ [] && source.authorityScope.allowedResourceIds ≠ [] &&
    decide (event.authorityScope.allowedActionIds ⊆ source.authorityScope.allowedActionIds) &&
    decide (event.authorityScope.allowedResourceIds ⊆ source.authorityScope.allowedResourceIds) &&
    event.actionId ∈ source.authorityScope.allowedActionIds &&
    decide (event.resourceIds ⊆ source.authorityScope.allowedResourceIds) &&
    (event.credentialSource = none || event.credentialSource = source.credentialSource)

/-- `_has_legal_delegation`. -/
def hasLegalDelegation (event : TraceEvent) (graph : Graph) : Bool :=
  event.authorityScope.delegatedFromEventId.any fun delegatedFrom =>
    delegatedFrom ∈ graph.above event.eventId && (byId graph.events delegatedFrom).any (delegates · event)

/-- The credential sources of the identities and authorizations that lead to the event. -/
def subjectSources (event : TraceEvent) (trace : ExecutionTrace) (graph : Graph) : List String :=
  (trace.events.filter fun candidate => candidate.eventId ∈ graph.above event.eventId &&
    (candidate.kind = .IDENTITY || candidate.kind = .AUTHORIZATION)).filterMap (·.credentialSource)

/-- `_exceeds_legal_scope`. -/
def exceedsLegalScope (event : TraceEvent) (scope : AuthorizationScope) (trace : ExecutionTrace) (graph : Graph) : Bool :=
  if hasLegalDelegation event graph then false
  else if event.authorityScope.allowedActionIds.any fun actionId =>
      actionId ∉ scope.legalActions || actionId ≠ scope.invariantAction then true
  else if event.authorityScope.allowedResourceIds.any fun resourceId =>
      resourceId ∉ scope.legalResources || resourceId ∉ scope.invariantResources then true
  else event.credentialSource.any fun source => source ∉ subjectSources event trace graph

/-- What a kind of breakpoint is found at. -/
abbrev Mark := BreakpointType × String

/-- A dispatch that belongs to the effect and leads to it. -/
def dispatches (graph : Graph) (effect dispatch : TraceEvent) : Bool :=
  effect.effectId.any (· ∈ dispatch.dispatchEffectIds) && dispatch.eventId ∈ graph.above effect.eventId &&
    dispatch.caseId = effect.caseId && dispatch.actionId = effect.actionId && dispatch.resourceIds = effect.resourceIds

/-- The dispatch was authorized only once it was done. -/
def authorizedLate (trace : ExecutionTrace) (graph : Graph) (dispatch : TraceEvent) : Bool :=
  let relevant := trace.events.filter (relevantAuthorization · dispatch)
  !(relevant.any fun event => event.eventId ∈ graph.above dispatch.eventId) &&
    relevant.any fun event => event.eventId ∈ graph.below dispatch.eventId && event.authorizationDecision.isSome

def lateDispatches (trace : ExecutionTrace) (graph : Graph) (effect : TraceEvent) : List Mark :=
  if trace.complete then
    (trace.events.filter fun dispatch => dispatches graph effect dispatch && authorizedLate trace graph dispatch).map
      fun dispatch => (.AUTHORIZATION_LATE, dispatch.eventId)
  else []

/-- What is wrong with the authorizations of the effect itself. -/
def authorizationMark (graph : Graph) (allowControl : List AllowControlEvent) (effect : TraceEvent) : Option BreakpointType :=
  let authorizations := graph.events.filter (relevantAuthorization · effect)
  let before := authorizations.filter fun event => event.eventId ∈ graph.above effect.eventId
  let after := authorizations.filter fun event => event.eventId ∈ graph.below effect.eventId
  if authorizations = [] then some .AUTHORIZATION_MISSING
  else if after ≠ [] ∧ before = [] then some .AUTHORIZATION_LATE
  else if (!(before.any fun event => event.authorizationDecision = some .ALLOW) &&
      controlHasNormalPath effect allowControl graph) = true then some .AUTHORIZATION_BYPASS
  else none

/-- The account that acted is another than the planned one, and the contract knows both. -/
def substitutedSubject (scope : AuthorizationScope) (trace : ExecutionTrace) : Option String :=
  match reliableActualSubject trace, trace.plannedSubjectId with
  | some subjectId, some planned =>
    if subjectId ∈ scope.knownSubjectIds ∧ planned ∈ scope.knownSubjectIds ∧ subjectId ≠ planned then some subjectId else none
  | _, _ => none

def identityEvents (graph : Graph) (effect : TraceEvent) (subjectId : String) : List TraceEvent :=
  graph.events.filter fun event => event.kind = .IDENTITY && event.subjectId = some subjectId &&
    event.eventId ∈ graph.above effect.eventId && !hasLegalDelegation event graph && !hasLegalDelegation effect graph

def identityMark (scope : AuthorizationScope) (trace : ExecutionTrace) (graph : Graph) (effect : TraceEvent) : List Mark :=
  match substitutedSubject scope trace with
  | none => []
  | some subjectId =>
    ((sortedBy (eventBusinessKey graph) (identityEvents graph effect subjectId)).head?.toList).map fun event =>
      (.IDENTITY_SUBSTITUTION, event.eventId)

def expansionMarks (scope : AuthorizationScope) (trace : ExecutionTrace) (graph : Graph) (effect : TraceEvent) : List Mark :=
  (graph.events.filter fun event => (event.eventId ∈ graph.above effect.eventId || event.eventId = effect.eventId) &&
    isBackgroundActor event ((reliableActualSubject trace).or trace.plannedSubjectId) &&
    exceedsLegalScope event scope trace graph).map fun event => (.AUTHORITY_EXPANSION, event.eventId)

def recoveryMarks (graph : Graph) (effect : TraceEvent) : List Mark :=
  (graph.events.filter fun event => event.kind = .RECOVERY && event.eventId ∈ graph.below effect.eventId &&
    meets event.resourceIds effect.resourceIds).map fun event => (.COMPENSATION_MASKING, event.eventId)

/-- The places that one protected effect marks, in the order they are met. -/
def marksOf (scope : AuthorizationScope) (trace : ExecutionTrace) (graph : Graph) (allowControl : List AllowControlEvent)
    (effect : TraceEvent) : List Mark :=
  lateDispatches trace graph effect ++
    ((authorizationMark graph allowControl effect).map fun type => (type, effect.eventId)).toList ++
    identityMark scope trace graph effect ++ expansionMarks scope trace graph effect ++ recoveryMarks graph effect

def Candidate.mark (candidate : Candidate) : Mark := (candidate.breakpointType, candidate.eventId)

/-- `_add_candidate`: the effects of one place are merged. -/
def addCandidate (effectId : String) (found : List Candidate) (mark : Mark) : List Candidate :=
  let prior := (Table.lookup Candidate.mark found mark).map (·.orphanEventIds)
  Table.put Candidate.mark found
    { breakpointType := mark.1
      eventId := mark.2
      orphanEventIds := sortedSet (prior.getD [] ++ [effectId])
      reasonCode := "BREAKPOINT_" ++ mark.1.value }

/-- `_collect_candidates`. -/
def collectCandidates (scope : AuthorizationScope) (trace : ExecutionTrace) (graph : Graph) (effects : List TraceEvent)
    (allowControl : List AllowControlEvent) : List Candidate :=
  effects.foldl (fun found effect => (marksOf scope trace graph allowControl effect).foldl (addCandidate effect.eventId) found) []

abbrev CandidateKey := Nat ×ₗ String ×ₗ List String ×ₗ String ×ₗ String ×ₗ List String ×ₗ String ×ₗ String ×ₗ String

/-- `_candidate_key`; every candidate is at an event of the graph. -/
def candidateKey (graph : Graph) (candidate : Candidate) : CandidateKey :=
  let event := byId graph.events candidate.eventId
  toLex (graph.depth candidate.eventId, toLex ((event.map (·.actionId)).getD "", toLex ((event.map (·.resourceIds)).getD [],
    toLex (graph.roleOf candidate.eventId, toLex ((event.bind (·.effectId)).getD "",
      toLex ((event.map (parentRoles · graph)).getD [], toLex ((event.map (·.semanticKey)).getD "",
        toLex (candidate.breakpointType.value, candidate.eventId))))))))

/-- The fields of a result that say how precise it is. -/
structure Boundary where
  precision : BreakpointPrecision
  lastKnownGoodEventId : Option String := none
  firstViolationEventId : Option String := none
  rangeStartEventId : Option String := none
  rangeEndEventId : Option String := none
  reasonCodes : List String

/-- The one parent, when there is one only. -/
def onlyParent : List String → Option String
  | [parent] => some parent
  | _ => none

/-- `_precision`. -/
def precision (allowTrace denyTrace : ExecutionTrace) (primaryEventId : String) (directParents : List String)
    (ambiguousPrimary : Bool) : Boundary :=
  let lastGood := onlyParent directParents
  if allowTrace.complete && denyTrace.complete && !ambiguousPrimary then
    { precision := .EXACT
      lastKnownGoodEventId := lastGood
      firstViolationEventId := some primaryEventId
      reasonCodes := ["EXACT_BREAKPOINT"] }
  else if lastGood ≠ none then
    { precision := .RANGE
      lastKnownGoodEventId := lastGood
      rangeStartEventId := lastGood
      rangeEndEventId := some primaryEventId
      reasonCodes := ["BREAKPOINT_RANGE_ONLY", "TRACE_EVIDENCE_INCOMPLETE"] }
  else
    { precision := .VIOLATION_ONLY
      firstViolationEventId := some primaryEventId
      reasonCodes := ["TRACE_EVIDENCE_INCOMPLETE", "VIOLATION_ONLY"] }

/-- `_amplifiers`. -/
def amplifiers (primary : Candidate) (candidates : List Candidate) (graph : Graph) : List BreakpointType :=
  sortedBy BreakpointType.value ((candidates.filter fun candidate => candidate.breakpointType ≠ primary.breakpointType &&
    candidate.eventId ∈ graph.below primary.eventId).map (·.breakpointType)).dedup

end Jiejian.Breakpoints.Causality
