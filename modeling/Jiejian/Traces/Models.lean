import Jiejian.Errors
import Jiejian.Library.Outcome
import Jiejian.Library.Sorting
import Jiejian.Library.Table
import Mathlib.Data.Prod.Lex
import Mathlib.Data.String.Basic

namespace Jiejian.Traces.Models

open Errors Library Library.Outcome Library.Sorting

inductive TraceAuthorizationDecision where
  | ALLOW
  | DENY
  deriving DecidableEq, Repr

inductive TraceEventKind where
  | ENTRY
  | IDENTITY
  | AUTHORIZATION
  | PERSISTENT_EFFECT
  | MESSAGE
  | DELEGATION
  | FINAL_EFFECT
  | RECOVERY
  deriving DecidableEq, Repr

def TraceEventKind.value : TraceEventKind → String
  | .ENTRY => "ENTRY"
  | .IDENTITY => "IDENTITY"
  | .AUTHORIZATION => "AUTHORIZATION"
  | .PERSISTENT_EFFECT => "PERSISTENT_EFFECT"
  | .MESSAGE => "MESSAGE"
  | .DELEGATION => "DELEGATION"
  | .FINAL_EFFECT => "FINAL_EFFECT"
  | .RECOVERY => "RECOVERY"

structure TraceAuthorityScope where
  allowedActionIds : List String := []
  allowedResourceIds : List String := []
  originAuthorizationEventId : Option String := none
  delegatedFromEventId : Option String := none
  deriving DecidableEq, Repr

/-- One recorded fact. `validate_event` sorts the parents and refuses repeated ones and the event itself. -/
structure TraceEvent where
  eventId : String
  parentEventIds : List String := []
  caseId : String
  actionId : String
  resourceIds : List String
  kind : TraceEventKind
  semanticKey : String
  subjectId : Option String := none
  actorId : Option String := none
  credentialSource : Option String := none
  authorityScope : TraceAuthorityScope := {}
  authorizationDecision : Option TraceAuthorizationDecision := none
  effectId : Option String := none
  dispatchEffectIds : List String := []
  evidenceRefs : List String := []
  recordedAtUs : Nat
  parents_increasing : parentEventIds.Pairwise (· < ·)
  not_own_parent : eventId ∉ parentEventIds
  deriving DecidableEq

theorem TraceEvent.parents_unique (event : TraceEvent) : event.parentEventIds.Nodup :=
  event.parents_increasing.imp fun before => ne_of_lt before

structure ExecutionTrace where
  caseId : String
  actionId : String
  plannedSubjectId : Option String
  events : List TraceEvent := []
  complete : Bool
  reasonCodes : List String := []
  deriving DecidableEq

/-- `by_id.get(event_id)`. -/
def byId (events : List TraceEvent) (eventId : String) : Option TraceEvent :=
  Table.lookup TraceEvent.eventId events eventId

/-- The entry of an event in the heap: tuples compare by time and then by id. -/
def heapEntry (event : TraceEvent) : Nat ×ₗ String := toLex (event.recordedAtUs, event.eventId)

/-- `heapq.heappop`: the least entry and the others. -/
def heappop (heap : List (Nat ×ₗ String)) : Option ((Nat ×ₗ String) × List (Nat ×ₗ String)) :=
  match sortedBy id heap with
  | [] => none
  | least :: rest => some (least, rest)

structure SortState where
  indegree : String → Int
  ready : List (Nat ×ₗ String)
  ordered : List TraceEvent

/-- `children[event_id]`: the parents of an event are distinct, so each child is there once. -/
def children (events : List TraceEvent) (eventId : String) : List String :=
  (events.filter fun event => eventId ∈ event.parentEventIds).map (·.eventId)

/-- One turn of the loop over the children. -/
def release (events : List TraceEvent) (state : SortState) (childId : String) : SortState :=
  let left := state.indegree childId - 1
  { state with
    indegree := Function.update state.indegree childId left
    ready := if left = 0 then state.ready ++ ((byId events childId).map heapEntry).toList else state.ready }

def sortRounds (events : List TraceEvent) : Nat → SortState → SortState
  | 0, state => state
  | rounds + 1, state =>
    match heappop state.ready with
    | none => state
    | some (least, rest) =>
      match byId events (ofLex least).2 with
      -- every entry of the heap is the entry of an event
      | none => state
      | some event => sortRounds events rounds ((sortedBy id (children events event.eventId)).foldl (release events)
          { state with ready := rest, ordered := state.ordered ++ [event] })

def initialSort (events : List TraceEvent) : SortState where
  indegree eventId := ((byId events eventId).map fun event => (event.parentEventIds.length : Int)).getD 0
  ready := (events.filter fun event => event.parentEventIds.length = 0).map heapEntry
  ordered := []

/-- `_stable_topological_order`: an event enters the heap once at most, so a round for each event is enough. -/
def stableTopologicalOrder (events : List TraceEvent) : Except Raised (List TraceEvent) := do
  let ordered := (sortRounds events events.length (initialSort events)).ordered
  require (ordered.length = events.length) (.ValueError "trace event graph contains a cycle")
  return ordered

/-- The ids that the scope of an event refers to. -/
def scopeReferences (event : TraceEvent) : List String :=
  event.authorityScope.originAuthorizationEventId.toList ++ event.authorityScope.delegatedFromEventId.toList

/-- The checks on one event of a trace. -/
def ExecutionTrace.checkEvent (trace : ExecutionTrace) (event : TraceEvent) : Except Raised Unit := do
  require (event.caseId = trace.caseId ∧ event.actionId = trace.actionId)
    (.ValueError "trace event does not match trace case and action")
  require (∀ parent ∈ event.parentEventIds, parent ∈ trace.events.map (·.eventId))
    (.ValueError "trace event references a missing parent")
  require (∀ reference ∈ scopeReferences event, reference ∈ trace.events.map (·.eventId))
    (.ValueError "trace authority scope references a missing event")

/-- `validate_reason_codes` and `validate_trace`. -/
def ExecutionTrace.validate (trace : ExecutionTrace) : Except Raised ExecutionTrace := do
  require trace.reasonCodes.Nodup (.ValueError "trace reason codes must be unique")
  require (trace.complete = true → trace.events ≠ [] ∧ trace.reasonCodes = [])
    (.ValueError "complete trace requires events and no reason codes")
  require (trace.complete = false → trace.reasonCodes ≠ []) (.ValueError "partial trace requires a reason code")
  require (trace.events.map (·.eventId)).Nodup (.ValueError "trace event IDs must be unique")
  trace.events.forM trace.checkEvent
  let ordered ← stableTopologicalOrder trace.events
  return { trace with events := ordered, reasonCodes := sortedBy id trace.reasonCodes }

end Jiejian.Traces.Models
