import Jiejian.Library.Document
import Jiejian.Library.Outcome

namespace Jiejian.Records.Values

open Library.Outcome Library.Document

/-- The codes of `RecordStoreError`, and the `ValueError`s and database errors the store meets. -/
inductive RecordError where
  | RECORD_STORE_UNAVAILABLE
  | RECORD_RESOURCE_MISSING
  | RECORD_RESOURCE_ID_REUSED
  | RECORD_OWNER_CONFLICT
  | RECORD_VERSION_CONFLICT
  | RECORD_FIELD_UNAVAILABLE
  | RECORD_OPERATION_CONFLICT
  | RECORD_OPERATION_MISSING
  | RECORD_REQUEST_LIMIT
  | RECORD_REQUEST_REPLAYED
  | RECORD_SCOPE_CLOSED
  | RECORD_SCOPE_MISSING
  | RECORD_SCOPE_MISMATCH
  | ACTIVITY_CORRELATION_INVALID
  | ACTIVITY_CLOSURE_INVALID
  | TRACE_DOCUMENT_INVALID
  | TRACE_OPERATION_MISMATCH
  | valueError (text : String)
  | integrityError
  deriving DecidableEq, Repr

def prohibitedFields : List String :=
  ["password", "cookie", "token", "secret", "authorization", "api_key", "__proto__", "constructor"]

variable (casefold : String → String)

/-- The walk of `bounded_record_data` over the values still pending, the next one first; `budget` is
how many of the 512 values are left. -/
def walk : Nat → List (Json × Nat) → Except RecordError Unit
  | _, [] => .ok ()
  | 0, _ :: _ => .error (.valueError "record data structure exceeds budget")
  | budget + 1, (item, depth) :: pending => do
    require (depth ≤ 8) (.valueError "record data structure exceeds budget")
    match item with
    | .dict entries =>
      require (∀ entry ∈ entries, entry.1.length ≤ 64 ∧ casefold entry.1 ∉ prohibitedFields)
        (.valueError "record data contains prohibited field")
      walk budget ((entries.reverse.map fun entry => (entry.2, depth + 1)) ++ pending)
    | .list items => walk budget ((items.reverse.map fun child => (child, depth + 1)) ++ pending)
    | _ => walk budget pending

/-- `bounded_record_data`: what `json.loads` reads back is the value itself. -/
def boundedRecordData (value : Json) : Except RecordError Json := do
  walk casefold 512 [(value, 0)]
  require (value.encodedSize ≤ 8192) (.valueError "record data exceeds byte budget")
  .ok value

theorem boundedRecordData_ok {casefold : String → String} {value result : Json}
    (bounded : boundedRecordData casefold value = .ok result) : result = value := by
  simp only [boundedRecordData, bind_eq_ok, require_eq_ok, Except.ok.injEq] at bounded
  obtain ⟨_, _, _, _, same⟩ := bounded
  exact same.symm

/-- `parent.get(key)`. -/
def getEntry (key : String) (entries : List (String × Json)) : Option Json :=
  (entries.find? fun entry => entry.1 = key).map Prod.snd

/-- `parent[key] = value`. -/
def setEntry (key : String) (value : Json) : List (String × Json) → List (String × Json)
  | [] => [(key, value)]
  | entry :: rest =>
    if entry.1 = key then (key, value) :: rest
    else if key < entry.1 then (key, value) :: entry :: rest else entry :: setEntry key value rest

/-- Assign at a path all of whose inner fields are dicts. -/
def assign (new : Json) : List String → Json → Except RecordError Json
  | [key], .dict entries => .ok (.dict (setEntry key new entries))
  | key :: rest, .dict entries => do
    let child ← orRaise (getEntry key entries) .RECORD_FIELD_UNAVAILABLE
    let child ← assign new rest child
    .ok (.dict (setEntry key child entries))
  | _, _ => .error .RECORD_FIELD_UNAVAILABLE

end Jiejian.Records.Values

namespace Jiejian.Records.Models

open Library.Outcome Library.Document Values

structure RecordChange where
  path : List String
  value : Json
  located : path ≠ []

/-- A seed with no scope is a `RecordSeed`, one with a scope a `ScopedRecordSeed`. -/
structure RecordSeed where
  collection : String
  resourceId : String
  ownerId : String
  data : Json
  scopeId : Option String
  dictionary : ∃ entries, data = .dict entries

structure RecordRemove where
  collection : String
  resourceId : String
  scopeId : String
  expectedVersion : Nat
  deriving DecidableEq, Repr

structure RecordTransaction where
  collection : String
  resourceId : String
  subjectId : String
  requestKey : String
  scopeId : Option String
  expectedVersion : Nat
  changes : List RecordChange
  bounded : changes.length ≤ 8

structure RecordSnapshot where
  generation : String
  collection : String
  resourceId : String
  ownerId : String
  version : Nat
  data : Json
  lastOperationId : Option String
  deriving Repr

structure RecordTransition where
  ordinal : Nat
  before : Json
  after : Json
  deriving Repr

inductive ScopeState where
  | OPEN
  | COMPLETE
  | INCOMPLETE
  deriving DecidableEq, Repr

structure RequestActivity where
  requestNonce : String
  requestDigest : String
  complete : Bool
  deriving DecidableEq, Repr

structure RecordRequestScope where
  scopeId : String
  generation : String
  requestNonce : String
  requestDigest : String
  state : ScopeState
  activity : Option RequestActivity
  deriving DecidableEq, Repr

structure RecordOperation where
  operationId : String
  generation : String
  collection : String
  resourceId : String
  ownerId : String
  subjectId : String
  requestKey : String
  scopeId : Option String
  beforeVersion : Nat
  afterVersion : Nat
  transitions : List RecordTransition
  scopeOrdinal : Option Nat
  deriving Repr

inductive CreationKind where
  | CREATE
  | REMOVE
  deriving DecidableEq, Repr

structure CreationMember where
  resourceId : String
  ownerId : String
  incarnation : String
  version : Nat
  dataDigest : String
  deriving DecidableEq, Repr

structure CreationEvent where
  sequence : Nat
  scopeId : Option String
  kind : CreationKind
  member : CreationMember
  deriving DecidableEq, Repr

structure RecordTraceInput where
  parentEventId : Option String
  subjectId : Option String
  operationId : Option String
  deriving DecidableEq, Repr

structure RecordTraceWrite where
  scopeId : String
  collection : String
  resourceId : String
  event : RecordTraceInput
  deriving DecidableEq, Repr

structure RecordTraceEvent where
  input : RecordTraceInput
  eventId : String
  recordedAtUs : Nat
  deriving DecidableEq, Repr

structure RecordTraceLog where
  scopeId : String
  generation : String
  requestNonce : String
  requestDigest : String
  collection : String
  resourceId : String
  events : List RecordTraceEvent
  deriving DecidableEq, Repr

variable (casefold : String → String)

/-- The transition loop of `exact_commit`; `previous` is the last one checked. -/
def exactTransitions : Nat → Option RecordTransition → List RecordTransition → Except RecordError Unit
  | _, _, [] => .ok ()
  | index, previous, transition :: rest => do
    let _ ← boundedRecordData casefold transition.before
    let _ ← boundedRecordData casefold transition.after
    require (transition.ordinal = index ∧ ∀ last ∈ previous, transition.before.same last.after = true)
      (.valueError "transaction transitions must be continuous")
    exactTransitions (index + 1) (some transition) rest

/-- The field bounds of `RecordOperation` and its validator `exact_commit`. -/
def exactCommit (operation : RecordOperation) : Except RecordError Unit := do
  require (operation.transitions.length ≤ 8 ∧ (∀ transition ∈ operation.transitions, transition.ordinal ≤ 7) ∧
    ∀ ordinal ∈ operation.scopeOrdinal, ordinal ≤ 31) (.valueError "field out of bounds")
  require (operation.scopeId.isNone = operation.scopeOrdinal.isNone)
    (.valueError "scope ordinal must accompany the exact request scope")
  require (operation.afterVersion = operation.beforeVersion + 1) (.valueError "commit versions must be consecutive")
  exactTransitions casefold 0 none operation.transitions

/-- `explicit_graph` of a trace log, over the events already seen. -/
def explicitGraph : List String → List RecordTraceEvent → Except RecordError Unit
  | _, [] => .ok ()
  | seen, event :: rest => do
    require (event.eventId ∉ seen ∧ ∀ parent ∈ event.input.parentEventId, parent ∈ seen)
      (.valueError "trace parent is missing or event is duplicated")
    explicitGraph (event.eventId :: seen) rest

end Jiejian.Records.Models
