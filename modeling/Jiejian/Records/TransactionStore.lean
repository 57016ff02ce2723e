import Jiejian.Library.Table
import Jiejian.Records.Models

namespace Jiejian.Records.TransactionStore

open Library Library.Outcome Library.Document Values Models

/-- What the store computes with the standard library: case folding, SHA-256 over canonical JSON, and
the size of a trace document. Digests of different commands differ. -/
structure Environment where
  casefold : String → String
  dataDigest : Json → String
  identityDigest : String → String → String → String
  commandHash : RecordTransaction → String
  traceSize : RecordTraceLog → Nat
  collisionFree : Function.Injective commandHash

structure ResourceRow where
  collection : String
  resourceId : String
  ownerId : String
  version : Nat
  data : Json
  lastOperationId : Option String

structure OperationRow where
  operationId : String
  requestKey : String
  commandHash : String
  document : RecordOperation

structure ScopeRow where
  scopeId : String
  requestNonce : String
  document : RecordRequestScope

structure ScopeOperationRow where
  scopeId : String
  operationId : String
  ordinal : Nat

structure ExecutionTraceRow where
  scopeId : String
  collection : String
  resourceId : String
  document : RecordTraceLog

structure CreationEventRow where
  sequence : Nat
  collection : String
  resourceId : String
  scopeId : Option String
  document : CreationEvent

structure IncarnationRow where
  collection : String
  resourceId : String
  incarnation : String

/-- The tables of the schema, and the generation that `metadata` holds. -/
structure Tables where
  generation : String
  resources : List ResourceRow
  operations : List OperationRow
  scopes : List ScopeRow
  scopeOperations : List ScopeOperationRow
  executionTraces : List ExecutionTraceRow
  creationEvents : List CreationEventRow
  resourceIncarnations : List IncarnationRow

/-- A transaction that reached its `COMMIT`, and whether `_persist` follows. -/
structure Committed (α : Type) where
  answer : α
  tables : Tables
  dirty : Bool

def ResourceRow.key (row : ResourceRow) : String × String := (row.collection, row.resourceId)

def CreationEventRow.key (row : CreationEventRow) : String × String := (row.collection, row.resourceId)

def IncarnationRow.key (row : IncarnationRow) : String × String := (row.collection, row.resourceId)

def ExecutionTraceRow.key (row : ExecutionTraceRow) : String × String × String :=
  (row.scopeId, row.collection, row.resourceId)

def ScopeOperationRow.key (row : ScopeOperationRow) : String × Nat := (row.scopeId, row.ordinal)

def snapshot (tables : Tables) (collection resourceId : String) : Except RecordError RecordSnapshot := do
  let row ← orRaise (Table.lookup ResourceRow.key tables.resources (collection, resourceId)) .RECORD_RESOURCE_MISSING
  .ok
    { generation := tables.generation
      collection
      resourceId
      ownerId := row.ownerId
      version := row.version
      data := row.data
      lastOperationId := row.lastOperationId }

def requireScope (tables : Tables) (scopeId : String) : Except RecordError RecordRequestScope := do
  let row ← orRaise (Table.lookup ScopeRow.scopeId tables.scopes scopeId) .RECORD_SCOPE_MISSING
  .ok row.document

def openCreationScope (tables : Tables) (scopeId : String) : Except RecordError Unit := do
  let scope ← requireScope tables scopeId
  require (scope.state = .OPEN) .RECORD_SCOPE_CLOSED
  require ((tables.creationEvents.filter fun row => row.scopeId = some scopeId).length < 32) .RECORD_REQUEST_LIMIT

/-- A seed made within a request needs that request's scope. -/
def seedScope (tables : Tables) (scopeId : Option String) : Except RecordError Unit :=
  match scopeId with
  | some scopeId => openCreationScope tables scopeId
  | none => .ok ()

variable (env : Environment)

def creationMember (tables : Tables) (snapshot : RecordSnapshot) : CreationMember where
  resourceId := snapshot.resourceId
  ownerId := snapshot.ownerId
  incarnation :=
    match Table.lookup IncarnationRow.key tables.resourceIncarnations (snapshot.collection, snapshot.resourceId) with
    | some row => row.incarnation
    | none => env.identityDigest snapshot.generation snapshot.collection snapshot.resourceId
  version := snapshot.version
  dataDigest := env.dataDigest snapshot.data

/-- The new row of `creation_events`; no row ever leaves the table, so `AUTOINCREMENT` counts them. -/
def creationEventRow (tables : Tables) (collection : String) (snapshot : RecordSnapshot) (scopeId : Option String)
    (kind : CreationKind) : CreationEventRow where
  sequence := tables.creationEvents.length + 1
  collection := collection
  resourceId := snapshot.resourceId
  scopeId := scopeId
  document := ⟨tables.creationEvents.length + 1, scopeId, kind, creationMember env tables snapshot⟩

def creationEvent (tables : Tables) (collection : String) (snapshot : RecordSnapshot) (scopeId : Option String)
    (kind : CreationKind) : Tables :=
  { tables with
    creationEvents := tables.creationEvents ++ [creationEventRow env tables collection snapshot scopeId kind] }

/-- The resources after `INSERT OR IGNORE`, and its row count. -/
def insertOrIgnore (resources : List ResourceRow) (new : ResourceRow) : List ResourceRow × Bool :=
  match Table.insert ResourceRow.key resources new with
  | some inserted => (inserted, true)
  | none => (resources, false)

def seed (tables : Tables) (command : RecordSeed) (incarnation : String) :
    Except RecordError (Committed RecordSnapshot) := do
  seedScope tables command.scopeId
  let key := (command.collection, command.resourceId)
  require ((Table.lookup ResourceRow.key tables.resources key).isSome ∨ ∀ row ∈ tables.creationEvents, row.key ≠ key)
    .RECORD_RESOURCE_ID_REUSED
  let inserted := insertOrIgnore tables.resources
    ⟨command.collection, command.resourceId, command.ownerId, 0, command.data, none⟩
  let current ← snapshot { tables with resources := inserted.1 } command.collection command.resourceId
  require (current.ownerId = command.ownerId) .RECORD_OWNER_CONFLICT
  if inserted.2 then
    let incarnations ← orRaise (Table.insert IncarnationRow.key tables.resourceIncarnations
      ⟨command.collection, command.resourceId, incarnation⟩) .integrityError
    let written := { tables with resources := inserted.1, resourceIncarnations := incarnations }
    .ok ⟨current, creationEvent env written command.collection current command.scopeId .CREATE, true⟩
  else .ok ⟨current, tables, false⟩

def remove (tables : Tables) (command : RecordRemove) : Except RecordError (Committed RecordSnapshot) := do
  openCreationScope tables command.scopeId
  let current ← snapshot tables command.collection command.resourceId
  require (current.version = command.expectedVersion) .RECORD_VERSION_CONFLICT
  let recorded := creationEvent env tables command.collection current (some command.scopeId) .REMOVE
  .ok ⟨current, { recorded with
    resources := recorded.resources.filter fun row => row.key ≠ (command.collection, command.resourceId) }, true⟩

/-- `uuid4().hex` is the argument `scopeId`. -/
def openScope (tables : Tables) (requestNonce requestDigest : String) (activity : Option RequestActivity)
    (scopeId : String) : Except RecordError (Committed RecordRequestScope) := do
  let scope : RecordRequestScope := ⟨scopeId, tables.generation, requestNonce, requestDigest, .OPEN, activity⟩
  require (∀ given ∈ activity, given.complete = false ∧ (given.requestNonce, given.requestDigest) =
    (requestNonce, requestDigest)) .ACTIVITY_CORRELATION_INVALID
  require (∀ row ∈ tables.scopes, row.requestNonce ≠ requestNonce) .RECORD_REQUEST_REPLAYED
  let scopes ← orRaise (Table.insert ScopeRow.scopeId tables.scopes ⟨scopeId, requestNonce, scope⟩) .integrityError
  .ok ⟨scope, { tables with scopes }, true⟩

def closeScope (tables : Tables) (scopeId : String) (complete : Bool) (activity : Option RequestActivity) :
    Except RecordError (Committed RecordRequestScope) := do
  let scope ← requireScope tables scopeId
  if scope.state ≠ .OPEN then .ok ⟨scope, tables, false⟩ else
    require (∀ given ∈ activity, (given.requestNonce, given.requestDigest) = (scope.requestNonce, scope.requestDigest))
      .ACTIVITY_CORRELATION_INVALID
    require (∀ given ∈ activity, complete = true ∨ given.complete = false) .ACTIVITY_CLOSURE_INVALID
    let closed := { scope with state := if complete then .COMPLETE else .INCOMPLETE, activity }
    .ok ⟨closed, { tables with
      scopes := tables.scopes.map fun row => if row.scopeId = scopeId then { row with document := closed } else row },
      true⟩

def operation (tables : Tables) (operationId : String) : Except RecordError RecordOperation := do
  let row ← orRaise (Table.lookup OperationRow.operationId tables.operations operationId) .RECORD_OPERATION_MISSING
  .ok row.document

/-- The log that `_trace_log` reads back, or a new one. -/
def traceLog (tables : Tables) (scope : RecordRequestScope) (collection resourceId : String) :
    Except RecordError RecordTraceLog := do
  match Table.lookup ExecutionTraceRow.key tables.executionTraces (scope.scopeId, collection, resourceId) with
  | some row =>
    require (env.traceSize row.document ≤ 262144) .TRACE_DOCUMENT_INVALID
    .ok row.document
  | none => .ok ⟨scope.scopeId, scope.generation, scope.requestNonce, scope.requestDigest, collection, resourceId, []⟩

/-- The event names an operation of the same request, resource and subject. -/
def requireTraced (tables : Tables) (command : RecordTraceWrite) (scope : RecordRequestScope) :
    Except RecordError Unit :=
  match command.event.operationId with
  | none => .ok ()
  | some operationId => do
    let found ← operation tables operationId
    require ((found.scopeId, found.collection, found.resourceId, some found.subjectId) =
      (some scope.scopeId, command.collection, command.resourceId, command.event.subjectId)) .TRACE_OPERATION_MISMATCH

/-- `append_trace` leaves its event to the next `_persist`. -/
def appendTrace (tables : Tables) (command : RecordTraceWrite) (eventId : String) (recordedAtUs : Nat) :
    Except RecordError (Committed RecordTraceEvent) := do
  let scope ← requireScope tables command.scopeId
  require (scope.state = .OPEN) .RECORD_SCOPE_CLOSED
  let _ ← snapshot tables command.collection command.resourceId
  let log ← traceLog env tables scope command.collection command.resourceId
  requireTraced tables command scope
  let event : RecordTraceEvent := ⟨command.event, "event_" ++ eventId, recordedAtUs⟩
  let extended := { log with events := log.events ++ [event] }
  require (extended.events.length ≤ 128) (.valueError "field out of bounds")
  explicitGraph [] extended.events
  let row : ExecutionTraceRow := ⟨scope.scopeId, command.collection, command.resourceId, extended⟩
  .ok ⟨event, { tables with
    executionTraces := tables.executionTraces.filter (fun old => old.key ≠ row.key) ++ [row] }, false⟩

/-- The scope of a transaction, of the store's own generation. -/
def transactionScope (tables : Tables) (command : RecordTransaction) : Except RecordError (Option RecordRequestScope) :=
  match command.scopeId with
  | none => .ok none
  | some scopeId => do
    let scope ← requireScope tables scopeId
    require (scope.generation = tables.generation) .RECORD_SCOPE_MISMATCH
    .ok (some scope)

def scopeOrdinal (tables : Tables) (scope : Option RecordRequestScope) : Except RecordError (Option Nat) :=
  match scope with
  | none => .ok none
  | some scope => do
    require (scope.state = .OPEN) .RECORD_SCOPE_CLOSED
    let count := (tables.scopeOperations.filter fun row => row.scopeId = scope.scopeId).length
    require (count < 32) .RECORD_REQUEST_LIMIT
    .ok (some count)

/-- The assignment loop: the final value, and one transition for each change. -/
def applyChanges : Nat → Json → List RecordChange → Except RecordError (Json × List RecordTransition)
  | _, value, [] => .ok (value, [])
  | ordinal, value, change :: rest => do
    let before ← boundedRecordData env.casefold value
    let copy ← boundedRecordData env.casefold value
    let assigned ← assign change.value change.path copy
    let after ← boundedRecordData env.casefold assigned
    let (final, later) ← applyChanges (ordinal + 1) after rest
    .ok (final, ⟨ordinal, before, after⟩ :: later)

/-- Row insertions of a new operation; a taken key or request key is an `IntegrityError`. -/
def insertOperation (tables : Tables) (command : RecordTransaction) (operation : RecordOperation) :
    Except RecordError (List OperationRow × List ScopeOperationRow) := do
  let row : OperationRow := ⟨operation.operationId, command.requestKey, env.commandHash command, operation⟩
  require (∀ old ∈ tables.operations, old.requestKey ≠ row.requestKey) .integrityError
  let operations ← orRaise (Table.insert OperationRow.operationId tables.operations row) .integrityError
  match command.scopeId, operation.scopeOrdinal with
  | some scopeId, some ordinal =>
    require (∀ old ∈ tables.scopeOperations, old.operationId ≠ operation.operationId) .integrityError
    let scopeOperations ← orRaise (Table.insert ScopeOperationRow.key tables.scopeOperations
      ⟨scopeId, operation.operationId, ordinal⟩) .integrityError
    .ok (operations, scopeOperations)
  | _, _ => .ok (operations, tables.scopeOperations)

/-- The part of `transact` that writes; `uuid4().hex` is the argument `operationId`. -/
def commitOperation (tables : Tables) (command : RecordTransaction) (scope : Option RecordRequestScope)
    (operationId : String) : Except RecordError (Committed RecordOperation) := do
  let ordinal ← scopeOrdinal tables scope
  let current ← snapshot tables command.collection command.resourceId
  require (current.version = command.expectedVersion) .RECORD_VERSION_CONFLICT
  let (value, transitions) ← applyChanges env 0 current.data command.changes
  let operation : RecordOperation :=
    { operationId
      generation := current.generation
      collection := current.collection
      resourceId := current.resourceId
      ownerId := current.ownerId
      subjectId := command.subjectId
      requestKey := command.requestKey
      scopeId := command.scopeId
      beforeVersion := current.version
      afterVersion := current.version + 1
      transitions
      scopeOrdinal := ordinal }
  exactCommit env.casefold operation
  let resources := tables.resources.map fun row =>
    if row.key = (current.collection, current.resourceId) then
      { row with version := operation.afterVersion, data := value, lastOperationId := some operationId }
    else row
  let (operations, scopeOperations) ← insertOperation env tables command operation
  .ok ⟨operation, { tables with resources, operations, scopeOperations }, true⟩

def transact (tables : Tables) (command : RecordTransaction) (operationId : String) :
    Except RecordError (Committed RecordOperation) := do
  let scope ← transactionScope tables command
  match tables.operations.find? fun row => row.requestKey = command.requestKey with
  | some prior =>
    require (prior.commandHash = env.commandHash command) .RECORD_OPERATION_CONFLICT
    .ok ⟨prior.document, tables, false⟩
  | none => commitOperation env tables command scope operationId

end Jiejian.Records.TransactionStore
