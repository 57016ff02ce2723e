import Jiejian.Library.History
import Jiejian.Library.Transition
import Jiejian.Records.TransactionStore

namespace Jiejian.Records.Calls

open Library Library.Outcome Library.Document Library.History Values Models TransactionStore

/-- The mutating calls of the store, with the random identifiers and times they draw. -/
inductive Call where
  | seed (command : RecordSeed) (incarnation : String)
  | openScope (requestNonce requestDigest : String) (activity : Option RequestActivity) (scopeId : String)
  | transact (command : RecordTransaction) (operationId : String)
  | remove (command : RecordRemove)
  | appendTrace (command : RecordTraceWrite) (eventId : String) (recordedAtUs : Nat)
  | closeScope (scopeId : String) (complete : Bool) (activity : Option RequestActivity)

inductive Answer where
  | snapshot (snapshot : RecordSnapshot)
  | scope (scope : RecordRequestScope)
  | operation (operation : RecordOperation)
  | event (event : RecordTraceEvent)

def Committed.as {α : Type} (answer : α → Answer) (committed : Committed α) : Committed Answer :=
  ⟨answer committed.answer, committed.tables, committed.dirty⟩

/-- The tables a call commits in memory, or the error that rolls it back. -/
def perform (env : Environment) (tables : Tables) : Call → Except RecordError (Committed Answer)
  | .seed command incarnation => (seed env tables command incarnation).map (Committed.as .snapshot)
  | .openScope requestNonce requestDigest activity scopeId =>
    (openScope tables requestNonce requestDigest activity scopeId).map (Committed.as .scope)
  | .transact command operationId => (transact env tables command operationId).map (Committed.as .operation)
  | .remove command => (remove env tables command).map (Committed.as .snapshot)
  | .appendTrace command eventId recordedAtUs =>
    (appendTrace env tables command eventId recordedAtUs).map (Committed.as .event)
  | .closeScope scopeId complete activity => (closeScope tables scopeId complete activity).map (Committed.as .scope)

/-- A transaction together with the receipt it was first answered with. -/
structure Receipt where
  command : RecordTransaction
  operation : RecordOperation

/-- A running store, with the seeds that created its resources and the receipts it has given. -/
structure Session where
  tables : Tables
  poisoned : Bool
  seeds : List RecordSeed
  receipts : List Receipt

/-- What a call gave back. A store whose journal cannot be written is sealed. -/
inductive Outcome where
  | answered (answer : Answer)
  | refused (error : RecordError)
  | sealed

def seedsOf (call : Call) (dirty : Bool) : List RecordSeed :=
  match call with
  | .seed command _ => if dirty then [command] else []
  | _ => []

def receiptsOf (call : Call) (committed : Committed Answer) : List Receipt :=
  match call, committed.answer with
  | .transact command _, .operation operation => if committed.dirty then [⟨command, operation⟩] else []
  | _, _ => []

/-- One call; `written` tells whether its `_persist` succeeds. -/
def call (env : Environment) (session : Session) (made : Call) (written : Bool) : Outcome × Session :=
  if session.poisoned then (.refused .RECORD_STORE_UNAVAILABLE, session) else
    match perform env session.tables made with
    | .error error => (.refused error, session)
    | .ok committed =>
      let next : Session :=
        { tables := committed.tables
          poisoned := committed.dirty && !written
          seeds := session.seeds ++ seedsOf made committed.dirty
          receipts := session.receipts ++ receiptsOf made committed }
      (if next.poisoned then .sealed else .answered committed.answer, next)

def step (env : Environment) (session : Session) (made : Call × Bool) : Session :=
  (call env session made.1 made.2).2

/-- A new store: the schema and its generation. -/
def fresh (generation : String) : Session where
  tables := ⟨generation, [], [], [], [], [], [], []⟩
  poisoned := false
  seeds := []
  receipts := []

def runStore (env : Environment) (generation : String) (calls : List (Call × Bool)) : Session :=
  Transition.run (step env) (fresh generation) calls

/-- The scope exists and still takes writes. -/
def ScopeOpen (tables : Tables) (scopeId : String) : Prop :=
  ∃ row ∈ tables.scopes, row.scopeId = scopeId ∧ row.document.state = .OPEN

def operationKey (operation : RecordOperation) : String × String := (operation.collection, operation.resourceId)

def seedKey (command : RecordSeed) : String × String := (command.collection, command.resourceId)

def seededRow (command : RecordSeed) : ResourceRow :=
  ⟨command.collection, command.resourceId, command.ownerId, 0, command.data, none⟩

/-- The row of a resource after an operation. -/
def writtenRow (operation : RecordOperation) (value : Json) (row : ResourceRow) : ResourceRow :=
  { row with version := operation.afterVersion, data := value, lastOperationId := some operation.operationId }

/-- How an operation enters its scope: not at all, or as the next of an open scope with room. -/
inductive Enters (tables : Tables) (operation : RecordOperation) : List ScopeOperationRow → Prop
  | unscoped (free : operation.scopeId = none) (unnumbered : operation.scopeOrdinal = none) :
      Enters tables operation tables.scopeOperations
  | inScope {scopeId : String} (named : operation.scopeId = some scopeId) (isOpen : ScopeOpen tables scopeId)
      (room : (tables.scopeOperations.filter fun row => row.scopeId = scopeId).length < 32)
      (numbered : operation.scopeOrdinal =
        some (tables.scopeOperations.filter fun row => row.scopeId = scopeId).length) :
      Enters tables operation (tables.scopeOperations ++
        [⟨scopeId, operation.operationId, (tables.scopeOperations.filter fun row => row.scopeId = scopeId).length⟩])

/-- Everything a committed call can do to the tables, with the seeds and receipts it adds. -/
inductive Change (env : Environment) (tables : Tables) : Tables → List RecordSeed → List Receipt → Prop
  | keep : Change env tables tables [] []
  | create {command : RecordSeed} {incarnations : List IncarnationRow} {event : CreationEventRow}
      (free : ∀ row ∈ tables.resources, row.key ≠ seedKey command)
      (unseen : ∀ row ∈ tables.creationEvents, row.key ≠ seedKey command)
      (permitted : ∀ scopeId, event.scopeId = some scopeId → ScopeOpen tables scopeId)
      (keyed : event.key = seedKey command) (kind : event.document.kind = .CREATE) :
      Change env tables
        { tables with
          resources := tables.resources ++ [seededRow command]
          resourceIncarnations := incarnations
          creationEvents := tables.creationEvents ++ [event] } [command] []
  | remove {event : CreationEventRow} (present : ∃ row ∈ tables.resources, row.key = event.key)
      (permitted : ∀ scopeId, event.scopeId = some scopeId → ScopeOpen tables scopeId)
      (kind : event.document.kind = .REMOVE) :
      Change env tables
        { tables with
          resources := tables.resources.filter fun row => row.key ≠ event.key
          creationEvents := tables.creationEvents ++ [event] } [] []
  | write {command : RecordTransaction} {operation : RecordOperation} {row : ResourceRow} {value : Json}
      {scopeOperations : List ScopeOperationRow} (present : row ∈ tables.resources)
      (keyed : operationKey operation = row.key) (version : operation.beforeVersion = row.version)
      (next : operation.afterVersion = row.version + 1)
      (follows : Follows RecordTransition.before RecordTransition.after row.data operation.transitions value)
      (unused : ∀ old ∈ tables.operations, old.requestKey ≠ command.requestKey)
      (scope : operation.scopeId = command.scopeId) (enters : Enters tables operation scopeOperations) :
      Change env tables
        { tables with
          resources := tables.resources.map fun old => if old.key = row.key then writtenRow operation value old else old
          operations := tables.operations ++
            [⟨operation.operationId, command.requestKey, env.commandHash command, operation⟩]
          scopeOperations } [] [⟨command, operation⟩]
  | openScope {row : ScopeRow} (free : ∀ old ∈ tables.scopes, old.scopeId ≠ row.scopeId)
      (named : row.document.scopeId = row.scopeId) (generation : row.document.generation = tables.generation) :
      Change env tables { tables with scopes := tables.scopes ++ [row] } [] []
  | closeScope {scopeId : String} {closed : RecordRequestScope} (named : closed.scopeId = scopeId)
      (generation : closed.generation = tables.generation) (ended : closed.state ≠ .OPEN) :
      Change env tables
        { tables with
          scopes := tables.scopes.map fun row => if row.scopeId = scopeId then { row with document := closed } else row }
        [] []
  | trace (executionTraces : List ExecutionTraceRow) : Change env tables { tables with executionTraces } [] []

end Jiejian.Records.Calls
