import Jiejian.Library.Sorting
import Jiejian.Records.TransactionStore

namespace Jiejian.Records.Collections

open Library Library.Outcome Library.Document Library.Sorting Values Models TransactionStore

/-- Why a source of records gives no view. -/
inductive SourceReadError where
  | CREATION_COLLECTION_UNKNOWN
  | CREATION_COLLECTION_LIMIT
  | SQLITE_CAPTURE_LIMIT
  | SQLITE_CREATION_LIMIT
  | SQLITE_RESOURCE_MISSING
  | SQLITE_RESOURCE_KEY_NOT_UNIQUE
  | SQLITE_RESOURCE_IDENTITY_CHANGED
  | SQLITE_COMMIT_CORRELATION_INVALID
  | SQLITE_CAPTURE_VALUE_UNSUPPORTED
  | store (error : RecordError)
  | valueError (text : String)
  deriving DecidableEq, Repr

/-- The members of a collection at one moment, and what one request created in it. -/
structure CreationView where
  generation : String
  collection : String
  watermark : Nat
  members : List CreationMember
  scope : Option RecordRequestScope := none
  events : List CreationEvent := []
  foreignMutations : Bool := false
  deriving DecidableEq, Repr

/-- The field bounds of a view and its validator. -/
def CreationView.exactCollection (view : CreationView) : Except SourceReadError CreationView := do
  require (view.members.length ≤ 256 ∧ view.events.length ≤ 32) (.valueError "field out of bounds")
  require ((view.members.map (·.resourceId)).Pairwise (· < ·))
    (.valueError "creation collection is not unique and ordered")
  require ((view.events.map (·.sequence)).Pairwise (· < ·) ∧ ∀ event ∈ view.events, event.sequence ≤ view.watermark)
    (.valueError "creation event sequence mismatch")
  require (∀ scope ∈ view.scope, scope.generation = view.generation)
    (.valueError "creation scope generation mismatch")
  require (∀ event ∈ view.events, view.scope.isSome ∧ event.scopeId = view.scope.map (·.scopeId))
    (.valueError "creation event belongs to another request")
  return view

theorem exactCollection_ok {view result : CreationView} (exact' : view.exactCollection = .ok result) : result = view := by
  simp only [CreationView.exactCollection, bind_eq_ok, require_eq_ok] at exact'
  obtain ⟨_, -, _, -, _, -, _, -, _, -, same⟩ := exact'
  cases same
  rfl

/-- A view that a source gave lists every object once. -/
theorem exactCollection_keyed {view result : CreationView} (exact' : view.exactCollection = .ok result) :
    Table.Keyed (·.resourceId) view.members := by
  simp only [CreationView.exactCollection, bind_eq_ok, require_eq_ok] at exact'
  obtain ⟨_, -, _, ordered, -⟩ := exact'
  exact ordered.imp fun before => ne_of_lt before

/-- What the collection view and the record view of one object have in common. -/
structure SameObject (digestOf : Json → String) (view : CreationView) (member : CreationMember)
    (snapshot : RecordSnapshot) : Prop where
  generation : snapshot.generation = view.generation
  collection : snapshot.collection = view.collection
  resource : snapshot.resourceId = member.resourceId
  owner : snapshot.ownerId = member.ownerId
  digest : digestOf snapshot.data = member.dataDigest

section Store

variable (env : Environment) (tables : Tables) (collection : String)

def collectionRows : List ResourceRow := tables.resources.filter fun row => row.collection = collection

/-- The scope of the request, when the host has opened one. -/
def scopeOf (requestNonce : Option String) : Option RecordRequestScope := do
  let nonce ← requestNonce
  let row ← Table.lookup ScopeRow.requestNonce tables.scopes nonce
  return row.document

def scopeEvents (scope : Option RecordRequestScope) : List CreationEvent :=
  match scope with
  | none => []
  | some scope => (sortedBy (·.sequence) (tables.creationEvents.filter fun row =>
      row.collection = collection ∧ row.scopeId = some scope.scopeId)).map (·.document)

/-- An operation on the created object that the request did not make. -/
def foreignOperation (scope : Option RecordRequestScope) (event : CreationEvent) : Bool :=
  event.kind = .CREATE ∧ ∃ row ∈ tables.operations, row.document.collection = collection ∧
    row.document.resourceId = event.member.resourceId ∧ row.document.scopeId ≠ scope.map (·.scopeId)

def watermark : Nat := (tables.creationEvents.map (·.sequence)).foldl max 0

/-- `TransactionRecordStore.creation_view`. -/
def creationView (requestNonce : Option String) : Except SourceReadError CreationView := do
  let here := collectionRows tables collection
  require (here ≠ [] ∨ ∃ row ∈ tables.creationEvents, row.collection = collection) .CREATION_COLLECTION_UNKNOWN
  let ids := sortedBy id (here.map (·.resourceId))
  require (ids.length ≤ 256) .CREATION_COLLECTION_LIMIT
  let scope := scopeOf tables requestNonce
  let events := scopeEvents tables collection scope
  let snapshots ← (ids.mapM (snapshot tables collection)).mapError .store
  let view : CreationView :=
    { generation := tables.generation
      collection := collection
      watermark := watermark tables
      members := snapshots.map (creationMember env tables)
      scope := scope
      events := events
      foreignMutations := events.any (foreignOperation tables collection scope) }
  view.exactCollection

end Store

end Jiejian.Records.Collections
