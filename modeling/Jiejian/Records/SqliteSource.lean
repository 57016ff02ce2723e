import Jiejian.Library.Grouping
import Jiejian.Protocol.Codec
import Jiejian.Records.Collections
import Jiejian.Records.SqliteCapture

namespace Jiejian.Records.SqliteSource

open Library Library.Outcome Library.Document Library.Sorting Library.Grouping
open Values Models Collections SqliteCapture Protocol.Codec

/-- What the reader computes with the standard library, and its byte budget. -/
structure Reader where
  casefold : String → String
  digest : Digest
  maxResponseBytes : Nat

section Reading

variable (reader : Reader) (table : String) (state : Capture)

def tableRows : List JournalRow := state.journal.filter fun row => row.tableName = table

def journalBytes : Nat :=
  (tableRows table state).foldl (fun total row =>
    total + (row.beforeData.map Json.encodedSize).getD 0 + (row.afterData.map Json.encodedSize).getD 0 + 256) 0

/-- The check before either branch of `read_sqlite_source`, on a file whose configuration and triggers are those of
the manifest. -/
def requireBudget : Except SourceReadError Unit :=
  require (journalBytes table state ≤ reader.maxResponseBytes) .SQLITE_CAPTURE_LIMIT

def normalizedScope (scope : Option RecordRequestScope) : Option RecordRequestScope :=
  scope.map fun scope => { scope with generation := state.generation }

def late (scope : RecordRequestScope) (row : JournalRow) : Bool := row.requestNonce = some ("late:" ++ scope.requestNonce)

def inScope (scope : Option RecordRequestScope) (row : JournalRow) : Bool :=
  match scope with
  | none => false
  | some scope => row.requestNonce = some scope.requestNonce

/-- A change that other requests share in, or that moved an object. -/
def mixed (scope : Option RecordRequestScope) (changes : List JournalRow) : Bool :=
  changes.any (inScope scope) && changes.any fun row => !inScope scope row || row.identityChanged

section Creation

variable (scope : Option RecordRequestScope)

/-- What the walk over the groups has gathered. -/
structure Walk where
  incarnations : String → Option String := fun _ => none
  versions : String → Option Nat := fun _ => none
  events : List CreationEvent := []
  foreign : Bool := false

def seedIncarnation (key : String) : String :=
  "seed_" ++ reader.digest.short (canonicalSha256 reader.digest (.dict [("table", .str table), ("key", .str key)]))

def createdIncarnation (seq : Nat) : String := "created_" ++ toString seq

def dataDigest (data : Json) : String := canonicalSha256 reader.digest data

def memberOf (walk : Walk) (key ownerId : String) (data : Json) : CreationMember where
  resourceId := key
  ownerId := ownerId
  incarnation := (walk.incarnations key).getD (seedIncarnation reader table key)
  version := (walk.versions key).getD 0
  dataDigest := dataDigest reader data

/-- The event of a change that created or removed an object; it is kept for the request that made it. -/
def recordEvent (walk : Walk) (kind : CreationKind) (key : String) (changes : List JournalRow) (last : JournalRow)
    (data : Json) : Walk :=
  match scope with
  | none => walk
  | some asked =>
    if changes.any (inScope scope) then
      { walk with
        events := walk.events ++ [⟨last.seq, some asked.scopeId, kind, memberOf reader table walk key last.ownerId data⟩]
        foreign := walk.foreign || mixed scope changes }
    else walk

/-- One turn of the walk: the rows that one transaction wrote about one object. -/
def readGroup (walk : Walk) (group : (String × String) × List JournalRow) : Walk :=
  let key := group.1.2
  let changes := group.2
  match changes.head?, changes.getLast? with
  | some first, some last =>
    match first.beforeData, last.afterData with
    | none, none => { walk with foreign := walk.foreign || mixed scope changes }
    | none, some after =>
      let created := { walk with
        versions := Function.update walk.versions key (some 0)
        incarnations := Function.update walk.incarnations key (some (createdIncarnation first.seq)) }
      recordEvent reader table scope created .CREATE key changes last after
    | some before, none => recordEvent reader table scope walk .REMOVE key changes last before
    | some _, some _ =>
      { walk with
        versions := Function.update walk.versions key (some ((walk.versions key).getD 0 + 1))
        foreign := walk.foreign || changes.any (inScope scope) }
  | _, _ => walk

def creationGroups : List ((String × String) × List JournalRow) :=
  groupBy (fun row => (row.transactionId, row.resourceId)) (tableRows table state)

def walkGroups : Walk := (creationGroups table state).foldl (readGroup reader table scope) {}

/-- The branch of the objects, `_creation_view`. -/
def readCollection : Except SourceReadError CreationView := do
  requireBudget reader table state
  let rows := tableRows table state
  require (rows.length ≤ 4096 ∧ state.objects.length ≤ 256) .SQLITE_CREATION_LIMIT
  let walk := walkGroups reader table state scope
  require (walk.events.length ≤ 32) .SQLITE_CREATION_LIMIT
  let members := sortedBy (·.resourceId)
    (state.objects.map fun row => memberOf reader table walk row.resourceId row.ownerId row.data)
  let normalized := (normalizedScope state scope).map fun scope =>
    if rows.any (late scope) then { scope with state := .INCOMPLETE } else scope
  let view : CreationView :=
    { generation := state.generation
      collection := table
      watermark := (rows.getLast?.map (·.seq)).getD 0
      members := members
      scope := normalized
      events := sortedBy (·.sequence) walk.events
      foreignMutations := walk.foreign }
  view.exactCollection.mapError fun _ => .SQLITE_CAPTURE_VALUE_UNSUPPORTED

end Creation

section Record

variable (resourceId : String) (scope : Option RecordRequestScope) (verifiedSubject : Option String)

/-- The record view of one object, with the operations of a request on it. -/
structure RecordProofView where
  snapshot : RecordSnapshot
  scope : Option RecordRequestScope := none
  operations : List RecordOperation := []

def history : List JournalRow := (tableRows table state).filter fun row => row.resourceId = resourceId

def historyGroups : List (String × List JournalRow) := groupBy (·.transactionId) (history table state resourceId)

def currentRow : Except SourceReadError ObjectRow :=
  match state.objects.filter fun row => row.resourceId = resourceId with
  | [] => .error .SQLITE_RESOURCE_MISSING
  | [row] => .ok row
  | _ => .error .SQLITE_RESOURCE_KEY_NOT_UNIQUE

def recordSnapshot (current : ObjectRow) : RecordSnapshot where
  generation := state.generation
  collection := table
  resourceId := resourceId
  ownerId := current.ownerId
  version := (historyGroups table state resourceId).length
  data := current.data
  lastOperationId := (historyGroups table state resourceId).getLast?.map fun group => "sql_" ++ group.1

/-- `json.loads` of an image that the row must have. -/
def imageOf (data : Option Json) : Except SourceReadError Json := orRaise data .SQLITE_CAPTURE_VALUE_UNSUPPORTED

def transitionOf (numbered : JournalRow × Nat) : Except SourceReadError RecordTransition := do
  let before ← imageOf numbered.1.beforeData
  let after ← imageOf numbered.1.afterData
  return ⟨numbered.2, before, after⟩

/-- One turn of the loop over the groups: a commit of the request becomes an operation. -/
def readCommit (asked : RecordRequestScope) (current : RecordSnapshot) (operations : List RecordOperation)
    (numbered : (String × List JournalRow) × Nat) : Except SourceReadError (List RecordOperation) := do
  let changes := numbered.1.2
  if ¬ changes.any (inScope (some asked)) then return operations
  let subject ← orRaise verifiedSubject .SQLITE_COMMIT_CORRELATION_INVALID
  require (∀ row ∈ changes, inScope (some asked) row ∧ row.kind = .UPDATE ∧ row.ownerId = current.ownerId)
    .SQLITE_COMMIT_CORRELATION_INVALID
  require (changes.length ≤ 8 ∧ operations.length < 32) .SQLITE_CAPTURE_LIMIT
  let transitions ← changes.zipIdx.mapM transitionOf
  let operation : RecordOperation :=
    { operationId := "sql_" ++ numbered.1.1
      generation := current.generation
      collection := table
      resourceId := resourceId
      ownerId := current.ownerId
      subjectId := subject
      requestKey := asked.requestNonce
      scopeId := some asked.scopeId
      beforeVersion := numbered.2
      afterVersion := numbered.2 + 1
      transitions := transitions
      scopeOrdinal := some operations.length }
  (exactCommit reader.casefold operation).mapError fun _ => .SQLITE_CAPTURE_VALUE_UNSUPPORTED
  return operations ++ [operation]

def readOperations (current : RecordSnapshot) : Except SourceReadError (List RecordOperation) :=
  match scope with
  | none => return []
  | some asked => (historyGroups table state resourceId).zipIdx.foldlM
      (readCommit reader table resourceId verifiedSubject asked current) []

/-- The branch of one object. -/
def readRecord : Except SourceReadError RecordProofView := do
  requireBudget reader table state
  let current ← currentRow state resourceId
  require (∀ row ∈ state.journal, ¬ (inScope scope row ∧ row.identityChanged)) .SQLITE_RESOURCE_IDENTITY_CHANGED
  require ((history table state resourceId).length ≤ 4096) .SQLITE_CAPTURE_LIMIT
  let snapshot := recordSnapshot table state resourceId current
  let operations ← readOperations reader table state resourceId scope verifiedSubject snapshot
  let _ ← (boundedRecordData reader.casefold current.data).mapError fun _ => .SQLITE_CAPTURE_VALUE_UNSUPPORTED
  let normalized := (normalizedScope state scope).map fun scope =>
    if state.journal.any (late scope) then { scope with state := .INCOMPLETE } else scope
  return ⟨snapshot, normalized, operations⟩

end Record

end Reading

end Jiejian.Records.SqliteSource
