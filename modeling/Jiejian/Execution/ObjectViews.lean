import Jiejian.Execution.CreatedObjects

namespace Jiejian.Execution.ObjectViews

open Library Library.Outcome Library.Document
open Records.Values Records.Models Records.TransactionStore Records.Calls Records.Collections Records.StoreViews
open Records.SqliteCapture Records.SqliteSource Records.SqliteViews Records.SqliteHistory
open Protocol.Codec CreationCheck CreatedObjects

/-- The recovery accepts the collection, and leaves the members that were not created. -/
def Recovers {σ : Type} (world : World σ) (digests : Digests) (entries : List CreationEntry) (restored : Restored)
    (state : σ) (current : CreationView) (created : List CreationEvent) : Prop :=
  ∃ recovered view, recoverCreated world digests entries restored state = .ok recovered ∧
    world.read recovered = .ok view ∧
    view.members = current.members.filter fun item => item.resourceId ∉ created.map (·.member.resourceId)

/-- Every proof of the check recorded the same. -/
def Agreeing (entries : List CreationEntry) (entry : CreationEntry) : Prop :=
  entries.head? = some entry ∧
    ∀ other ∈ entries, other.before = entry.before ∧ other.last = entry.last ∧ other.created = entry.created

/-- The record store, at any moment and between any two. -/
structure StoreAgrees (env : Environment) (generation collection : String) : Prop where
  views : ∀ calls requestNonce view,
    creationView env (runStore env generation calls).tables collection requestNonce = .ok view →
    ∀ member ∈ view.members, ∃ current,
      snapshot (runStore env generation calls).tables collection member.resourceId = .ok current ∧
      SameObject env.dataDigest view member current ∧ current.version = member.version
  incarnations : ∀ first second requestNonce requestNonce' view view' member member',
    creationView env (runStore env generation first).tables collection requestNonce = .ok view →
    creationView env (runStore env generation (first ++ second)).tables collection requestNonce' = .ok view' →
    member ∈ view.members → member' ∈ view'.members → member'.resourceId = member.resourceId →
    (member'.incarnation ≠ member.incarnation ↔ ∃ earlier, earlier <+: second ∧
      (collection, member.resourceId) ∉ keysOf (runStore env generation (first ++ earlier)).tables)
  recovered : ∀ first second requestNonce identityMatches request reached membersDigest restored entries entry current,
    RemovesOnly (storeWorld env collection requestNonce identityMatches request) reached →
    reached (runStore env generation (first ++ second)) → Agreeing entries entry →
    creationView env (runStore env generation first).tables collection requestNonce = .ok entry.last →
    creationView env (runStore env generation (first ++ second)).tables collection requestNonce = .ok current →
    (∀ event ∈ entry.created, event ∈ entry.last.events ∧ event.kind = .CREATE) →
    OnlyRestored env collection (runStore env generation first).tables
      (runStore env generation (first ++ second)).tables restored →
    (current.foreignMutations = true →
      ∀ event ∈ entry.created, event.member.resourceId ∈ reconciled entry.last restored) →
    Recovers (storeWorld env collection requestNonce identityMatches request) ⟨env.dataDigest, membersDigest⟩ entries
      restored (runStore env generation (first ++ second)) current entry.created

/-- A mapped table, at any moment and between any two: an object that was created has two versions. -/
structure SqliteAgrees (reader : Reader) (table generation : String) (objects : List ObjectRow) : Prop where
  views : ∀ made, Ordinary made → ∀ scope view,
    readCollection reader table (after table generation objects made) scope = .ok view → ∀ member ∈ view.members,
    (∀ asked subject proof,
      readRecord reader table (after table generation objects made) member.resourceId asked subject = .ok proof →
      SameObject (dataDigest reader) view member proof.snapshot ∧
        (proof.snapshot.version = member.version ↔ AllAlong table generation objects made member.resourceId)) ∧
    ((∀ row ∈ (after table generation objects made).objects,
        ∃ data, boundedRecordData reader.casefold row.data = .ok data) →
      ∃ proof, readRecord reader table (after table generation objects made) member.resourceId none none = .ok proof)
  incarnations : ∀ first second, Ordinary (first ++ second) → ∀ scope scope' view view' member member',
    readCollection reader table (after table generation objects first) scope = .ok view →
    readCollection reader table (after table generation objects (first ++ second)) scope' = .ok view' →
    member ∈ view.members → member' ∈ view'.members → member'.resourceId = member.resourceId →
    (member'.incarnation ≠ member.incarnation ↔ ∃ earlier, earlier <+: second ∧
      ¬ Present (after table generation objects (first ++ earlier)) member.resourceId)
  recovered : ∀ first second scope identityMatches request reached membersDigest restored entries entry,
    RemovesOnly (sqliteWorld reader table scope identityMatches request) reached →
    reached (after table generation objects (first ++ second)) → Agreeing entries entry →
    readCollection reader table (after table generation objects first) scope = .ok entry.last →
    (∀ made ∈ second, Elsewhere made) → entry.last.foreignMutations = false →
    (∀ member ∈ entry.last.members, restoredSnapshot restored member.resourceId = none) →
    (∀ event ∈ entry.created, ∀ member ∈ entry.last.members, member.resourceId = event.member.resourceId →
      member.incarnation = event.member.incarnation) →
    Recovers (sqliteWorld reader table scope identityMatches request) ⟨dataDigest reader, membersDigest⟩ entries
      restored (after table generation objects (first ++ second)) entry.last entry.created

/-- The collection view and the record view of one object, over the two kinds of source. -/
theorem collection_views_agree (env : Environment) (reader : Reader) (generation collection : String)
    (objects : List ObjectRow) :
    StoreAgrees env generation collection ∧ SqliteAgrees reader collection generation objects := by
  refine ⟨⟨?_, ?_, ?_⟩, ⟨?_, ?_, ?_⟩⟩
  · intro calls requestNonce view read member listed
    exact store_views read listed
  · intro first second requestNonce requestNonce' view view' member member' read read' listed listed' same
    exact store_incarnations read read' listed listed' same
  · intro first second requestNonce identityMatches request reached membersDigest restored entries entry current
      removesOnly arrived agreeing read read' created only known
    exact store_recovers removesOnly arrived agreeing.1 agreeing.2 read read' created only known
  · intro made ordinary scope view read member listed
    refine ⟨?_, fun bounded => sqlite_record read listed bounded⟩
    intro asked subject proof proven
    obtain ⟨same, version⟩ := sqlite_views read listed proven
    obtain ⟨-, -, -, members⟩ := readCollection_members read
    obtain ⟨row, stored, built⟩ := (members member).mp listed
    have present : Present (after collection generation objects made) member.resourceId := by
      rw [present_iff, built]
      exact List.mem_map_of_mem stored
    exact ⟨same, version.trans (updated_iff_allAlong ordinary present)⟩
  · intro first second ordinary scope scope' view view' member member' read read' listed listed' same
    exact sqlite_incarnations ordinary read read' listed listed' same
  · intro first second scope identityMatches request reached membersDigest restored entries entry removesOnly arrived
      agreeing read untouched own unrestored alive
    exact sqlite_recovers removesOnly arrived agreeing.1 agreeing.2 read untouched own unrestored alive

section Sample

def sampleTicket (title : String) : ObjectRow := ⟨"n1", "owner", .dict [("title", .str title)]⟩

/-- A request creates a ticket; it is then changed and restored. -/
def sampleHistory : List Transaction :=
  [⟨"t1", [(some "request", .insert (sampleTicket "new"))]⟩, ⟨"t2", [(none, .update "n1" (sampleTicket "changed"))]⟩,
    ⟨"t3", [(none, .update "n1" (sampleTicket "new"))]⟩]

def sampleScope : RecordRequestScope where
  scopeId := "scope"
  generation := "host"
  requestNonce := "request"
  requestDigest := "digest"
  state := .COMPLETE
  activity := none

variable (digest : Digest)

def sampleReader : Reader := ⟨id, digest, 262144⟩

def sampleMember : CreationMember :=
  ⟨"n1", "owner", "created_1", 0, dataDigest (sampleReader digest) (sampleTicket "new").data⟩

/-- The view of the collection right after the request. -/
def sampleLast : CreationView where
  generation := "g"
  collection := "tickets"
  watermark := 1
  members := [sampleMember digest]
  scope := some { sampleScope with generation := "g" }
  events := [⟨1, some "scope", .CREATE, sampleMember digest⟩]

/-- The record view of the ticket after its data is back. -/
def sampleRestored : RecordSnapshot where
  generation := "g"
  collection := "tickets"
  resourceId := "n1"
  ownerId := "owner"
  version := 3
  data := (sampleTicket "new").data
  lastOperationId := some "sql_t3"

/-- The application behind the sample: its recovery request removes the ticket and nothing else. -/
def sampleWorld : World Capture :=
  sqliteWorld (sampleReader digest) "tickets" (some sampleScope) (fun _ => true)
    fun resourceId state => .ok (commit "tickets" state ⟨"recovery", [(none, .delete resourceId)]⟩)

def sampleDigests : Digests := ⟨dataDigest (sampleReader digest), fun _ => ""⟩

def sampleRecovery : Except RecoveryError Capture :=
  recoverCreated (sampleWorld digest) (sampleDigests digest)
    [⟨⟨"g", "tickets", 0, [], none, [], false⟩, sampleLast digest, (sampleLast digest).events⟩] [("n1", sampleRestored)]
    (after "tickets" "g" [] sampleHistory)

theorem sample_reconciled : (sampleLast digest).members.mapM
    (reconcile (sampleDigests digest) (sampleLast digest) [("n1", sampleRestored)]) =
      .ok [{ sampleMember digest with version := 3 }] := by
  have taken : reconcile (sampleDigests digest) (sampleLast digest) [("n1", sampleRestored)] (sampleMember digest) =
      .ok { sampleMember digest with version := 3 } := bind_eq_ok.mpr ⟨(), require_eq_ok.mpr rfl, rfl⟩
  show [sampleMember digest].mapM _ = _
  rw [List.mapM_cons, taken]
  rfl

/-- The collection counts two updates where the record counts three commits. -/
theorem sample_views :
    readCollection (sampleReader digest) "tickets" (after "tickets" "g" [] (sampleHistory.take 1)) (some sampleScope) =
      .ok (sampleLast digest) ∧
    readRecord (sampleReader digest) "tickets" (after "tickets" "g" [] sampleHistory) "n1" none none =
      .ok ⟨sampleRestored, none, []⟩ ∧
    readCollection (sampleReader digest) "tickets" (after "tickets" "g" [] sampleHistory) (some sampleScope) =
      .ok { sampleLast digest with watermark := 3, members := [{ sampleMember digest with version := 2 }] } :=
  ⟨rfl, rfl, rfl⟩

/-- The ticket was only updated and restored, and still its recovery stops. -/
theorem sample_refused : sampleRecovery digest = .error .CREATED_COLLECTION_CHANGED := by
  obtain ⟨-, -, read⟩ := sample_views digest
  apply recoverCreated_refuses rfl _ (sample_reconciled digest) read
  · intro same
    cases same
  · intro empty
    cases empty
  · intro other member
    cases List.mem_singleton.mp member
    exact ⟨rfl, rfl, rfl⟩

/-- One ticket of two versions, and a recovery that refuses what was only restored. -/
theorem sample_disagrees :
    readRecord (sampleReader textDigest) "tickets" (after "tickets" "g" [] sampleHistory) "n1" none none =
      .ok ⟨sampleRestored, none, []⟩ ∧
    readCollection (sampleReader textDigest) "tickets" (after "tickets" "g" [] sampleHistory) (some sampleScope) =
      .ok { sampleLast textDigest with watermark := 3, members := [{ sampleMember textDigest with version := 2 }] } ∧
    sampleRestored.version ≠ 2 ∧ sampleRecovery textDigest = .error .CREATED_COLLECTION_CHANGED := by
  obtain ⟨-, proven, read⟩ := sample_views textDigest
  exact ⟨proven, read, by decide, sample_refused textDigest⟩

end Sample

end Jiejian.Execution.ObjectViews
