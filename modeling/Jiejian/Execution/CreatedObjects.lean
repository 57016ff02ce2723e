import Jiejian.Execution.CreationCheck
import Jiejian.Records.SqliteHistory
import Jiejian.Records.StoreViews

namespace Jiejian.Execution.CreatedObjects

open Library Library.Outcome Library.Document Library.Sorting
open Records.Values Records.Models Records.TransactionStore Records.Calls Records.Changes Records.StoreHistory
open Records.Collections Records.StoreViews Records.SqliteCapture Records.SqliteSource Records.SqliteViews
open Records.SqliteHistory CreationCheck

section Store

variable {env : Environment} {generation collection : String} {first second : List (Call × Bool)}

/-- Since the earlier moment nothing was created or removed, and the objects that were touched hold restored data. -/
structure OnlyRestored (env : Environment) (collection : String) (before after : Tables) (restored : Restored) : Prop where
  quiet : after.creationEvents = before.creationEvents
  untouched : ∀ resourceId found, snapshot before collection resourceId = .ok found →
    restoredSnapshot restored resourceId = none → snapshot after collection resourceId = .ok found
  verified : ∀ resourceId found record, snapshot before collection resourceId = .ok found →
    restoredSnapshot restored resourceId = some record →
    snapshot after collection resourceId = .ok record ∧ env.dataDigest record.data = env.dataDigest found.data

theorem snapshot_owner {before after : Tables} (owners : ownersOf after = ownersOf before)
    (keyed : Table.Keyed ResourceRow.key before.resources) {resourceId : String} {found later : RecordSnapshot}
    (read : snapshot before collection resourceId = .ok found) (read' : snapshot after collection resourceId = .ok later) :
    later.ownerId = found.ownerId := by
  obtain ⟨row, stored, key, same⟩ := snapshot_ok read
  obtain ⟨row', stored', key', same'⟩ := snapshot_ok read'
  have listed : (row'.key, row'.ownerId) ∈ ownersOf before := by
    rw [← owners]
    exact List.mem_map_of_mem stored'
  obtain ⟨other, inside, both⟩ := List.mem_map.mp listed
  have keys : other.key = row'.key := congrArg Prod.fst both
  have itself : other = row := keyed.eq_of_mem inside stored (keys.trans (key'.trans key.symm))
  rw [same, same', ← itself]
  exact (congrArg Prod.snd both).symm

theorem collection_ids {before after : Tables} (keys : keysOf after = keysOf before) :
    (collectionRows after collection).map (·.resourceId) = (collectionRows before collection).map (·.resourceId) := by
  have ids : ∀ tables : Tables, (collectionRows tables collection).map (·.resourceId) =
      ((keysOf tables).filter fun key => key.1 = collection).map Prod.snd := by
    intro tables
    unfold collectionRows keysOf
    rw [List.filter_map, List.map_map]
    rfl
  rw [ids, ids, keys]

theorem member_ext {left right : CreationMember} (resource : left.resourceId = right.resourceId)
    (owner : left.ownerId = right.ownerId) (incarnation : left.incarnation = right.incarnation)
    (version : left.version = right.version) (digest : left.dataDigest = right.dataDigest) : left = right := by
  cases left
  cases right
  cases resource
  cases owner
  cases incarnation
  cases version
  cases digest
  rfl

/-- A member of the earlier view becomes the member of the later one. -/
theorem member_reconciled {last : CreationView} {membersDigest : List CreationMember → String} {restored : Restored}
    (named : last.generation = (runStore env generation first).tables.generation) (collected : last.collection = collection)
    (only : OnlyRestored env collection (runStore env generation first).tables
      (runStore env generation (first ++ second)).tables restored)
    {resourceId : String} {found later : RecordSnapshot}
    (read : snapshot (runStore env generation first).tables collection resourceId = .ok found)
    (read' : snapshot (runStore env generation (first ++ second)).tables collection resourceId = .ok later) :
    reconcile ⟨env.dataDigest, membersDigest⟩ last restored
        (creationMember env (runStore env generation first).tables found) =
      .ok (creationMember env (runStore env generation (first ++ second)).tables later) := by
  have sound := runStore_sound env generation first
  have grown := run_grown sound second
  rw [← runStore_append] at grown
  obtain ⟨row, stored, key, taken⟩ := snapshot_ok read
  obtain ⟨row', -, -, taken'⟩ := snapshot_ok read'
  obtain ⟨drawn, listed, key'⟩ := runStore_incarnated env generation first row stored
  have resource : (creationMember env (runStore env generation first).tables found).resourceId = resourceId := by
    rw [creationMember, taken]
  have owner := snapshot_owner (grown.unmoved only.quiet) sound.keyed read read'
  have incarnation : (creationMember env (runStore env generation (first ++ second)).tables later).incarnation =
      (creationMember env (runStore env generation first).tables found).incarnation := by
    apply creationMember_incarnation grown listed
    · rw [key', key, taken]
    · rw [taken, taken']
  unfold reconcile
  rw [resource]
  cases known : restoredSnapshot restored resourceId with
  | none =>
    have same := only.untouched resourceId found read known
    rw [read'] at same
    cases same
    exact congrArg Except.ok (member_ext rfl rfl incarnation.symm rfl rfl)
  | some record =>
    obtain ⟨same, data⟩ := only.verified resourceId found record read known
    rw [read'] at same
    cases same
    refine bind_eq_ok.mpr ⟨(), require_eq_ok.mpr ?_, congrArg Except.ok (member_ext ?_ owner.symm incarnation.symm rfl ?_)⟩
    · have generation' : later.generation = last.generation := by rw [taken', named, grown.generation]
      have collection' : later.collection = last.collection := by rw [taken', collected]
      have resource' : later.resourceId = resourceId := by rw [taken']
      rw [generation', collection', resource', owner]
      show (_, _, _, _, env.dataDigest later.data) = _
      rw [data]
      rfl
    · rw [creationMember, creationMember, taken, taken']
    · exact data.symm

/-- The members of the later view are those of the earlier one, the restored ones under their last versions. -/
theorem members_reconciled {requestNonce requestNonce' : Option String} {last current : CreationView}
    {membersDigest : List CreationMember → String} {restored : Restored}
    (read : creationView env (runStore env generation first).tables collection requestNonce = .ok last)
    (read' : creationView env (runStore env generation (first ++ second)).tables collection requestNonce' = .ok current)
    (only : OnlyRestored env collection (runStore env generation first).tables
      (runStore env generation (first ++ second)).tables restored) :
    last.members.mapM (reconcile ⟨env.dataDigest, membersDigest⟩ last restored) = .ok current.members := by
  have grown := run_grown (runStore_sound env generation first) second
  rw [← runStore_append] at grown
  obtain ⟨named, collected, -, snapshots, found, members⟩ := creationView_members read
  obtain ⟨-, -, -, snapshots', found', members'⟩ := creationView_members read'
  rw [collection_ids (keysOf_of_owners (grown.unmoved only.quiet))] at found'
  rw [members, members', mapM_eq_ok_iff, List.forall₂_map_left_iff, List.forall₂_map_right_iff]
  apply forall₂_join _ (mapM_eq_ok_iff.mp found) (mapM_eq_ok_iff.mp found')
  intro resourceId before after made made'
  exact member_reconciled named collected only made made'

/-- An object that is still there has the incarnation that its creation event names. -/
theorem created_incarnation {requestNonce requestNonce' : Option String} {last current : CreationView}
    (read : creationView env (runStore env generation first).tables collection requestNonce = .ok last)
    (read' : creationView env (runStore env generation (first ++ second)).tables collection requestNonce' = .ok current)
    {event : CreationEvent} (listed : event ∈ last.events) (created : event.kind = .CREATE) {member : CreationMember}
    (inside : member ∈ current.members) (same : member.resourceId = event.member.resourceId) :
    member.incarnation = event.member.incarnation := by
  obtain ⟨row, recorded, collected, document⟩ := creationView_events read listed
  have sound := runStore_eventsSound env generation first
  rw [← document] at created same ⊢
  obtain ⟨resource, drawn, drawn', key, incarnation⟩ := sound.created row recorded created
  have grown := run_grown (runStore_sound env generation first) second
  rw [← runStore_append] at grown
  obtain ⟨added, appended⟩ := grown.incarnations
  obtain ⟨later, found, made⟩ := member_snapshot read' inside
  obtain ⟨stored, -, -, taken⟩ := snapshot_ok found
  have kept : drawn ∈ (runStore env generation (first ++ second)).tables.resourceIncarnations := by
    rw [appended]
    exact List.mem_append_left _ drawn'
  have looked := (runStore_eventsSound env generation (first ++ second)).keyed.lookup_mem kept
  have named : drawn.key = (later.collection, later.resourceId) := by
    rw [key, taken, CreationEventRow.key, collected, same, resource]
  rw [made, creationMember, ← named, looked]
  exact incarnation

/-- The record store as a recovery meets it, with the application that uses it. -/
def storeWorld (env : Environment) (collection : String) (requestNonce : Option String)
    (identityMatches : Session → Bool) (request : String → Session → Except RecoveryError Session) : World Session where
  read session := creationView env session.tables collection requestNonce
  identityMatches := identityMatches
  request := request

/-- A recovery over the record store accepts what was only restored, and removes the created objects. -/
theorem store_recovers {requestNonce : Option String} {identityMatches : Session → Bool}
    {request : String → Session → Except RecoveryError Session} {reached : Session → Prop}
    {membersDigest : List CreationMember → String} {restored : Restored} {entries : List CreationEntry}
    {entry : CreationEntry} {current : CreationView}
    (removesOnly : RemovesOnly (storeWorld env collection requestNonce identityMatches request) reached)
    (arrived : reached (runStore env generation (first ++ second))) (head : entries.head? = some entry)
    (agree : ∀ other ∈ entries, other.before = entry.before ∧ other.last = entry.last ∧ other.created = entry.created)
    (read : creationView env (runStore env generation first).tables collection requestNonce = .ok entry.last)
    (read' : creationView env (runStore env generation (first ++ second)).tables collection requestNonce = .ok current)
    (created : ∀ event ∈ entry.created, event ∈ entry.last.events ∧ event.kind = .CREATE)
    (only : OnlyRestored env collection (runStore env generation first).tables
      (runStore env generation (first ++ second)).tables restored)
    (known : current.foreignMutations = true →
      ∀ event ∈ entry.created, event.member.resourceId ∈ reconciled entry.last restored) :
    ∃ recovered view, recoverCreated (storeWorld env collection requestNonce identityMatches request)
        ⟨env.dataDigest, membersDigest⟩ entries restored (runStore env generation (first ++ second)) = .ok recovered ∧
      creationView env recovered.tables collection requestNonce = .ok view ∧
      view.members = current.members.filter
        (fun item => item.resourceId ∉ entry.created.map (·.member.resourceId)) := by
  have grown := run_grown (runStore_sound env generation first) second
  rw [← runStore_append] at grown
  obtain ⟨generation', -, marked, -⟩ := creationView_members read
  obtain ⟨later, -, marked', -⟩ := creationView_members read'
  apply recoverCreated_accepts removesOnly head agree arrived read' (members_reconciled read read' only)
  · rw [later, generation', grown.generation]
  · rw [marked, marked', watermark, watermark, only.quiet]
  · exact known
  · intro event listed member inside same
    obtain ⟨shown, kind⟩ := created event listed
    exact created_incarnation read read' shown kind inside same

end Store

section Sqlite

variable {reader : Reader} {table generation : String} {objects : List ObjectRow} {scope : Option RecordRequestScope}

/-- The transaction runs no statement on the mapped table. -/
def Elsewhere (made : Transaction) : Prop := ∀ statement ∈ made.statements, ∃ entry, statement.2 = .elsewhere entry

/-- Two moments at which the reader finds the same. -/
structure SameTable (table : String) (before after : Capture) : Prop where
  generation : after.generation = before.generation
  objects : after.objects = before.objects
  rows : tableRows table after = tableRows table before

theorem execute_elsewhere (transactionId : String) (requestNonce : Option String) (state : Capture) (entry : JournalRow) :
    SameTable table state (execute table transactionId requestNonce state (.elsewhere entry)) := by
  unfold execute
  dsimp only
  by_cases here : entry.tableName = table
  · rw [if_pos here]
    exact ⟨rfl, rfl, rfl⟩
  · rw [if_neg here]
    refine ⟨rfl, rfl, ?_⟩
    unfold tableRows
    rw [List.filter_append]
    simp [elsewhereRow, here]

theorem commit_elsewhere {made : Transaction} (elsewhere : Elsewhere made) (state : Capture) :
    SameTable table state (commit table state made) := by
  obtain ⟨transactionId, statements⟩ := made
  unfold commit
  dsimp only
  induction statements generalizing state with
  | nil => exact ⟨rfl, rfl, rfl⟩
  | cons statement statements ih =>
    obtain ⟨entry, same⟩ := elsewhere statement List.mem_cons_self
    rw [List.foldl_cons, same]
    have first := @execute_elsewhere table transactionId statement.1 state entry
    have rest := ih (execute table transactionId statement.1 state (.elsewhere entry))
      fun other member => elsewhere other (List.mem_cons_of_mem _ member)
    exact ⟨rest.generation.trans first.generation, rest.objects.trans first.objects, rest.rows.trans first.rows⟩

theorem after_elsewhere {first second : List Transaction} (elsewhere : ∀ made ∈ second, Elsewhere made) :
    SameTable table (after table generation objects first) (after table generation objects (first ++ second)) := by
  induction second using List.reverseRecOn with
  | nil =>
    rw [List.append_nil]
    exact ⟨rfl, rfl, rfl⟩
  | append_singleton second last ih =>
    have earlier := ih fun made member => elsewhere made (List.mem_append_left _ member)
    have later := @commit_elsewhere table last (elsewhere last (by simp)) (after table generation objects (first ++ second))
    rw [← List.append_assoc, after_snoc]
    exact ⟨later.generation.trans earlier.generation, later.objects.trans earlier.objects, later.rows.trans earlier.rows⟩

theorem readCollection_congr {before after : Capture} (same : SameTable table before after) :
    readCollection reader table after scope = readCollection reader table before scope := by
  simp only [readCollection, requireBudget, journalBytes, walkGroups, creationGroups, normalizedScope, same.generation,
    same.objects, same.rows]
  rfl

/-- The captured database as a recovery meets it, with the application that uses it. -/
def sqliteWorld (reader : Reader) (table : String) (scope : Option RecordRequestScope) (identityMatches : Capture → Bool)
    (request : String → Capture → Except RecoveryError Capture) : World Capture where
  read state := readCollection reader table state scope
  identityMatches := identityMatches
  request := request

/-- A recovery over a table that nothing has touched accepts it and removes the created objects. -/
theorem sqlite_recovers {first second : List Transaction} {identityMatches : Capture → Bool}
    {request : String → Capture → Except RecoveryError Capture} {reached : Capture → Prop}
    {membersDigest : List CreationMember → String} {restored : Restored} {entries : List CreationEntry}
    {entry : CreationEntry} (removesOnly : RemovesOnly (sqliteWorld reader table scope identityMatches request) reached)
    (arrived : reached (after table generation objects (first ++ second))) (head : entries.head? = some entry)
    (agree : ∀ other ∈ entries, other.before = entry.before ∧ other.last = entry.last ∧ other.created = entry.created)
    (read : readCollection reader table (after table generation objects first) scope = .ok entry.last)
    (untouched : ∀ made ∈ second, Elsewhere made) (own : entry.last.foreignMutations = false)
    (unrestored : ∀ member ∈ entry.last.members, restoredSnapshot restored member.resourceId = none)
    (alive : ∀ event ∈ entry.created, ∀ member ∈ entry.last.members, member.resourceId = event.member.resourceId →
      member.incarnation = event.member.incarnation) :
    ∃ recovered view, recoverCreated (sqliteWorld reader table scope identityMatches request)
        ⟨dataDigest reader, membersDigest⟩ entries restored (after table generation objects (first ++ second)) =
          .ok recovered ∧
      readCollection reader table recovered scope = .ok view ∧
      view.members = entry.last.members.filter
        (fun item => item.resourceId ∉ entry.created.map (·.member.resourceId)) := by
  have read' : readCollection reader table (after table generation objects (first ++ second)) scope = .ok entry.last := by
    rw [readCollection_congr (after_elsewhere untouched)]
    exact read
  apply recoverCreated_accepts removesOnly head agree arrived read'
  · have kept : ∀ member ∈ entry.last.members, reconcile ⟨dataDigest reader, membersDigest⟩ entry.last restored member =
        .ok (id member) := by
      intro member listed
      unfold reconcile
      rw [unrestored member listed]
      rfl
    rw [mapM_eq_ok kept, List.map_id]
  · rfl
  · rfl
  · intro touched
    rw [own] at touched
    cases touched
  · exact alive

end Sqlite

end Jiejian.Execution.CreatedObjects
