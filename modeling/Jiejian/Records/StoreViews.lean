import Jiejian.Records.Collections
import Jiejian.Records.StoreHistory

namespace Jiejian.Records.StoreViews

open Library Library.Outcome Library.Document Library.Sorting
open Values Models TransactionStore Calls Changes VersionChain StoreHistory Collections

variable {env : Environment}

section Members

variable {tables : Tables} {collection : String} {requestNonce : Option String} {view : CreationView}

/-- The members of a view are the snapshots of the collection's objects. -/
theorem creationView_members (read : creationView env tables collection requestNonce = .ok view) :
    view.generation = tables.generation ∧ view.collection = collection ∧ view.watermark = watermark tables ∧
      ∃ snapshots, (sortedBy id ((collectionRows tables collection).map (·.resourceId))).mapM
          (snapshot tables collection) = .ok snapshots ∧ view.members = snapshots.map (creationMember env tables) := by
  obtain ⟨-, -, read⟩ := bind_eq_ok.mp read
  obtain ⟨-, -, read⟩ := bind_eq_ok.mp read
  obtain ⟨snapshots, found, read⟩ := bind_eq_ok.mp read
  have same := exactCollection_ok read
  subst same
  exact ⟨rfl, rfl, rfl, snapshots, mapError_eq_ok.mp found, rfl⟩

/-- The events of a view are events of its collection. -/
theorem creationView_events (read : creationView env tables collection requestNonce = .ok view) {event : CreationEvent}
    (listed : event ∈ view.events) :
    ∃ row ∈ tables.creationEvents, row.collection = collection ∧ row.document = event := by
  obtain ⟨-, -, read⟩ := bind_eq_ok.mp read
  obtain ⟨-, -, read⟩ := bind_eq_ok.mp read
  obtain ⟨snapshots, -, read⟩ := bind_eq_ok.mp read
  have same := exactCollection_ok read
  rw [same] at listed
  dsimp only at listed
  unfold scopeEvents at listed
  split at listed
  · cases listed
  · obtain ⟨row, inside, document⟩ := List.mem_map.mp listed
    obtain ⟨recorded, here⟩ := List.mem_filter.mp (mem_sortedBy.mp inside)
    exact ⟨row, recorded, (of_decide_eq_true here).1, document⟩

theorem member_snapshot (read : creationView env tables collection requestNonce = .ok view) {member : CreationMember}
    (listed : member ∈ view.members) :
    ∃ current, snapshot tables collection member.resourceId = .ok current ∧
      member = creationMember env tables current := by
  obtain ⟨-, -, -, snapshots, found, members⟩ := creationView_members read
  rw [members] at listed
  obtain ⟨current, inside, rfl⟩ := List.mem_map.mp listed
  obtain ⟨resourceId, -, made⟩ := partner_left (mapM_eq_ok_iff.mp found) inside
  have named : current.resourceId = resourceId := by
    obtain ⟨row, -, -, same⟩ := snapshot_ok made
    rw [same]
  refine ⟨current, ?_, rfl⟩
  rw [show (creationMember env tables current).resourceId = current.resourceId from rfl, named]
  exact made

/-- The record store gives a member the version it gives its record. -/
theorem store_views (read : creationView env tables collection requestNonce = .ok view) {member : CreationMember}
    (listed : member ∈ view.members) :
    ∃ current, snapshot tables collection member.resourceId = .ok current ∧
      SameObject env.dataDigest view member current ∧ current.version = member.version := by
  obtain ⟨current, found, made⟩ := member_snapshot read listed
  obtain ⟨generation, named, -, -⟩ := creationView_members read
  obtain ⟨row, -, -, same⟩ := snapshot_ok found
  refine ⟨current, found, ⟨?_, ?_, ?_, ?_, ?_⟩, ?_⟩
  · rw [same, generation]
  · rw [same, named]
  · rw [same]
  · rw [made, creationMember]
  · rw [made, creationMember]
  · rw [made, creationMember]

end Members

section Growth

/-- The keys of the objects, in the order of their rows. -/
def keysOf (tables : Tables) : List (String × String) := tables.resources.map ResourceRow.key

def ownersOf (tables : Tables) : List ((String × String) × String) :=
  tables.resources.map fun row => (row.key, row.ownerId)

/-- What any call does to the objects of a store and to what it remembers of them. -/
structure Grown (before after : Tables) : Prop where
  generation : after.generation = before.generation
  incarnations : ∃ added, after.resourceIncarnations = before.resourceIncarnations ++ added
  events : ∃ added, after.creationEvents = before.creationEvents ++ added
  unmoved : after.creationEvents = before.creationEvents → ownersOf after = ownersOf before
  gone : ∀ event ∈ before.creationEvents, event.key ∉ keysOf before → event.key ∉ keysOf after

theorem keysOf_of_owners {before after : Tables} (owners : ownersOf after = ownersOf before) :
    keysOf after = keysOf before := by
  have keys := congrArg (List.map Prod.fst) owners
  unfold ownersOf at keys
  rw [List.map_map, List.map_map] at keys
  exact keys

theorem Grown.refl (tables : Tables) : Grown tables tables where
  generation := rfl
  incarnations := ⟨[], (List.append_nil _).symm⟩
  events := ⟨[], (List.append_nil _).symm⟩
  unmoved _ := rfl
  gone _ _ absent := absent

theorem Grown.trans {first second third : Tables} (earlier : Grown first second) (later : Grown second third) :
    Grown first third := by
  obtain ⟨events, written⟩ := earlier.events
  obtain ⟨events', written'⟩ := later.events
  obtain ⟨incarnations, drawn⟩ := earlier.incarnations
  obtain ⟨incarnations', drawn'⟩ := later.incarnations
  refine ⟨later.generation.trans earlier.generation, ⟨incarnations ++ incarnations', ?_⟩, ⟨events ++ events', ?_⟩, ?_, ?_⟩
  · rw [drawn', drawn, List.append_assoc]
  · rw [written', written, List.append_assoc]
  · intro same
    rw [written', written, List.append_assoc, List.append_right_eq_self, List.append_eq_nil_iff] at same
    have middle : second.creationEvents = first.creationEvents := by rw [written, same.1, List.append_nil]
    have last : third.creationEvents = second.creationEvents := by rw [written', same.2, List.append_nil]
    exact (later.unmoved last).trans (earlier.unmoved middle)
  · intro event recorded absent
    have kept : event ∈ second.creationEvents := by
      rw [written]
      exact List.mem_append_left _ recorded
    exact later.gone event kept (earlier.gone event recorded absent)

theorem Grown.of_keys {before after : Tables} (generation : after.generation = before.generation)
    (incarnations : after.resourceIncarnations = before.resourceIncarnations)
    (events : after.creationEvents = before.creationEvents) (owners : ownersOf after = ownersOf before) :
    Grown before after where
  generation := generation
  incarnations := ⟨[], by rw [incarnations, List.append_nil]⟩
  events := ⟨[], by rw [events, List.append_nil]⟩
  unmoved _ := owners
  gone _ _ absent := by
    rw [keysOf_of_owners owners]
    exact absent

/-- A change that creates no object. -/
theorem change_grown {tables tables' : Tables} {receipts : List Receipt}
    (change : Change env tables tables' [] receipts) : Grown tables tables' := by
  cases change with
  | keep => exact Grown.refl tables
  | remove present =>
    refine ⟨rfl, ⟨[], (List.append_nil _).symm⟩, ⟨_, rfl⟩, ?_, ?_⟩
    · intro same
      exact absurd same (by simp)
    · intro other _ absent stored
      apply absent
      obtain ⟨row, inside, same⟩ := List.mem_map.mp stored
      exact same ▸ List.mem_map_of_mem (List.mem_filter.mp inside).1
  | @write command operation row value scopeOperations present =>
    have owners : ownersOf { tables with
        resources := tables.resources.map fun old => if old.key = row.key then writtenRow operation value old else old
        operations := tables.operations ++
          [⟨operation.operationId, command.requestKey, env.commandHash command, operation⟩]
        scopeOperations } = ownersOf tables := by
      unfold ownersOf
      rw [List.map_map]
      apply List.map_congr_left
      intro old _
      by_cases here : old.key = row.key
      · simp only [Function.comp_apply, if_pos here]
        rfl
      · simp only [Function.comp_apply, if_neg here]
    exact Grown.of_keys rfl rfl rfl owners
  | openScope => exact Grown.of_keys rfl rfl rfl rfl
  | closeScope => exact Grown.of_keys rfl rfl rfl rfl
  | trace => exact Grown.of_keys rfl rfl rfl rfl

/-- Every object has an incarnation of its own. -/
def Incarnated (tables : Tables) : Prop :=
  ∀ row ∈ tables.resources, ∃ drawn ∈ tables.resourceIncarnations, drawn.key = row.key

theorem change_incarnated {tables tables' : Tables} {receipts : List Receipt}
    (change : Change env tables tables' [] receipts) (incarnated : Incarnated tables) : Incarnated tables' := by
  cases change with
  | keep => exact incarnated
  | remove present => exact fun row stored => incarnated row (List.mem_filter.mp stored).1
  | @write command operation row value scopeOperations present =>
    intro new stored
    obtain ⟨old, inside, rfl⟩ := List.mem_map.mp stored
    obtain ⟨drawn, listed, same⟩ := incarnated old inside
    refine ⟨drawn, listed, same.trans ?_⟩
    by_cases here : old.key = row.key
    · rw [if_pos here, writtenRow_key]
    · rw [if_neg here]
  | openScope => exact incarnated
  | closeScope => exact incarnated
  | trace => exact incarnated

theorem seed_grown {tables : Tables} {command : RecordSeed} {incarnation : String} {committed : Committed RecordSnapshot}
    (seeded : seed env tables command incarnation = .ok committed) :
    Grown tables committed.tables ∧ (Incarnated tables → Incarnated committed.tables) := by
  obtain ⟨_, -, seeded⟩ := bind_eq_ok.mp seeded
  obtain ⟨_, reused, seeded⟩ := bind_eq_ok.mp seeded
  obtain ⟨current, -, seeded⟩ := bind_eq_ok.mp seeded
  obtain ⟨_, -, seeded⟩ := bind_eq_ok.mp seeded
  have fresh := require_eq_ok.mp reused
  rcases insertOrIgnore_cases tables.resources (seededRow command) with ⟨ignored, -⟩ | ⟨inserted, free⟩
  · rw [seededRow] at ignored
    simp only [ignored, Bool.false_eq_true, if_false, Except.ok.injEq] at seeded
    subst seeded
    exact ⟨Grown.refl tables, fun incarnated => incarnated⟩
  · rw [seededRow] at inserted
    simp only [inserted, if_true, bind_eq_ok, orRaise_eq_ok, Table.insert_eq_some, Except.ok.injEq] at seeded
    obtain ⟨incarnations, ⟨-, rfl⟩, rfl⟩ := seeded
    have unseen : ∀ event ∈ tables.creationEvents, event.key ≠ seedKey command := by
      rcases fresh with present | unseen
      · obtain ⟨row, stored⟩ := Option.isSome_iff_exists.mp present
        have keyed := Table.lookup_some stored
        exact absurd keyed.2 (free row keyed.1)
      · exact unseen
    refine ⟨⟨rfl, ⟨_, rfl⟩, ⟨_, rfl⟩, ?_, ?_⟩, ?_⟩
    · intro same
      exact absurd same (by simp [creationEvent])
    · intro event recorded absent stored
      obtain ⟨row, inside, same⟩ := List.mem_map.mp stored
      rcases List.mem_append.mp inside with old | new
      · exact absent (same ▸ List.mem_map_of_mem old)
      · rw [List.mem_singleton.mp new] at same
        exact unseen event recorded same.symm
    · intro incarnated row stored
      rcases List.mem_append.mp stored with old | new
      · obtain ⟨drawn, listed, same⟩ := incarnated row old
        exact ⟨drawn, List.mem_append_left _ listed, same⟩
      · rw [List.mem_singleton.mp new]
        exact ⟨_, List.mem_append_right _ (List.mem_singleton_self _), rfl⟩

theorem step_grown {session : Session} (sound : Sound env session) (made : Call × Bool) :
    Grown session.tables (step env session made).tables := by
  rcases call_cases sound made.1 made.2 with ⟨error, refused⟩ | ⟨committed, -, performed, change, next, -⟩
  · rw [step, refused]
    exact Grown.refl _
  · rw [step, next]
    obtain ⟨call, written⟩ := made
    cases call with
    | seed command incarnation =>
      obtain ⟨result, seeded, rfl⟩ := map_eq_ok.mp performed
      exact (seed_grown seeded).1
    | openScope | transact | remove | appendTrace | closeScope => exact change_grown change

/-- What seeds keep, and changes that create nothing, holds of the tables after any calls. -/
theorem runStore_tables {invariant : Tables → Prop}
    (seeds : ∀ tables command incarnation committed, seed env tables command incarnation = .ok committed →
      invariant tables → invariant committed.tables)
    (changes : ∀ tables tables' receipts, Change env tables tables' [] receipts → invariant tables → invariant tables')
    {generation : String} (started : invariant (fresh generation).tables) (calls : List (Call × Bool)) :
    invariant (runStore env generation calls).tables := by
  have stepped : ∀ session made, Sound env session ∧ invariant session.tables →
      Sound env (step env session made) ∧ invariant (step env session made).tables := by
    rintro session made ⟨sound, holds⟩
    refine ⟨step_sound session made sound, ?_⟩
    rcases call_cases sound made.1 made.2 with ⟨error, refused⟩ | ⟨committed, -, performed, change, next, -⟩
    · rw [step, refused]
      exact holds
    · rw [step, next]
      obtain ⟨call, written⟩ := made
      cases call with
      | seed command incarnation =>
        obtain ⟨result, seeded, rfl⟩ := map_eq_ok.mp performed
        exact seeds _ _ _ _ seeded holds
      | openScope | transact | remove | appendTrace | closeScope => exact changes _ _ _ change holds
  have both := @Transition.run_invariant _ _ (step env) (fun session => Sound env session ∧ invariant session.tables)
    stepped (fresh generation) ⟨fresh_sound generation, started⟩ calls
  exact both.2

theorem run_grown {session : Session} (sound : Sound env session) (calls : List (Call × Bool)) :
    Grown session.tables (Transition.run (step env) session calls).tables :=
  @Transition.run_relation _ _ (step env) (Sound env) (fun before after => Grown before.tables after.tables) step_sound
    (fun _ made sound => step_grown sound made) (fun _ => Grown.refl _)
    (fun _ _ _ earlier later => earlier.trans later) session sound calls

theorem runStore_sound (env : Environment) (generation : String) (calls : List (Call × Bool)) :
    Sound env (runStore env generation calls) := run_sound _ calls (fresh_sound generation)

theorem runStore_append (generation : String) (first second : List (Call × Bool)) :
    runStore env generation (first ++ second) = Transition.run (step env) (runStore env generation first) second :=
  Transition.run_append _ _ _ _

theorem runStore_incarnated (env : Environment) (generation : String) (calls : List (Call × Bool)) :
    Incarnated (runStore env generation calls).tables := by
  apply runStore_tables
  · intro tables command incarnation committed seeded
    exact (seed_grown seeded).2
  · intro tables tables' receipts change
    exact change_incarnated change
  · intro row stored
    cases stored

theorem creationMember_incarnation {before after : Tables} (grown : Grown before after) {current later : RecordSnapshot}
    {drawn : IncarnationRow} (listed : drawn ∈ before.resourceIncarnations)
    (named : drawn.key = (current.collection, current.resourceId))
    (same : (later.collection, later.resourceId) = (current.collection, current.resourceId)) :
    (creationMember env after later).incarnation = (creationMember env before current).incarnation := by
  obtain ⟨added, appended⟩ := grown.incarnations
  unfold creationMember
  dsimp only
  rw [same]
  cases found : Table.lookup IncarnationRow.key before.resourceIncarnations (current.collection, current.resourceId) with
  | none => exact absurd named (Table.lookup_none.mp found drawn listed)
  | some row =>
    have kept : Table.lookup IncarnationRow.key after.resourceIncarnations (current.collection, current.resourceId) =
        some row := by
      rw [appended, Table.lookup, List.find?_append]
      rw [Table.lookup] at found
      rw [found]
      rfl
    rw [kept]

end Growth

section Created

/-- Incarnations are drawn once, and the event of a creation names the one that was drawn. -/
structure EventsSound (tables : Tables) : Prop where
  keyed : Table.Keyed IncarnationRow.key tables.resourceIncarnations
  created : ∀ event ∈ tables.creationEvents, event.document.kind = .CREATE →
    event.document.member.resourceId = event.resourceId ∧ ∃ drawn ∈ tables.resourceIncarnations,
      drawn.key = event.key ∧ drawn.incarnation = event.document.member.incarnation

theorem change_eventsSound {tables tables' : Tables} {receipts : List Receipt}
    (change : Change env tables tables' [] receipts) (sound : EventsSound tables) : EventsSound tables' := by
  cases change with
  | keep => exact sound
  | remove present permitted kind =>
    refine ⟨sound.keyed, fun other recorded created => ?_⟩
    rcases List.mem_append.mp recorded with old | new
    · exact sound.created other old created
    · rw [List.mem_singleton.mp new, kind] at created
      cases created
  | write => exact ⟨sound.keyed, sound.created⟩
  | openScope => exact ⟨sound.keyed, sound.created⟩
  | closeScope => exact ⟨sound.keyed, sound.created⟩
  | trace => exact ⟨sound.keyed, sound.created⟩

theorem seed_eventsSound {tables : Tables} {command : RecordSeed} {incarnation : String}
    {committed : Committed RecordSnapshot} (seeded : seed env tables command incarnation = .ok committed)
    (sound : EventsSound tables) : EventsSound committed.tables := by
  obtain ⟨_, -, seeded⟩ := bind_eq_ok.mp seeded
  obtain ⟨_, -, seeded⟩ := bind_eq_ok.mp seeded
  obtain ⟨current, found, seeded⟩ := bind_eq_ok.mp seeded
  obtain ⟨_, -, seeded⟩ := bind_eq_ok.mp seeded
  obtain ⟨row, -, -, named⟩ := snapshot_ok found
  rcases insertOrIgnore_cases tables.resources (seededRow command) with ⟨ignored, -⟩ | ⟨inserted, -⟩
  · rw [seededRow] at ignored
    simp only [ignored, Bool.false_eq_true, if_false, Except.ok.injEq] at seeded
    subst seeded
    exact sound
  · rw [seededRow] at inserted
    simp only [inserted, if_true, bind_eq_ok, orRaise_eq_ok, Table.insert_eq_some, Except.ok.injEq] at seeded
    obtain ⟨incarnations, ⟨free, rfl⟩, rfl⟩ := seeded
    have keyed := Table.insert_keyed sound.keyed free
    refine ⟨keyed, fun event recorded created => ?_⟩
    rcases List.mem_append.mp recorded with old | new
    · obtain ⟨same, drawn, listed, key, incarnation'⟩ := sound.created event old created
      exact ⟨same, drawn, List.mem_append_left _ listed, key, incarnation'⟩
    · rw [List.mem_singleton.mp new]
      have here : (current.collection, current.resourceId) = seedKey command := by rw [named]; rfl
      refine ⟨rfl, ⟨command.collection, command.resourceId, incarnation⟩,
        List.mem_append_right _ (List.mem_singleton_self _), ?_, ?_⟩
      · rw [IncarnationRow.key, CreationEventRow.key, creationEventRow, named]
      · have drawn := keyed.lookup_mem (List.mem_append_right _ (List.mem_singleton_self _))
        unfold creationEventRow creationMember
        dsimp only
        rw [here]
        have key : IncarnationRow.key ⟨command.collection, command.resourceId, incarnation⟩ = seedKey command := rfl
        rw [key] at drawn
        rw [drawn]

theorem runStore_eventsSound (env : Environment) (generation : String) (calls : List (Call × Bool)) :
    EventsSound (runStore env generation calls).tables := by
  apply runStore_tables
  · intro tables command incarnation committed seeded
    exact seed_eventsSound seeded
  · intro tables tables' receipts change
    exact change_eventsSound change
  · exact ⟨List.nodup_nil, fun event recorded => by cases recorded⟩

end Created

section Moments

variable {generation collection : String} {first second : List (Call × Bool)}

theorem member_stored {tables : Tables} {requestNonce : Option String} {view : CreationView} {member : CreationMember}
    (read : creationView env tables collection requestNonce = .ok view) (listed : member ∈ view.members) :
    (collection, member.resourceId) ∈ keysOf tables := by
  obtain ⟨current, found, -⟩ := member_snapshot read listed
  obtain ⟨row, stored, key, -⟩ := snapshot_ok found
  exact key ▸ List.mem_map_of_mem stored

/-- An object that is stored at two moments was stored at every moment between. -/
theorem stored_between {key : String × String} (began : key ∈ keysOf (runStore env generation first).tables)
    (ended : key ∈ keysOf (runStore env generation (first ++ second)).tables) {earlier : List (Call × Bool)}
    (inside : earlier <+: second) : key ∈ keysOf (runStore env generation (first ++ earlier)).tables := by
  obtain ⟨rest, rfl⟩ := inside
  obtain ⟨row, stored, rfl⟩ := List.mem_map.mp began
  obtain ⟨event, recorded, named⟩ := (runStore_sound env generation first).announced.resources row stored
  by_contra absent
  have grown := run_grown (runStore_sound env generation first) earlier
  rw [← runStore_append] at grown
  have later := run_grown (runStore_sound env generation (first ++ earlier)) rest
  rw [← runStore_append, List.append_assoc] at later
  obtain ⟨added, written⟩ := grown.events
  have kept : event ∈ (runStore env generation (first ++ earlier)).tables.creationEvents := by
    rw [written]
    exact List.mem_append_left _ recorded
  rw [← named] at absent ended
  exact later.gone event kept absent ended

/-- The record store never gives an id to another object: the incarnation of a member never changes. -/
theorem store_incarnations {requestNonce requestNonce' : Option String} {view view' : CreationView}
    {member member' : CreationMember}
    (read : creationView env (runStore env generation first).tables collection requestNonce = .ok view)
    (read' : creationView env (runStore env generation (first ++ second)).tables collection requestNonce' = .ok view')
    (listed : member ∈ view.members) (listed' : member' ∈ view'.members)
    (same : member'.resourceId = member.resourceId) :
    member'.incarnation ≠ member.incarnation ↔ ∃ earlier, earlier <+: second ∧
      (collection, member.resourceId) ∉ keysOf (runStore env generation (first ++ earlier)).tables := by
  have began := member_stored read listed
  have ended := member_stored read' listed'
  rw [same] at ended
  have incarnation : member'.incarnation = member.incarnation := by
    obtain ⟨current, found, made⟩ := member_snapshot read listed
    obtain ⟨later, found', made'⟩ := member_snapshot read' listed'
    obtain ⟨row, stored, key, taken⟩ := snapshot_ok found
    obtain ⟨row', -, -, taken'⟩ := snapshot_ok found'
    obtain ⟨drawn, inside, named⟩ := runStore_incarnated env generation first row stored
    have grown := run_grown (runStore_sound env generation first) second
    rw [← runStore_append] at grown
    rw [made, made']
    apply creationMember_incarnation grown inside
    · rw [named, key, taken]
    · rw [taken, taken', same]
  constructor
  · intro changed
    exact absurd incarnation changed
  · rintro ⟨earlier, inside, absent⟩
    exact absurd (stored_between began ended inside) absent

end Moments

end Jiejian.Records.StoreViews
