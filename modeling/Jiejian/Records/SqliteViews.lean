import Jiejian.Records.SqliteSource

namespace Jiejian.Records.SqliteViews

open Library Library.Outcome Library.Document Library.Sorting Library.Grouping
open Models Collections SqliteCapture SqliteSource

/-- The change found the object and left it. -/
def updates (changes : List JournalRow) : Bool :=
  match changes.head?, changes.getLast? with
  | some first, some last => first.beforeData.isSome && last.afterData.isSome
  | _, _ => false

/-- The change found no object and left one. -/
def creates (changes : List JournalRow) : Bool :=
  match changes.head?, changes.getLast? with
  | some first, some last => first.beforeData.isNone && last.afterData.isSome
  | _, _ => false

def versionAfter (version : Option Nat) (changes : List JournalRow) : Option Nat :=
  if creates changes then some 0 else if updates changes then some (version.getD 0 + 1) else version

def incarnationAfter (incarnation : Option String) (changes : List JournalRow) : Option String :=
  if creates changes then changes.head?.map fun first => createdIncarnation first.seq else incarnation

section Walking

variable {reader : Reader} {table : String} {scope : Option RecordRequestScope}

@[simp] theorem recordEvent_versions (walk : Walk) (kind : CreationKind) (key : String) (changes : List JournalRow)
    (last : JournalRow) (data : Json) :
    (recordEvent reader table scope walk kind key changes last data).versions = walk.versions := by
  unfold recordEvent
  cases scope with
  | none => rfl
  | some asked =>
    dsimp only
    split <;> rfl

@[simp] theorem recordEvent_incarnations (walk : Walk) (kind : CreationKind) (key : String) (changes : List JournalRow)
    (last : JournalRow) (data : Json) :
    (recordEvent reader table scope walk kind key changes last data).incarnations = walk.incarnations := by
  unfold recordEvent
  cases scope with
  | none => rfl
  | some asked =>
    dsimp only
    split <;> rfl

/-- A turn of the walk is about one object only. -/
theorem readGroup_object (walk : Walk) (group : (String × String) × List JournalRow) (key : String) :
    (readGroup reader table scope walk group).versions key =
        (if group.1.2 = key then versionAfter (walk.versions key) group.2 else walk.versions key) ∧
      (readGroup reader table scope walk group).incarnations key =
        (if group.1.2 = key then incarnationAfter (walk.incarnations key) group.2 else walk.incarnations key) := by
  unfold readGroup versionAfter incarnationAfter creates updates
  dsimp only
  cases started : group.2.head? with
  | none => simp
  | some first =>
    cases ended : group.2.getLast? with
    | none => simp
    | some last =>
      cases before : first.beforeData with
      | none =>
        cases after : last.afterData with
        | none => simp [before, after]
        | some data =>
          by_cases here : group.1.2 = key
          · subst here
            simp [before, after]
          · simp [before, after, here, Function.update_of_ne (Ne.symm here)]
      | some old =>
        cases after : last.afterData with
        | none => simp [before, after]
        | some data =>
          by_cases here : group.1.2 = key
          · subst here
            simp [before, after]
          · simp [before, after, here, Function.update_of_ne (Ne.symm here)]

/-- What the walk finds about an object comes from the groups about it. -/
theorem walk_object (groups : List ((String × String) × List JournalRow)) (key : String) :
    let about := (groups.filter fun group => group.1.2 = key).map Prod.snd
    (groups.foldl (readGroup reader table scope) {}).versions key = about.foldl versionAfter none ∧
      (groups.foldl (readGroup reader table scope) {}).incarnations key = about.foldl incarnationAfter none := by
  induction groups using List.reverseRecOn with
  | nil => exact ⟨rfl, rfl⟩
  | append_singleton groups group ih =>
    obtain ⟨versions, incarnations⟩ := ih
    rw [List.foldl_append, List.foldl_cons, List.foldl_nil]
    obtain ⟨version, incarnation⟩ :=
      @readGroup_object reader table scope (groups.foldl (readGroup reader table scope) {}) group key
    rw [version, incarnation, versions, incarnations]
    by_cases here : group.1.2 = key
    · simp [here]
    · simp [here]

/-- The groups of the walk about an object are the groups of its own history. -/
theorem groups_about (state : Capture) (key : String) :
    ((creationGroups table state).filter fun group => group.1.2 = key).map Prod.snd =
      (historyGroups table state key).map Prod.snd := by
  have own : (creationGroups table state).filter (fun group => group.1.2 = key) =
      groupBy (fun row => (row.transactionId, row.resourceId)) (history table state key) :=
    groupBy_filter _ _ fun pair : String × String => pair.2 = key
  have labelled : groupBy (fun row => (row.transactionId, row.resourceId)) (history table state key) =
      (historyGroups table state key).map fun group => ((group.1, key), group.2) := by
    apply @groupBy_relabel _ _ _ _ _ JournalRow.transactionId _ fun transactionId => (transactionId, key)
    · intro first second same
      exact congrArg Prod.fst same
    · intro row member
      have about := (List.mem_filter.mp member).2
      rw [of_decide_eq_true about]
  rw [own, labelled, List.map_map]
  rfl

theorem walkGroups_object (state : Capture) (key : String) :
    (walkGroups reader table state scope).versions key =
        ((historyGroups table state key).map Prod.snd).foldl versionAfter none ∧
      (walkGroups reader table state scope).incarnations key =
        ((historyGroups table state key).map Prod.snd).foldl incarnationAfter none := by
  rw [← groups_about]
  exact walk_object _ _

end Walking

/-- The version of the walk counts the updates since the last creation: all the changes there were, or fewer. -/
theorem versionAfter_count (changes : List (List JournalRow)) :
    (changes.foldl versionAfter none).getD 0 ≤ changes.length ∧
      ((changes.foldl versionAfter none).getD 0 = changes.length ↔ ∀ change ∈ changes, updates change) := by
  induction changes using List.reverseRecOn with
  | nil => simp
  | append_singleton changes change ih =>
    obtain ⟨bound, exact'⟩ := ih
    have all : (∀ other ∈ changes ++ [change], updates other) ↔ (∀ other ∈ changes, updates other) ∧ updates change := by
      simp [or_imp, forall_and]
    rw [List.foldl_append, List.foldl_cons, List.foldl_nil, List.length_append, List.length_singleton, all, versionAfter]
    by_cases created : creates change = true
    · have apart : ¬ updates change = true := by
        unfold creates at created
        unfold updates
        split at created
        · simp_all
        · cases created
      rw [if_pos created]
      simp [apart]
    · rw [if_neg created]
      by_cases updated : updates change = true
      · rw [if_pos updated, ← exact']
        simp only [Option.getD_some, updated, and_true]
        omega
      · rw [if_neg updated]
        refine ⟨by omega, fun same => ?_, fun both => absurd both.2 updated⟩
        omega

section Views

variable {reader : Reader} {table : String} {scope : Option RecordRequestScope} {state : Capture} {view : CreationView}

/-- The members of a view are the current rows. -/
theorem readCollection_members (read : readCollection reader table state scope = .ok view) :
    view.generation = state.generation ∧ view.collection = table ∧ Table.Keyed ObjectRow.resourceId state.objects ∧
      ∀ member, member ∈ view.members ↔ ∃ row ∈ state.objects, member =
        memberOf reader table (walkGroups reader table state scope) row.resourceId row.ownerId row.data := by
  obtain ⟨-, -, read⟩ := bind_eq_ok.mp read
  obtain ⟨-, -, read⟩ := bind_eq_ok.mp read
  obtain ⟨-, -, read⟩ := bind_eq_ok.mp read
  have exact' := mapError_eq_ok.mp read
  have same := exactCollection_ok exact'
  have keyed := exactCollection_keyed exact'
  subst same
  refine ⟨rfl, rfl, ?_, ?_⟩
  · have perm := (sortedBy_perm (·.resourceId) (state.objects.map fun row =>
      memberOf reader table (walkGroups reader table state scope) row.resourceId row.ownerId row.data)).map
        CreationMember.resourceId
    have ids := perm.nodup_iff.mp keyed
    rw [List.map_map] at ids
    exact ids
  · intro member
    rw [mem_sortedBy, List.mem_map]
    constructor
    · rintro ⟨row, stored, same⟩
      exact ⟨row, stored, same.symm⟩
    · rintro ⟨row, stored, same⟩
      exact ⟨row, stored, same.symm⟩

theorem currentRow_ok {resourceId : String} {current : ObjectRow}
    (found : currentRow state resourceId = .ok current) : current ∈ state.objects ∧ current.resourceId = resourceId := by
  unfold currentRow at found
  split at found
  · cases found
  · rename_i row only
    cases found
    have listed : current ∈ state.objects.filter fun row => row.resourceId = resourceId := by
      rw [only]
      exact List.mem_singleton_self _
    exact ⟨(List.mem_filter.mp listed).1, of_decide_eq_true (List.mem_filter.mp listed).2⟩
  · cases found

theorem currentRow_of_mem (keyed : Table.Keyed ObjectRow.resourceId state.objects) {row : ObjectRow}
    (stored : row ∈ state.objects) : currentRow state row.resourceId = .ok row := by
  have alone : state.objects.filter (fun other => other.resourceId = row.resourceId) = [row] := keyed.filter_mem stored
  unfold currentRow
  rw [alone]

theorem readRecord_snapshot {resourceId : String} {subject : Option String} {proof : RecordProofView}
    (read : readRecord reader table state resourceId scope subject = .ok proof) :
    ∃ current, currentRow state resourceId = .ok current ∧
      proof.snapshot = recordSnapshot table state resourceId current := by
  obtain ⟨-, -, read⟩ := bind_eq_ok.mp read
  obtain ⟨current, found, read⟩ := bind_eq_ok.mp read
  obtain ⟨-, -, read⟩ := bind_eq_ok.mp read
  obtain ⟨-, -, read⟩ := bind_eq_ok.mp read
  obtain ⟨operations, -, read⟩ := bind_eq_ok.mp read
  obtain ⟨-, -, read⟩ := bind_eq_ok.mp read
  cases read
  exact ⟨current, found, rfl⟩

/-- The two branches agree on a member, but for the version they give it. -/
theorem sqlite_views {asked : Option RecordRequestScope} {subject : Option String} {member : CreationMember}
    {proof : RecordProofView} (read : readCollection reader table state scope = .ok view) (listed : member ∈ view.members)
    (proven : readRecord reader table state member.resourceId asked subject = .ok proof) :
    SameObject (dataDigest reader) view member proof.snapshot ∧
      (proof.snapshot.version = member.version ↔
        ∀ group ∈ historyGroups table state member.resourceId, updates group.2) := by
  obtain ⟨generation, collection, keyed, members⟩ := readCollection_members read
  obtain ⟨row, stored, made⟩ := (members member).mp listed
  obtain ⟨current, found, snapshot⟩ := readRecord_snapshot proven
  have named : member.resourceId = row.resourceId := by rw [made, memberOf]
  obtain ⟨there, same⟩ := currentRow_ok found
  have itself : current = row := keyed.eq_of_mem there stored (same.trans named)
  rw [snapshot, itself]
  refine ⟨⟨generation.symm, collection.symm, rfl, ?_, ?_⟩, ?_⟩
  · rw [made, memberOf, recordSnapshot]
  · rw [made, memberOf, recordSnapshot]
  · have version : member.version =
        (((historyGroups table state row.resourceId).map Prod.snd).foldl versionAfter none).getD 0 := by
      rw [made, memberOf, (@walkGroups_object reader table scope state row.resourceId).1]
    obtain ⟨-, exact'⟩ := versionAfter_count ((historyGroups table state row.resourceId).map Prod.snd)
    rw [named, version, recordSnapshot, eq_comm]
    rw [List.length_map, List.forall_mem_map] at exact'
    exact exact'

/-- A member of a view has a record view, unless its data are out of bounds. -/
theorem sqlite_record {member : CreationMember} (read : readCollection reader table state scope = .ok view)
    (listed : member ∈ view.members)
    (bounded : ∀ row ∈ state.objects, ∃ data, Values.boundedRecordData reader.casefold row.data = .ok data) :
    ∃ proof, readRecord reader table state member.resourceId none none = .ok proof := by
  obtain ⟨-, -, keyed, members⟩ := readCollection_members read
  obtain ⟨row, stored, made⟩ := (members member).mp listed
  obtain ⟨data, fits⟩ := bounded row stored
  have named : member.resourceId = row.resourceId := by rw [made, memberOf]
  obtain ⟨done, budget, read⟩ := bind_eq_ok.mp read
  obtain ⟨_, limited, _⟩ := bind_eq_ok.mp read
  have limits := require_eq_ok.mp limited
  have short : (history table state row.resourceId).length ≤ 4096 :=
    Nat.le_trans (List.length_filter_le _ _) limits.1
  rw [named]
  refine ⟨_, bind_eq_ok.mpr ⟨done, budget, bind_eq_ok.mpr ⟨row, currentRow_of_mem keyed stored,
    bind_eq_ok.mpr ⟨(), require_eq_ok.mpr ?_, bind_eq_ok.mpr ⟨(), require_eq_ok.mpr short,
      bind_eq_ok.mpr ⟨[], rfl, bind_eq_ok.mpr ⟨data, mapError_eq_ok.mpr fits, rfl⟩⟩⟩⟩⟩⟩⟩
  intro other _ both
  cases both.1

end Views

end Jiejian.Records.SqliteViews
