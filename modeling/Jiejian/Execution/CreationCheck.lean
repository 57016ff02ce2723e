import Jiejian.Records.Collections

namespace Jiejian.Execution.CreationCheck

open Library Library.Outcome Library.Document Records.Values Records.Models Records.Collections

inductive RecoveryError where
  | CREATION_SOURCES_DISAGREE
  | CREATED_OBJECT_RESTORE_MISMATCH
  | CREATED_COLLECTION_CHANGED
  | CREATED_INSTANCE_CHANGED
  | CREATION_RECOVERY_IDENTITY_MISMATCH
  | CREATED_COLLECTION_NOT_RESTORED
  | indexError
  | source (error : SourceReadError)
  | jiejian (code : String)
  deriving DecidableEq, Repr

/-- What the checks of one creation proof observed: the view before, the last one, and the created objects. -/
structure CreationEntry where
  before : CreationView
  last : CreationView
  created : List CreationEvent
  deriving DecidableEq, Repr

/-- The source of the records and the application, as a recovery meets them. -/
structure World (σ : Type) where
  read : σ → Except SourceReadError CreationView
  identityMatches : σ → Bool
  request : String → σ → Except RecoveryError σ

/-- The digests of the data of an object, and of the members of a collection. -/
structure Digests where
  data : Json → String
  members : List CreationMember → String

section Recovery

variable {σ : Type} (world : World σ) (digests : Digests)

/-- The records of the objects that the scenario has restored, by the object's id. -/
abbrev Restored := List (String × RecordSnapshot)

def restoredSnapshot (restored : Restored) (resourceId : String) : Option RecordSnapshot :=
  (Table.lookup Prod.fst restored resourceId).map Prod.snd

/-- A member takes the version of its restored record, when everything else of the two is the same. -/
def reconcile (expected : CreationView) (restored : Restored) (member : CreationMember) :
    Except RecoveryError CreationMember :=
  match restoredSnapshot restored member.resourceId with
  | none => return member
  | some snapshot => do
    require ((snapshot.generation, snapshot.collection, snapshot.resourceId, snapshot.ownerId, digests.data snapshot.data) =
      (expected.generation, expected.collection, member.resourceId, member.ownerId, member.dataDigest))
      .CREATED_OBJECT_RESTORE_MISMATCH
    return { member with version := snapshot.version }

def reconciled (expected : CreationView) (restored : Restored) : List String :=
  (expected.members.map (·.resourceId)).filter fun resourceId => (restoredSnapshot restored resourceId).isSome

/-- Nothing but the reconciled objects has been touched since the expected view. -/
def requireUnchanged (created : List CreationEvent) (known : List String) (expected current : CreationView) :
    Except RecoveryError Unit :=
  require (current.generation = expected.generation ∧ current.watermark = expected.watermark ∧
    (current.foreignMutations → ∀ event ∈ created, event.member.resourceId ∈ known) ∧
    digests.members current.members = digests.members expected.members) .CREATED_COLLECTION_CHANGED

/-- One turn of the loop over the created objects: an object that is still there is removed by a request. -/
def recoverOne (created : List CreationEvent) (known : List String) (progress : CreationView × σ)
    (event : CreationEvent) : Except RecoveryError (CreationView × σ) := do
  let (expected, state) := progress
  let current ← (world.read state).mapError .source
  requireUnchanged digests created known expected current
  match Table.lookup CreationMember.resourceId current.members event.member.resourceId with
  | none => return (expected, state)
  | some member =>
    require (member.incarnation = event.member.incarnation) .CREATED_INSTANCE_CHANGED
    require (world.identityMatches state) .CREATION_RECOVERY_IDENTITY_MISMATCH
    let next ← world.request member.resourceId state
    let restored ← (world.read next).mapError .source
    let remaining := expected.members.filter fun item => item.resourceId ≠ member.resourceId
    require (restored.generation = expected.generation ∧ restored.members = remaining) .CREATED_COLLECTION_NOT_RESTORED
    return (restored, next)

/-- `recover_created`. -/
def recoverCreated (entries : List CreationEntry) (restored : Restored) (state : σ) : Except RecoveryError σ := do
  let entry ← orRaise entries.head? .indexError
  require (∀ other ∈ entries, other.before = entry.before ∧ other.last = entry.last ∧ other.created = entry.created)
    .CREATION_SOURCES_DISAGREE
  let members ← entry.last.members.mapM (reconcile digests entry.last restored)
  let (_, recovered) ← entry.created.foldlM
    (recoverOne world digests entry.created (reconciled entry.last restored)) ({ entry.last with members }, state)
  return recovered

end Recovery

section Accepting

variable {σ : Type} {world : World σ} {digests : Digests}

/-- An application whose recovery request, made by the right account, removes the object and nothing else. -/
structure RemovesOnly (world : World σ) (reached : σ → Prop) : Prop where
  confirmed : ∀ state, reached state → world.identityMatches state = true
  removes : ∀ state view member, reached state → world.read state = .ok view → member ∈ view.members →
    ∃ next view', world.request member.resourceId state = .ok next ∧ reached next ∧ world.read next = .ok view' ∧
      view'.generation = view.generation ∧
      view'.members = view.members.filter (fun item => item.resourceId ≠ member.resourceId) ∧
      (view.foreignMutations = false → view'.foreignMutations = false)

/-- What holds between the turns: the source shows the members that are expected. -/
structure Expected (world : World σ) (reached : σ → Prop) (created : List CreationEvent) (known : List String)
    (progress : CreationView × σ) (current : CreationView) : Prop where
  reached : reached progress.2
  read : world.read progress.2 = .ok current
  generation : current.generation = progress.1.generation
  watermark : current.watermark = progress.1.watermark
  members : current.members = progress.1.members
  known : current.foreignMutations = true → ∀ event ∈ created, event.member.resourceId ∈ known

variable {reached : σ → Prop} {created : List CreationEvent} {known : List String}

theorem recoverOne_removes (removesOnly : RemovesOnly world reached) {progress : CreationView × σ}
    {current : CreationView} (expected : Expected world reached created known progress current) {event : CreationEvent}
    (incarnation : ∀ member ∈ current.members, member.resourceId = event.member.resourceId →
      member.incarnation = event.member.incarnation) :
    ∃ progress' current', recoverOne world digests created known progress event = .ok progress' ∧
      Expected world reached created known progress' current' ∧
      current'.members = current.members.filter (fun item => item.resourceId ≠ event.member.resourceId) := by
  have unchanged : requireUnchanged digests created known progress.1 current = .ok () :=
    require_eq_ok.mpr ⟨expected.generation, expected.watermark, expected.known, congrArg _ expected.members⟩
  cases found : Table.lookup CreationMember.resourceId current.members event.member.resourceId with
  | none =>
    have absent := Table.lookup_none.mp found
    refine ⟨progress, current, ?_, expected, ?_⟩
    · refine bind_eq_ok.mpr ⟨current, mapError_eq_ok.mpr expected.read, bind_eq_ok.mpr ⟨(), unchanged, ?_⟩⟩
      rw [found]
      rfl
    · symm
      rw [List.filter_eq_self]
      intro member listed
      exact decide_eq_true (absent member listed)
  | some member =>
    obtain ⟨listed, same⟩ := Table.lookup_some found
    obtain ⟨next, view, requested, kept, read, generation, members, foreign⟩ :=
      removesOnly.removes progress.2 current member expected.reached expected.read listed
    have remaining : view.members = progress.1.members.filter (fun item => item.resourceId ≠ member.resourceId) := by
      rw [members, expected.members]
    refine ⟨(view, next), view, ?_, ⟨kept, read, rfl, rfl, rfl, ?_⟩, ?_⟩
    · refine bind_eq_ok.mpr ⟨current, mapError_eq_ok.mpr expected.read, bind_eq_ok.mpr ⟨(), unchanged, ?_⟩⟩
      rw [found]
      exact bind_eq_ok.mpr ⟨(), require_eq_ok.mpr (incarnation member listed same),
        bind_eq_ok.mpr ⟨(), require_eq_ok.mpr (removesOnly.confirmed progress.2 expected.reached),
          bind_eq_ok.mpr ⟨next, requested, bind_eq_ok.mpr ⟨view, mapError_eq_ok.mpr read,
            bind_eq_ok.mpr ⟨(), require_eq_ok.mpr ⟨generation.trans expected.generation, remaining⟩, rfl⟩⟩⟩⟩⟩
    · intro touched
      apply expected.known
      by_contra untouched
      rw [foreign (Bool.not_eq_true _ ▸ untouched)] at touched
      cases touched
    · rw [members, same]

/-- The loop removes every created object that is still there. -/
theorem recoverAll_removes (removesOnly : RemovesOnly world reached) {events : List CreationEvent}
    {progress : CreationView × σ} {current : CreationView}
    (expected : Expected world reached created known progress current)
    (incarnations : ∀ event ∈ events, ∀ member ∈ current.members, member.resourceId = event.member.resourceId →
      member.incarnation = event.member.incarnation) :
    ∃ progress' current', events.foldlM (recoverOne world digests created known) progress = .ok progress' ∧
      Expected world reached created known progress' current' ∧
      current'.members = current.members.filter
        (fun item => item.resourceId ∉ events.map (·.member.resourceId)) := by
  induction events generalizing progress current with
  | nil => exact ⟨progress, current, rfl, expected, by simp⟩
  | cons event events ih =>
    obtain ⟨middle, view, stepped, held, members⟩ := @recoverOne_removes _ _ digests _ _ _ removesOnly _ _ expected event
      (incarnations event List.mem_cons_self)
    have later : ∀ event ∈ events, ∀ member ∈ view.members, member.resourceId = event.member.resourceId →
        member.incarnation = event.member.incarnation := by
      intro other member item listed
      rw [members] at listed
      exact incarnations other (List.mem_cons_of_mem _ member) item (List.mem_filter.mp listed).1
    obtain ⟨last, final, walked, ended, left⟩ := ih held later
    refine ⟨last, final, ?_, ended, ?_⟩
    · rw [List.foldlM_cons]
      exact bind_eq_ok.mpr ⟨middle, stepped, walked⟩
    · rw [left, members, List.filter_filter]
      apply List.filter_congr
      intro item _
      rw [Bool.eq_iff_iff]
      simp only [Bool.and_eq_true, decide_eq_true_eq, List.map_cons, List.mem_cons, not_or]
      exact and_comm

/-- A recovery that finds the collection as it expects it accepts it and removes the created objects. -/
theorem recoverCreated_accepts (removesOnly : RemovesOnly world reached) {entries : List CreationEntry}
    {entry : CreationEntry} (first : entries.head? = some entry)
    (agree : ∀ other ∈ entries, other.before = entry.before ∧ other.last = entry.last ∧ other.created = entry.created)
    {restored : Restored} {state : σ} {current : CreationView} (reached' : reached state)
    (read : world.read state = .ok current)
    (members : entry.last.members.mapM (reconcile digests entry.last restored) = .ok current.members)
    (generation : current.generation = entry.last.generation) (watermark : current.watermark = entry.last.watermark)
    (known : current.foreignMutations = true →
      ∀ event ∈ entry.created, event.member.resourceId ∈ reconciled entry.last restored)
    (incarnations : ∀ event ∈ entry.created, ∀ member ∈ current.members,
      member.resourceId = event.member.resourceId → member.incarnation = event.member.incarnation) :
    ∃ recovered view, recoverCreated world digests entries restored state = .ok recovered ∧
      world.read recovered = .ok view ∧
      view.members = current.members.filter (fun item => item.resourceId ∉ entry.created.map (·.member.resourceId)) := by
  have expected : Expected world reached entry.created (reconciled entry.last restored)
      ({ entry.last with members := current.members }, state) current :=
    ⟨reached', read, generation, watermark, rfl, known⟩
  obtain ⟨progress, view, walked, ended, left⟩ := @recoverAll_removes _ _ digests _ _ _ removesOnly _ _ _ expected
    incarnations
  refine ⟨progress.2, view, ?_, ended.read, left⟩
  exact bind_eq_ok.mpr ⟨entry, orRaise_eq_ok.mpr first, bind_eq_ok.mpr ⟨(), require_eq_ok.mpr agree,
    bind_eq_ok.mpr ⟨current.members, members, bind_eq_ok.mpr ⟨progress, walked, rfl⟩⟩⟩⟩

/-- A recovery stops at once when the source has counted a change since the last view. -/
theorem recoverCreated_refuses {entries : List CreationEntry} {entry : CreationEntry} (first : entries.head? = some entry)
    (agree : ∀ other ∈ entries, other.before = entry.before ∧ other.last = entry.last ∧ other.created = entry.created)
    {restored : Restored} {state : σ} {current : CreationView} {members : List CreationMember}
    (taken : entry.last.members.mapM (reconcile digests entry.last restored) = .ok members)
    (read : world.read state = .ok current) (counted : current.watermark ≠ entry.last.watermark)
    (some' : entry.created ≠ []) :
    recoverCreated world digests entries restored state = .error .CREATED_COLLECTION_CHANGED := by
  obtain ⟨event, events, listed⟩ := List.exists_cons_of_ne_nil some'
  have refused : ∀ known, requireUnchanged digests entry.created known { entry.last with members } current =
      .error .CREATED_COLLECTION_CHANGED := fun known => if_neg fun same => counted same.2.1
  have stopped : ∀ known, recoverOne world digests entry.created known ({ entry.last with members }, state) event =
      .error .CREATED_COLLECTION_CHANGED := by
    intro known
    unfold recoverOne
    dsimp only
    rw [read]
    show (requireUnchanged digests entry.created known { entry.last with members } current >>= _) = _
    rw [refused]
    rfl
  have agreed : require (∀ other ∈ entries, other.before = entry.before ∧ other.last = entry.last ∧
      other.created = entry.created) RecoveryError.CREATION_SOURCES_DISAGREE = .ok () := require_eq_ok.mpr agree
  unfold recoverCreated
  rw [first]
  show (require _ _ >>= _) = _
  rw [agreed]
  show (entry.last.members.mapM (reconcile digests entry.last restored) >>= _) = _
  rw [taken]
  show (entry.created.foldlM (recoverOne world digests entry.created (reconciled entry.last restored))
    ({ entry.last with members }, state) >>= _) = _
  rw [listed, List.foldlM_cons, ← listed, stopped]
  rfl

end Accepting

end Jiejian.Execution.CreationCheck
