import Jiejian.Records.Chains

namespace Jiejian.Records.Restoration

open Library.ByteString Library.Outcome Library.Transition History Frames Journal Chains

variable {zlib : Zlib} {sha256 : Sha256}

/-- A file made of chained frames that lead to `last` and `digest`, with the positions where they end. -/
structure Journalled (zlib : Zlib) (sha256 : Sha256) (file : Bytes) (last : Option DatabaseImage) (ends : List Nat)
    (payloads : List Bytes) (digest : Bytes) : Prop where
  file_eq : file = magic 3 ++ framesBytes sha256 zeroDigest payloads
  limited : file.length ≤ HISTORY_LIMIT
  chained : Chained zlib sha256 zeroDigest none payloads digest (last.map DatabaseImage.bytes)
  ends_eq : ends = frameEnds (magic 3).length payloads

/-- An open store knows the last image and the digest its next frame extends. -/
def Knows (store : Store) (last : Option DatabaseImage) (digest : Bytes) : Prop :=
  store.persistedImage = last.map DatabaseImage.bytes ∧ store.lastHash = digest

/-- At every point of a run the file is empty or a chain that an open store knows the end of. -/
inductive Sound (zlib : Zlib) (sha256 : Sha256) (session : Session) : Prop
  | empty (file : session.journal.file = []) (closed : session.journal.store = none) (last : session.last = none)
      (ends : session.ends = [])
  | written {payloads : List Bytes} {digest : Bytes}
      (journalled : Journalled zlib sha256 session.journal.file session.last session.ends payloads digest)
      (known : ∀ store, session.journal.store = some store → session.last ≠ none ∧ Knows store session.last digest)

theorem magic_length : (magic 3).length = 30 := by decide

theorem magic_written : ascii "JIEJIAN-TRANSACTION-RECORDS-3\n" = magic 3 := by decide

theorem applyFrame_present {data image : Bytes} {latest : Option Bytes} (applied : applyFrame zlib data latest = .ok image) :
    1 ≤ data.length := by
  cases data with
  | nil =>
    have raw : ¬SQLITE_HEADER <+: [] := by decide
    have delta : ¬DELTA <+: [] := by decide
    cases latest <;> simp [applyFrame, raw, delta] at applied
  | cons _ _ => simp

theorem magic_journalled : Journalled zlib sha256 (magic 3) none [] [] zeroDigest :=
  ⟨by simp [framesBytes], by simp [magic_length, HISTORY_LIMIT], .nil _ _, rfl⟩

/-- Appending a frame extends the chain by an image. -/
theorem appendFrame_journalled {file file' digest : Bytes} {store store' : Store} {last : Option DatabaseImage}
    {ends : List Nat} {payloads : List Bytes} {image : DatabaseImage}
    (journalled : Journalled zlib sha256 file last ends payloads digest) (known : Knows store last digest)
    (appended : appendFrame zlib sha256 file store image.bytes = .ok (file', store')) :
    ∃ data, Journalled zlib sha256 file' (some image) (ends ++ [file'.length]) (payloads ++ [data])
        (nextDigest sha256 digest data) ∧
      Knows store' (some image) (nextDigest sha256 digest data) ∧ file.length < file'.length := by
  simp only [appendFrame, bind_eq_ok, require_eq_ok, packUInt32_ok, Except.ok.injEq, Prod.mk.injEq] at appended
  obtain ⟨data, encoded, _, ⟨_, rfl⟩, _, room, rfl, rfl⟩ := appended
  rw [known.1] at encoded
  have applied := encodeFrame_applied encoded
  have frame : bigEndian 4 data.length ++ data ++ sha256.digest (store.lastHash ++ bigEndian 4 data.length ++ data) =
      frameBytes sha256 digest data := by
    rw [frameBytes, nextDigest, known.2, List.append_assoc digest]
  have length := @frameBytes_length sha256 digest data
  rw [frame, length] at room
  refine ⟨data, ⟨?_, ?_, ?_, ?_⟩, ⟨rfl, ?_⟩, ?_⟩
  · rw [frame, framesBytes_snoc journalled.chained, journalled.file_eq, List.append_assoc]
  · rwa [frame, List.length_append, length]
  · exact journalled.chained.snoc (applyFrame_present applied) (by omega) applied
  · rw [frameEnds_snoc sha256 _ zeroDigest, journalled.ends_eq, frame, List.length_append, length, journalled.file_eq,
      List.length_append]
  · rw [nextDigest, ← known.2, List.append_assoc]
  · rw [frame, List.length_append, length]
    omega

/-- Past the magic line, reading a history is reading its frames. -/
theorem readHistory_magic {body : Bytes} (limited : (magic 3 ++ body).length ≤ HISTORY_LIMIT) :
    readHistory zlib sha256 (magic 3 ++ body) 3 =
      (readFrames zlib sha256 zeroDigest none body >>= fun read =>
        require (read.1 ≠ none) .RECORD_HISTORY_INCOMPLETE >>= fun _ => .ok read) := by
  have nonempty : (magic 3 ++ body).length ≠ 0 := by
    rw [List.length_append, magic_length]
    omega
  have accepted : ¬(HISTORY_LIMIT < (magic 3 ++ body).length ∨ (magic 3 ++ body).take (magic 3).length ≠ magic 3) := by
    rw [List.take_left]
    simpa using limited
  rw [readHistory, if_neg nonempty, List.drop_left, require, if_pos accepted]
  rfl

/-- The reader finds the last image and digest of a chain, and refuses one without a frame. -/
theorem Journalled.readHistory {file digest : Bytes} {last : Option DatabaseImage} {ends : List Nat}
    {payloads : List Bytes} (journalled : Journalled zlib sha256 file last ends payloads digest) :
    readHistory zlib sha256 file 3 =
      if last = none then .error .RECORD_HISTORY_INCOMPLETE else .ok (last.map DatabaseImage.bytes, digest) := by
  have limited := journalled.limited
  rw [journalled.file_eq] at limited ⊢
  rw [readHistory_magic limited, journalled.chained.readFrames]
  cases last <;> rfl

theorem Journalled.trailing {file digest : Bytes} {last : Option DatabaseImage} {ends : List Nat}
    {payloads : List Bytes} (journalled : Journalled zlib sha256 file last ends payloads digest)
    (some_image : last ≠ none) : file.drop (file.length - 32) = digest := by
  have some_frame : payloads ≠ [] := by
    intro none_left
    have chained := journalled.chained
    rw [none_left] at chained
    cases last with
    | none => exact some_image rfl
    | some image => cases chained
  obtain ⟨length, front, split⟩ := journalled.chained.trailing some_frame
  rw [journalled.file_eq, split, ← List.append_assoc]
  apply List.drop_left'
  rw [@List.length_append _ _ digest, length]
  omega

theorem persist_ok {file digest : Bytes} {store : Store} {last : Option DatabaseImage} {ends : List Nat}
    {payloads : List Bytes} {image : DatabaseImage} {state : State}
    (journalled : Journalled zlib sha256 file last ends payloads digest) (known : Knows store last digest)
    (persisted : persist zlib sha256 file store image.bytes = (.ok (), state)) :
    ∃ payloads' digest' store', state.store = some store' ∧ Knows store' (some image) digest' ∧
      (store.persistedImage = none → state.file ≠ file) ∧ Journalled zlib sha256 state.file (some image)
        (if state.file = file then ends else ends ++ [state.file.length]) payloads' digest' := by
  unfold persist at persisted
  by_cases unchanged : some image.bytes = store.persistedImage
  · rw [if_pos unchanged] at persisted
    cases persisted
    have same : last.map DatabaseImage.bytes = some image.bytes := known.1.symm.trans unchanged.symm
    refine ⟨payloads, digest, store, rfl, ⟨unchanged.symm, known.2⟩, fun none_yet => by simp [none_yet] at unchanged, ?_⟩
    have chained := journalled.chained
    rw [same] at chained
    rw [if_pos rfl]
    exact ⟨journalled.file_eq, journalled.limited, chained, journalled.ends_eq⟩
  · rw [if_neg unchanged] at persisted
    cases appended : appendFrame zlib sha256 file store image.bytes with
    | error error => simp [appended] at persisted
    | ok written =>
      simp only [appended, Prod.mk.injEq, true_and] at persisted
      subst persisted
      obtain ⟨data, extended, knows, longer⟩ := appendFrame_journalled journalled known appended
      have grown : written.1 ≠ file := fun same => by simp [same] at longer
      refine ⟨payloads ++ [data], nextDigest sha256 digest data, written.2, rfl, knows, fun _ => grown, ?_⟩
      rw [if_neg grown]
      exact extended

theorem persist_error {file digest : Bytes} {store : Store} {last : Option DatabaseImage} {image : Bytes} {state : State}
    {error : HistoryError} (known : Knows store last digest)
    (refused : persist zlib sha256 file store image = (.error error, state)) :
    state.file = file ∧ ∃ store', state.store = some store' ∧ Knows store' last digest := by
  unfold persist at refused
  by_cases unchanged : some image = store.persistedImage
  · simp [unchanged] at refused
  · rw [if_neg unchanged] at refused
    cases appended : appendFrame zlib sha256 file store image with
    | ok written => simp [appended] at refused
    | error error =>
      simp only [appended, Prod.mk.injEq] at refused
      obtain ⟨_, rfl⟩ := refused
      exact ⟨rfl, _, rfl, known⟩

/-- Opening an empty file writes the magic line and the first image, or the magic line alone. -/
theorem start_fresh {session : Session} (file : session.journal.file = []) (closed : session.journal.store = none)
    (last : session.last = none) (ends : session.ends = []) (initial : DatabaseImage) :
    Sound zlib sha256 (step zlib sha256 session (.start initial)) := by
  have restored : restore zlib sha256 [] = .ok (magic 3, ⟨none, 0, zeroDigest, false⟩) := by
    rw [restore, magic_written]
    rfl
  have known : Knows ⟨none, 0, zeroDigest, false⟩ none zeroDigest := ⟨rfl, rfl⟩
  simp only [step, closed, openStore, file, restored, if_true]
  cases persisted : persist zlib sha256 (magic 3) ⟨none, 0, zeroDigest, false⟩ initial.bytes with
  | mk outcome state =>
    cases outcome with
    | error error =>
      have kept := (persist_error known persisted).1
      apply @Sound.written _ _ _ [] zeroDigest
      · simp only [Session.withJournal, kept, last, ends]
        exact magic_journalled
      · simp [Session.withJournal]
    | ok done =>
      obtain ⟨payloads, digest, store, opened, knows, grown, journalled⟩ := persist_ok magic_journalled known persisted
      have begun : state.file ≠ [] := by
        intro empty
        have length := congrArg List.length journalled.file_eq
        rw [empty, List.length_append, magic_length, List.length_nil] at length
        omega
      apply @Sound.written _ _ _ payloads digest
      · rw [if_neg (grown rfl)] at journalled
        simpa only [Session.accepted, file, if_neg begun, ends] using journalled
      · intro other same
        have this_store : store = other := Option.some.inj (opened.symm.trans same)
        exact ⟨by simp [Session.accepted], this_store ▸ knows⟩

/-- Opening a chain with a frame loads its last image; one without is refused. -/
theorem start_written {session : Session} (closed : session.journal.store = none) {payloads : List Bytes} {digest : Bytes}
    (journalled : Journalled zlib sha256 session.journal.file session.last session.ends payloads digest)
    (initial : DatabaseImage) : Sound zlib sha256 (step zlib sha256 session (.start initial)) := by
  cases last : session.last with
  | none =>
    have refused : restore zlib sha256 session.journal.file = .error .RECORD_HISTORY_INCOMPLETE := by
      simp [restore, journalled.readHistory, last, bind, Except.bind]
    simp only [step, closed, openStore, refused]
    exact .written journalled (by simp [Session.withJournal])
  | some image =>
    have restored : restore zlib sha256 session.journal.file =
        .ok (session.journal.file, ⟨some image.bytes, 0, digest, false⟩) := by
      simp [restore, journalled.readHistory, last, bind, Except.bind]
    simp only [step, closed, openStore, restored, reduceCtorEq, if_false]
    refine .written journalled fun store opened => ?_
    have same : (⟨some image.bytes, 0, digest, false⟩ : Store) = store := Option.some.inj opened
    subst same
    exact ⟨by simp [Session.withJournal, last], by simp [Session.withJournal, last], rfl⟩

theorem persist_written {session : Session} {store : Store} (opened : session.journal.store = some store)
    {payloads : List Bytes} {digest : Bytes}
    (journalled : Journalled zlib sha256 session.journal.file session.last session.ends payloads digest)
    (present : session.last ≠ none) (known : Knows store session.last digest) (image : DatabaseImage) :
    Sound zlib sha256 (step zlib sha256 session (.persist image)) := by
  simp only [step, opened]
  by_cases sealed_store : store.poisoned
  · rw [if_pos sealed_store]
    exact .written journalled fun other same => ⟨present, Option.some.inj (opened.symm.trans same) ▸ known⟩
  · rw [if_neg sealed_store]
    cases persisted : persist zlib sha256 session.journal.file store image.bytes with
    | mk outcome state =>
      cases outcome with
      | error error =>
        obtain ⟨kept, store', still, knows⟩ := persist_error known persisted
        apply @Sound.written _ _ _ payloads digest
        · simpa only [Session.withJournal, kept] using journalled
        · intro other same
          exact ⟨present, Option.some.inj (still.symm.trans same) ▸ knows⟩
      | ok done =>
        obtain ⟨payloads', digest', store', still, knows, _, extended⟩ := persist_ok journalled known persisted
        apply @Sound.written _ _ _ payloads' digest'
        · exact extended
        · intro other same
          exact ⟨by simp [Session.accepted], Option.some.inj (still.symm.trans same) ▸ knows⟩

/-- One event keeps the file a chain and the store at its end. -/
theorem step_sound (session : Session) (event : Event) (sound : Sound zlib sha256 session) :
    Sound zlib sha256 (step zlib sha256 session event) := by
  cases event with
  | start initial =>
    cases opened : session.journal.store with
    | some store =>
      simp only [step, opened]
      exact sound
    | none =>
      cases sound with
      | empty file closed last ends => exact start_fresh file closed last ends initial
      | written journalled known => exact start_written opened journalled initial
  | persist image =>
    cases opened : session.journal.store with
    | none =>
      simp only [step, opened]
      exact sound
    | some store =>
      cases sound with
      | empty _ closed => simp [closed] at opened
      | written journalled known =>
        obtain ⟨present, knows⟩ := known store opened
        exact persist_written opened journalled present knows image
  | close =>
    cases sound with
    | empty file closed last ends => exact .empty file rfl last ends
    | written journalled known => exact .written journalled (by simp [step, Session.withJournal])

theorem run_sound (zlib : Zlib) (sha256 : Sha256) (events : List Event) :
    Sound zlib sha256 (runJournal zlib sha256 events) :=
  run_invariant step_sound (.empty rfl rfl rfl rfl) events

theorem Sound.history {session : Session} (sound : Sound zlib sha256 session) {image : DatabaseImage}
    (last : session.last = some image) :
    History.readHistory zlib sha256 session.journal.file 3 = .ok (some image.bytes, session.trailingDigest) := by
  cases sound with
  | empty _ _ none_yet => simp [none_yet] at last
  | written journalled known =>
    have present : session.last ≠ none := by simp [last]
    rw [journalled.readHistory, if_neg present, last, Session.trailingDigest, journalled.trailing present]
    rfl

theorem Sound.chained {session : Session} (sound : Sound zlib sha256 session) {store : Store}
    (opened : session.journal.store = some store) :
    session.last ≠ none ∧ store.lastHash = session.trailingDigest := by
  cases sound with
  | empty _ closed => simp [closed] at opened
  | written journalled known =>
    obtain ⟨present, knows⟩ := known store opened
    exact ⟨present, knows.2.trans (journalled.trailing present).symm⟩

/-- Reading the file gives the last accepted image and the digest that the next frame extends. -/
structure Restored (zlib : Zlib) (sha256 : Sha256) (session : Session) : Prop where
  history : ∀ image, session.last = some image →
    readHistory zlib sha256 session.journal.file 3 = .ok (some image.bytes, session.trailingDigest)
  chained : ∀ store, session.journal.store = some store →
    session.last ≠ none ∧ store.lastHash = session.trailingDigest

theorem journal_restored (zlib : Zlib) (sha256 : Sha256) (events : List Event) :
    Restored zlib sha256 (runJournal zlib sha256 events) where
  history _ last := (run_sound zlib sha256 events).history last
  chained _ opened := (run_sound zlib sha256 events).chained opened

end Jiejian.Records.Restoration
