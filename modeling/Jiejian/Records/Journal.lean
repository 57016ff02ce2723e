import Jiejian.Records.Frames
import Jiejian.Library.Transition

namespace Jiejian.Records.Journal

open Library.ByteString Library.Outcome Library.Transition History Frames

/-- The fields of an open store that govern its journal. -/
structure Store where
  persistedImage : Option Bytes
  framesSinceCheckpoint : Nat
  lastHash : Bytes
  poisoned : Bool
  deriving DecidableEq, Repr

/-- The journal file, and the store that owns it while one is open. -/
structure State where
  file : Bytes
  store : Option Store
  deriving DecidableEq, Repr

/-- Whether opening found a history or began one. -/
inductive Opened where
  | loaded
  | created
  deriving DecidableEq, Repr

section Operations

variable (zlib : Zlib) (sha256 : Sha256)

/-- `_restore`, which leaves the file positioned at its end. -/
def restore (file : Bytes) : Except HistoryError (Bytes × Store) := do
  let (latest, lastHash) ← readHistory zlib sha256 file 3
  .ok (if latest = none then file ++ ascii "JIEJIAN-TRANSACTION-RECORDS-3\n" else file, ⟨latest, 0, lastHash, false⟩)

/-- The body of `_persist` for an image that differs from the persisted one. -/
def appendFrame (file : Bytes) (store : Store) (image : Bytes) : Except HistoryError (Bytes × Store) := do
  let checkpoint := decide (63 ≤ store.framesSinceCheckpoint)
  let data ← encodeFrame zlib image store.persistedImage checkpoint
  let length ← packUInt32 data.length
  let digest := sha256.digest (store.lastHash ++ length ++ data)
  let frame := length ++ data ++ digest
  require (file.length + frame.length ≤ HISTORY_LIMIT) .RECORD_HISTORY_LIMIT
  .ok (file ++ frame, { store with
    lastHash := digest
    persistedImage := some image
    framesSinceCheckpoint := if checkpoint then 0 else store.framesSinceCheckpoint + 1 })

/-- `_persist`: a failure seals the store and leaves the file as it was. -/
def persist (file : Bytes) (store : Store) (image : Bytes) : Except HistoryError Unit × State :=
  if some image = store.persistedImage then (.ok (), ⟨file, some store⟩) else
    match appendFrame zlib sha256 file store image with
    | .ok (file, store) => (.ok (), ⟨file, some store⟩)
    | .error error => (.error error, ⟨file, some { store with poisoned := true }⟩)

/-- `__init__`: restore the history, or begin one with the image of the empty schema. -/
def openStore (file initial : Bytes) : Except HistoryError Opened × State :=
  match restore zlib sha256 file with
  | .error error => (.error error, ⟨file, none⟩)
  | .ok (file, store) =>
    if store.persistedImage = none then
      match persist zlib sha256 file store initial with
      | (.ok (), journal) => (.ok .created, journal)
      | (.error error, journal) => (.error error, { journal with store := none })
    else (.ok .loaded, ⟨file, some store⟩)

end Operations

/-- What the owner of a journal can do with it. -/
inductive Event where
  | start (initial : DatabaseImage)
  | persist (image : DatabaseImage)
  | close

/-- A journal together with what was asked of it: the last image that was accepted, and the length
the file had after each frame. -/
structure Session where
  journal : State
  last : Option DatabaseImage
  ends : List Nat

def Session.fresh : Session := ⟨⟨[], none⟩, none, []⟩

def Session.withJournal (session : Session) (journal : State) : Session := { session with journal := journal }

def Session.accepted (session : Session) (journal : State) (image : DatabaseImage) : Session where
  journal := journal
  last := some image
  ends := if journal.file = session.journal.file then session.ends else session.ends ++ [journal.file.length]

def step (zlib : Zlib) (sha256 : Sha256) (session : Session) (event : Event) : Session :=
  match event, session.journal.store with
  | .start initial, none =>
    match openStore zlib sha256 session.journal.file initial.bytes with
    | (.ok .created, journal) => session.accepted journal initial
    | (.ok .loaded, journal) => session.withJournal journal
    | (.error _, journal) => session.withJournal journal
  | .start _, some _ => session
  | .persist _, none => session
  | .persist image, some store =>
    -- `_connection` refuses a sealed store
    if store.poisoned then session else
      match persist zlib sha256 session.journal.file store image.bytes with
      | (.ok (), journal) => session.accepted journal image
      | (.error _, journal) => session.withJournal journal
  | .close, _ => session.withJournal ⟨session.journal.file, none⟩

def runJournal (zlib : Zlib) (sha256 : Sha256) (events : List Event) : Session := run (step zlib sha256) .fresh events

/-- The last 32 bytes of the journal. -/
def Session.trailingDigest (session : Session) : Bytes := session.journal.file.drop (session.journal.file.length - 32)

end Jiejian.Records.Journal
