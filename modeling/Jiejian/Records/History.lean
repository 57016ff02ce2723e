import Jiejian.Library.ByteString
import Jiejian.Library.Outcome

namespace Jiejian.Records.History

open Library.ByteString Library.Outcome

/-- The `ValueError`s of the module, and the exceptions of `struct`, `zlib` and `range` it meets. -/
inductive HistoryError where
  | RECORD_HISTORY_LIMIT
  | RECORD_HISTORY_INVALID
  | RECORD_HISTORY_INCOMPLETE
  | structError
  | zlibError
  | rangeError
  deriving DecidableEq, Repr

/-- What one call of a decompressor's `decompress` leaves behind. -/
structure Decompressed where
  value : Bytes
  eof : Bool
  unusedData : Bytes
  unconsumedTail : Bytes

/-- The `zlib` module. A decompressor inverts `compress` as long as the output limit is not reached. -/
structure Zlib where
  compress : Bytes → Bytes
  /-- `zlib.decompressobj().decompress(raw, max_length)`; `none` for `zlib.error`. -/
  decompress : Bytes → Nat → Option Decompressed
  compress_ne_nil : ∀ data, compress data ≠ []
  inverts : ∀ data maxLength, data.length < maxLength → decompress (compress data) maxLength = some ⟨data, true, [], []⟩

/-- `hashlib.sha256(data).digest()`. -/
structure Sha256 where
  digest : Bytes → Bytes
  digest_length : ∀ data, (digest data).length = 32

def HISTORY_LIMIT : Nat := 128 * 1024 * 1024

def ascii (text : String) : Bytes := text.toList.map fun char => UInt8.ofNat char.toNat

def CHECKPOINT : Bytes := ascii "JJC1"

def DELTA : Bytes := ascii "JJD1"

def SQLITE_HEADER : Bytes := ascii "SQLite format 3" ++ [0]

/-- `struct.pack('>I', value)`. -/
def packUInt32 (value : Nat) : Except HistoryError Bytes :=
  if value < 4294967296 then .ok (bigEndian 4 value) else .error .structError

/-- `struct.unpack` of one big-endian unsigned field of `width` bytes. -/
def unpackUInt (width : Nat) (data : Bytes) : Except HistoryError Nat :=
  if data.length = width then .ok (ofBigEndian data) else .error .structError

def pageSizeOf (image : Bytes) : Except HistoryError Nat := do
  let size ← unpackUInt 2 (slice image 16 2)
  .ok (if size = 1 then 65536 else size)

/-- `range(0, length, step)`. -/
def offsets (length step : Nat) : Except HistoryError (List Nat) :=
  if step = 0 then .error .rangeError else .ok ((List.range ((length + step - 1) / step)).map fun index => index * step)

variable (zlib : Zlib) (sha256 : Sha256)

def encodeCheckpoint (image : Bytes) : Except HistoryError Bytes := do
  let size ← packUInt32 image.length
  .ok (CHECKPOINT ++ size ++ zlib.compress image)

def changedOffsets (image previous : Bytes) (pageSize : Nat) : Except HistoryError (List Nat) := do
  let all ← offsets image.length pageSize
  .ok (all.filter fun offset => slice image offset pageSize ≠ slice previous offset pageSize)

/-- One changed page: its number, then its bytes. -/
def encodePage (image : Bytes) (pageSize offset : Nat) : Except HistoryError Bytes := do
  let page ← packUInt32 (offset / pageSize)
  .ok (page ++ slice image offset pageSize)

def encodeDelta (image : Bytes) (pageSize : Nat) (changed : List Nat) : Except HistoryError Bytes := do
  let size ← packUInt32 image.length
  let width ← packUInt32 pageSize
  let count ← packUInt32 changed.length
  let pages ← changed.mapM (encodePage image pageSize)
  .ok (DELTA ++ zlib.compress (size ++ width ++ count ++ pages.flatten))

def encodeFrame (image : Bytes) (previous : Option Bytes) (checkpoint : Bool) : Except HistoryError Bytes := do
  require (image.length ≤ HISTORY_LIMIT) .RECORD_HISTORY_LIMIT
  let pageSize ← pageSizeOf image
  match previous, checkpoint with
  | none, _ => encodeCheckpoint zlib image
  | some _, true => encodeCheckpoint zlib image
  | some previous, false =>
    let before ← pageSizeOf previous
    if before ≠ pageSize then encodeCheckpoint zlib image else
      let changed ← changedOffsets image previous pageSize
      if changed.length * pageSize > image.length / 2 then encodeCheckpoint zlib image
      else encodeDelta zlib image pageSize changed

def inflate (raw : Bytes) (maximum : Nat) : Except HistoryError Bytes := do
  let stream ← orRaise (zlib.decompress raw (maximum + 1)) .zlibError
  require (¬(maximum < stream.value.length ∨ stream.eof = false ∨ stream.unusedData ≠ [] ∨ stream.unconsumedTail ≠ []))
    .RECORD_HISTORY_INVALID
  .ok stream.value

/-- The page loop of `_apply_frame` over the `count` entries left in the delta. -/
def applyPages (size pageSize : Nat) : Nat → Int → Bytes → Bytes → Except HistoryError Bytes
  | 0, _, _, image => .ok image
  | count + 1, previous, delta, image => do
    let page ← unpackUInt 4 (delta.take 4)
    require (¬((page : Int) ≤ previous ∨ size / pageSize ≤ page)) .RECORD_HISTORY_INVALID
    applyPages size pageSize count page (delta.drop (4 + pageSize))
      (overwrite image (page * pageSize) pageSize (slice delta 4 pageSize))

def applyCheckpoint (data : Bytes) : Except HistoryError Bytes := do
  let size ← unpackUInt 4 (slice data 4 4)
  require (0 < size ∧ size ≤ HISTORY_LIMIT) .RECORD_HISTORY_INVALID
  let value ← inflate zlib (data.drop 8) size
  require (value.length = size) .RECORD_HISTORY_INCOMPLETE
  .ok value

def applyDelta (data image : Bytes) : Except HistoryError Bytes := do
  let delta ← inflate zlib (data.drop 4) (HISTORY_LIMIT + HISTORY_LIMIT / 512 * 4 + 12)
  require (12 ≤ delta.length) .RECORD_HISTORY_INCOMPLETE
  let size ← unpackUInt 4 (slice delta 0 4)
  let pageSize ← unpackUInt 4 (slice delta 4 4)
  let count ← unpackUInt 4 (slice delta 8 4)
  require (0 < size ∧ size ≤ HISTORY_LIMIT) .RECORD_HISTORY_INVALID
  let before ← pageSizeOf image
  require (pageSize = before ∧ (512 ≤ pageSize ∧ pageSize ≤ 65536) ∧ pageSize &&& (pageSize - 1) = 0 ∧
    size % pageSize = 0 ∧ count ≤ size / pageSize ∧ delta.length = 12 + count * (4 + pageSize)) .RECORD_HISTORY_INVALID
  applyPages size pageSize count (-1) (delta.drop 12) (resize 0 image size)

def applyFrame (data : Bytes) (image : Option Bytes) : Except HistoryError Bytes :=
  if SQLITE_HEADER <+: data then .ok data
  else if CHECKPOINT <+: data ∧ 8 < data.length then applyCheckpoint zlib data
  else match image with
    | none => .error .RECORD_HISTORY_INVALID
    | some image => if DELTA <+: data then applyDelta zlib data image else .error .RECORD_HISTORY_INVALID

/-- `except (zlib.error, struct.error): raise ValueError('RECORD_HISTORY_INVALID')`. -/
def rejectCodec (error : HistoryError) : HistoryError :=
  match error with
  | .zlibError => .RECORD_HISTORY_INVALID
  | .structError => .RECORD_HISTORY_INVALID
  | error => error

/-- What the reader knows after a frame: the image, the digest of the frame, and the bytes still to read. -/
structure Position where
  image : Bytes
  digest : Bytes
  rest : Bytes
  deriving DecidableEq, Repr

/-- One round of the reading loop. -/
def readFrame (digest : Bytes) (latest : Option Bytes) (stream : Bytes) : Except HistoryError Position := do
  let lengthRaw := stream.take 4
  require (lengthRaw.length = 4) .RECORD_HISTORY_INCOMPLETE
  let length ← unpackUInt 4 lengthRaw
  require (1 ≤ length ∧ length ≤ HISTORY_LIMIT) .RECORD_HISTORY_INVALID
  let data := slice stream 4 length
  let nextDigest := slice stream (4 + length) 32
  require (data.length = length ∧ nextDigest.length = 32 ∧ sha256.digest (digest ++ lengthRaw ++ data) = nextDigest)
    .RECORD_HISTORY_INCOMPLETE
  let image ← (applyFrame zlib data latest).mapError rejectCodec
  .ok ⟨image, nextDigest, stream.drop (4 + length + 32)⟩

/-- A round that succeeds has taken its frame off the stream. -/
theorem readFrame_shorter {digest : Bytes} {latest : Option Bytes} {stream : Bytes} {position : Position}
    (read : readFrame zlib sha256 digest latest stream = .ok position) : position.rest.length < stream.length := by
  simp only [readFrame, bind_eq_ok, require_eq_ok] at read
  obtain ⟨_, four, length, _, _, _, _, _, image, _, done⟩ := read
  cases done
  simp only [List.length_take] at four
  simp only [List.length_drop]
  omega

def readFrames (digest : Bytes) (latest : Option Bytes) (stream : Bytes) : Except HistoryError (Option Bytes × Bytes) :=
  if stream = [] then .ok (latest, digest) else
    match _read : readFrame zlib sha256 digest latest stream with
    | .error error => .error error
    | .ok position => readFrames position.digest (some position.image) position.rest
  termination_by stream.length
  decreasing_by exact readFrame_shorter zlib sha256 _read

def magic (version : Nat) : Bytes := ascii ("JIEJIAN-TRANSACTION-RECORDS-" ++ toString version ++ "\n")

/-- `bytes(32)`. -/
def zeroDigest : Bytes := List.replicate 32 0

/-- `read_history`: the last image of the journal and the digest that ends it. -/
def readHistory (stream : Bytes) (version : Nat) : Except HistoryError (Option Bytes × Bytes) :=
  if stream.length = 0 then .ok (none, zeroDigest) else do
    require (¬(HISTORY_LIMIT < stream.length ∨ stream.take (magic version).length ≠ magic version)) .RECORD_HISTORY_INVALID
    let (latest, digest) ← readFrames zlib sha256 zeroDigest none (stream.drop (magic version).length)
    require (latest ≠ none) .RECORD_HISTORY_INCOMPLETE
    .ok (latest, digest)

end Jiejian.Records.History
