import Jiejian.Records.Restoration

namespace Jiejian.Records.Truncation

open Library.ByteString Library.Outcome Library.Transition History Frames Journal Chains Restoration

variable {zlib : Zlib} {sha256 : Sha256}

/-- A length at which a file can lose a tail and keep some bytes. -/
def Cut (file : Bytes) : Type := { cut : Nat // 0 < cut ∧ cut < file.length }

/-- The reader raises instead of returning an image. -/
def Refused (zlib : Zlib) (sha256 : Sha256) (file : Bytes) : Prop := ∃ error, readHistory zlib sha256 file 3 = .error error

/-- The cut falls where an append ended: the file stood there once. -/
def AtFrameEnd (session : Session) (cut : Nat) : Prop := cut ∈ session.ends

theorem refused_iff {file : Bytes} :
    Refused zlib sha256 file ↔ ∀ result, readHistory zlib sha256 file 3 ≠ .ok result := by
  unfold Refused
  cases readHistory zlib sha256 file 3 <;> simp

/-- A file that stops inside the magic line is refused. -/
theorem refused_magic {body : Bytes} {cut : Nat} (positive : 0 < cut) (short : cut < (magic 3).length) :
    Refused zlib sha256 ((magic 3 ++ body).take cut) := by
  have length : ((magic 3).take cut).length = cut := by
    rw [List.length_take]
    omega
  have different : ((magic 3).take cut).take (magic 3).length ≠ magic 3 := by
    intro same
    have lengths := congrArg List.length same
    simp only [List.length_take] at lengths
    omega
  rw [List.take_append_of_le_length (Nat.le_of_lt short)]
  refine ⟨.RECORD_HISTORY_INVALID, ?_⟩
  rw [readHistory, if_neg (by omega), require, if_neg (not_not.mpr (.inr different))]
  rfl

/-- A prefix of a journal is refused exactly when it does not end where a frame ends. -/
theorem cut_refused {file digest : Bytes} {last : Option DatabaseImage} {ends : List Nat}
    {payloads : List Bytes} (journalled : Journalled zlib sha256 file last ends payloads digest) {cut : Nat}
    (positive : 0 < cut) (proper : cut < file.length) : Refused zlib sha256 (file.take cut) ↔ cut ∉ ends := by
  have limited := journalled.limited
  rw [journalled.file_eq] at proper limited ⊢
  rw [journalled.ends_eq]
  by_cases short : cut < (magic 3).length
  · have early : cut ∉ frameEnds (magic 3).length payloads := fun ends => Nat.lt_asymm short (frameEnds_gt ends)
    exact iff_of_true (refused_magic positive short) early
  · obtain ⟨further, rfl⟩ : ∃ further, cut = (magic 3).length + further := ⟨cut - (magic 3).length, by omega⟩
    rw [List.length_append] at proper limited
    have within : further ≤ (framesBytes sha256 zeroDigest payloads).length := by omega
    have cutLimited : (magic 3 ++ (framesBytes sha256 zeroDigest payloads).take further).length ≤ HISTORY_LIMIT := by
      rw [List.length_append, List.length_take]
      omega
    rw [List.take_length_add_append, refused_iff, readHistory_magic cutLimited]
    by_cases ends : (magic 3).length + further ∈ frameEnds (magic 3).length payloads
    · obtain ⟨image, reached, read⟩ := journalled.chained.cut_end ends
      rw [read]
      exact iff_of_false (fun refuses => refuses (some image, reached) rfl) (not_not.mpr ends)
    · apply iff_of_true _ ends
      intro result read
      obtain ⟨found, readFound, checked⟩ := bind_eq_ok.mp read
      obtain ⟨_, present, _⟩ := bind_eq_ok.mp checked
      by_cases none_left : further = 0
      · rw [none_left, List.take_zero, readFrames_nil, Except.ok.injEq] at readFound
        simp [← readFound] at present
      · exact journalled.chained.cut_inside (Nat.pos_of_ne_zero none_left) within ends found readFound

/-- A truncated journal is refused exactly when the cut is not the end of an earlier frame. -/
theorem truncation_refused (zlib : Zlib) (sha256 : Sha256) (events : List Event)
    (cut : Cut (runJournal zlib sha256 events).journal.file) :
    Refused zlib sha256 ((runJournal zlib sha256 events).journal.file.take cut.val) ↔
      ¬AtFrameEnd (runJournal zlib sha256 events) cut.val := by
  obtain ⟨cut, positive, proper⟩ := cut
  cases run_sound zlib sha256 events with
  | empty file => simp [file] at proper
  | written journalled known => exact cut_refused journalled positive proper

def imageBytes (fill : UInt8) : Bytes := List.replicate 16 0 ++ [2, 0] ++ List.replicate 494 fill

theorem imageBytes_length (fill : UInt8) : (imageBytes fill).length = 512 := by
  simp only [imageBytes, List.length_append, List.length_replicate, List.length_cons, List.length_nil]

/-- One page of 512 bytes. -/
def pageImage (fill : UInt8) : DatabaseImage where
  bytes := imageBytes fill
  pageSize := 512
  header := by
    have field : slice (imageBytes fill) 16 2 = [2, 0] := slice_middle (by simp) rfl
    rw [pageSizeOf, field]
    rfl
  nonempty := List.length_pos_iff.mp (by simp [imageBytes_length])
  limited := by simp [imageBytes_length, HISTORY_LIMIT]
  whole := by simp [imageBytes_length]
  powerOfTwo := ⟨9, rfl⟩
  smallestPage := Nat.le_refl _

def zeroesStream : Bytes := [120, 156, 99, 96, 64, 5, 76, 12, 163, 96, 36, 1, 0, 5, 224, 0, 3]

def onesStream : Bytes := [120, 156, 99, 96, 64, 5, 76, 12, 140, 163, 96, 4, 1, 0, 227, 136, 1, 241]

/-- What `decompress` returns for a whole stream that holds `data`. -/
def inflated (data : Bytes) (maxLength : Nat) : Decompressed :=
  if data.length < maxLength then ⟨data, true, [], []⟩ else ⟨data.take maxLength, false, [], []⟩

/-- `zlib` on the two sample images, and an uncompressed stream for any other data. -/
def sampleZlib : Zlib where
  compress data :=
    if data = imageBytes 0 then zeroesStream else if data = imageBytes 1 then onesStream else 0 :: data
  decompress raw maxLength :=
    if raw = zeroesStream then some (inflated (imageBytes 0) maxLength)
    else if raw = onesStream then some (inflated (imageBytes 1) maxLength)
    else match raw with
      | 0 :: data => some (inflated data maxLength)
      | _ => none
  compress_ne_nil data := by
    split
    · simp [zeroesStream]
    · split <;> simp [onesStream]
  inverts data maxLength fits := by
    by_cases zeroes : data = imageBytes 0
    · subst zeroes
      simp only [if_true, inflated, if_pos fits]
    · by_cases ones : data = imageBytes 1
      · have other : onesStream ≠ zeroesStream := by decide
        subst ones
        simp only [if_neg zeroes, if_true, if_neg other, inflated, if_pos fits]
      · have notZeroes : 0 :: data ≠ zeroesStream := by simp [zeroesStream]
        have notOnes : 0 :: data ≠ onesStream := by simp [onesStream]
        simp [zeroes, ones, notZeroes, notOnes, inflated, fits]

def firstFrame : Bytes := bigEndian 4 25 ++ CHECKPOINT ++ bigEndian 4 512 ++ zeroesStream

def secondFrame : Bytes := bigEndian 4 26 ++ CHECKPOINT ++ bigEndian 4 512 ++ onesStream

def firstDigest : Bytes :=
  [31, 246, 50, 179, 39, 247, 45, 156, 81, 227, 6, 107, 207, 228, 198, 92, 178, 36, 166, 67, 167, 4, 203, 176, 187, 131,
    115, 255, 152, 167, 167, 81]

def secondDigest : Bytes :=
  [3, 142, 1, 52, 206, 59, 253, 170, 12, 251, 166, 60, 113, 194, 113, 226, 61, 85, 193, 128, 169, 141, 218, 62, 82, 106,
    240, 20, 244, 178, 175, 188]

/-- SHA-256 on the two digests the sample journal needs. -/
def sampleSha256 : Sha256 where
  digest data :=
    if data = zeroDigest ++ firstFrame then firstDigest
    else if data = firstDigest ++ secondFrame then secondDigest else zeroDigest
  digest_length data := by
    split
    · rfl
    · split <;> rfl

def sampleEvents : List Event := [.start (pageImage 0), .persist (pageImage 1)]

/-- A journal of two frames cut after the first is read as if the second had not happened. -/
theorem lost_frame_accepted :
    91 < (runJournal sampleZlib sampleSha256 sampleEvents).journal.file.length ∧
      readHistory sampleZlib sampleSha256 ((runJournal sampleZlib sampleSha256 sampleEvents).journal.file.take 91) 3 =
        .ok (some (imageBytes 0), firstDigest) := by
  have earlier : (runJournal sampleZlib sampleSha256 sampleEvents).journal.file.take 91 =
      (runJournal sampleZlib sampleSha256 [.start (pageImage 0)]).journal.file := by decide +kernel
  have digest : (runJournal sampleZlib sampleSha256 [.start (pageImage 0)]).trailingDigest = firstDigest := by
    decide +kernel
  have last : ((runJournal sampleZlib sampleSha256 [.start (pageImage 0)]).last).isSome = true := by decide +kernel
  refine ⟨by decide +kernel, ?_⟩
  obtain ⟨image, same⟩ := Option.isSome_iff_exists.mp last
  have bytes : (runJournal sampleZlib sampleSha256 [.start (pageImage 0)]).last.map DatabaseImage.bytes =
      some (imageBytes 0) := by decide +kernel
  rw [same] at bytes
  rw [earlier, (run_sound sampleZlib sampleSha256 _).history same, digest, Option.some.inj bytes]

end Jiejian.Records.Truncation
