import Jiejian.Records.Journal

namespace Jiejian.Records.Chains

open Library.ByteString Library.Outcome Library.Transition History Frames Journal

variable {zlib : Zlib} {sha256 : Sha256}

/-- The digest that a payload extends the chain by. -/
def nextDigest (sha256 : Sha256) (digest data : Bytes) : Bytes :=
  sha256.digest (digest ++ bigEndian 4 data.length ++ data)

/-- A frame as it stands in the file. -/
def frameBytes (sha256 : Sha256) (digest data : Bytes) : Bytes :=
  bigEndian 4 data.length ++ data ++ nextDigest sha256 digest data

/-- The frames of these payloads, chained from `digest` on. -/
def framesBytes (sha256 : Sha256) : Bytes → List Bytes → Bytes
  | _, [] => []
  | digest, data :: rest => frameBytes sha256 digest data ++ framesBytes sha256 (nextDigest sha256 digest data) rest

/-- Where the frames end that begin at `start`. -/
def frameEnds : Nat → List Bytes → List Nat
  | _, [] => []
  | start, data :: rest => (start + (4 + data.length + 32)) :: frameEnds (start + (4 + data.length + 32)) rest

/-- Payloads that lead the reader from one digest and image to others. -/
inductive Chained (zlib : Zlib) (sha256 : Sha256) : Bytes → Option Bytes → List Bytes → Bytes → Option Bytes → Prop
  | nil (digest : Bytes) (latest : Option Bytes) : Chained zlib sha256 digest latest [] digest latest
  | cons {digest data image final : Bytes} {latest last : Option Bytes} {rest : List Bytes}
      (present : 1 ≤ data.length) (limited : data.length ≤ HISTORY_LIMIT)
      (applied : applyFrame zlib data latest = .ok image)
      (chained : Chained zlib sha256 (nextDigest sha256 digest data) (some image) rest final last) :
      Chained zlib sha256 digest latest (data :: rest) final last

theorem nextDigest_length (digest data : Bytes) : (nextDigest sha256 digest data).length = 32 := sha256.digest_length _

theorem frameBytes_length (digest data : Bytes) : (frameBytes sha256 digest data).length = 4 + data.length + 32 := by
  rw [frameBytes, List.length_append, List.length_append, bigEndian_length, nextDigest_length]

theorem framesBytes_snoc {digest final : Bytes} {latest last : Option Bytes} {payloads : List Bytes}
    (chained : Chained zlib sha256 digest latest payloads final last) (data : Bytes) :
    framesBytes sha256 digest (payloads ++ [data]) = framesBytes sha256 digest payloads ++ frameBytes sha256 final data := by
  induction chained with
  | nil => simp [framesBytes]
  | cons _ _ _ _ ih =>
    rw [List.cons_append, framesBytes, framesBytes, ih, List.append_assoc]

theorem frameEnds_snoc (sha256 : Sha256) (start : Nat) (digest : Bytes) (payloads : List Bytes) (data : Bytes) :
    frameEnds start (payloads ++ [data]) =
      frameEnds start payloads ++ [start + (framesBytes sha256 digest payloads).length + (4 + data.length + 32)] := by
  induction payloads generalizing start digest with
  | nil => simp [frameEnds, framesBytes]
  | cons first rest ih =>
    simp only [List.cons_append, frameEnds, framesBytes, List.length_append, frameBytes_length]
    rw [ih _ (nextDigest sha256 digest first)]
    simp only [Nat.add_assoc]

theorem Chained.snoc {digest final data image : Bytes} {latest last : Option Bytes} {payloads : List Bytes}
    (chained : Chained zlib sha256 digest latest payloads final last) (present : 1 ≤ data.length)
    (limited : data.length ≤ HISTORY_LIMIT) (applied : applyFrame zlib data last = .ok image) :
    Chained zlib sha256 digest latest (payloads ++ [data]) (nextDigest sha256 final data) (some image) := by
  induction chained with
  | nil => exact .cons present limited applied (.nil _ _)
  | cons presentFirst limitedFirst appliedFirst _ ih => exact .cons presentFirst limitedFirst appliedFirst (ih applied)

/-- A chain with frames ends with the digest of its last one. -/
theorem Chained.trailing {digest final : Bytes} {latest last : Option Bytes} {payloads : List Bytes}
    (chained : Chained zlib sha256 digest latest payloads final last) (some_frame : payloads ≠ []) :
    final.length = 32 ∧ ∃ front, framesBytes sha256 digest payloads = front ++ final := by
  induction chained with
  | nil => exact absurd rfl some_frame
  | @cons digest data _ _ _ _ rest _ _ _ chained ih =>
    cases chained with
    | nil => exact ⟨nextDigest_length digest data, bigEndian 4 data.length ++ data, by simp [framesBytes, frameBytes]⟩
    | cons _ _ _ _ =>
      obtain ⟨length, front, split⟩ := ih (by simp)
      refine ⟨length, frameBytes sha256 digest data ++ front, ?_⟩
      rw [framesBytes, split, List.append_assoc]

theorem Chained.image {digest final : Bytes} {latest last : Option Bytes} {payloads : List Bytes}
    (chained : Chained zlib sha256 digest latest payloads final last) (some_frame : payloads ≠ []) : last ≠ none := by
  induction chained with
  | nil => exact absurd rfl some_frame
  | cons _ _ _ chained ih =>
    cases chained with
    | nil => simp
    | cons _ _ _ _ => exact ih (by simp)

/-- The reading loop takes a whole frame off the front of the stream. -/
theorem readFrame_whole {digest data image : Bytes} {latest : Option Bytes} (present : 1 ≤ data.length)
    (limited : data.length ≤ HISTORY_LIMIT) (applied : applyFrame zlib data latest = .ok image) (rest : Bytes) :
    readFrame zlib sha256 digest latest (frameBytes sha256 digest data ++ rest) =
      .ok ⟨image, nextDigest sha256 digest data, rest⟩ := by
  have width := bigEndian_length 4 data.length
  have lengthRaw : (frameBytes sha256 digest data ++ rest).take 4 = bigEndian 4 data.length := by
    rw [frameBytes, List.append_assoc, List.append_assoc, List.take_left' width]
  have payload : slice (frameBytes sha256 digest data ++ rest) 4 data.length = data := by
    rw [frameBytes, List.append_assoc]
    exact slice_middle width rfl
  have chain : slice (frameBytes sha256 digest data ++ rest) (4 + data.length) 32 = nextDigest sha256 digest data :=
    slice_middle (by rw [List.length_append, width]) (nextDigest_length digest data)
  have after : (frameBytes sha256 digest data ++ rest).drop (4 + data.length + 32) = rest :=
    List.drop_left' (frameBytes_length digest data)
  simp only [readFrame, lengthRaw, width, unpack_packed (limit_fits limited), payload, chain, after, applied, require,
    nextDigest_length, present, limited, bind, Except.bind, Except.mapError]
  simp [nextDigest]

/-- The reading loop refuses a stream that stops inside a frame. -/
theorem readFrame_cut {digest data : Bytes} {latest : Option Bytes} (limited : data.length ≤ HISTORY_LIMIT) {cut : Nat}
    (inside : cut < (frameBytes sha256 digest data).length) (position : Position) :
    readFrame zlib sha256 digest latest ((frameBytes sha256 digest data).take cut) ≠ .ok position := by
  intro read
  have width := bigEndian_length 4 data.length
  have total := @frameBytes_length sha256 digest data
  simp only [readFrame, bind_eq_ok, require_eq_ok] at read
  obtain ⟨_, four, length, field, _, _, _, ⟨whole, digested, _⟩, _⟩ := read
  have long : 4 ≤ cut := by
    simp only [List.length_take] at four
    omega
  have lengthRaw : ((frameBytes sha256 digest data).take cut).take 4 = bigEndian 4 data.length := by
    rw [List.take_take, Nat.min_eq_left long, frameBytes, List.append_assoc, List.take_left' width]
  rw [lengthRaw, unpack_packed (limit_fits limited), Except.ok.injEq] at field
  simp only [slice, List.length_take, List.length_drop, total, field.symm] at digested
  omega

theorem readFrames_whole {digest data image : Bytes} {latest : Option Bytes} (present : 1 ≤ data.length)
    (limited : data.length ≤ HISTORY_LIMIT) (applied : applyFrame zlib data latest = .ok image) (rest : Bytes) :
    readFrames zlib sha256 digest latest (frameBytes sha256 digest data ++ rest) =
      readFrames zlib sha256 (nextDigest sha256 digest data) (some image) rest := by
  have nonempty : frameBytes sha256 digest data ++ rest ≠ [] := by
    intro empty
    have length := congrArg List.length empty
    simp only [List.length_append, frameBytes_length, List.length_nil] at length
    omega
  rw [readFrames, if_neg nonempty]
  split
  · rename_i error failed
    rw [readFrame_whole present limited applied rest] at failed
    contradiction
  · rename_i position taken
    rw [readFrame_whole present limited applied rest, Except.ok.injEq] at taken
    rw [← taken]

theorem readFrames_nil (digest : Bytes) (latest : Option Bytes) :
    readFrames zlib sha256 digest latest [] = .ok (latest, digest) := by
  rw [readFrames, if_pos rfl]

/-- The reader follows a chain to its end. -/
theorem Chained.readFrames {digest final : Bytes} {latest last : Option Bytes} {payloads : List Bytes}
    (chained : Chained zlib sha256 digest latest payloads final last) :
    readFrames zlib sha256 digest latest (framesBytes sha256 digest payloads) = .ok (last, final) := by
  induction chained with
  | nil => exact readFrames_nil _ _
  | cons present limited applied _ ih => rw [framesBytes, readFrames_whole present limited applied, ih]

theorem frameEnds_gt {start position : Nat} {payloads : List Bytes} (ends : position ∈ frameEnds start payloads) :
    start < position := by
  induction payloads generalizing start with
  | nil => simp [frameEnds] at ends
  | cons data rest ih =>
    simp only [frameEnds, List.mem_cons] at ends
    rcases ends with first | later
    · omega
    · have beyond := ih later
      omega

/-- A chain cut where one of its frames ends is a shorter chain. -/
theorem Chained.cut_end {digest final : Bytes} {latest last : Option Bytes} {payloads : List Bytes}
    (chained : Chained zlib sha256 digest latest payloads final last) {start cut : Nat}
    (ends : start + cut ∈ frameEnds start payloads) : ∃ image reached,
      History.readFrames zlib sha256 digest latest ((framesBytes sha256 digest payloads).take cut) =
        .ok (some image, reached) := by
  induction chained generalizing start cut with
  | nil => simp [frameEnds] at ends
  | @cons digest data image _ _ _ rest present limited applied chained ih =>
    have length := @frameBytes_length sha256 digest data
    simp only [frameEnds, List.mem_cons] at ends
    rcases ends with first | later
    · have whole : cut = (frameBytes sha256 digest data).length := by omega
      refine ⟨image, nextDigest sha256 digest data, ?_⟩
      rw [framesBytes, List.take_left' whole.symm, ← List.append_nil (frameBytes sha256 digest data),
        readFrames_whole present limited applied, readFrames_nil]
    · have beyond := frameEnds_gt later
      obtain ⟨further, rfl⟩ : ∃ further, cut = (frameBytes sha256 digest data).length + further :=
        ⟨cut - (frameBytes sha256 digest data).length, by omega⟩
      rw [framesBytes, List.take_length_add_append, readFrames_whole present limited applied]
      rw [length, ← Nat.add_assoc start (4 + data.length + 32) further] at later
      exact ih later

/-- A chain cut anywhere else is refused. -/
theorem Chained.cut_inside {digest final : Bytes} {latest last : Option Bytes} {payloads : List Bytes}
    (chained : Chained zlib sha256 digest latest payloads final last) {start cut : Nat} (positive : 0 < cut)
    (within : cut ≤ (framesBytes sha256 digest payloads).length) (inside : start + cut ∉ frameEnds start payloads)
    (result : Option Bytes × Bytes) :
    History.readFrames zlib sha256 digest latest ((framesBytes sha256 digest payloads).take cut) ≠ .ok result := by
  induction chained generalizing start cut with
  | nil =>
    simp only [framesBytes, List.length_nil] at within
    omega
  | @cons digest data image _ latest _ rest present limited applied chained ih =>
    have length := @frameBytes_length sha256 digest data
    simp only [framesBytes, List.length_append, length] at within
    simp only [frameEnds, List.mem_cons, not_or] at inside
    by_cases short : cut < (frameBytes sha256 digest data).length
    · have nonempty : (frameBytes sha256 digest data).take cut ≠ [] := by
        intro empty
        have none_left := congrArg List.length empty
        simp only [List.length_take, List.length_nil] at none_left
        omega
      rw [framesBytes, List.take_append_of_le_length (by omega), History.readFrames, if_neg nonempty]
      split
      · exact fun wrong => by contradiction
      · rename_i position taken
        exact absurd taken (readFrame_cut limited short position)
    · obtain ⟨further, rfl⟩ : ∃ further, cut = (frameBytes sha256 digest data).length + further :=
        ⟨cut - (frameBytes sha256 digest data).length, by omega⟩
      rw [framesBytes, List.take_length_add_append, readFrames_whole present limited applied]
      rw [length, ← Nat.add_assoc start (4 + data.length + 32) further] at inside
      exact ih (by omega) (by omega) inside.2

end Jiejian.Records.Chains
