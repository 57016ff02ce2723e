import Jiejian.Records.History
import Mathlib.Data.Nat.Basic

namespace Jiejian.Records.Frames

open Library.ByteString Library.Outcome History

/-- A serialized SQLite database: whole pages of the size its header names, which the file format
keeps to the powers of two from 512 to 65536. -/
structure DatabaseImage where
  bytes : Bytes
  pageSize : Nat
  header : pageSizeOf bytes = .ok pageSize
  nonempty : bytes ≠ []
  limited : bytes.length ≤ HISTORY_LIMIT
  whole : pageSize ∣ bytes.length
  powerOfTwo : pageSize.isPowerOfTwo
  smallestPage : 512 ≤ pageSize

variable {zlib : Zlib} {sha256 : Sha256}

theorem packUInt32_ok {value : Nat} {packed : Bytes} :
    packUInt32 value = .ok packed ↔ value < 4294967296 ∧ packed = bigEndian 4 value := by
  unfold packUInt32
  by_cases fits : value < 4294967296
  · simp [fits, eq_comm]
  · simp [fits]

theorem unpack_packed {value : Nat} (fits : value < 4294967296) : unpackUInt 4 (bigEndian 4 value) = .ok value := by
  rw [unpackUInt, if_pos (bigEndian_length 4 value), ofBigEndian_bigEndian, Nat.mod_eq_of_lt (by omega)]

theorem limit_fits {value : Nat} (limited : value ≤ HISTORY_LIMIT) : value < 4294967296 := by
  unfold HISTORY_LIMIT at limited
  omega

theorem inflate_compress {data : Bytes} {maximum : Nat} (fits : data.length ≤ maximum) :
    inflate zlib (zlib.compress data) maximum = .ok data := by
  have inverse := zlib.inverts data (maximum + 1) (by omega)
  have short : ¬maximum < data.length := by omega
  simp [inflate, inverse, orRaise, require, short, bind, Except.bind]

theorem not_sqlite {tag data : Bytes} (first : UInt8) (start : tag = first :: tag.tail) (other : first ≠ 83) :
    ¬SQLITE_HEADER <+: tag ++ data := by
  intro starts
  have header : SQLITE_HEADER = 83 :: SQLITE_HEADER.tail := by decide
  rw [header, start, List.cons_append, List.cons_prefix_cons] at starts
  exact other starts.1.symm

theorem not_checkpoint (data : Bytes) : ¬CHECKPOINT <+: DELTA ++ data := by
  intro starts
  have taken := List.prefix_iff_eq_take.mp starts
  rw [List.take_left' (by decide)] at taken
  exact absurd taken (by decide)

/-- A checkpoint frame is the whole image, whatever was read before it. -/
theorem applyFrame_checkpoint {image data : Bytes} {latest : Option Bytes} (nonempty : image ≠ [])
    (limited : image.length ≤ HISTORY_LIMIT) (encoded : encodeCheckpoint zlib image = .ok data) :
    applyFrame zlib data latest = .ok image := by
  simp only [encodeCheckpoint, bind_eq_ok, packUInt32_ok, Except.ok.injEq] at encoded
  obtain ⟨_, ⟨fits, rfl⟩, rfl⟩ := encoded
  have tagged : CHECKPOINT <+: CHECKPOINT ++ bigEndian 4 image.length ++ zlib.compress image := by
    rw [List.append_assoc]
    exact List.prefix_append _ _
  have payload : 0 < (zlib.compress image).length := List.length_pos_iff.mpr (zlib.compress_ne_nil image)
  have longer : 8 < (CHECKPOINT ++ bigEndian 4 image.length ++ zlib.compress image).length := by
    have tag : CHECKPOINT.length = 4 := by decide
    simp only [List.length_append, bigEndian_length, tag]
    omega
  have raw : ¬SQLITE_HEADER <+: CHECKPOINT ++ bigEndian 4 image.length ++ zlib.compress image := by
    rw [List.append_assoc]
    exact not_sqlite 74 (by decide) (by decide)
  have body : (CHECKPOINT ++ bigEndian 4 image.length ++ zlib.compress image).drop 8 = zlib.compress image :=
    List.drop_left' (by simp [show CHECKPOINT.length = 4 by decide])
  have positive : 0 < image.length := List.length_pos_iff.mpr nonempty
  unfold applyFrame applyCheckpoint
  rw [if_neg raw, if_pos ⟨tagged, longer⟩, slice_middle (by decide) (bigEndian_length 4 _), unpack_packed fits, body]
  simp [require, positive, limited, inflate_compress, bind, Except.bind]

/-- What a delta says about one page. -/
def entry (image : Bytes) (pageSize page : Nat) : Bytes := bigEndian 4 page ++ slice image (page * pageSize) pageSize

/-- The pages of `image` that `previous` does not already hold. -/
def changedPages (image previous : Bytes) (pageSize count : Nat) : List Nat :=
  (List.range count).filter fun page => slice image (page * pageSize) pageSize ≠ slice previous (page * pageSize) pageSize

theorem changedPages_lt {image previous : Bytes} {pageSize count page : Nat}
    (changed : page ∈ changedPages image previous pageSize count) : page < count := by
  simpa using (List.mem_filter.mp changed).1

theorem changedPages_sorted (image previous : Bytes) (pageSize count : Nat) :
    (changedPages image previous pageSize count).Pairwise (· < ·) := List.pairwise_lt_range.filter _

theorem changedPages_length (image previous : Bytes) (pageSize count : Nat) :
    (changedPages image previous pageSize count).length ≤ count := by
  have filtered := List.length_filter_le (fun page =>
    decide (slice image (page * pageSize) pageSize ≠ slice previous (page * pageSize) pageSize)) (List.range count)
  simpa [changedPages] using filtered

theorem changedOffsets_pages {image previous : Bytes} {pageSize count : Nat} (positive : 0 < pageSize)
    (whole : image.length = count * pageSize) :
    changedOffsets image previous pageSize = .ok ((changedPages image previous pageSize count).map (· * pageSize)) := by
  have rounds : (image.length + pageSize - 1) / pageSize = count := by
    rw [whole, Nat.add_sub_assoc positive, Nat.add_comm, Nat.add_mul_div_right _ _ positive,
      Nat.div_eq_of_lt (by omega), Nat.zero_add]
  simp only [changedOffsets, offsets, if_neg (Nat.ne_of_gt positive), rounds, changedPages, bind, Except.bind,
    List.filter_map]
  rfl

theorem encodePage_entry {image : Bytes} {pageSize page : Nat} (positive : 0 < pageSize) (fits : page < 4294967296) :
    encodePage image pageSize (page * pageSize) = .ok (entry image pageSize page) := by
  simp [encodePage, Nat.mul_div_cancel _ positive, packUInt32, fits, entry, bind, Except.bind]

theorem entry_length {image : Bytes} {pageSize page count : Nat} (whole : image.length = count * pageSize)
    (inside : page < count) : (entry image pageSize page).length = 4 + pageSize := by
  rw [entry, List.length_append, bigEndian_length, slice_length (page_inside whole inside)]

theorem entries_length {image : Bytes} {pageSize count : Nat} (whole : image.length = count * pageSize)
    {pages : List Nat} (inside : ∀ page ∈ pages, page < count) :
    (pages.map (entry image pageSize)).flatten.length = pages.length * (4 + pageSize) := by
  induction pages with
  | nil => simp
  | cons page rest ih =>
    have here := entry_length whole (inside page (by simp))
    have there := ih fun page member => inside page (by simp [member])
    rw [List.map_cons, List.flatten_cons, List.length_append, here, there, List.length_cons, Nat.add_mul]
    omega

/-- The reader's page loop copies the listed pages, which the writer lists in increasing order. -/
theorem applyPages_entries {image : Bytes} {size pageSize count : Nat} (pagesOf : size / pageSize = count)
    (whole : image.length = count * pageSize) (fits : count < 4294967296) {pages : List Nat}
    (inside : ∀ page ∈ pages, page < count) (sorted : pages.Pairwise (· < ·)) {previous : Int}
    (later : ∀ page ∈ pages, previous < (page : Int)) (data : Bytes) :
    applyPages size pageSize pages.length previous (pages.map (entry image pageSize)).flatten data =
      .ok (patch image pageSize pages data) := by
  induction pages generalizing previous data with
  | nil => rfl
  | cons page rest ih =>
    have here : page < count := inside page (by simp)
    have number : (bigEndian 4 page).length = 4 := bigEndian_length 4 page
    have copied : (slice image (page * pageSize) pageSize).length = pageSize := slice_length (page_inside whole here)
    have head : ((entry image pageSize page) ++ (rest.map (entry image pageSize)).flatten).take 4 = bigEndian 4 page := by
      rw [entry, List.append_assoc, List.take_left' number]
    have body : slice (entry image pageSize page ++ (rest.map (entry image pageSize)).flatten) 4 pageSize =
        slice image (page * pageSize) pageSize := slice_middle number copied
    have tail : (entry image pageSize page ++ (rest.map (entry image pageSize)).flatten).drop (4 + pageSize) =
        (rest.map (entry image pageSize)).flatten := List.drop_left' (entry_length whole here)
    have accepted : ¬((page : Int) ≤ previous ∨ size / pageSize ≤ page) := by
      have after := later page (by simp)
      omega
    have ordered : ∀ next ∈ rest, (page : Int) < (next : Int) := by
      intro next member
      have before := (List.pairwise_cons.mp sorted).1 next member
      omega
    simp only [List.length_cons, List.map_cons, List.flatten_cons, applyPages, head, body, tail,
      unpack_packed (Nat.lt_trans here fits), require, if_pos accepted, bind, Except.bind]
    rw [ih (fun next member => inside next (by simp [member])) (List.pairwise_cons.mp sorted).2 ordered]
    rfl

theorem DatabaseImage.pageCount (image : DatabaseImage) :
    image.bytes.length = image.bytes.length / image.pageSize * image.pageSize := (Nat.div_mul_cancel image.whole).symm

theorem DatabaseImage.largestPage (image : DatabaseImage) : image.pageSize ≤ 65536 := by
  have header := image.header
  simp only [pageSizeOf, unpackUInt, bind_eq_ok] at header
  obtain ⟨size, field, named⟩ := header
  by_cases two : (slice image.bytes 16 2).length = 2
  · have bounded := ofBigEndian_lt (slice image.bytes 16 2)
    simp only [if_pos two, Except.ok.injEq] at field
    rw [two, field] at bounded
    by_cases one : size = 1
    · simp only [if_pos one, Except.ok.injEq] at named
      omega
    · simp only [if_neg one, Except.ok.injEq] at named
      omega
  · simp [two] at field

theorem DatabaseImage.mask (image : DatabaseImage) : image.pageSize &&& (image.pageSize - 1) = 0 := by
  obtain ⟨exponent, power⟩ := image.powerOfTwo
  rw [power, Nat.and_two_pow_sub_one_eq_mod, Nat.mod_self]

theorem DatabaseImage.pageCount_le (image : DatabaseImage) :
    image.bytes.length / image.pageSize ≤ HISTORY_LIMIT / 512 :=
  Nat.div_le_div image.limited image.smallestPage (by decide)

/-- Cutting or filling the previous image to the new size leaves only the listed pages to copy. -/
theorem patch_previous (image : DatabaseImage) (previous : Bytes) :
    patch image.bytes image.pageSize
      (changedPages image.bytes previous image.pageSize (image.bytes.length / image.pageSize))
      (resize 0 previous image.bytes.length) = image.bytes := by
  have positive : 0 < image.pageSize := Nat.lt_of_lt_of_le (by decide) image.smallestPage
  apply patch_eq positive image.pageCount (fun page changed => changedPages_lt changed)
    ((resize_length 0 previous image.bytes.length).trans image.pageCount)
  intro page below unchanged
  have same : slice image.bytes (page * image.pageSize) image.pageSize =
      slice previous (page * image.pageSize) image.pageSize := by
    simpa [changedPages, below] using unchanged
  have inside := page_inside image.pageCount below
  have full : (slice previous (page * image.pageSize) image.pageSize).length = image.pageSize := by
    rw [← same, slice_length inside]
  rw [slice_resize (inside_of_slice_length positive full) inside, same]

theorem delta_fields {size width count pages : Bytes} (sizeLength : size.length = 4) (widthLength : width.length = 4)
    (countLength : count.length = 4) :
    slice (size ++ width ++ count ++ pages) 0 4 = size ∧ slice (size ++ width ++ count ++ pages) 4 4 = width ∧
      slice (size ++ width ++ count ++ pages) 8 4 = count ∧ (size ++ width ++ count ++ pages).drop 12 = pages := by
  have two : (size ++ width).length = 8 := by rw [List.length_append, sizeLength, widthLength]
  have three : (size ++ width ++ count).length = 12 := by rw [List.length_append, two, countLength]
  refine ⟨?_, ?_, slice_middle two countLength, List.drop_left' three⟩
  · rw [List.append_assoc, List.append_assoc, slice, List.drop_zero, List.take_left' sizeLength]
  · rw [List.append_assoc (size ++ width)]
    exact slice_middle sizeLength widthLength

/-- The reader's limit on an inflated delta leaves room for every page of the largest image. -/
theorem DatabaseImage.delta_bounded (image : DatabaseImage) {changed : Nat}
    (listed : changed ≤ image.bytes.length / image.pageSize) :
    12 + changed * (4 + image.pageSize) ≤ HISTORY_LIMIT + HISTORY_LIMIT / 512 * 4 + 12 := by
  have numbers := Nat.le_trans listed image.pageCount_le
  have bytes : changed * image.pageSize ≤ image.bytes.length := by
    rw [image.pageCount]
    exact Nat.mul_le_mul_right _ listed
  have limited := image.limited
  rw [Nat.mul_add]
  omega

theorem encodeDelta_ok {image : DatabaseImage} {pages : List Nat} {data : Bytes}
    (inside : ∀ page ∈ pages, page < image.bytes.length / image.pageSize)
    (encoded : encodeDelta zlib image.bytes image.pageSize (pages.map (· * image.pageSize)) = .ok data) :
    image.bytes.length < 4294967296 ∧ image.pageSize < 4294967296 ∧ pages.length < 4294967296 ∧
      data = DELTA ++ zlib.compress (bigEndian 4 image.bytes.length ++ bigEndian 4 image.pageSize ++
        bigEndian 4 pages.length ++ (pages.map (entry image.bytes image.pageSize)).flatten) := by
  have positive : 0 < image.pageSize := Nat.lt_of_lt_of_le (by decide) image.smallestPage
  have written : (pages.map (· * image.pageSize)).mapM (encodePage image.bytes image.pageSize) =
      .ok (pages.map (entry image.bytes image.pageSize)) := by
    rw [@mapM_eq_ok _ _ _ _ (fun offset => entry image.bytes image.pageSize (offset / image.pageSize)) _]
    · simp [Function.comp_def, Nat.mul_div_cancel _ positive]
    · intro offset member
      obtain ⟨page, listed, rfl⟩ := List.mem_map.mp member
      rw [Nat.mul_div_cancel _ positive]
      apply encodePage_entry positive
      have below := inside page listed
      have few := image.pageCount_le
      unfold HISTORY_LIMIT at few
      omega
  simp only [encodeDelta, bind_eq_ok, packUInt32_ok, Except.ok.injEq, written, List.length_map] at encoded
  obtain ⟨_, ⟨sizeFits, rfl⟩, _, ⟨widthFits, rfl⟩, _, ⟨countFits, rfl⟩, _, rfl, rfl⟩ := encoded
  exact ⟨sizeFits, widthFits, countFits, rfl⟩

/-- A delta frame turns the previous image into the new one, whatever their lengths. -/
theorem applyFrame_delta {image : DatabaseImage} {previous data : Bytes}
    (header : pageSizeOf previous = .ok image.pageSize)
    (encoded : encodeDelta zlib image.bytes image.pageSize
      ((changedPages image.bytes previous image.pageSize (image.bytes.length / image.pageSize)).map
        (· * image.pageSize)) = .ok data) :
    applyFrame zlib data (some previous) = .ok image.bytes := by
  have inside : ∀ page ∈ changedPages image.bytes previous image.pageSize (image.bytes.length / image.pageSize),
      page < image.bytes.length / image.pageSize := fun page changed => changedPages_lt changed
  obtain ⟨sizeFits, widthFits, changedFits, rfl⟩ := encodeDelta_ok inside encoded
  have listed := changedPages_length image.bytes previous image.pageSize (image.bytes.length / image.pageSize)
  have sorted := changedPages_sorted image.bytes previous image.pageSize (image.bytes.length / image.pageSize)
  have countFits : image.bytes.length / image.pageSize < 4294967296 := Nat.lt_of_le_of_lt image.pageCount_le (by decide)
  have applied := applyPages_entries rfl image.pageCount countFits inside sorted
    (fun page _ => Int.lt_of_lt_of_le (by decide : (-1 : Int) < 0) (Int.natCast_nonneg page))
    (resize 0 previous image.bytes.length)
  rw [patch_previous image previous] at applied
  have bodyLength := entries_length image.pageCount inside
  have bounded := image.delta_bounded listed
  obtain ⟨sizeField, widthField, countField, body⟩ :=
    @delta_fields _ _ _ ((changedPages image.bytes previous image.pageSize
      (image.bytes.length / image.pageSize)).map (entry image.bytes image.pageSize)).flatten
      (bigEndian_length 4 image.bytes.length) (bigEndian_length 4 image.pageSize)
      (bigEndian_length 4 (changedPages image.bytes previous image.pageSize (image.bytes.length / image.pageSize)).length)
  generalize changedPages image.bytes previous image.pageSize (image.bytes.length / image.pageSize) = changed at *
  generalize (changed.map (entry image.bytes image.pageSize)).flatten = pages at *
  have length : (bigEndian 4 image.bytes.length ++ bigEndian 4 image.pageSize ++ bigEndian 4 changed.length ++
      pages).length = 12 + changed.length * (4 + image.pageSize) := by
    simp only [List.length_append, bigEndian_length, bodyLength]
  generalize bigEndian 4 image.bytes.length ++ bigEndian 4 image.pageSize ++ bigEndian 4 changed.length ++ pages = delta at *
  have inflated : inflate zlib ((DELTA ++ zlib.compress delta).drop 4) (HISTORY_LIMIT + HISTORY_LIMIT / 512 * 4 + 12) =
      .ok delta := by
    rw [List.drop_left' (by decide)]
    exact inflate_compress (by omega)
  have raw : ¬SQLITE_HEADER <+: DELTA ++ zlib.compress delta := not_sqlite 74 (by decide) (by decide)
  have long : 12 ≤ delta.length := by omega
  have nonempty : 0 < image.bytes.length := List.length_pos_iff.mpr image.nonempty
  have modulo : image.bytes.length % image.pageSize = 0 := Nat.mod_eq_zero_of_dvd image.whole
  unfold applyFrame applyDelta
  rw [if_neg raw, if_neg (fun both => not_checkpoint _ both.1)]
  simp only [if_pos (List.prefix_append DELTA _), inflated, sizeField, widthField, countField, body,
    unpack_packed sizeFits, unpack_packed widthFits, unpack_packed changedFits, header, require, if_pos long,
    if_pos (And.intro nonempty image.limited), bind, Except.bind]
  rw [if_pos ⟨trivial, ⟨image.smallestPage, image.largestPage⟩, image.mask, modulo, listed, length⟩]
  exact applied

/-- Whatever kind of frame the writer chose, the reader gets the image back from it. -/
theorem encodeFrame_applied {image : DatabaseImage} {previous : Option DatabaseImage} {checkpoint : Bool} {data : Bytes}
    (encoded : encodeFrame zlib image.bytes (previous.map DatabaseImage.bytes) checkpoint = .ok data) :
    applyFrame zlib data (previous.map DatabaseImage.bytes) = .ok image.bytes := by
  simp only [encodeFrame, bind_eq_ok, require_eq_ok, image.header, Except.ok.injEq, exists_eq_left', image.limited,
    exists_const, true_and] at encoded
  cases previous with
  | none => exact applyFrame_checkpoint image.nonempty image.limited encoded
  | some previous =>
    cases checkpoint with
    | true => exact applyFrame_checkpoint image.nonempty image.limited encoded
    | false =>
      simp only [Option.map_some, bind_eq_ok, previous.header, Except.ok.injEq, exists_eq_left'] at encoded
      by_cases same : previous.pageSize = image.pageSize
      · have positive : 0 < image.pageSize := Nat.lt_of_lt_of_le (by decide) image.smallestPage
        simp only [same, ne_eq, not_true_eq_false, if_false, changedOffsets_pages positive image.pageCount,
          List.length_map, bind_eq_ok, Except.ok.injEq, exists_eq_left'] at encoded
        by_cases large : image.bytes.length / 2 < (changedPages image.bytes previous.bytes image.pageSize
            (image.bytes.length / image.pageSize)).length * image.pageSize
        · rw [if_pos large] at encoded
          exact applyFrame_checkpoint image.nonempty image.limited encoded
        · rw [if_neg large] at encoded
          exact applyFrame_delta (same ▸ previous.header) encoded
      · rw [if_pos same] at encoded
        exact applyFrame_checkpoint image.nonempty image.limited encoded

end Jiejian.Records.Frames
