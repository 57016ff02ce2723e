import Mathlib.Data.List.Induction
import Mathlib.Tactic.Ring

namespace Jiejian.Library.ByteString

abbrev Bytes := List UInt8

/-- The low `width` bytes of a number, the most significant first. -/
def bigEndian : Nat → Nat → Bytes
  | 0, _ => []
  | width + 1, value => bigEndian width (value / 256) ++ [UInt8.ofNat value]

def ofBigEndian (bytes : Bytes) : Nat := bytes.foldl (fun value byte => 256 * value + byte.toNat) 0

@[simp] theorem bigEndian_length (width value : Nat) : (bigEndian width value).length = width := by
  induction width generalizing value with
  | zero => rfl
  | succ width ih => simp [bigEndian, ih]

theorem ofBigEndian_snoc (bytes : Bytes) (byte : UInt8) :
    ofBigEndian (bytes ++ [byte]) = 256 * ofBigEndian bytes + byte.toNat := by
  simp [ofBigEndian, List.foldl_append]

/-- Reading back what was packed loses only what did not fit. -/
theorem ofBigEndian_bigEndian (width value : Nat) : ofBigEndian (bigEndian width value) = value % 256 ^ width := by
  induction width generalizing value with
  | zero => simp [bigEndian, ofBigEndian, Nat.mod_one]
  | succ width ih =>
    have low : (UInt8.ofNat value).toNat = value % 256 := by simp
    rw [bigEndian, ofBigEndian_snoc, ih, low, pow_succ', Nat.mod_mul]
    omega

theorem ofBigEndian_lt (bytes : Bytes) : ofBigEndian bytes < 256 ^ bytes.length := by
  induction bytes using List.reverseRecOn with
  | nil => simp [ofBigEndian]
  | append_singleton bytes byte ih =>
    have low : byte.toNat < 256 := byte.toNat_lt
    rw [ofBigEndian_snoc, List.length_append, List.length_singleton, pow_succ']
    omega

section Pages

variable {α : Type}

/-- `data[offset:offset + width]`. -/
def slice (data : List α) (offset width : Nat) : List α := (data.drop offset).take width

/-- `data[offset:offset + width] = new`. -/
def overwrite (data : List α) (offset width : Nat) (new : List α) : List α :=
  data.take offset ++ new ++ data.drop (offset + width)

/-- Cut to `size`, or fill up to it. -/
def resize (fill : α) (data : List α) (size : Nat) : List α :=
  if data.length < size then data ++ List.replicate (size - data.length) fill else data.take size

@[simp] theorem resize_length (fill : α) (data : List α) (size : Nat) : (resize fill data size).length = size := by
  unfold resize
  by_cases short : data.length < size
  · simp only [if_pos short, List.length_append, List.length_replicate]
    omega
  · simp only [if_neg short, List.length_take]
    omega

theorem slice_length {data : List α} {offset width : Nat} (inside : offset + width ≤ data.length) :
    (slice data offset width).length = width := by
  simp only [slice, List.length_take, List.length_drop]
  omega

theorem inside_of_slice_length {data : List α} {offset width : Nat} (positive : 0 < width)
    (full : (slice data offset width).length = width) : offset + width ≤ data.length := by
  simp only [slice, List.length_take, List.length_drop] at full
  omega

theorem overwrite_length {data new : List α} {offset width : Nat} (inside : offset + width ≤ data.length)
    (same : new.length = width) : (overwrite data offset width new).length = data.length := by
  simp only [overwrite, List.length_append, List.length_take, List.length_drop, same]
  omega

theorem slice_resize {fill : α} {data : List α} {offset width size : Nat} (kept : offset + width ≤ data.length)
    (inside : offset + width ≤ size) : slice (resize fill data size) offset width = slice data offset width := by
  unfold resize slice
  by_cases short : data.length < size
  · rw [if_pos short, List.drop_append_of_le_length (by omega),
      List.take_append_of_le_length (by rw [List.length_drop]; omega)]
  · rw [if_neg short, List.drop_take, List.take_take]
    congr 1
    omega

theorem slice_overwrite_same {data new : List α} {offset width : Nat} (inside : offset ≤ data.length)
    (same : new.length = width) : slice (overwrite data offset width new) offset width = new := by
  have start : (data.take offset).length = offset := by
    rw [List.length_take]
    omega
  rw [slice, overwrite, List.append_assoc, List.drop_left' start, List.take_left' same]

/-- Overwriting one range leaves every range beside it as it was. -/
theorem slice_overwrite_other {data new : List α} {offset width other : Nat} (inside : offset + width ≤ data.length)
    (same : new.length = width) (beside : other + width ≤ offset ∨ offset + width ≤ other) :
    slice (overwrite data offset width new) other width = slice data other width := by
  apply List.ext_getElem?
  intro index
  simp only [slice, overwrite, List.getElem?_take, List.getElem?_drop]
  by_cases within : index < width
  · simp only [if_pos within, List.append_assoc]
    rcases beside with before | after
    · rw [List.getElem?_append_left (by rw [List.length_take]; omega), List.getElem?_take,
        if_pos (by omega)]
    · rw [List.getElem?_append_right (by rw [List.length_take]; omega),
        List.getElem?_append_right (by rw [List.length_take]; omega), List.getElem?_drop]
      congr 1
      rw [List.length_take]
      omega
  · simp [if_neg within]

theorem slice_middle {before middle after : List α} {offset width : Nat} (start : before.length = offset)
    (full : middle.length = width) : slice (before ++ middle ++ after) offset width = middle := by
  rw [slice, List.append_assoc, List.drop_left' start, List.take_left' full]

/-- Two lists of whole pages are equal when all their pages are. -/
theorem eq_of_pages {first second : List α} {width pages : Nat} (positive : 0 < width)
    (left : first.length = pages * width) (right : second.length = pages * width)
    (equal : ∀ page < pages, slice first (page * width) width = slice second (page * width) width) : first = second := by
  apply List.ext_getElem?
  intro index
  by_cases within : index < pages * width
  · have page : index / width < pages := Nat.div_lt_of_lt_mul (by rwa [Nat.mul_comm] at within)
    have here := congrArg (fun found : List α => found[index % width]?) (equal _ page)
    have offset : index / width * width + index % width = index := Nat.div_add_mod' index width
    simpa only [slice, List.getElem?_take, List.getElem?_drop, if_pos (Nat.mod_lt index positive), offset] using here
  · rw [List.getElem?_eq_none (by omega), List.getElem?_eq_none (by omega)]

/-- Copy the given pages of `image` over those of `data`. -/
def patch (image : List α) (width : Nat) (pages : List Nat) (data : List α) : List α :=
  pages.foldl (fun data page => overwrite data (page * width) width (slice image (page * width) width)) data

theorem page_inside {page count width length : Nat} (whole : length = count * width) (inside : page < count) :
    page * width + width ≤ length := by
  have next : (page + 1) * width ≤ count * width := Nat.mul_le_mul_right width inside
  rw [Nat.add_mul, Nat.one_mul] at next
  omega

theorem page_beside {first second width : Nat} (different : first ≠ second) :
    first * width + width ≤ second * width ∨ second * width + width ≤ first * width := by
  rcases Nat.lt_or_gt_of_ne different with before | after
  · exact .inl (page_inside rfl before)
  · exact .inr (page_inside rfl after)

theorem patch_pages {image : List α} {width count : Nat} (whole : image.length = count * width) {pages : List Nat}
    (inside : ∀ page ∈ pages, page < count) {data : List α} (length : data.length = count * width) :
    (patch image width pages data).length = count * width ∧
      ∀ page < count, slice (patch image width pages data) (page * width) width =
        if page ∈ pages then slice image (page * width) width else slice data (page * width) width := by
  induction pages generalizing data with
  | nil => simp [patch, length]
  | cons first rest ih =>
    have here : first * width + width ≤ image.length := page_inside whole (inside first (by simp))
    have there : first * width + width ≤ data.length := by rwa [length, ← whole]
    have copied : (slice image (first * width) width).length = width := slice_length here
    have kept := overwrite_length there copied
    obtain ⟨patched, pagesOf⟩ := ih (fun page member => inside page (by simp [member])) (kept.trans length)
    refine ⟨patched, fun page below => ?_⟩
    rw [patch, List.foldl_cons, ← patch, pagesOf page below]
    by_cases later : page ∈ rest
    · simp [later]
    · by_cases same : page = first
      · subst same
        simp [later, slice_overwrite_same (Nat.le_trans (Nat.le_add_right _ _) there) copied]
      · have beside := @page_beside page first width same
        simp [later, same, slice_overwrite_other there copied beside]

/-- Patching restores the image when every other page already agrees. -/
theorem patch_eq {image : List α} {width count : Nat} (positive : 0 < width) (whole : image.length = count * width)
    {pages : List Nat} (inside : ∀ page ∈ pages, page < count) {data : List α} (length : data.length = count * width)
    (agree : ∀ page < count, page ∉ pages → slice data (page * width) width = slice image (page * width) width) :
    patch image width pages data = image := by
  obtain ⟨patched, pagesOf⟩ := patch_pages whole inside length
  apply eq_of_pages positive patched whole
  intro page below
  rw [pagesOf page below]
  by_cases copied : page ∈ pages
  · rw [if_pos copied]
  · rw [if_neg copied, agree page below copied]

end Pages

end Jiejian.Library.ByteString
