import Mathlib.Data.List.Basic

namespace Jiejian.Library.PercentEncoding

section Decoding

/-- `bytes[index]` lies in the range; past the end nothing does. -/
def inRange (bytes : List UInt8) (index low high : Nat) : Bool :=
  match bytes[index]? with
  | some byte => low ≤ byte.toNat && byte.toNat ≤ high
  | none => false

/-- The values the second byte of a sequence may take after its first byte. -/
def secondRange (lead : Nat) : Nat × Nat :=
  if lead = 0xE0 then (0xA0, 0xBF)
  else if lead = 0xED then (0x80, 0x9F)
  else if lead = 0xF0 then (0x90, 0xBF)
  else if lead = 0xF4 then (0x80, 0x8F)
  else (0x80, 0xBF)

/-- How many bytes one replacement character stands for: the longest start of a sequence, or a single byte. -/
def malformed (bytes : List UInt8) : Nat :=
  match bytes with
  | [] => 1
  | first :: _ =>
    let lead := first.toNat
    let second := inRange bytes 1 (secondRange lead).1 (secondRange lead).2
    if 0xE0 ≤ lead ∧ lead ≤ 0xEF ∧ second then 2
    else if 0xF0 ≤ lead ∧ lead ≤ 0xF4 ∧ second then (if inRange bytes 2 0x80 0xBF then 3 else 2)
    else 1

/-- `bytes.decode('utf-8', 'replace')`. -/
def decodeFrom : Nat → List UInt8 → List Char
  | 0, _ => []
  | _ + 1, [] => []
  | fuel + 1, byte :: rest =>
    match (byte :: rest).toByteArray.utf8DecodeChar? 0 with
    | some char => char :: decodeFrom fuel ((byte :: rest).drop char.utf8Size)
    | none => '\uFFFD' :: decodeFrom fuel ((byte :: rest).drop (malformed (byte :: rest)))

def decode (bytes : List UInt8) : List Char := decodeFrom bytes.length bytes

def encode (text : List Char) : List UInt8 := text.flatMap String.utf8EncodeChar

theorem encodeChar_ne_nil (char : Char) : String.utf8EncodeChar char ≠ [] := by
  intro empty
  have size := String.length_utf8EncodeChar char
  rw [empty] at size
  exact absurd char.utf8Size_pos (by rw [← size]; decide)

/-- What was encoded is read back. -/
theorem decodeFrom_encode (text : List Char) {fuel : Nat} (enough : (encode text).length ≤ fuel) :
    decodeFrom fuel (encode text) = text := by
  induction text generalizing fuel with
  | nil => cases fuel <;> rfl
  | cons char text ih =>
    have split : encode (char :: text) = String.utf8EncodeChar char ++ encode text := rfl
    have sized : (encode (char :: text)).length = char.utf8Size + (encode text).length := by
      rw [split, List.length_append, String.length_utf8EncodeChar]
    have positive := char.utf8Size_pos
    cases fuel with
    | zero => omega
    | succ fuel =>
      cases shape : encode (char :: text) with
      | nil =>
        rw [shape] at sized
        rw [List.length_nil] at sized
        omega
      | cons byte rest =>
        have read : (byte :: rest).toByteArray.utf8DecodeChar? 0 = some char := by
          rw [← shape, split, List.toByteArray_append]
          exact ByteArray.utf8DecodeChar?_utf8EncodeChar_append
        have dropped : (byte :: rest).drop char.utf8Size = encode text := by
          rw [← shape, split, ← String.length_utf8EncodeChar, List.drop_left]
        simp only [decodeFrom, read, dropped]
        rw [ih (by omega)]

theorem decode_encode (text : List Char) : decode (encode text) = text := decodeFrom_encode text (Nat.le_refl _)

end Decoding

section Escapes

def digitChar (value : Nat) : Char := if value < 10 then Char.ofNat (48 + value) else Char.ofNat (55 + value)

def digitValue (char : Char) : Option Nat :=
  if '0' ≤ char ∧ char ≤ '9' then some (char.toNat - 48)
  else if 'A' ≤ char ∧ char ≤ 'F' then some (char.toNat - 55)
  else if 'a' ≤ char ∧ char ≤ 'f' then some (char.toNat - 87)
  else none

theorem digitValue_digitChar : ∀ value < 16, digitValue (digitChar value) = some value := by decide

theorem digitChar_plain : ∀ value < 16, (digitChar value).isAlphanum = true := by decide

def escapedByte (byte : UInt8) : List Char := ['%', digitChar (byte.toNat / 16), digitChar (byte.toNat % 16)]

/-- `unquote_to_bytes` of an ASCII text. -/
def unescape : List Char → List UInt8
  | '%' :: high :: low :: rest =>
    match digitValue high, digitValue low with
    | some first, some second => UInt8.ofNat (16 * first + second) :: unescape rest
    | _, _ => 37 :: unescape (high :: low :: rest)
  | char :: rest => UInt8.ofNat char.toNat :: unescape rest
  | [] => []

theorem unescape_plain {char : Char} (plain : char ≠ '%') (rest : List Char) :
    unescape (char :: rest) = UInt8.ofNat char.toNat :: unescape rest := by
  cases rest with
  | nil => simp [unescape]
  | cons second rest =>
    cases rest with
    | nil => simp [unescape]
    | cons third rest => simp [unescape, plain]

theorem unescape_byte (byte : UInt8) (rest : List Char) : unescape (escapedByte byte ++ rest) = byte :: unescape rest := by
  have bound : byte.toNat < 256 := byte.toNat_lt
  have high := digitValue_digitChar (byte.toNat / 16) (by omega)
  have low := digitValue_digitChar (byte.toNat % 16) (by omega)
  show unescape ('%' :: digitChar (byte.toNat / 16) :: digitChar (byte.toNat % 16) :: rest) = _
  simp only [unescape, high, low]
  rw [Nat.div_add_mod, UInt8.ofNat_toNat]

theorem unescape_bytes (bytes : List UInt8) (rest : List Char) :
    unescape (bytes.flatMap escapedByte ++ rest) = bytes ++ unescape rest := by
  induction bytes with
  | nil => rfl
  | cons byte bytes ih => rw [List.flatMap_cons, List.append_assoc, unescape_byte, ih, List.cons_append]

/-- The written text stands for the other one: each character for itself, or escaped byte by byte. -/
inductive Writes : List Char → List Char → Prop where
  | nil : Writes [] []
  | kept {char : Char} {written text : List Char} (ascii : char.toNat < 128) (plain : char ≠ '%')
      (rest : Writes written text) : Writes (char :: written) (char :: text)
  | escaped {char : Char} {written text : List Char} (rest : Writes written text) :
      Writes ((String.utf8EncodeChar char).flatMap escapedByte ++ written) (char :: text)

theorem Writes.append {first second written text : List Char} (front : Writes first second) (back : Writes written text) :
    Writes (first ++ written) (second ++ text) := by
  induction front with
  | nil => exact back
  | kept ascii plain _ ih => exact .kept ascii plain ih
  | escaped _ ih =>
    rw [List.append_assoc]
    exact .escaped ih

theorem encodeChar_ascii {char : Char} (ascii : char.toNat < 128) :
    String.utf8EncodeChar char = [UInt8.ofNat char.toNat] := by
  have one : char.utf8Size = 1 := by
    rw [Char.utf8Size_eq_one_iff, UInt32.le_iff_toNat_le]
    show char.toNat ≤ 127
    omega
  rw [String.utf8EncodeChar_eq_singleton one]
  rfl

theorem unescape_writes {written text : List Char} (writes : Writes written text) : unescape written = encode text := by
  induction writes with
  | nil => rfl
  | kept ascii plain _ ih =>
    rw [unescape_plain plain, ih]
    show _ = String.utf8EncodeChar _ ++ encode _
    rw [encodeChar_ascii ascii]
    rfl
  | escaped _ ih =>
    rw [unescape_bytes, ih]
    rfl

theorem alphanum_ascii {char : Char} (plain : char.isAlphanum = true) : char.toNat < 128 := by
  have ranges : ((decide (char.val ≥ 65 ∧ char.val ≤ 90) || (char.val ≥ 97 && char.val ≤ 122)) ||
    (char.val ≥ 48 && char.val ≤ 57)) = true := plain
  simp only [Bool.or_eq_true, Bool.and_eq_true, decide_eq_true_eq, UInt32.le_iff_toNat_le, ge_iff_le] at ranges
  have value : char.val.toNat = char.toNat := rfl
  simp only [value] at ranges
  simp at ranges
  omega

theorem mem_escapedByte {byte : UInt8} {char : Char} (member : char ∈ escapedByte byte) :
    char = '%' ∨ char.isAlphanum = true := by
  have bound : byte.toNat < 256 := byte.toNat_lt
  simp only [escapedByte, List.mem_cons, List.not_mem_nil, or_false] at member
  rcases member with sign | high | low
  · exact .inl sign
  · exact .inr (high ▸ digitChar_plain _ (by omega))
  · exact .inr (low ▸ digitChar_plain _ (by omega))

theorem writes_ascii {written text : List Char} (writes : Writes written text) : ∀ char ∈ written, char.toNat < 128 := by
  induction writes with
  | nil => exact fun char member => absurd member List.not_mem_nil
  | kept ascii _ _ ih => exact List.forall_mem_cons.mpr ⟨ascii, ih⟩
  | escaped _ ih =>
    intro char member
    cases List.mem_append.mp member with
    | inl escape =>
      obtain ⟨byte, _, inside⟩ := List.mem_flatMap.mp escape
      cases mem_escapedByte inside with
      | inl sign => rw [sign]; decide
      | inr plain => exact alphanum_ascii plain
    | inr rest => exact ih char rest

/-- The walk of `unquote`: runs of ASCII characters are read as bytes, all others stand for themselves. -/
def unquoteFrom : List Char → List Char → List Char
  | run, [] => decode (unescape run)
  | run, char :: rest =>
    if char.toNat < 128 then unquoteFrom (run ++ [char]) rest
    else decode (unescape run) ++ char :: unquoteFrom [] rest

/-- `unquote`. -/
def unquote (text : List Char) : List Char := unquoteFrom [] text

theorem unquoteFrom_ascii {run rest : List Char} (ascii : ∀ char ∈ rest, char.toNat < 128) :
    unquoteFrom run rest = decode (unescape (run ++ rest)) := by
  induction rest generalizing run with
  | nil => rw [unquoteFrom, List.append_nil]
  | cons char rest ih =>
    rw [unquoteFrom, if_pos (ascii char List.mem_cons_self), ih fun other member => ascii other (List.mem_cons_of_mem _ member),
      List.append_assoc, List.singleton_append]

/-- What is written for a text is read as the text. -/
theorem unquote_writes {written text : List Char} (writes : Writes written text) : unquote written = text := by
  rw [unquote, unquoteFrom_ascii (writes_ascii writes), List.nil_append, unescape_writes writes, decode_encode]

end Escapes

section Quoting

variable {kept : Char → Bool}

/-- One character as `quote` writes it. -/
def quoteChar (kept : Char → Bool) (char : Char) : List Char :=
  if kept char then [char] else (String.utf8EncodeChar char).flatMap escapedByte

/-- `quote`, with the characters that are not escaped. -/
def quote (kept : Char → Bool) (text : List Char) : List Char := text.flatMap (quoteChar kept)

/-- Only ASCII characters may be kept, and never the sign of an escape. -/
def Plain (kept : Char → Bool) : Prop := ∀ char, kept char = true → char.toNat < 128 ∧ char ≠ '%'

theorem writes_quote (plain : Plain kept) (text : List Char) : Writes (quote kept text) text := by
  induction text with
  | nil => exact .nil
  | cons char text ih =>
    rw [quote, List.flatMap_cons, quoteChar]
    by_cases keep : kept char = true
    · rw [if_pos keep]
      exact .kept (plain char keep).1 (plain char keep).2 ih
    · rw [if_neg keep]
      exact .escaped ih

theorem unquote_quote (plain : Plain kept) (text : List Char) : unquote (quote kept text) = text :=
  unquote_writes (writes_quote plain text)

theorem mem_quote {text : List Char} {char : Char} (member : char ∈ quote kept text) :
    (kept char = true ∧ char ∈ text) ∨ char = '%' ∨ char.isAlphanum = true := by
  obtain ⟨source, inside, written⟩ := List.mem_flatMap.mp member
  unfold quoteChar at written
  by_cases keep : kept source = true
  · rw [if_pos keep] at written
    rw [List.mem_singleton.mp written]
    exact .inl ⟨keep, inside⟩
  · rw [if_neg keep] at written
    obtain ⟨byte, _, escape⟩ := List.mem_flatMap.mp written
    exact .inr (mem_escapedByte escape)

/-- A sign that is neither kept nor part of an escape does not come up. -/
theorem not_mem_quote {text : List Char} {char : Char} (dropped : kept char = false) (other : char ≠ '%')
    (sign : char.isAlphanum = false) : char ∉ quote kept text := by
  intro member
  rcases mem_quote member with keep | escape | letter
  · rw [dropped] at keep
    exact absurd keep.1 (by decide)
  · exact other escape
  · rw [sign] at letter
    cases letter

theorem quoteChar_head {char first : Char} {rest : List Char} (written : quoteChar kept char = first :: rest)
    (other : first ≠ '%') : kept char = true ∧ char = first ∧ rest = [] := by
  unfold quoteChar at written
  by_cases keep : kept char = true
  · rw [if_pos keep] at written
    exact ⟨keep, (List.cons.inj written).1, (List.cons.inj written).2.symm⟩
  · rw [if_neg keep] at written
    cases bytes : String.utf8EncodeChar char with
    | nil => exact absurd bytes (encodeChar_ne_nil char)
    | cons byte others =>
      rw [bytes, List.flatMap_cons] at written
      exact absurd (List.cons.inj written).1.symm other

theorem quote_eq_nil {text : List Char} (empty : quote kept text = []) : text = [] := by
  cases text with
  | nil => rfl
  | cons char text =>
    exfalso
    have none' : quoteChar kept char = [] := (List.append_eq_nil_iff.mp empty).1
    unfold quoteChar at none'
    by_cases keep : kept char = true
    · rw [if_pos keep] at none'
      cases none'
    · rw [if_neg keep] at none'
      cases bytes : String.utf8EncodeChar char with
      | nil => exact encodeChar_ne_nil char bytes
      | cons byte others =>
        rw [bytes] at none'
        cases none'

/-- Characters without an escape at the start of what is written stand at the start of the text. -/
theorem quote_prefix {mark rest text : List Char} (plain : ∀ char ∈ mark, char ≠ '%')
    (written : quote kept text = mark ++ rest) : ∃ later, text = mark ++ later ∧ quote kept later = rest := by
  induction mark generalizing text with
  | nil => exact ⟨text, rfl, written⟩
  | cons first mark ih =>
    cases text with
    | nil => cases written
    | cons char text =>
      have split : quoteChar kept char ++ quote kept text = first :: (mark ++ rest) := written
      cases head : quoteChar kept char with
      | nil =>
        have none' : quote kept [char] = [] := by rw [quote, List.flatMap_cons, head]; rfl
        cases quote_eq_nil none'
      | cons own others =>
        rw [head] at split
        obtain ⟨same, tail⟩ := List.cons.inj split
        obtain ⟨_, here, alone⟩ := quoteChar_head head (same ▸ plain first List.mem_cons_self)
        rw [alone] at tail
        obtain ⟨later, text', last⟩ := ih (fun other member => plain other (List.mem_cons_of_mem _ member)) tail
        exact ⟨later, by rw [here, same, text']; rfl, last⟩

/-- A mark that starts with a sign of its own is written only where the text has it. -/
theorem quote_infix {sign : Char} {mark before rest text : List Char} (plain : ∀ char ∈ sign :: mark, char ≠ '%')
    (special : sign.isAlphanum = false) (written : quote kept text = before ++ (sign :: mark ++ rest)) :
    ∃ first later, text = first ++ (sign :: mark ++ later) ∧ quote kept first = before ∧ quote kept later = rest := by
  induction text generalizing before with
  | nil =>
    have empty := (List.append_eq_nil_iff.mp written.symm).2
    cases empty
  | cons char text ih =>
    have split : quoteChar kept char ++ quote kept text = before ++ (sign :: mark ++ rest) := written
    cases List.append_eq_append_iff.mp split with
    | inl further =>
      obtain ⟨more, longer, tail⟩ := further
      obtain ⟨first, later, text', front, back⟩ := ih tail
      refine ⟨char :: first, later, by rw [text']; rfl, ?_, back⟩
      rw [longer, ← front]
      rfl
    | inr inside =>
      obtain ⟨own, shorter, tail⟩ := inside
      cases own with
      | nil =>
        rw [List.append_nil] at shorter
        obtain ⟨first, later, text', front, back⟩ := ih (by rw [List.nil_append] at tail; rw [List.nil_append]; exact tail.symm)
        have none' := quote_eq_nil front
        rw [none', List.nil_append] at text'
        refine ⟨[char], later, by rw [text']; rfl, ?_, back⟩
        rw [← shorter, quote, List.flatMap_singleton]
      | cons here others =>
        obtain ⟨same, _⟩ := List.cons.inj tail
        have member : here ∈ quoteChar kept char := shorter ▸ List.mem_append_right _ List.mem_cons_self
        have kept' : quoteChar kept char = [sign] := by
          unfold quoteChar at member ⊢
          by_cases keep : kept char = true
          · rw [if_pos keep] at member ⊢
            rw [← List.mem_singleton.mp member, same]
          · rw [if_neg keep] at member
            obtain ⟨byte, _, escape⟩ := List.mem_flatMap.mp member
            rw [← same] at escape
            cases mem_escapedByte escape with
            | inl clash => exact absurd clash (plain sign List.mem_cons_self)
            | inr letter =>
              rw [special] at letter
              cases letter
        have start : before = [] ∧ others = [] := by
          rw [kept'] at shorter
          cases before with
          | nil => exact ⟨rfl, ((List.cons.inj shorter).2).symm⟩
          | cons other before =>
            have lengths := congrArg List.length shorter
            simp at lengths
        obtain ⟨later, text', last⟩ := quote_prefix plain (written.trans (by rw [start.1]; rfl))
        exact ⟨[], later, text', start.1.symm ▸ rfl, last⟩

end Quoting

end Jiejian.Library.PercentEncoding
