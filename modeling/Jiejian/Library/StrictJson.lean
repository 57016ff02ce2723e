import Jiejian.Library.JsonText
import Jiejian.Library.Outcome

namespace Jiejian.Library.StrictJson

open Outcome JsonText

section Utf8

/-- The UTF-8 bytes of a code point. -/
def pointBytes (point : Nat) : List UInt8 :=
  if point < 0x80 then [UInt8.ofNat point]
  else if point < 0x800 then [UInt8.ofNat (0xC0 + point / 0x40), UInt8.ofNat (0x80 + point % 0x40)]
  else if point < 0x10000 then
    [UInt8.ofNat (0xE0 + point / 0x1000), UInt8.ofNat (0x80 + point / 0x40 % 0x40), UInt8.ofNat (0x80 + point % 0x40)]
  else
    [UInt8.ofNat (0xF0 + point / 0x40000), UInt8.ofNat (0x80 + point / 0x1000 % 0x40),
      UInt8.ofNat (0x80 + point / 0x40 % 0x40), UInt8.ofNat (0x80 + point % 0x40)]

/-- `text.encode("utf-8")`; lone surrogates have no bytes. -/
def encodeUtf8 (text : Points) : Option (List UInt8) := if whole text then some (text.flatMap pointBytes) else none

/-- `content.decode("utf-8")`. -/
def strictUtf8 (content : List UInt8) : Option Points := (decodeUtf8 content).filter whole

/-- Code points go up to this one. -/
def Valid (text : Points) : Prop := ∀ point ∈ text, point ≤ 0x10FFFF

theorem toNat_byte {value : Nat} (small : value < 256) : (UInt8.ofNat value).toNat = value := by
  rw [UInt8.toNat_ofNat']
  exact Nat.mod_eq_of_lt small

theorem tail_byte {value : Nat} (small : value < 0x40) : tail? (UInt8.ofNat (0x80 + value)) = some value := by
  have byte : (UInt8.ofNat (0x80 + value)).toNat = 0x80 + value := toNat_byte (by omega)
  unfold tail?
  rw [byte, if_pos ⟨by omega, by omega⟩, Nat.add_sub_cancel_left]

/-- The bytes of a code point are read back as it. -/
theorem utf8Point_bytes {point : Nat} (valid : point ≤ 0x10FFFF) (rest : List UInt8) :
    utf8Point (pointBytes point ++ rest) = some (point, rest) := by
  unfold pointBytes
  by_cases one : point < 0x80
  · rw [if_pos one]
    show utf8Point (UInt8.ofNat point :: rest) = _
    rw [utf8Point.eq_def]
    dsimp only
    rw [toNat_byte (by omega), if_pos one]
  · rw [if_neg one]
    by_cases two : point < 0x800
    · rw [if_pos two]
      show utf8Point (UInt8.ofNat (0xC0 + point / 0x40) :: UInt8.ofNat (0x80 + point % 0x40) :: rest) = _
      rw [utf8Point.eq_def]
      dsimp only
      rw [toNat_byte (by omega), if_neg (by omega), if_pos (by omega)]
      dsimp only [bind, Option.bind]
      rw [tail_byte (Nat.mod_lt _ (by decide))]
      show some (_, rest) = _
      congr 2
      omega
    · rw [if_neg two]
      by_cases three : point < 0x10000
      · rw [if_pos three]
        show utf8Point (UInt8.ofNat (0xE0 + point / 0x1000) :: UInt8.ofNat (0x80 + point / 0x40 % 0x40) ::
          UInt8.ofNat (0x80 + point % 0x40) :: rest) = _
        rw [utf8Point.eq_def]
        dsimp only
        rw [toNat_byte (by omega), if_neg (by omega), if_neg (by omega), if_pos (by omega)]
        dsimp only [bind, Option.bind]
        rw [tail_byte (Nat.mod_lt _ (by decide)), tail_byte (Nat.mod_lt _ (by decide))]
        dsimp only
        have same : (0xE0 + point / 0x1000 - 0xE0) * 0x1000 + point / 0x40 % 0x40 * 0x40 + point % 0x40 = point := by omega
        rw [same, if_pos (by omega)]
      · rw [if_neg three]
        show utf8Point (UInt8.ofNat (0xF0 + point / 0x40000) :: UInt8.ofNat (0x80 + point / 0x1000 % 0x40) ::
          UInt8.ofNat (0x80 + point / 0x40 % 0x40) :: UInt8.ofNat (0x80 + point % 0x40) :: rest) = _
        rw [utf8Point.eq_def]
        dsimp only
        rw [toNat_byte (by omega), if_neg (by omega), if_neg (by omega), if_neg (by omega), if_pos (by omega)]
        dsimp only [bind, Option.bind]
        rw [tail_byte (Nat.mod_lt _ (by decide)), tail_byte (Nat.mod_lt _ (by decide)), tail_byte (Nat.mod_lt _ (by decide))]
        dsimp only
        have same : (0xF0 + point / 0x40000 - 0xF0) * 0x40000 + point / 0x1000 % 0x40 * 0x1000 +
            point / 0x40 % 0x40 * 0x40 + point % 0x40 = point := by omega
        rw [same, if_pos (by omega)]

theorem pointBytes_ne_nil (point : Nat) : 0 < (pointBytes point).length := by
  unfold pointBytes
  by_cases one : point < 0x80
  · simp [one]
  · by_cases two : point < 0x800
    · simp [one, two]
    · by_cases three : point < 0x10000 <;> simp [one, two, three]

theorem utf8From_bytes {text : Points} (valid : Valid text) {fuel : Nat}
    (enough : (text.flatMap pointBytes).length ≤ fuel) : utf8From fuel (text.flatMap pointBytes) = some text := by
  induction text generalizing fuel with
  | nil => cases fuel <;> rfl
  | cons point text ih =>
    have first := pointBytes_ne_nil point
    rw [List.flatMap_cons, List.length_append] at enough
    cases fuel with
    | zero => omega
    | succ fuel =>
      have later := @ih (fun other member => valid other (List.mem_cons_of_mem _ member)) fuel (by omega)
      rw [List.flatMap_cons]
      cases shape : pointBytes point ++ text.flatMap pointBytes with
      | nil =>
        have length := congrArg List.length shape
        rw [List.length_append, List.length_nil] at length
        omega
      | cons byte bytes =>
        rw [utf8From, ← shape, utf8Point_bytes (valid point List.mem_cons_self)]
        · dsimp only [bind, Option.bind]
          rw [later]
          rfl
        · exact fun empty => by cases empty

/-- A text that can be encoded is decoded from its bytes. -/
theorem strictUtf8_encode {text : Points} (valid : Valid text) {content : List UInt8}
    (encoded : encodeUtf8 text = some content) : strictUtf8 content = some text := by
  unfold encodeUtf8 at encoded
  by_cases plain : whole text = true
  · rw [if_pos plain] at encoded
    unfold strictUtf8 decodeUtf8
    rw [← Option.some.inj encoded, utf8From_bytes valid (Nat.le_refl _), Option.filter_some, if_pos plain]
  · rw [if_neg plain] at encoded
    cases encoded

end Utf8

section Strings

theorem hexUnit_low : ∀ point < 32, hexUnit 48 48 (hexPoint (point / 16)) (hexPoint (point % 16)) = some point := by decide

/-- A code point with a meaning of its own is written with a sign for it. -/
theorem scanString_sign {point sign fuel : Nat} {rest : Points} (named : escape sign = some point) (single : sign ≠ 117) :
    scanString (fuel + 1) (92 :: sign :: rest) = (scanString fuel rest).map fun read => (point :: read.1, read.2) := by
  rw [scanString]
  · rw [named]
    dsimp only [bind, Option.bind]
    cases scanString fuel rest <;> rfl
  · intro first second third fourth later same
    exact absurd same single

theorem scanString_unit {point fuel : Nat} {rest : Points} (low : point < 32) :
    scanString (fuel + 1) (92 :: 117 :: 48 :: 48 :: hexPoint (point / 16) :: hexPoint (point % 16) :: rest) =
      (scanString fuel rest).map fun read => (point :: read.1, read.2) := by
  have single : highSurrogate point = false := by
    unfold highSurrogate
    rw [Bool.and_eq_false_iff, decide_eq_false_iff_not]
    exact .inl (by omega)
  rw [scanString, hexUnit_low point low]
  simp only [Option.bind_eq_bind, Option.bind_some]
  generalize chosen : Option.getD _ (point, rest) = read
  -- what follows may be an escape too, but a low unit starts no pair
  have same : read = (point, rest) := by
    rw [← chosen]
    split
    · rename_i fifth sixth seventh eighth later
      cases hexUnit fifth sixth seventh eighth <;> simp [single]
    · rfl
  rw [same]
  cases scanString fuel rest <;> rfl

theorem scanString_plain {point fuel : Nat} {rest : Points} (quote : point ≠ 34) (slash : point ≠ 92) (high : 32 ≤ point) :
    scanString (fuel + 1) (point :: rest) = (scanString fuel rest).map fun read => (point :: read.1, read.2) := by
  rw [scanString]
  · rw [if_neg (by omega)]
    dsimp only [bind, Option.bind]
    cases scanString fuel rest <;> rfl
  · exact fun same => absurd same quote
  · intro first second third fourth later same
    exact absurd same slash
  · intro sign later same
    exact absurd same slash

/-- A written code point is read back as it. -/
theorem scanString_escaped (point fuel : Nat) (rest : Points) :
    scanString (fuel + 1) (escaped point ++ rest) = (scanString fuel rest).map fun read => (point :: read.1, read.2) := by
  unfold escaped
  by_cases quote : point = 34
  · rw [if_pos quote, quote]
    exact scanString_sign rfl (by decide)
  rw [if_neg quote]
  by_cases slash : point = 92
  · rw [if_pos slash, slash]
    exact scanString_sign rfl (by decide)
  rw [if_neg slash]
  by_cases line : point = 10
  · rw [if_pos line, line]
    exact scanString_sign rfl (by decide)
  rw [if_neg line]
  by_cases back : point = 13
  · rw [if_pos back, back]
    exact scanString_sign rfl (by decide)
  rw [if_neg back]
  by_cases tab : point = 9
  · rw [if_pos tab, tab]
    exact scanString_sign rfl (by decide)
  rw [if_neg tab]
  by_cases page : point = 12
  · rw [if_pos page, page]
    exact scanString_sign rfl (by decide)
  rw [if_neg page]
  by_cases bell : point = 8
  · rw [if_pos bell, bell]
    exact scanString_sign rfl (by decide)
  rw [if_neg bell]
  by_cases low : point < 32
  · rw [if_pos low]
    exact scanString_unit low
  · rw [if_neg low]
    exact scanString_plain quote slash (by omega)

theorem scanString_text (text : Points) {fuel : Nat} (enough : text.length < fuel) (rest : Points) :
    scanString fuel (text.flatMap escaped ++ 34 :: rest) = some (text, rest) := by
  induction text generalizing fuel with
  | nil =>
    cases fuel with
    | zero => omega
    | succ fuel => rfl
  | cons point text ih =>
    cases fuel with
    | zero => omega
    | succ fuel =>
      rw [List.length_cons] at enough
      rw [List.flatMap_cons, List.append_assoc, scanString_escaped, ih (by omega)]
      rfl

theorem length_escaped (point : Nat) : 0 < (escaped point).length := by
  unfold escaped
  split_ifs <;> simp

theorem length_le_escaped (text : Points) : text.length ≤ (text.flatMap escaped).length := by
  induction text with
  | nil => exact Nat.le_refl _
  | cons point text ih =>
    have first := length_escaped point
    rw [List.flatMap_cons, List.length_append, List.length_cons]
    omega

/-- A quoted string is read back, whatever follows. -/
theorem scanText_quoted (text rest : Points) : scanText (text.flatMap escaped ++ 34 :: rest) = .ok (text, rest) := by
  have enough : text.length < (text.flatMap escaped ++ 34 :: rest).length + 1 := by
    have inner := length_le_escaped text
    rw [List.length_append]
    omega
  unfold scanText
  rw [scanString_text text enough rest]

end Strings

section Numbers

def digitsOf (number : Nat) : Points := (Nat.toDigits 10 number).map Char.toNat

theorem digit_toNat {char : Char} (plain : char.isDigit = true) : digit char.toNat = true := by
  obtain ⟨least, most⟩ := Char.isDigit_iff_toNat.mp plain
  unfold digit
  rw [Bool.and_eq_true, decide_eq_true_eq, decide_eq_true_eq]
  exact ⟨least, most⟩

theorem digitsOf_digit {number point : Nat} (member : point ∈ digitsOf number) : digit point = true := by
  obtain ⟨char, listed, same⟩ := List.mem_map.mp member
  rw [← same]
  exact digit_toNat (Nat.isDigit_of_mem_toDigits (by decide) (by decide) listed)

/-- A number is read off its digits. -/
theorem natural_digitsOf (number : Nat) : natural (digitsOf number) = number := by
  unfold natural digitsOf
  rw [List.foldl_map]
  exact Nat.ofDigitChars_ten_toDigits

theorem digitChar_code : ∀ digit < 10, digit.digitChar.toNat = 48 + digit := by decide

/-- Only zero starts with a zero. -/
theorem digitsOf_head {number : Nat} (positive : 0 < number) :
    ∃ first rest, digitsOf number = first :: rest ∧ first ≠ 48 := by
  induction number using Nat.base_induction 10 (by decide) with
  | single number small =>
    refine ⟨48 + number, [], ?_, by omega⟩
    unfold digitsOf
    rw [Nat.toDigits_of_lt_base small, List.map_singleton, digitChar_code number small]
  | digit front last small some' ih =>
    obtain ⟨first, rest, same, other⟩ := ih some'
    refine ⟨first, rest ++ (Nat.toDigits 10 last).map Char.toNat, ?_, other⟩
    unfold digitsOf at same ⊢
    rw [← Nat.toDigits_append_toDigits (by decide) some' small, List.map_append, same]
    rfl

/-- What follows a number and does not go on with it. -/
def Ends (rest : Points) : Prop :=
  ∀ point ∈ rest.head?, digit point = false ∧ point ≠ 46 ∧ point ≠ 101 ∧ point ≠ 69

theorem ends_nil : Ends [] := by
  intro point absent
  cases absent

theorem ends_cons {point : Nat} {rest : Points} (other : digit point = false ∧ point ≠ 46 ∧ point ≠ 101 ∧ point ≠ 69) :
    Ends (point :: rest) := by
  intro first same
  cases same
  exact other

theorem takeWhile_digits {digits rest : Points} (all : ∀ point ∈ digits, digit point = true)
    (ends : ∀ point ∈ rest.head?, digit point = false) :
    (digits ++ rest).takeWhile digit = digits ∧ (digits ++ rest).dropWhile digit = rest := by
  induction digits with
  | nil =>
    cases rest with
    | nil => exact ⟨rfl, rfl⟩
    | cons point rest =>
      have other : ¬digit point = true := by
        rw [ends point rfl]
        decide
      exact ⟨List.takeWhile_cons_of_neg other, List.dropWhile_cons_of_neg other⟩
  | cons point digits ih =>
    obtain ⟨taken, dropped⟩ := ih fun other member => all other (List.mem_cons_of_mem _ member)
    have here := all point List.mem_cons_self
    rw [List.cons_append, List.takeWhile_cons_of_pos here, List.dropWhile_cons_of_pos here, taken, dropped]
    exact ⟨rfl, rfl⟩

/-- The digits before the point of a number: zero, or no zero first. -/
def Leading (digits : Points) : Prop :=
  digits = [48] ∨ ∃ first rest, digits = first :: rest ∧ first ≠ 48 ∧ ∀ point ∈ digits, digit point = true

theorem digitsOf_leading (number : Nat) : Leading (digitsOf number) := by
  cases Nat.eq_zero_or_pos number with
  | inl zero =>
    rw [zero]
    exact .inl rfl
  | inr positive =>
    obtain ⟨first, rest, same, other⟩ := digitsOf_head positive
    exact .inr ⟨first, rest, same, other, fun _ member => digitsOf_digit member⟩

theorem scanDigits_leading {digits rest : Points} (leading : Leading digits)
    (ends : ∀ point ∈ rest.head?, digit point = false) : scanDigits (digits ++ rest) = some (digits, rest) := by
  cases leading with
  | inl zero =>
    rw [zero]
    rfl
  | inr other =>
    obtain ⟨first, later, same, nonzero, all⟩ := other
    rw [same] at all ⊢
    have here := all first List.mem_cons_self
    obtain ⟨taken, dropped⟩ := takeWhile_digits (fun point member => all point (List.mem_cons_of_mem _ member)) ends
    rw [List.cons_append, scanDigits, if_pos here, taken, dropped]
    exact fun eq => absurd eq nonzero

def Fraction (text : Points) : Prop :=
  text = [] ∨ ∃ digits, text = 46 :: digits ∧ digits ≠ [] ∧ ∀ point ∈ digits, digit point = true

def Exponent (text : Points) : Prop :=
  text = [] ∨ ∃ mark sign digits, text = mark :: (sign ++ digits) ∧ (mark = 101 ∨ mark = 69) ∧
    (sign = [] ∨ sign = [43] ∨ sign = [45]) ∧ digits ≠ [] ∧ ∀ point ∈ digits, digit point = true

theorem scanExponent_ends {rest : Points} (ends : Ends rest) : scanExponent rest = ([], rest) := by
  cases rest with
  | nil => rfl
  | cons point rest =>
    obtain ⟨_, _, small, large⟩ := ends point rfl
    rw [scanExponent, if_neg fun either => either.elim small large]

theorem isEmpty_false {points : Points} (some' : points ≠ []) : ¬points.isEmpty = true := by
  rw [List.isEmpty_iff]
  exact some'

theorem scanExponent_written {exponent rest : Points} (written : Exponent exponent) (ends : Ends rest) :
    scanExponent (exponent ++ rest) = (exponent, rest) := by
  cases written with
  | inl none' =>
    rw [none']
    exact scanExponent_ends ends
  | inr some' =>
    obtain ⟨mark, sign, digits, same, marked, signed, nonempty, all⟩ := some'
    obtain ⟨taken, dropped⟩ := takeWhile_digits all fun point member => (ends point member).1
    have read : ((sign ++ digits ++ rest).head?.filter fun point => point = 43 || point = 45).toList = sign := by
      rcases signed with none' | plus | minus
      · rw [none', List.nil_append]
        cases digits with
        | nil => exact absurd rfl nonempty
        | cons first digits =>
          have code := all first List.mem_cons_self
          have other : ((first = 43 || first = 45) : Bool) = false := by
            unfold digit at code
            rw [Bool.and_eq_true, decide_eq_true_eq, decide_eq_true_eq] at code
            rw [Bool.or_eq_false_iff, decide_eq_false_iff_not, decide_eq_false_iff_not]
            omega
          rw [List.cons_append, List.head?_cons, Option.filter_some, if_neg (by rw [other]; decide)]
          rfl
      · rw [plus]
        rfl
      · rw [minus]
        rfl
    rw [same, List.cons_append, scanExponent, if_pos marked]
    dsimp only
    have rest' : (sign ++ digits ++ rest).drop sign.length = digits ++ rest := by
      rw [List.append_assoc, List.drop_left]
    rw [read, rest', taken, dropped, if_neg (isEmpty_false nonempty)]

theorem scanFraction_none {rest : Points} (other : ∀ point ∈ rest.head?, point ≠ 46) : scanFraction rest = ([], rest) := by
  cases rest with
  | nil => rfl
  | cons point rest =>
    unfold scanFraction
    split
    · rename_i same
      cases same
      exact absurd rfl (other 46 rfl)
    · rfl

theorem scanFraction_written {fraction rest : Points} (written : Fraction fraction)
    (ends : ∀ point ∈ rest.head?, digit point = false ∧ point ≠ 46) :
    scanFraction (fraction ++ rest) = (fraction, rest) := by
  cases written with
  | inl none' =>
    rw [none']
    exact scanFraction_none fun point member => (ends point member).2
  | inr some' =>
    obtain ⟨digits, same, nonempty, all⟩ := some'
    obtain ⟨taken, dropped⟩ := takeWhile_digits all fun point member => (ends point member).1
    rw [same, List.cons_append, scanFraction, taken, dropped, if_neg (isEmpty_false nonempty)]

/-- What may follow the fraction: the exponent, or what follows the number. -/
theorem exponent_ends {exponent rest : Points} (written : Exponent exponent) (ends : Ends rest) :
    ∀ point ∈ (exponent ++ rest).head?, digit point = false ∧ point ≠ 46 := by
  intro point member
  cases written with
  | inl none' =>
    rw [none', List.nil_append] at member
    exact ⟨(ends point member).1, (ends point member).2.1⟩
  | inr some' =>
    obtain ⟨mark, sign, digits, same, marked, _⟩ := some'
    rw [same] at member
    cases member
    rcases marked with small | large
    · rw [small]
      decide
    · rw [large]
      decide

theorem fraction_ends {fraction rest : Points} (written : Fraction fraction)
    (ends : ∀ point ∈ rest.head?, digit point = false) : ∀ point ∈ (fraction ++ rest).head?, digit point = false := by
  intro point member
  cases written with
  | inl none' =>
    rw [none', List.nil_append] at member
    exact ends point member
  | inr some' =>
    obtain ⟨digits, same, _⟩ := some'
    rw [same] at member
    cases member
    decide

theorem leading_head {digits rest : Points} (leading : Leading digits) :
    ∃ first later, digits ++ rest = first :: later ∧ digit first = true := by
  cases leading with
  | inl zero =>
    rw [zero]
    exact ⟨48, rest, rfl, by decide⟩
  | inr other =>
    obtain ⟨first, later, same, _, all⟩ := other
    refine ⟨first, later ++ rest, ?_, all first (same ▸ List.mem_cons_self)⟩
    rw [same]
    rfl

def signed (minus : Bool) (text : Points) : Points := if minus then 45 :: text else text

/-- A number is read part by part. -/
theorem scanNumber_parts (minus : Bool) {digits fraction exponent rest : Points} (leading : Leading digits)
    (fractionWritten : Fraction fraction) (exponentWritten : Exponent exponent) (ends : Ends rest) :
    scanNumber (signed minus (digits ++ (fraction ++ (exponent ++ rest)))) =
      if fraction.isEmpty && exponent.isEmpty then
        if digits.length ≤ 4300 then .ok (.int (if minus then -(natural digits : Int) else natural digits), rest)
        else .error .tooLong
      else .ok (.float (ascii ((if minus then [45] else []) ++ digits ++ fraction ++ exponent)), rest) := by
  have after := exponent_ends exponentWritten ends
  have read := scanDigits_leading leading (fraction_ends fractionWritten fun point member => (after point member).1)
  have sign : (signed minus (digits ++ (fraction ++ (exponent ++ rest)))).head? = some 45 ↔ minus = true := by
    cases minus with
    | true => exact ⟨fun _ => rfl, fun _ => rfl⟩
    | false =>
      obtain ⟨first, later, same, code⟩ := @leading_head digits (fraction ++ (exponent ++ rest)) leading
      have other : first ≠ 45 := by
        intro eq
        rw [eq] at code
        exact absurd code (by decide)
      show (digits ++ (fraction ++ (exponent ++ rest))).head? = some 45 ↔ _
      rw [same, List.head?_cons]
      exact ⟨fun eq => absurd (Option.some.inj eq) other, fun eq => by cases eq⟩
  have unsigned : (if minus = true then (signed minus (digits ++ (fraction ++ (exponent ++ rest)))).drop 1
      else signed minus (digits ++ (fraction ++ (exponent ++ rest)))) = digits ++ (fraction ++ (exponent ++ rest)) := by
    cases minus <;> rfl
  unfold scanNumber
  dsimp only
  simp only [sign]
  rw [unsigned, read]
  dsimp only
  rw [scanFraction_written fractionWritten after]
  dsimp only
  rw [scanExponent_written exponentWritten ends]

end Numbers

section Validity

theorem Valid.suffix {text rest : Points} (valid : Valid text) (last : rest <:+ text) : Valid rest :=
  fun point member => valid point (last.mem member)

theorem Valid.append {front back : Points} (first : Valid front) (second : Valid back) : Valid (front ++ back) := by
  intro point member
  cases List.mem_append.mp member with
  | inl here => exact first point here
  | inr later => exact second point later

theorem Valid.cons {point : Nat} {text : Points} (first : point ≤ 0x10FFFF) (valid : Valid text) : Valid (point :: text) :=
  List.forall_mem_cons.mpr ⟨first, valid⟩

theorem valid_points (text : String) : Valid (points text) := by
  intro point member
  obtain ⟨char, _, same⟩ := List.mem_map.mp member
  have bound := char.valid
  rw [← same]
  show char.val.toNat ≤ _
  cases bound with
  | inl low => omega
  | inr high => omega

theorem tail_le {byte : UInt8} {value : Nat} (read : tail? byte = some value) : value < 0x40 := by
  unfold tail? at read
  by_cases range : 0x80 ≤ byte.toNat ∧ byte.toNat ≤ 0xBF
  · rw [if_pos range] at read
    have same := Option.some.inj read
    omega
  · rw [if_neg range] at read
    cases read

/-- What is read from bytes is a code point. -/
theorem utf8Point_valid {bytes rest : List UInt8} {point : Nat} (read : utf8Point bytes = some (point, rest)) :
    point ≤ 0x10FFFF := by
  unfold utf8Point at read
  split at read
  · cases read
  split at read
  · cases read
    omega
  split at read
  · -- two bytes
    split at read
    · obtain ⟨low, readLow, same⟩ := Option.bind_eq_some_iff.mp read
      have bound := tail_le readLow
      cases same
      omega
    · cases read
  split at read
  · -- three bytes
    split at read
    · obtain ⟨middle, readMiddle, read⟩ := Option.bind_eq_some_iff.mp read
      obtain ⟨low, readLow, same⟩ := Option.bind_eq_some_iff.mp read
      have bound := tail_le readMiddle
      have bound' := tail_le readLow
      dsimp only at same
      split at same
      · cases same
        omega
      · cases same
    · cases read
  split at read
  · -- four bytes
    split at read
    · obtain ⟨high, readHigh, read⟩ := Option.bind_eq_some_iff.mp read
      obtain ⟨middle, readMiddle, read⟩ := Option.bind_eq_some_iff.mp read
      obtain ⟨low, readLow, same⟩ := Option.bind_eq_some_iff.mp read
      dsimp only at same
      split at same
      · rename_i range
        cases same
        exact range.2
      · cases same
    · cases read
  · cases read

theorem utf8From_valid {fuel : Nat} {bytes : List UInt8} {text : Points} (read : utf8From fuel bytes = some text) :
    Valid text := by
  induction fuel generalizing bytes text with
  | zero =>
    cases bytes with
    | nil =>
      cases read
      exact fun point member => absurd member List.not_mem_nil
    | cons byte bytes => cases read
  | succ fuel ih =>
    cases bytes with
    | nil =>
      cases read
      exact fun point member => absurd member List.not_mem_nil
    | cons byte bytes =>
      rw [utf8From] at read
      · obtain ⟨first, readFirst, read⟩ := Option.bind_eq_some_iff.mp read
        obtain ⟨later, readLater, same⟩ := Option.bind_eq_some_iff.mp read
        cases same
        exact (ih readLater).cons (utf8Point_valid readFirst)
      · exact fun empty => by cases empty

theorem strictUtf8_valid {content : List UInt8} {text : Points} (read : strictUtf8 content = some text) :
    Valid text ∧ whole text = true := by
  obtain ⟨decoded, plain⟩ := Option.filter_eq_some_iff.mp read
  exact ⟨utf8From_valid decoded, plain⟩

theorem hexValue_lt {point value : Nat} (read : hexValue point = some value) : value < 16 := by
  unfold hexValue at read
  split at read
  · cases read
    omega
  split at read
  · cases read
    omega
  split at read
  · cases read
    omega
  · cases read

theorem hexUnit_lt {first second third fourth unit : Nat} (read : hexUnit first second third fourth = some unit) :
    unit < 0x10000 := by
  obtain ⟨first, readFirst, read⟩ := Option.bind_eq_some_iff.mp read
  obtain ⟨second, readSecond, read⟩ := Option.bind_eq_some_iff.mp read
  obtain ⟨third, readThird, read⟩ := Option.bind_eq_some_iff.mp read
  obtain ⟨fourth, readFourth, same⟩ := Option.bind_eq_some_iff.mp read
  have firstLt := hexValue_lt readFirst
  have secondLt := hexValue_lt readSecond
  have thirdLt := hexValue_lt readThird
  have fourthLt := hexValue_lt readFourth
  cases same
  omega

theorem joined_le {high low : Nat} (pair : (highSurrogate high && lowSurrogate low) = true) : joined high low ≤ 0x10FFFF := by
  unfold highSurrogate lowSurrogate at pair
  simp only [Bool.and_eq_true, decide_eq_true_eq] at pair
  unfold joined
  omega

theorem escape_le {sign point : Nat} (named : escape sign = some point) : point ≤ 0x10FFFF := by
  unfold escape at named
  split at named <;> cases named <;> decide

theorem valid_nil : Valid [] := fun _ member => absurd member List.not_mem_nil

/-- A string that is read consists of code points, and so does what follows it. -/
theorem scanString_valid {fuel : Nat} {text content rest : Points} (scanned : scanString fuel text = some (content, rest))
    (valid : Valid text) : Valid content ∧ Valid rest := by
  induction fuel, text using scanString.induct generalizing content rest with
  | case1 text => cases scanned
  | case2 fuel => cases scanned
  | case3 fuel later =>
    cases scanned
    exact ⟨valid_nil, valid.suffix (List.suffix_cons _ _)⟩
  | case4 fuel first second third fourth later ih =>
    rw [scanString] at scanned
    obtain ⟨unit, readUnit, scanned⟩ := Option.bind_eq_some_iff.mp scanned
    have small := hexUnit_lt readUnit
    have remaining : Valid later := valid.suffix ⟨[92, 117, first, second, third, fourth], rfl⟩
    dsimp only at scanned
    generalize chosen : Option.getD _ (unit, later) = read at scanned
    have fine : read.1 ≤ 0x10FFFF ∧ Valid read.2 := by
      rw [← chosen]
      split
      · rename_i fifth sixth seventh eighth after
        cases readLow : hexUnit fifth sixth seventh eighth with
        | none => exact ⟨by dsimp only [Option.bind, Option.getD]; omega, remaining⟩
        | some low =>
          dsimp only [Option.bind]
          by_cases pair : (highSurrogate unit && lowSurrogate low) = true
          · rw [if_pos pair]
            exact ⟨joined_le pair, remaining.suffix ⟨[92, 117, fifth, sixth, seventh, eighth], rfl⟩⟩
          · rw [if_neg pair]
            exact ⟨by dsimp only [Option.getD]; omega, remaining⟩
      · exact ⟨by dsimp only [Option.getD]; omega, remaining⟩
    obtain ⟨found, scannedLater, same⟩ := Option.bind_eq_some_iff.mp scanned
    obtain ⟨validLater, validRest⟩ := ih read.2 scannedLater fine.2
    cases same
    exact ⟨validLater.cons fine.1, validRest⟩
  | case5 fuel sign later other ih =>
    rw [scanString] at scanned
    · obtain ⟨point, named, scanned⟩ := Option.bind_eq_some_iff.mp scanned
      obtain ⟨found, scannedLater, same⟩ := Option.bind_eq_some_iff.mp scanned
      obtain ⟨validLater, validRest⟩ := ih scannedLater (valid.suffix ⟨[92, sign], rfl⟩)
      cases same
      exact ⟨validLater.cons (escape_le named), validRest⟩
    · exact other
  | case6 fuel point later quote unit sign control =>
    rw [scanString] at scanned
    · rw [if_pos control] at scanned
      cases scanned
    · exact quote
    · exact unit
    · exact sign
  | case7 fuel point later quote unit sign plain ih =>
    rw [scanString] at scanned
    · rw [if_neg plain] at scanned
      obtain ⟨found, scannedLater, same⟩ := Option.bind_eq_some_iff.mp scanned
      obtain ⟨validLater, validRest⟩ := ih scannedLater (valid.suffix (List.suffix_cons _ _))
      cases same
      exact ⟨validLater.cons (valid point List.mem_cons_self), validRest⟩
    · exact quote
    · exact unit
    · exact sign

theorem scanText_valid {text content rest : Points} (scanned : scanText text = .ok (content, rest)) (valid : Valid text) :
    Valid content ∧ Valid rest := by
  unfold scanText at scanned
  split at scanned
  · rename_i read found
    cases scanned
    exact scanString_valid found valid
  · cases scanned

theorem foldl_digits_lt {digits : Points} (all : ∀ point ∈ digits, digit point = true) {start bound : Nat}
    (below : start < bound) :
    digits.foldl (fun value point => 10 * value + (point - 48)) start < bound * Nat.pow 10 digits.length := by
  induction digits generalizing start bound with
  | nil =>
    show start < bound * 1
    omega
  | cons point digits ih =>
    have code := all point List.mem_cons_self
    unfold digit at code
    rw [Bool.and_eq_true, decide_eq_true_eq, decide_eq_true_eq] at code
    have next : 10 * start + (point - 48) < bound * 10 := by omega
    have later := ih (fun other member => all other (List.mem_cons_of_mem _ member)) next
    have longer : Nat.pow 10 (digits.length + 1) = 10 * Nat.pow 10 digits.length := Nat.mul_comm _ _
    rw [List.foldl_cons, List.length_cons, longer]
    rw [Nat.mul_assoc] at later
    exact later

theorem natural_lt {digits : Points} (all : ∀ point ∈ digits, digit point = true) : natural digits < Nat.pow 10 digits.length := by
  have below := foldl_digits_lt all Nat.one_pos
  rw [Nat.one_mul] at below
  exact below

theorem digitsOf_natural {digits : Points} (all : ∀ point ∈ digits, digit point = true) (some' : digits ≠ []) :
    (digitsOf (natural digits)).length ≤ digits.length := by
  unfold digitsOf
  rw [List.length_map]
  exact (Nat.length_toDigits_le_iff (by decide) (List.length_pos_iff.mpr some')).mpr (natural_lt all)

theorem scanDigits_valid {text digits rest : Points} (scanned : scanDigits text = some (digits, rest)) :
    (∀ point ∈ digits, digit point = true) ∧ digits ≠ [] ∧ rest <:+ text := by
  unfold scanDigits at scanned
  split at scanned
  · cases scanned
    exact ⟨by decide, by decide, List.suffix_cons _ _⟩
  · rename_i first later _
    split at scanned
    · rename_i code
      cases scanned
      refine ⟨?_, List.cons_ne_nil _ _, (List.dropWhile_suffix _).trans (List.suffix_cons _ _)⟩
      intro point member
      cases List.mem_cons.mp member with
      | inl here => exact here ▸ code
      | inr later => exact List.all_eq_true.mp List.all_takeWhile point later
    · cases scanned
  · cases scanned

theorem scanFraction_suffix (text : Points) : (scanFraction text).2 <:+ text := by
  unfold scanFraction
  split
  · split
    · exact List.suffix_refl _
    · exact (List.dropWhile_suffix _).trans (List.suffix_cons _ _)
  · exact List.suffix_refl _

theorem scanExponent_suffix (text : Points) : (scanExponent text).2 <:+ text := by
  unfold scanExponent
  split
  · split
    · dsimp only
      split
      · exact List.suffix_refl _
      · exact (List.dropWhile_suffix _).trans ((List.drop_suffix _ _).trans (List.suffix_cons _ _))
    · exact List.suffix_refl _
  · exact List.suffix_refl _

/-- An integer that is read is not too long, and nothing else than a number is. -/
theorem scanNumber_valid {text rest : Points} {value : Value} (scanned : scanNumber text = .ok (value, rest)) :
    rest <:+ text ∧ ((∃ number : Int, value = .int number ∧ (digitsOf number.natAbs).length ≤ 4300) ∨
      ∃ numeral, value = .float numeral) := by
  unfold scanNumber at scanned
  dsimp only at scanned
  have start : (if text.head? = some 45 then text.drop 1 else text) <:+ text := by
    split
    · exact List.drop_suffix _ _
    · exact List.suffix_refl _
  split at scanned
  · cases scanned
  · rename_i digits after found
    obtain ⟨all, some', last⟩ := scanDigits_valid found
    have suffix := ((scanExponent_suffix _).trans (scanFraction_suffix after)).trans (last.trans start)
    split at scanned
    · split at scanned
      · rename_i short
        cases scanned
        refine ⟨suffix, .inl ⟨_, rfl, ?_⟩⟩
        have same : (if text.head? = some 45 then -(natural digits : Int) else natural digits).natAbs = natural digits := by
          split <;> omega
        rw [same]
        exact Nat.le_trans (digitsOf_natural all some') short
      · cases scanned
    · cases scanned
      exact ⟨suffix, .inr ⟨_, rfl⟩⟩

theorem scanFlat_valid {text rest : Points} {value : Value} (scanned : scanFlat text = .ok (value, rest)) :
    rest <:+ text ∧ (value = .null ∨ (∃ flag, value = .bool flag) ∨
      (∃ number : Int, value = .int number ∧ (digitsOf number.natAbs).length ≤ 4300) ∨ ∃ numeral, value = .float numeral) := by
  unfold scanFlat at scanned
  split at scanned
  · rename_i word listed found
    have member := List.mem_of_find?_eq_some found
    cases scanned
    refine ⟨List.drop_suffix _ _, ?_⟩
    simp only [words, List.mem_cons, List.not_mem_nil, or_false, Prod.mk.injEq] at member
    rcases member with ⟨_, same⟩ | ⟨_, same⟩ | ⟨_, same⟩ | ⟨_, same⟩ | ⟨_, same⟩ | ⟨_, same⟩
    · exact .inl same
    · exact .inr (.inl ⟨_, same⟩)
    · exact .inr (.inl ⟨_, same⟩)
    · exact .inr (.inr (.inr ⟨_, same⟩))
    · exact .inr (.inr (.inr ⟨_, same⟩))
    · exact .inr (.inr (.inr ⟨_, same⟩))
  · obtain ⟨suffix, number⟩ := scanNumber_valid scanned
    exact ⟨suffix, .inr (.inr number)⟩

end Validity

section Reader

variable (floatText : String → String)

/-- No name is there twice. -/
def distinct : List Points → Bool
  | [] => true
  | name :: names => !names.contains name && distinct names

/-- A word or a number; a float has to be finite, and is the one that its numeral stands for. -/
def readFlat (text : Points) : Except LoadFailure (Value × Points) := do
  let (value, rest) ← scanFlat text
  match value with
  | .float numeral => if finiteNumeral numeral then return (.float (floatText numeral), rest) else .error .malformed
  | value => return (value, rest)

mutual

/-- `scan_once` with finite numbers only, and with objects that have each name once. -/
def read : Nat → Nat → Points → Except LoadFailure (Value × Points)
  | 0, _, _ => .error .malformed
  | fuel + 1, room, text =>
    match text with
    | 34 :: rest => do
      let (content, rest) ← scanText rest
      return (.str content, rest)
    | 91 :: rest =>
      match room with
      | 0 => .error .tooDeep
      | room + 1 =>
        match skip rest with
        | 93 :: rest => .ok (.list [], rest)
        | rest => do
          let (items, rest) ← readItems fuel room rest
          return (.list items, rest)
    | 123 :: rest =>
      match room with
      | 0 => .error .tooDeep
      | room + 1 =>
        match skip rest with
        | 125 :: rest => .ok (.dict [], rest)
        | rest => do
          let (fields, rest) ← readFields fuel room rest
          if distinct (fields.map Prod.fst) then return (.dict fields, rest) else .error .malformed
    | text => readFlat floatText text

def readItems : Nat → Nat → Points → Except LoadFailure (List Value × Points)
  | 0, _, _ => .error .malformed
  | fuel + 1, room, text => do
    let (item, rest) ← read fuel room text
    match skip rest with
    | 93 :: rest => return ([item], rest)
    | 44 :: rest => do
      let (items, rest) ← readItems fuel room (skip rest)
      return (item :: items, rest)
    | _ => .error .malformed

def readFields : Nat → Nat → Points → Except LoadFailure (List (Points × Value) × Points)
  | 0, _, _ => .error .malformed
  | fuel + 1, room, text =>
    match text with
    | 34 :: rest => do
      let (name, rest) ← scanText rest
      match skip rest with
      | 58 :: rest => do
        let (value, rest) ← read fuel room (skip rest)
        match skip rest with
        | 125 :: rest => return ([(name, value)], rest)
        | 44 :: rest => do
          let (fields, rest) ← readFields fuel room (skip rest)
          return ((name, value) :: fields, rest)
        | _ => .error .malformed
      | _ => .error .malformed
    | _ => .error .malformed

end

/-- The value of a whole text. -/
def readText (room : Nat) (text : Points) : Except LoadFailure Value := do
  let (value, rest) ← read floatText (2 * text.length + 2) room (skip text)
  if (skip rest).isEmpty then return value else .error .malformed

theorem distinct_iff {names : List Points} : distinct names = true ↔ names.Nodup := by
  induction names with
  | nil => simp [distinct]
  | cons name names ih =>
    rw [distinct, Bool.and_eq_true, ih, List.nodup_cons, Bool.not_eq_true', List.contains_eq_mem, decide_eq_false_iff_not]

end Reader

section Regular

/-- The text of a float: it has a fraction or an exponent. -/
def FloatNumeral (text : Points) : Prop :=
  ∃ minus digits fraction exponent, text = signed minus (digits ++ (fraction ++ exponent)) ∧ Leading digits ∧
    Fraction fraction ∧ Exponent exponent ∧ (fraction ≠ [] ∨ exponent ≠ [])

/-- What the writer of floats does: a finite float is written as one, in the one way that is written again. -/
structure FloatWriter (floatText : String → String) : Prop where
  numeral : ∀ numeral, finiteNumeral numeral = true → FloatNumeral (points (floatText numeral))
  finite : ∀ numeral, finiteNumeral numeral = true → finiteNumeral (floatText numeral) = true
  fixed : ∀ numeral, floatText (floatText numeral) = floatText numeral

/-- A value that can be written: finite floats as they are written, integers that are not too long, code points that are
ones, and each name of an object once. -/
inductive Regular (floatText : String → String) : Value → Prop
  | null : Regular floatText .null
  | bool (value : Bool) : Regular floatText (.bool value)
  | int (value : Int) (short : (digitsOf value.natAbs).length ≤ 4300) : Regular floatText (.int value)
  | float (numeral : String) (finite : finiteNumeral numeral = true) (own : floatText numeral = numeral) :
      Regular floatText (.float numeral)
  | str (text : Points) (valid : Valid text) : Regular floatText (.str text)
  | list (items : List Value) (each : ∀ item ∈ items, Regular floatText item) : Regular floatText (.list items)
  | dict (entries : List (Points × Value)) (once : (entries.map Prod.fst).Nodup)
      (valid : ∀ entry ∈ entries, Valid entry.1) (each : ∀ entry ∈ entries, Regular floatText entry.2) : Regular floatText (.dict entries)

/-- A value of the language: its floats are the ones that are written, its code points are ones, and an object has each
name once. -/
inductive Proper (floatText : String → String) : Value → Prop
  | null : Proper floatText .null
  | bool (value : Bool) : Proper floatText (.bool value)
  | int (value : Int) : Proper floatText (.int value)
  | float (numeral : String) (own : floatText numeral = numeral) : Proper floatText (.float numeral)
  | str (text : Points) (valid : Valid text) : Proper floatText (.str text)
  | list (items : List Value) (each : ∀ item ∈ items, Proper floatText item) : Proper floatText (.list items)
  | dict (entries : List (Points × Value)) (once : (entries.map Prod.fst).Nodup) (valid : ∀ entry ∈ entries, Valid entry.1)
      (each : ∀ entry ∈ entries, Proper floatText entry.2) : Proper floatText (.dict entries)

theorem Regular.proper {floatText : String → String} {value : Value} (regular : Regular floatText value) :
    Proper floatText value := by
  induction regular with
  | null => exact .null
  | bool value => exact .bool value
  | int value short => exact .int value
  | float numeral finite' own => exact .float numeral own
  | str text valid => exact .str text valid
  | list items each ih => exact .list items ih
  | dict entries once valid each ih => exact .dict entries once valid ih

end Regular

section Flat

variable {floatText : String → String}

theorem points_repr (number : Nat) : points number.repr = digitsOf number := by
  unfold points digitsOf
  rw [Nat.toList_repr]

theorem points_int (value : Int) : points (toString value) = signed (decide (value < 0)) (digitsOf value.natAbs) := by
  cases value with
  | ofNat number =>
    show points number.repr = _
    rw [points_repr]
    have least : ¬(Int.ofNat number < 0) := by simp
    rw [decide_eq_false least]
    rfl
  | negSucc number =>
    have least : Int.negSucc number < 0 := Int.negSucc_lt_zero number
    rw [decide_eq_true least]
    show points ("-" ++ (number + 1).repr) = 45 :: digitsOf (number + 1)
    unfold points
    rw [String.toList_append, List.map_append]
    show 45 :: points (number + 1).repr = _
    rw [points_repr]

theorem ascii_points (text : String) : ascii (points text) = text := by
  unfold ascii points
  rw [List.map_map]
  have same : (Char.ofNat ∘ Char.toNat) = id := by
    funext char
    exact Char.ofNat_toNat char
  rw [same, List.map_id, String.ofList_toList]

/-- No word starts as a number does. -/
theorem words_heads : ∀ word ∈ words, ∃ first second later, word.1 = first :: second :: later ∧ digit first = false ∧
    digit second = false := by
  intro word member
  simp only [words, List.mem_cons, List.not_mem_nil, or_false] at member
  rcases member with same | same | same | same | same | same <;> rw [same] <;> exact ⟨_, _, _, rfl, rfl, rfl⟩

theorem scanFlat_number {minus : Bool} {first : Nat} {later : Points} (code : digit first = true) :
    scanFlat (signed minus (first :: later)) = scanNumber (signed minus (first :: later)) := by
  have none' : words.find? (fun word => word.1.isPrefixOf (signed minus (first :: later))) = none := by
    rw [List.find?_eq_none]
    intro word member starts
    obtain ⟨head, second, more, same, plain, plain'⟩ := words_heads word member
    obtain ⟨rest, written⟩ := List.isPrefixOf_iff_prefix.mp starts
    rw [same] at written
    cases minus with
    | true =>
      injection written with _ written
      injection written with eq _
      rw [eq, code] at plain'
      cases plain'
    | false =>
      injection written with eq _
      rw [eq, code] at plain
      cases plain
  unfold scanFlat
  rw [none']

end Flat

section RoundTrip

variable {floatText : String → String}

/-- The first code point of a text. -/
def Starts (accepted : Nat → Prop) (text : Points) : Prop := ∃ first later, text = first :: later ∧ accepted first

/-- What starts a value, and neither is blank nor closes anything. -/
def opens (point : Nat) : Prop := blank point = false ∧ point ≠ 93 ∧ point ≠ 125

theorem skip_opens {text : Points} (starts : Starts opens text) : skip text = text := by
  obtain ⟨first, later, same, plain, _⟩ := starts
  have other : ¬blank first = true := by
    rw [plain]
    decide
  rw [same]
  exact List.dropWhile_cons_of_neg other

theorem Starts.append {accepted : Nat → Prop} {text : Points} (starts : Starts accepted text) (rest : Points) :
    Starts accepted (text ++ rest) := by
  obtain ⟨first, later, same, fine⟩ := starts
  refine ⟨first, later ++ rest, ?_, fine⟩
  rw [same]
  rfl

theorem opens_digit {point : Nat} (code : digit point = true) : opens point := by
  unfold digit at code
  rw [Bool.and_eq_true, decide_eq_true_eq, decide_eq_true_eq] at code
  refine ⟨?_, by omega, by omega⟩
  unfold blank
  simp only [Bool.or_eq_false_iff, decide_eq_false_iff_not]
  omega

theorem starts_signed {minus : Bool} {digits : Points} (leading : Leading digits) (rest : Points) :
    Starts (fun point => opens point ∧ point ≠ 34 ∧ point ≠ 91 ∧ point ≠ 123) (signed minus (digits ++ rest)) := by
  cases minus with
  | true => exact ⟨45, digits ++ rest, rfl, ⟨rfl, by decide, by decide⟩, by decide, by decide, by decide⟩
  | false =>
    obtain ⟨first, later, same, code⟩ := @leading_head digits rest leading
    refine ⟨first, later, same, opens_digit code, ?_⟩
    unfold digit at code
    rw [Bool.and_eq_true, decide_eq_true_eq, decide_eq_true_eq] at code
    omega

/-- A text that starts no string, list or object is a word or a number. -/
theorem read_flat {fuel room : Nat} {text : Points}
    (starts : Starts (fun point => opens point ∧ point ≠ 34 ∧ point ≠ 91 ∧ point ≠ 123) text) :
    read floatText (fuel + 1) room text = readFlat floatText text := by
  obtain ⟨first, later, same, _, quote, list, object⟩ := starts
  rw [same, read]
  · intro rest eq
    cases eq
    exact quote rfl
  · intro rest eq
    cases eq
    exact list rfl
  · intro rest eq
    cases eq
    exact object rfl

theorem written_float (floats : FloatWriter floatText) {numeral : String} (finite' : finiteNumeral numeral = true)
    (own : floatText numeral = numeral) :
    points (writtenFloat floatText numeral) = points numeral ∧ FloatNumeral (points numeral) := by
  have shape := floats.numeral numeral finite'
  rw [own] at shape
  refine ⟨?_, shape⟩
  have other : ∀ word ∈ ["nan", "inf", "-inf"], numeral ≠ word := by
    intro word member same
    rw [same] at finite'
    unfold finiteNumeral at finite'
    rw [if_pos member] at finite'
    cases finite'
  unfold writtenFloat
  rw [if_neg (other "nan" (by simp)), if_neg (other "inf" (by simp)), if_neg (other "-inf" (by simp)), own]

theorem compact_starts (floats : FloatWriter floatText) {value : Value} (regular : Regular floatText value) :
    Starts opens (compact floatText value) := by
  cases regular with
  | null => exact ⟨110, _, by rw [compact]; rfl, rfl, by decide, by decide⟩
  | bool value =>
    cases value with
    | false => exact ⟨102, _, by rw [compact]; rfl, rfl, by decide, by decide⟩
    | true => exact ⟨116, _, by rw [compact]; rfl, rfl, by decide, by decide⟩
  | int value short =>
    rw [compact, points_int]
    obtain ⟨first, later, same, fine, _⟩ := @starts_signed (decide (value < 0)) _ (digitsOf_leading value.natAbs) []
    rw [List.append_nil] at same
    exact ⟨first, later, same, fine⟩
  | float numeral finite' own =>
    obtain ⟨written, minus, digits, fraction, exponent, shape, leading, _⟩ := written_float floats finite' own
    rw [compact, written, shape]
    obtain ⟨first, later, same, fine, _⟩ := @starts_signed minus _ leading (fraction ++ exponent)
    exact ⟨first, later, same, fine⟩
  | str text valid => exact ⟨34, _, by rw [compact]; rfl, rfl, by decide, by decide⟩
  | list items each => exact ⟨91, _, by rw [compact], rfl, by decide, by decide⟩
  | dict entries once valid each => exact ⟨123, _, by rw [compact], rfl, by decide, by decide⟩

/-- A written value is read back, whatever follows it. -/
def Reads (floatText : String → String) (value : Value) : Prop :=
  ∀ fuel room rest, 2 * (compact floatText value).length ≤ fuel → depth value ≤ room → Ends rest →
    read floatText fuel room (compact floatText value ++ rest) = .ok (value, rest)

theorem ends_comma (rest : Points) : Ends (44 :: rest) := ends_cons (by decide)

theorem ends_list (rest : Points) : Ends (93 :: rest) := ends_cons (by decide)

theorem ends_object (rest : Points) : Ends (125 :: rest) := ends_cons (by decide)

/-- A value without parts needs no fuel for them. -/
theorem reads_flat {value : Value} (some' : 0 < (compact floatText value).length)
    (starts : Starts (fun point => opens point ∧ point ≠ 34 ∧ point ≠ 91 ∧ point ≠ 123) (compact floatText value))
    (flat : ∀ rest, Ends rest → readFlat floatText (compact floatText value ++ rest) = .ok (value, rest)) : Reads floatText value := by
  intro fuel room rest enough _ ends
  cases fuel with
  | zero => omega
  | succ fuel => rw [read_flat (starts.append rest), flat rest ends]

theorem reads_word {value : Value} {first : Nat} {later : Points} (written : compact floatText value = first :: later)
    (fine : opens first ∧ first ≠ 34 ∧ first ≠ 91 ∧ first ≠ 123)
    (flat : ∀ rest, readFlat floatText (first :: later ++ rest) = .ok (value, rest)) : Reads floatText value := by
  refine reads_flat ?_ ⟨first, later, written, fine⟩ fun rest _ => ?_
  · rw [written]
    exact Nat.succ_pos _
  · rw [written]
    exact flat rest

theorem scanFlat_parts {minus : Bool} {digits fraction exponent rest : Points} (leading : Leading digits) {value : Value}
    (scanned : scanNumber (signed minus (digits ++ (fraction ++ (exponent ++ rest)))) = .ok (value, rest)) :
    scanFlat (signed minus (digits ++ (fraction ++ (exponent ++ rest)))) = .ok (value, rest) := by
  obtain ⟨first, later, same, code⟩ := @leading_head digits (fraction ++ (exponent ++ rest)) leading
  rw [same, scanFlat_number code, ← same, scanned]

theorem reads_int {value : Int} (short : (digitsOf value.natAbs).length ≤ 4300) : Reads floatText (.int value) := by
  have written : compact floatText (.int value) = signed (decide (value < 0)) (digitsOf value.natAbs) := by
    rw [compact, points_int]
  have starts := @starts_signed (decide (value < 0)) _ (digitsOf_leading value.natAbs) []
  rw [List.append_nil, ← written] at starts
  refine reads_flat ?_ starts fun rest ends => ?_
  · obtain ⟨first, later, same, _⟩ := starts
    rw [same]
    exact Nat.succ_pos _
  · have parts := @scanNumber_parts (decide (value < 0)) _ [] [] rest (digitsOf_leading value.natAbs) (.inl rfl) (.inl rfl) ends
    have number : (if decide (value < 0) = true then -(natural (digitsOf value.natAbs) : Int)
        else natural (digitsOf value.natAbs)) = value := by
      rw [natural_digitsOf]
      by_cases negative : value < 0
      · rw [if_pos (decide_eq_true negative)]
        omega
      · rw [if_neg (by simpa using negative)]
        omega
    rw [List.isEmpty_nil, Bool.and_self, if_pos rfl, if_pos short, number] at parts
    have whole : compact floatText (.int value) ++ rest =
        signed (decide (value < 0)) (digitsOf value.natAbs ++ ([] ++ ([] ++ rest))) := by
      rw [written]
      cases decide (value < 0) <;> rfl
    unfold readFlat
    rw [whole, scanFlat_parts (digitsOf_leading value.natAbs) parts]
    rfl

theorem reads_float (floats : FloatWriter floatText) {numeral : String} (finite' : finiteNumeral numeral = true)
    (own : floatText numeral = numeral) : Reads floatText (.float numeral) := by
  obtain ⟨written, minus, digits, fraction, exponent, shape, leading, fractionWritten, exponentWritten, real⟩ :=
    written_float floats finite' own
  have text : compact floatText (.float numeral) = signed minus (digits ++ (fraction ++ exponent)) := by
    rw [compact, written, shape]
  have starts := @starts_signed minus _ leading (fraction ++ exponent)
  rw [← text] at starts
  refine reads_flat ?_ starts fun rest ends => ?_
  · obtain ⟨first, later, same, _⟩ := starts
    rw [same]
    exact Nat.succ_pos _
  · have parts := @scanNumber_parts minus _ _ _ rest leading fractionWritten exponentWritten ends
    have kept : (fraction.isEmpty && exponent.isEmpty) = false := by
      rw [Bool.and_eq_false_iff]
      exact real.imp (fun some' => by simpa using some') fun some' => by simpa using some'
    have back : ascii ((if minus then [45] else []) ++ digits ++ fraction ++ exponent) = numeral := by
      rw [← ascii_points numeral, shape]
      cases minus <;> simp [signed]
    rw [kept, if_neg (by decide), back] at parts
    have whole : compact floatText (.float numeral) ++ rest = signed minus (digits ++ (fraction ++ (exponent ++ rest))) := by
      rw [text]
      cases minus <;> simp [signed]
    unfold readFlat
    rw [whole, scanFlat_parts leading parts]
    dsimp only [bind, Except.bind]
    rw [if_pos finite', own]
    rfl

theorem reads_str (text : Points) : Reads floatText (.str text) := by
  intro fuel room rest enough _ _
  have written : compact floatText (.str text) ++ rest = 34 :: (text.flatMap escaped ++ 34 :: rest) := by
    rw [compact, quoted]
    simp
  cases fuel with
  | zero =>
    rw [compact, quoted, List.length_cons] at enough
    omega
  | succ fuel =>
    rw [written, read, scanText_quoted]
    rfl

theorem separated_cons (part other : Points) (parts : List Points) :
    separated (part :: other :: parts) = part ++ 44 :: separated (other :: parts) := by
  unfold separated
  rw [List.intercalate_cons_cons, List.append_assoc]
  rfl

theorem separated_singleton (part : Points) : separated [part] = part := List.intercalate_singleton

theorem skip_comma (rest : Points) : skip (44 :: rest) = 44 :: rest := rfl

theorem skip_colon (rest : Points) : skip (58 :: rest) = 58 :: rest := rfl

theorem items_start (floats : FloatWriter floatText) {item : Value} {items : List Value}
    (regular : Regular floatText item) (rest : Points) :
    Starts opens (separated (compactItems floatText (item :: items)) ++ rest) := by
  apply Starts.append
  have first := compact_starts floats regular
  rw [compactItems]
  cases items with
  | nil =>
    rw [compactItems, separated_singleton]
    exact first
  | cons other items =>
    rw [compactItems, separated_cons]
    exact first.append _

theorem readItems_last {fuel room : Nat} {text rest : Points} {item : Value}
    (first : read floatText fuel room text = .ok (item, 93 :: rest)) : readItems floatText (fuel + 1) room text = .ok ([item], rest) := by
  rw [readItems, first]
  rfl

theorem readItems_next {fuel room : Nat} {text next rest : Points} {item : Value} {items : List Value}
    (first : read floatText fuel room text = .ok (item, 44 :: next)) (later : readItems floatText fuel room (skip next) = .ok (items, rest)) :
    readItems floatText (fuel + 1) room text = .ok (item :: items, rest) := by
  have step : readItems floatText (fuel + 1) room text =
      (readItems floatText fuel room (skip next)).map fun found => (item :: found.1, found.2) := by
    rw [readItems, first]
    rfl
  rw [step, later]
  rfl

theorem quoted_colon (name text : Points) : quoted name ++ 58 :: text = 34 :: (name.flatMap escaped ++ 34 :: 58 :: text) := by
  simp [quoted]

theorem readFields_last {fuel room : Nat} {text rest name : Points} {value : Value}
    (first : read floatText fuel room (skip text) = .ok (value, 125 :: rest)) :
    readFields floatText (fuel + 1) room (quoted name ++ 58 :: text) = .ok ([(name, value)], rest) := by
  rw [quoted_colon, readFields, scanText_quoted]
  dsimp only [bind, Except.bind]
  rw [skip_colon]
  split
  · rename_i same
    cases same
    rw [first]
    rfl
  · rename_i other
    exact absurd rfl (other _)

theorem readFields_next {fuel room : Nat} {text next rest name : Points} {value : Value} {fields : List (Points × Value)}
    (first : read floatText fuel room (skip text) = .ok (value, 44 :: next))
    (later : readFields floatText fuel room (skip next) = .ok (fields, rest)) :
    readFields floatText (fuel + 1) room (quoted name ++ 58 :: text) = .ok ((name, value) :: fields, rest) := by
  rw [quoted_colon, readFields, scanText_quoted]
  dsimp only [bind, Except.bind]
  rw [skip_colon]
  split
  · rename_i same
    cases same
    rw [first]
    dsimp only
    rw [skip_comma]
    split
    · rename_i same
      cases same
    · rename_i same
      cases same
      rw [later]
      rfl
    · rename_i other
      exact absurd rfl (other _)
  · rename_i other
    exact absurd rfl (other _)

/-- The items of a list are read one after the other, up to its end. -/
theorem readItems_compact (floats : FloatWriter floatText) {items : List Value} (some' : items ≠ [])
    (regular : ∀ item ∈ items, Regular floatText item) (each : ∀ item ∈ items, Reads floatText item) {fuel room : Nat}
    (rest : Points) (enough : 2 * (separated (compactItems floatText items)).length + 1 ≤ fuel)
    (within : itemDepth items ≤ room) :
    readItems floatText fuel room (separated (compactItems floatText items) ++ 93 :: rest) = .ok (items, rest) := by
  induction items generalizing fuel with
  | nil => exact absurd rfl some'
  | cons item items ih =>
    cases fuel with
    | zero => omega
    | succ fuel =>
      have reads := each item List.mem_cons_self
      rw [itemDepth, Nat.max_le] at within
      rw [compactItems] at enough ⊢
      cases items with
      | nil =>
        rw [compactItems, separated_singleton] at enough ⊢
        exact readItems_last (reads fuel room (93 :: rest) (by omega) within.1 (ends_list rest))
      | cons other items =>
        have later : ∀ item ∈ other :: items, item ∈ item :: other :: items := fun _ member => List.mem_cons_of_mem _ member
        have start := @items_start floatText floats _ items (regular other (List.mem_cons_of_mem _ List.mem_cons_self)) (93 :: rest)
        have next := @ih (List.cons_ne_nil _ _) (fun other member => regular other (List.mem_cons_of_mem _ member))
          (fun other member => each other (List.mem_cons_of_mem _ member)) fuel
        rw [compactItems] at enough start next ⊢
        rw [separated_cons, List.length_append, List.length_cons] at enough
        rw [separated_cons, List.append_assoc, List.cons_append]
        refine readItems_next (reads fuel room _ (by omega) within.1 (ends_comma _)) ?_
        rw [skip_opens start]
        exact next (by omega) within.2

theorem fields_start {name : Points} {value : Value} {fields : List (Points × Value)} (rest : Points) :
    Starts opens (separated (compactFields floatText ((name, value) :: fields)) ++ rest) := by
  have quote : opens 34 := ⟨rfl, by decide, by decide⟩
  rw [compactFields]
  cases fields with
  | nil =>
    rw [compactFields, separated_singleton, quoted]
    exact ⟨34, _, rfl, quote⟩
  | cons other fields =>
    rw [compactFields, separated_cons, quoted]
    exact ⟨34, _, rfl, quote⟩

/-- The fields of an object are read one after the other, up to its end. -/
theorem readFields_compact (floats : FloatWriter floatText) {fields : List (Points × Value)} (some' : fields ≠ [])
    (regular : ∀ field ∈ fields, Regular floatText field.2) (each : ∀ field ∈ fields, Reads floatText field.2)
    {fuel room : Nat} (rest : Points) (enough : 2 * (separated (compactFields floatText fields)).length + 1 ≤ fuel)
    (within : fieldDepth fields ≤ room) :
    readFields floatText fuel room (separated (compactFields floatText fields) ++ 125 :: rest) = .ok (fields, rest) := by
  induction fields generalizing fuel with
  | nil => exact absurd rfl some'
  | cons field fields ih =>
    obtain ⟨name, value⟩ := field
    cases fuel with
    | zero => omega
    | succ fuel =>
      have reads : Reads floatText value := each (name, value) List.mem_cons_self
      have starts : Starts opens (compact floatText value) := compact_starts floats (regular (name, value) List.mem_cons_self)
      rw [fieldDepth, Nat.max_le] at within
      have size : (quoted name ++ 58 :: compact floatText value).length = (quoted name).length + 1 +
          (compact floatText value).length := by
        rw [List.length_append, List.length_cons]
        omega
      rw [compactFields] at enough ⊢
      cases fields with
      | nil =>
        rw [compactFields, separated_singleton] at enough ⊢
        rw [size] at enough
        rw [List.append_assoc, List.cons_append]
        refine readFields_last ?_
        rw [skip_opens (starts.append _)]
        exact reads fuel room (125 :: rest) (by omega) within.1 (ends_object rest)
      | cons other fields =>
        obtain ⟨otherName, otherValue⟩ := other
        have start := @fields_start floatText otherName otherValue fields (125 :: rest)
        have next := @ih (List.cons_ne_nil _ _) (fun other member => regular other (List.mem_cons_of_mem _ member))
          (fun other member => each other (List.mem_cons_of_mem _ member)) fuel
        rw [compactFields] at enough start next ⊢
        rw [separated_cons, List.length_append, List.length_cons, size] at enough
        rw [separated_cons, List.append_assoc, List.append_assoc, List.cons_append, List.cons_append]
        have first := reads fuel room _ (by omega) within.1
          (ends_comma (separated ((quoted otherName ++ 58 :: compact floatText otherValue) :: compactFields floatText fields) ++
            125 :: rest))
        rw [← skip_opens (starts.append _)] at first
        refine readFields_next first ?_
        rw [skip_opens start]
        exact next (by omega) within.2

theorem read_list {fuel room : Nat} {text rest : Points} {items : List Value} (starts : Starts opens text)
    (inside : readItems floatText fuel room text = .ok (items, rest)) :
    read floatText (fuel + 1) (room + 1) (91 :: text) = .ok (.list items, rest) := by
  have same := skip_opens starts
  obtain ⟨first, later, shape, _, other, _⟩ := starts
  rw [read]
  dsimp only
  rw [same]
  split
  · injection shape with eq
    exact absurd eq.symm other
  · rw [inside]
    rfl

theorem read_dict {fuel room : Nat} {text rest : Points} {fields : List (Points × Value)} (starts : Starts opens text)
    (inside : readFields floatText fuel room text = .ok (fields, rest)) (once : (fields.map Prod.fst).Nodup) :
    read floatText (fuel + 1) (room + 1) (123 :: text) = .ok (.dict fields, rest) := by
  have same := skip_opens starts
  obtain ⟨first, later, shape, _, _, other⟩ := starts
  rw [read]
  dsimp only
  rw [same]
  split
  · injection shape with eq
    exact absurd eq.symm other
  · rw [inside]
    dsimp only [bind, Except.bind]
    rw [if_pos (distinct_iff.mpr once)]
    rfl

/-- Every regular value is read back from its text. -/
theorem reads_regular (floats : FloatWriter floatText) {value : Value} (regular : Regular floatText value) :
    Reads floatText value := by
  induction regular with
  | null =>
    exact reads_word (by rw [compact]; rfl) ⟨⟨rfl, by decide, by decide⟩, by decide, by decide, by decide⟩ fun _ => rfl
  | bool value =>
    cases value with
    | false =>
      exact reads_word (by rw [compact]; rfl) ⟨⟨rfl, by decide, by decide⟩, by decide, by decide, by decide⟩ fun _ => rfl
    | true =>
      exact reads_word (by rw [compact]; rfl) ⟨⟨rfl, by decide, by decide⟩, by decide, by decide, by decide⟩ fun _ => rfl
  | int value short => exact reads_int short
  | float numeral finite' own => exact reads_float floats finite' own
  | str text valid => exact reads_str text
  | list items each ih =>
    intro fuel room rest enough within _
    rw [depth] at within
    have written : compact floatText (.list items) ++ rest = 91 :: (separated (compactItems floatText items) ++ 93 :: rest) := by
      rw [compact]
      simp
    have size : (compact floatText (.list items)).length = (separated (compactItems floatText items)).length + 2 := by
      rw [compact, List.length_cons, List.length_append]
      rfl
    cases fuel with
    | zero => omega
    | succ fuel =>
      cases room with
      | zero => omega
      | succ room =>
        cases items with
        | nil =>
          rw [written, read]
          rfl
        | cons item items =>
          have starts := @items_start floatText floats _ items (each item List.mem_cons_self) (93 :: rest)
          rw [written]
          exact read_list starts (readItems_compact floats (List.cons_ne_nil item items) each ih rest (by omega) (by omega))
  | dict entries once valid each ih =>
    intro fuel room rest enough within _
    rw [depth] at within
    have written : compact floatText (.dict entries) ++ rest =
        123 :: (separated (compactFields floatText entries) ++ 125 :: rest) := by
      rw [compact]
      simp
    have size : (compact floatText (.dict entries)).length = (separated (compactFields floatText entries)).length + 2 := by
      rw [compact, List.length_cons, List.length_append]
      rfl
    cases fuel with
    | zero => omega
    | succ fuel =>
      cases room with
      | zero => omega
      | succ room =>
        cases entries with
        | nil =>
          rw [written, read]
          rfl
        | cons entry entries =>
          have starts := @fields_start floatText entry.1 entry.2 entries (125 :: rest)
          rw [written]
          exact read_dict starts (readFields_compact floats (List.cons_ne_nil entry entries) each ih rest (by omega) (by omega))
            once

/-- What is read without parts is regular. -/
theorem readFlat_valid (floats : FloatWriter floatText) {text rest : Points} {value : Value}
    (found : readFlat floatText text = .ok (value, rest)) : rest <:+ text ∧ Regular floatText value ∧ depth value = 0 := by
  obtain ⟨⟨scanned, after⟩, flat, found⟩ := bind_eq_ok.mp found
  obtain ⟨suffix, kind⟩ := scanFlat_valid flat
  dsimp only at found
  rcases kind with same | ⟨flag, same⟩ | ⟨number, same, short⟩ | ⟨numeral, same⟩ <;> rw [same] at found
  · cases found
    exact ⟨suffix, .null, rfl⟩
  · cases found
    exact ⟨suffix, .bool flag, rfl⟩
  · cases found
    exact ⟨suffix, .int number short, rfl⟩
  · dsimp only at found
    split at found
    · rename_i finite'
      cases found
      exact ⟨suffix, .float _ (floats.finite numeral finite') (floats.fixed numeral), rfl⟩
    · cases found

theorem skip_suffix (text : Points) : skip text <:+ text := List.dropWhile_suffix _

/-- What is read with so much room and fuel is regular, lies no deeper than there is room, and is followed by code points. -/
structure Sound (floatText : String → String) (fuel : Nat) : Prop where
  value : ∀ {room : Nat} {text rest : Points} {found : Value}, read floatText fuel room text = .ok (found, rest) →
    Valid text → Regular floatText found ∧ depth found ≤ room ∧ Valid rest
  items : ∀ {room : Nat} {text rest : Points} {found : List Value}, readItems floatText fuel room text = .ok (found, rest) →
    Valid text → (∀ item ∈ found, Regular floatText item) ∧ itemDepth found ≤ room ∧ Valid rest
  fields : ∀ {room : Nat} {text rest : Points} {found : List (Points × Value)},
    readFields floatText fuel room text = .ok (found, rest) → Valid text →
    (∀ field ∈ found, Valid field.1 ∧ Regular floatText field.2) ∧ fieldDepth found ≤ room ∧ Valid rest

theorem sound_value (floats : FloatWriter floatText) {fuel : Nat} (before : Sound floatText fuel) {room : Nat}
    {text rest : Points} {found : Value} (result : read floatText (fuel + 1) room text = .ok (found, rest))
    (valid : Valid text) : Regular floatText found ∧ depth found ≤ room ∧ Valid rest := by
  rw [read.eq_def] at result
  dsimp only at result
  split at result
  · -- a string
    obtain ⟨⟨content, after⟩, scanned, same⟩ := bind_eq_ok.mp result
    obtain ⟨validContent, validRest⟩ := scanText_valid scanned (valid.suffix (List.suffix_cons _ _))
    cases same
    exact ⟨.str content validContent, Nat.zero_le _, validRest⟩
  · -- a list
    rename_i later
    have validLater : Valid (skip later) := valid.suffix ((skip_suffix later).trans (List.suffix_cons _ _))
    cases room with
    | zero => cases result
    | succ room =>
      dsimp only at result
      split at result
      · rename_i closed
        rw [closed] at validLater
        cases result
        exact ⟨.list [] fun item member => absurd member List.not_mem_nil, Nat.succ_le_succ (Nat.zero_le _),
          validLater.suffix (List.suffix_cons _ _)⟩
      · obtain ⟨⟨items, after⟩, inside, same⟩ := bind_eq_ok.mp result
        obtain ⟨each, within, validRest⟩ := before.items inside validLater
        cases same
        exact ⟨.list items each, Nat.succ_le_succ within, validRest⟩
  · -- an object
    rename_i later
    have validLater : Valid (skip later) := valid.suffix ((skip_suffix later).trans (List.suffix_cons _ _))
    cases room with
    | zero => cases result
    | succ room =>
      dsimp only at result
      split at result
      · rename_i closed
        rw [closed] at validLater
        cases result
        exact ⟨.dict [] List.nodup_nil (fun item member => absurd member List.not_mem_nil)
          fun item member => absurd member List.not_mem_nil, Nat.succ_le_succ (Nat.zero_le _),
          validLater.suffix (List.suffix_cons _ _)⟩
      · obtain ⟨⟨fields, after⟩, inside, result⟩ := bind_eq_ok.mp result
        obtain ⟨each, within, validRest⟩ := before.fields inside validLater
        dsimp only at result
        split at result
        · rename_i once
          cases result
          exact ⟨.dict fields (distinct_iff.mp once) (fun field member => (each field member).1)
            fun field member => (each field member).2, Nat.succ_le_succ within, validRest⟩
        · cases result
  · -- a word or a number
    obtain ⟨suffix, regular, flat⟩ := readFlat_valid floats result
    exact ⟨regular, by omega, valid.suffix suffix⟩

theorem sound_items {fuel : Nat} (before : Sound floatText fuel) {room : Nat} {text rest : Points} {found : List Value}
    (result : readItems floatText (fuel + 1) room text = .ok (found, rest)) (valid : Valid text) :
    (∀ item ∈ found, Regular floatText item) ∧ itemDepth found ≤ room ∧ Valid rest := by
  rw [readItems] at result
  obtain ⟨⟨item, after⟩, first, result⟩ := bind_eq_ok.mp result
  obtain ⟨regular, within, validAfter⟩ := before.value first valid
  have validNext := validAfter.suffix (skip_suffix after)
  dsimp only at result
  split at result
  · rename_i closed
    rw [closed] at validNext
    cases result
    exact ⟨List.forall_mem_singleton.mpr regular, itemDepth_le.mpr (List.forall_mem_singleton.mpr within),
      validNext.suffix (List.suffix_cons _ _)⟩
  · rename_i next going
    rw [going] at validNext
    obtain ⟨⟨items, last⟩, later, same⟩ := bind_eq_ok.mp result
    obtain ⟨each, withinLater, validRest⟩ := before.items later
      (validNext.suffix ((skip_suffix next).trans (List.suffix_cons _ _)))
    cases same
    exact ⟨List.forall_mem_cons.mpr ⟨regular, each⟩,
      itemDepth_le.mpr (List.forall_mem_cons.mpr ⟨within, itemDepth_le.mp withinLater⟩), validRest⟩
  · cases result

theorem sound_fields {fuel : Nat} (before : Sound floatText fuel) {room : Nat} {text rest : Points}
    {found : List (Points × Value)} (result : readFields floatText (fuel + 1) room text = .ok (found, rest))
    (valid : Valid text) :
    (∀ field ∈ found, Valid field.1 ∧ Regular floatText field.2) ∧ fieldDepth found ≤ room ∧ Valid rest := by
  rw [readFields.eq_def] at result
  dsimp only at result
  split at result
  · rename_i opened
    obtain ⟨⟨name, named⟩, scanned, result⟩ := bind_eq_ok.mp result
    obtain ⟨validName, validNamed⟩ := scanText_valid scanned (valid.suffix (List.suffix_cons _ _))
    have validColon := validNamed.suffix (skip_suffix named)
    dsimp only at result
    split at result
    · rename_i colon
      rw [colon] at validColon
      obtain ⟨⟨value, after⟩, first, result⟩ := bind_eq_ok.mp result
      obtain ⟨regular, within, validAfter⟩ := before.value first
        (validColon.suffix ((skip_suffix _).trans (List.suffix_cons _ _)))
      have validNext := validAfter.suffix (skip_suffix after)
      dsimp only at result
      split at result
      · rename_i closed
        rw [closed] at validNext
        cases result
        exact ⟨List.forall_mem_singleton.mpr ⟨validName, regular⟩, fieldDepth_le.mpr (List.forall_mem_singleton.mpr within),
          validNext.suffix (List.suffix_cons _ _)⟩
      · rename_i next going
        rw [going] at validNext
        obtain ⟨⟨fields, last⟩, later, same⟩ := bind_eq_ok.mp result
        obtain ⟨each, withinLater, validRest⟩ := before.fields later
          (validNext.suffix ((skip_suffix next).trans (List.suffix_cons _ _)))
        cases same
        exact ⟨List.forall_mem_cons.mpr ⟨⟨validName, regular⟩, each⟩,
          fieldDepth_le.mpr (List.forall_mem_cons.mpr ⟨within, fieldDepth_le.mp withinLater⟩), validRest⟩
      · cases result
    · cases result
  · cases result

theorem sound (floats : FloatWriter floatText) (fuel : Nat) : Sound floatText fuel := by
  induction fuel with
  | zero =>
    refine ⟨fun result => ?_, fun result => ?_, fun result => ?_⟩
    · rw [read] at result
      cases result
    · rw [readItems] at result
      cases result
    · rw [readFields] at result
      cases result
  | succ fuel before => exact ⟨sound_value floats before, sound_items before, sound_fields before⟩

/-- What a text is read as is regular. -/
theorem readText_regular (floats : FloatWriter floatText) {room : Nat} {text : Points} {value : Value}
    (result : readText floatText room text = .ok value) (valid : Valid text) : Regular floatText value ∧ depth value ≤ room := by
  obtain ⟨⟨found, rest⟩, first, result⟩ := bind_eq_ok.mp result
  obtain ⟨regular, within, _⟩ := (sound floats _).value first (valid.suffix (skip_suffix text))
  dsimp only at result
  split at result
  · cases result
    exact ⟨regular, within⟩
  · cases result

/-- A regular value is read back from its whole text. -/
theorem readText_compact (floats : FloatWriter floatText) {value : Value} (regular : Regular floatText value) {room : Nat}
    (within : depth value ≤ room) : readText floatText room (compact floatText value) = .ok value := by
  have back := reads_regular floats regular (2 * (compact floatText value).length + 2) room [] (by omega) within ends_nil
  rw [List.append_nil] at back
  unfold readText
  rw [skip_opens (compact_starts floats regular), back]
  rfl

end RoundTrip

section Sorted

variable {floatText : String → String}

theorem pointsBefore_total (left right : Points) : (pointsBefore left right || pointsBefore right left) = true := by
  induction left generalizing right with
  | nil => rfl
  | cons first left ih =>
    cases right with
    | nil => rfl
    | cons second right =>
      have later := ih right
      simp only [pointsBefore, Bool.or_eq_true, Bool.and_eq_true, decide_eq_true_eq] at later ⊢
      rcases Nat.lt_trichotomy first second with less | same | more
      · exact .inl (.inl less)
      · exact later.imp (fun before => .inr ⟨same, before⟩) fun before => .inr ⟨same.symm, before⟩
      · exact .inr (.inl more)

theorem pointsBefore_trans {left middle right : Points} (before : pointsBefore left middle = true)
    (after : pointsBefore middle right = true) : pointsBefore left right = true := by
  induction left generalizing middle right with
  | nil => rfl
  | cons first left ih =>
    cases middle with
    | nil => cases before
    | cons second middle =>
      cases right with
      | nil => cases after
      | cons third right =>
        simp only [pointsBefore, Bool.or_eq_true, Bool.and_eq_true, decide_eq_true_eq] at before after ⊢
        rcases before with less | ⟨same, before⟩
        · rcases after with less' | ⟨same', _⟩
          · exact .inl (Nat.lt_trans less less')
          · exact .inl (same' ▸ less)
        · rcases after with less' | ⟨same', after⟩
          · exact .inl (same ▸ less')
          · exact .inr ⟨same.trans same', ih before after⟩

theorem pointsBefore_antisymm {left right : Points} (before : pointsBefore left right = true)
    (after : pointsBefore right left = true) : left = right := by
  induction left generalizing right with
  | nil =>
    cases right with
    | nil => rfl
    | cons second right => cases after
  | cons first left ih =>
    cases right with
    | nil => cases before
    | cons second right =>
      simp only [pointsBefore, Bool.or_eq_true, Bool.and_eq_true, decide_eq_true_eq] at before after
      rcases before with less | ⟨same, before⟩
      · rcases after with less' | ⟨same', _⟩ <;> omega
      · rcases after with less' | ⟨_, after⟩
        · omega
        · rw [same, ih before after]

/-- Texts are in the order of their code points. -/
theorem pointsBefore_chars {left right : List Char} (other : ¬List.Lex (fun first second => first < second) right left) :
    pointsBefore (left.map Char.toNat) (right.map Char.toNat) = true := by
  induction left generalizing right with
  | nil => rfl
  | cons first left ih =>
    cases right with
    | nil => exact absurd .nil other
    | cons second right =>
      rw [List.map_cons, List.map_cons, pointsBefore, Bool.or_eq_true, Bool.and_eq_true, decide_eq_true_eq, decide_eq_true_eq]
      rcases Nat.lt_trichotomy first.toNat second.toNat with less | same | more
      · exact .inl less
      · have char := Char.toNat_inj.mp same
        exact .inr ⟨same, ih fun less => other (char ▸ .cons less)⟩
      · exact absurd (.rel more) other

/-- The names of a sorted object are in their order. -/
theorem fields_ordered (fields : List (Points × Value)) :
    (fields.mergeSort fun left right => pointsBefore left.1 right.1).Pairwise
      fun left right => pointsBefore left.1 right.1 = true := by
  apply List.pairwise_mergeSort
  · exact fun _ _ _ before after => pointsBefore_trans before after
  · exact fun left right => pointsBefore_total left.1 right.1

/-- Sorting keeps that a value is one of the language. -/
theorem proper_sorted {value : Value} (proper : Proper floatText value) : Proper floatText (sorted value) := by
  induction proper with
  | list items each ih =>
    rw [sorted, sortedItems_eq]
    exact .list _ (List.forall_mem_map.mpr ih)
  | dict entries once valid each ih =>
    rw [sorted]
    have perm := sorted_perm entries
    have names : (entries.map fun entry => (entry.1, sorted entry.2)).map Prod.fst = entries.map Prod.fst := by
      rw [List.map_map]
      rfl
    refine .dict _ ?_ (fun field member => ?_) fun field member => ?_
    · rw [(perm.map Prod.fst).nodup_iff, names]
      exact once
    · obtain ⟨entry, listed, same⟩ := List.mem_map.mp (perm.mem_iff.mp member)
      rw [← same]
      exact valid entry listed
    · obtain ⟨entry, listed, same⟩ := List.mem_map.mp (perm.mem_iff.mp member)
      rw [← same]
      exact ih entry listed
  | null => exact .null
  | bool value => exact .bool value
  | int value => exact .int value
  | float numeral own => exact .float numeral own
  | str text valid => exact .str text valid

theorem escaped_valid {point : Nat} (small : point ≤ 0x10FFFF) : Valid (escaped point) := by
  unfold escaped
  intro other member
  repeat' split at member
  all_goals simp only [List.mem_cons, List.not_mem_nil, or_false, hexPoint] at member
  all_goals grind

theorem quoted_valid {text : Points} (valid : Valid text) : Valid (quoted text) := by
  unfold quoted
  refine Valid.cons (by decide) (Valid.append ?_ (Valid.cons (by decide) valid_nil))
  intro point member
  obtain ⟨before, listed, written⟩ := List.mem_flatMap.mp member
  exact escaped_valid (valid before listed) point written

theorem separated_valid {parts : List Points} (each : ∀ part ∈ parts, Valid part) : Valid (separated parts) := by
  induction parts with
  | nil => exact valid_nil
  | cons part parts ih =>
    cases parts with
    | nil =>
      rw [separated_singleton]
      exact each part List.mem_cons_self
    | cons other parts =>
      rw [separated_cons]
      exact (each part List.mem_cons_self).append
        ((ih fun part member => each part (List.mem_cons_of_mem _ member)).cons (by decide))

/-- A regular value is written in code points. -/
theorem compact_valid {value : Value} (regular : Regular floatText value) : Valid (compact floatText value) := by
  induction regular with
  | null =>
    rw [compact]
    exact valid_points _
  | bool value =>
    rw [compact]
    exact valid_points _
  | int value short =>
    rw [compact]
    exact valid_points _
  | float numeral finite' own =>
    rw [compact]
    exact valid_points _
  | str text valid =>
    rw [compact]
    exact quoted_valid valid
  | list items each ih =>
    rw [compact, compactItems_eq]
    refine Valid.cons (by decide) (Valid.append (separated_valid ?_) (Valid.cons (by decide) valid_nil))
    exact List.forall_mem_map.mpr ih
  | dict entries once valid each ih =>
    rw [compact, compactFields_eq]
    refine Valid.cons (by decide) (Valid.append (separated_valid ?_) (Valid.cons (by decide) valid_nil))
    exact List.forall_mem_map.mpr fun entry member =>
      (quoted_valid (valid entry member)).append ((ih entry member).cons (by decide))

end Sorted

end Jiejian.Library.StrictJson
