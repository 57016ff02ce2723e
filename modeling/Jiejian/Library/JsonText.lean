import Jiejian.Library.Table

namespace Jiejian.Library.JsonText

/-- A text as its code points; unlike a `String` it may have lone surrogates. -/
abbrev Points := List Nat

def points (text : String) : Points := text.toList.map Char.toNat

/-- The value of a JSON text; a float is kept as its numeral. -/
inductive Value where
  | null
  | bool (value : Bool)
  | int (value : Int)
  | float (numeral : String)
  | str (text : Points)
  | list (items : List Value)
  | dict (entries : List (Points × Value))
  deriving Repr

/-- Why a text has no value: it is no JSON, one of its integers is too long, or it is nested too deep. -/
inductive LoadFailure where
  | malformed
  | tooLong
  | tooDeep
  deriving DecidableEq, Repr

section Bytes

def surrogate (point : Nat) : Bool := 0xD800 ≤ point && point ≤ 0xDFFF

def highSurrogate (unit : Nat) : Bool := 0xD800 ≤ unit && unit ≤ 0xDBFF

def lowSurrogate (unit : Nat) : Bool := 0xDC00 ≤ unit && unit ≤ 0xDFFF

def joined (high low : Nat) : Nat := 0x10000 + (high - 0xD800) * 0x400 + (low - 0xDC00)

def tail? (byte : UInt8) : Option Nat :=
  if 0x80 ≤ byte.toNat ∧ byte.toNat ≤ 0xBF then some (byte.toNat - 0x80) else none

/-- The first code point of UTF-8 bytes; surrogates pass. -/
def utf8Point : List UInt8 → Option (Nat × List UInt8)
  | [] => none
  | first :: rest =>
    if first.toNat < 0x80 then some (first.toNat, rest)
    else if 0xC2 ≤ first.toNat ∧ first.toNat ≤ 0xDF then
      match rest with
      | second :: rest => do
        let low ← tail? second
        return ((first.toNat - 0xC0) * 0x40 + low, rest)
      | [] => none
    else if 0xE0 ≤ first.toNat ∧ first.toNat ≤ 0xEF then
      match rest with
      | second :: third :: rest => do
        let middle ← tail? second
        let low ← tail? third
        let point := (first.toNat - 0xE0) * 0x1000 + middle * 0x40 + low
        if 0x800 ≤ point then some (point, rest) else none
      | _ => none
    else if 0xF0 ≤ first.toNat ∧ first.toNat ≤ 0xF4 then
      match rest with
      | second :: third :: fourth :: rest => do
        let high ← tail? second
        let middle ← tail? third
        let low ← tail? fourth
        let point := (first.toNat - 0xF0) * 0x40000 + high * 0x1000 + middle * 0x40 + low
        if 0x10000 ≤ point ∧ point ≤ 0x10FFFF then some (point, rest) else none
      | _ => none
    else none

def utf8From : Nat → List UInt8 → Option Points
  | _, [] => some []
  | 0, _ => none
  | fuel + 1, bytes => do
    let (point, rest) ← utf8Point bytes
    let later ← utf8From fuel rest
    return point :: later

def decodeUtf8 (bytes : List UInt8) : Option Points := utf8From bytes.length bytes

/-- The numbers that so many bytes write each, the most significant byte first or last. -/
def units (size : Nat) (bigEndian : Bool) : Nat → List UInt8 → Option (List Nat)
  | _, [] => some []
  | 0, _ => none
  | fuel + 1, bytes =>
    if bytes.length < size then none
    else do
      let unit := if bigEndian then bytes.take size else (bytes.take size).reverse
      let later ← units size bigEndian fuel (bytes.drop size)
      return unit.foldl (fun value byte => value * 256 + byte.toNat) 0 :: later

def joinUnits : List Nat → Points
  | high :: low :: rest =>
    if highSurrogate high && lowSurrogate low then joined high low :: joinUnits rest else high :: joinUnits (low :: rest)
  | rest => rest

def decodeUtf16 (bigEndian : Bool) (bytes : List UInt8) : Option Points :=
  (units 2 bigEndian bytes.length bytes).map joinUnits

def decodeUtf32 (bigEndian : Bool) (bytes : List UInt8) : Option Points := do
  let read ← units 4 bigEndian bytes.length bytes
  if read.all (· ≤ 0x10FFFF) then some read else none

/-- `content.decode(detect_encoding(content), "surrogatepass")`. -/
def decodeBytes (content : List UInt8) : Option Points :=
  match content with
  | 0x00 :: 0x00 :: 0xFE :: 0xFF :: rest => decodeUtf32 true rest
  | 0xFF :: 0xFE :: 0x00 :: 0x00 :: rest => decodeUtf32 false rest
  | 0xFE :: 0xFF :: rest => decodeUtf16 true rest
  | 0xFF :: 0xFE :: rest => decodeUtf16 false rest
  | 0xEF :: 0xBB :: 0xBF :: rest => decodeUtf8 rest
  | first :: second :: third :: fourth :: _ =>
    if first = 0 then if second = 0 then decodeUtf32 true content else decodeUtf16 true content
    else if second = 0 then
      if third = 0 ∧ fourth = 0 then decodeUtf32 false content else decodeUtf16 false content
    else decodeUtf8 content
  | [first, second] =>
    if first = 0 then decodeUtf16 true content
    else if second = 0 then decodeUtf16 false content
    else decodeUtf8 content
  | _ => decodeUtf8 content

end Bytes

section Scanner

def blank (point : Nat) : Bool := point = 32 || point = 9 || point = 10 || point = 13

def skip (text : Points) : Points := text.dropWhile blank

def digit (point : Nat) : Bool := 48 ≤ point && point ≤ 57

def hexValue (point : Nat) : Option Nat :=
  if 48 ≤ point ∧ point ≤ 57 then some (point - 48)
  else if 97 ≤ point ∧ point ≤ 102 then some (point - 87)
  else if 65 ≤ point ∧ point ≤ 70 then some (point - 55)
  else none

def hexUnit (first second third fourth : Nat) : Option Nat := do
  let first ← hexValue first
  let second ← hexValue second
  let third ← hexValue third
  let fourth ← hexValue fourth
  return first * 0x1000 + second * 0x100 + third * 0x10 + fourth

def escape : Nat → Option Nat
  | 34 => some 34
  | 92 => some 92
  | 47 => some 47
  | 98 => some 8
  | 102 => some 12
  | 110 => some 10
  | 114 => some 13
  | 116 => some 9
  | _ => none

/-- The rest of a string after its opening quote; two escapes that make a pair stand for one code point. -/
def scanString : Nat → Points → Option (Points × Points)
  | 0, _ => none
  | _ + 1, [] => none
  | _ + 1, 34 :: rest => some ([], rest)
  | fuel + 1, 92 :: 117 :: first :: second :: third :: fourth :: rest => do
    let unit ← hexUnit first second third fourth
    let pair : Option (Nat × Points) :=
      match rest with
      | 92 :: 117 :: fifth :: sixth :: seventh :: eighth :: later =>
        (hexUnit fifth sixth seventh eighth).bind fun low =>
          if highSurrogate unit && lowSurrogate low then some (joined unit low, later) else none
      | _ => none
    let (point, rest) := pair.getD (unit, rest)
    let (text, rest) ← scanString fuel rest
    return (point :: text, rest)
  | fuel + 1, 92 :: sign :: rest => do
    let point ← escape sign
    let (text, rest) ← scanString fuel rest
    return (point :: text, rest)
  | fuel + 1, point :: rest =>
    if point = 92 ∨ point < 32 then none
    else do
      let (text, rest) ← scanString fuel rest
      return (point :: text, rest)

/-- The fraction and the exponent that follow an integer. -/
def scanFraction (text : Points) : Points × Points :=
  match text with
  | 46 :: rest => if (rest.takeWhile digit).isEmpty then ([], text) else (46 :: rest.takeWhile digit, rest.dropWhile digit)
  | _ => ([], text)

def scanExponent (text : Points) : Points × Points :=
  match text with
  | mark :: rest =>
    if mark = 101 ∨ mark = 69 then
      let sign := rest.head?.filter fun point => point = 43 || point = 45
      let digits := rest.drop sign.toList.length
      if (digits.takeWhile digit).isEmpty then ([], text)
      else (mark :: (sign.toList ++ digits.takeWhile digit), digits.dropWhile digit)
    else ([], text)
  | [] => ([], text)

/-- The integer part of a number. -/
def scanDigits : Points → Option (Points × Points)
  | 48 :: rest => some ([48], rest)
  | first :: rest => if digit first then some (first :: rest.takeWhile digit, rest.dropWhile digit) else none
  | [] => none

def natural (digits : Points) : Nat := digits.foldl (fun value point => 10 * value + (point - 48)) 0

def ascii (text : Points) : String := String.ofList (text.map Char.ofNat)

/-- `int()` takes no more than 4300 digits. -/
def scanNumber (text : Points) : Except LoadFailure (Value × Points) :=
  let minus := text.head? = some 45
  match scanDigits (if minus then text.drop 1 else text) with
  | none => .error .malformed
  | some (digits, rest) =>
    let (fraction, rest) := scanFraction rest
    let (exponent, rest) := scanExponent rest
    if fraction.isEmpty && exponent.isEmpty then
      if digits.length ≤ 4300 then .ok (.int (if minus then -(natural digits : Int) else natural digits), rest)
      else .error .tooLong
    else .ok (.float (ascii ((if minus then [45] else []) ++ digits ++ fraction ++ exponent)), rest)

/-- The words that stand for a value. -/
def words : List (Points × Value) :=
  [(points "null", .null), (points "true", .bool true), (points "false", .bool false), (points "NaN", .float "nan"),
    (points "Infinity", .float "inf"), (points "-Infinity", .float "-inf")]

def scanFlat (text : Points) : Except LoadFailure (Value × Points) :=
  match words.find? fun word => word.1.isPrefixOf text with
  | some (word, value) => .ok (value, text.drop word.length)
  | none => scanNumber text

def scanText (text : Points) : Except LoadFailure (Points × Points) :=
  match scanString (text.length + 1) text with
  | some read => .ok read
  | none => .error .malformed

mutual

/-- `scan_once`; `room` is how many lists and objects may still be opened. -/
def scan : Nat → Nat → Points → Except LoadFailure (Value × Points)
  | 0, _, _ => .error .malformed
  | fuel + 1, room, text =>
    match text with
    | 34 :: rest => do
      let (content, rest) ← scanText rest
      return (.str content, rest)
    | 91 :: rest =>
      match room with
      | 0 => .error .tooDeep
      | room + 1 =>
        match skip rest with
        | 93 :: rest => .ok (.list [], rest)
        | rest => do
          let (items, rest) ← scanItems fuel room rest
          return (.list items, rest)
    | 123 :: rest =>
      match room with
      | 0 => .error .tooDeep
      | room + 1 =>
        match skip rest with
        | 125 :: rest => .ok (.dict [], rest)
        | rest => do
          let (fields, rest) ← scanFields fuel room rest
          return (.dict (fields.foldl (Table.put Prod.fst) []), rest)
    | text => scanFlat text

def scanItems : Nat → Nat → Points → Except LoadFailure (List Value × Points)
  | 0, _, _ => .error .malformed
  | fuel + 1, room, text => do
    let (item, rest) ← scan fuel room text
    match skip rest with
    | 93 :: rest => return ([item], rest)
    | 44 :: rest => do
      let (items, rest) ← scanItems fuel room (skip rest)
      return (item :: items, rest)
    | _ => .error .malformed

def scanFields : Nat → Nat → Points → Except LoadFailure (List (Points × Value) × Points)
  | 0, _, _ => .error .malformed
  | fuel + 1, room, text =>
    match text with
    | 34 :: rest => do
      let (name, rest) ← scanText rest
      match skip rest with
      | 58 :: rest => do
        let (value, rest) ← scan fuel room (skip rest)
        match skip rest with
        | 125 :: rest => return ([(name, value)], rest)
        | 44 :: rest => do
          let (fields, rest) ← scanFields fuel room (skip rest)
          return ((name, value) :: fields, rest)
        | _ => .error .malformed
      | _ => .error .malformed
    | _ => .error .malformed

end

/-- The value of a whole text. -/
def decodeText (room : Nat) (text : Points) : Except LoadFailure Value := do
  let (value, rest) ← scan (2 * text.length + 2) room (skip text)
  if (skip rest).isEmpty then return value else .error .malformed

/-- `json.loads` of bytes. -/
def loads (room : Nat) (content : List UInt8) : Except LoadFailure Value :=
  match decodeBytes content with
  | some text => decodeText room text
  | none => .error .malformed

end Scanner

section Documents

mutual

/-- How deep lists and objects lie in each other. -/
def depth : Value → Nat
  | .list items => itemDepth items + 1
  | .dict entries => fieldDepth entries + 1
  | _ => 0

def itemDepth : List Value → Nat
  | [] => 0
  | item :: items => max (depth item) (itemDepth items)

def fieldDepth : List (Points × Value) → Nat
  | [] => 0
  | (_, value) :: fields => max (depth value) (fieldDepth fields)

end

/-- The numeral without its point and its exponent: its digits, and the power of ten that they are multiplied by. -/
def scaled (numeral : String) : Nat × Int :=
  let unsigned := numeral.toList.filter (· ≠ '-')
  let mantissa := unsigned.takeWhile fun char => char ≠ 'e' && char ≠ 'E'
  let fraction := (mantissa.dropWhile (· ≠ '.')).drop 1
  let exponent := (numeral.toList.dropWhile fun char => char ≠ 'e' && char ≠ 'E').drop 1
  let power := (natural ((exponent.filter Char.isDigit).map Char.toNat) : Int)
  (natural ((mantissa.filter Char.isDigit).map Char.toNat), (if '-' ∈ exponent then -power else power) - fraction.length)

/-- The largest float and half of its last place. -/
def floatBound : Nat := (Nat.pow 2 54 - 1) * Nat.pow 2 970

/-- A numeral that no float is close to is read as an infinity. -/
def finiteNumeral (numeral : String) : Bool :=
  if numeral ∈ ["nan", "inf", "-inf"] then false
  else
    let (digits, power) := scaled numeral
    let size := (Nat.toDigits 10 digits).length + power
    if digits = 0 ∨ size < 300 then true
    else if 400 < size then false
    else if 0 ≤ power then digits * Nat.pow 10 power.toNat < floatBound
    else digits < floatBound * Nat.pow 10 power.natAbs

mutual

/-- Every number is finite. -/
def finite : Value → Bool
  | .float numeral => finiteNumeral numeral
  | .list items => finiteItems items
  | .dict entries => finiteFields entries
  | _ => true

def finiteItems : List Value → Bool
  | [] => true
  | item :: items => finite item && finiteItems items

def finiteFields : List (Points × Value) → Bool
  | [] => true
  | (_, value) :: fields => finite value && finiteFields fields

end

/-- A text that can be encoded has no lone surrogates. -/
def whole (text : Points) : Bool := text.all fun point => !surrogate point

mutual

def wholeValue : Value → Bool
  | .str text => whole text
  | .list items => wholeItems items
  | .dict entries => wholeFields entries
  | _ => true

def wholeItems : List Value → Bool
  | [] => true
  | item :: items => wholeValue item && wholeItems items

def wholeFields : List (Points × Value) → Bool
  | [] => true
  | (name, value) :: fields => whole name && wholeValue value && wholeFields fields

end

end Documents

section Writer

variable (floatText : String → String)

def hexPoint (value : Nat) : Nat := if value < 10 then 48 + value else 87 + value

/-- A code point of a string as it is written, when other characters than ASCII are kept. -/
def escaped (point : Nat) : Points :=
  if point = 34 then [92, 34]
  else if point = 92 then [92, 92]
  else if point = 10 then [92, 110]
  else if point = 13 then [92, 114]
  else if point = 9 then [92, 116]
  else if point = 12 then [92, 102]
  else if point = 8 then [92, 98]
  else if point < 32 then [92, 117, 48, 48, hexPoint (point / 16), hexPoint (point % 16)]
  else [point]

def quoted (text : Points) : Points := 34 :: (text.flatMap escaped ++ [34])

def separated (parts : List Points) : Points := [44].intercalate parts

/-- A float as it is written. -/
def writtenFloat (numeral : String) : String :=
  if numeral = "nan" then "NaN"
  else if numeral = "inf" then "Infinity"
  else if numeral = "-inf" then "-Infinity"
  else floatText numeral

mutual

/-- The compact text of a value, with the fields of an object in their order. -/
def compact : Value → Points
  | .null => points "null"
  | .bool value => points (if value then "true" else "false")
  | .int value => points (toString value)
  | .float numeral => points (writtenFloat floatText numeral)
  | .str text => quoted text
  | .list items => 91 :: (separated (compactItems items) ++ [93])
  | .dict entries => 123 :: (separated (compactFields entries) ++ [125])

def compactItems : List Value → List Points
  | [] => []
  | item :: items => compact item :: compactItems items

def compactFields : List (Points × Value) → List Points
  | [] => []
  | (name, value) :: fields => (quoted name ++ 58 :: compact value) :: compactFields fields

end

def pointsBefore : Points → Points → Bool
  | [], _ => true
  | _ :: _, [] => false
  | first :: left, second :: right => first < second || (first = second && pointsBefore left right)

mutual

/-- The value with the fields of all its objects sorted by their names. -/
def sorted : Value → Value
  | .list items => .list (sortedItems items)
  | .dict entries => .dict ((sortedFields entries).mergeSort fun left right => pointsBefore left.1 right.1)
  | value => value

def sortedItems : List Value → List Value
  | [] => []
  | item :: items => sorted item :: sortedItems items

def sortedFields : List (Points × Value) → List (Points × Value)
  | [] => []
  | (name, value) :: fields => (name, sorted value) :: sortedFields fields

end

end Writer

section Facts

/-- Induction on a value by the values it holds. -/
theorem value_induction {motive : Value → Prop} (null : motive .null) (bool : ∀ value, motive (.bool value))
    (int : ∀ value, motive (.int value)) (float : ∀ numeral, motive (.float numeral)) (str : ∀ text, motive (.str text))
    (list : ∀ items, (∀ item ∈ items, motive item) → motive (.list items))
    (dict : ∀ entries, (∀ entry ∈ entries, motive entry.2) → motive (.dict entries)) (value : Value) : motive value := by
  refine @Value.rec motive (fun items => ∀ item ∈ items, motive item) (fun entries => ∀ entry ∈ entries, motive entry.2)
    (fun entry => motive entry.2) null bool int float str list dict ?_ ?_ ?_ ?_ (fun _ _ child => child) value
  · exact fun item member => absurd member List.not_mem_nil
  · intro first rest head tail item member
    cases List.mem_cons.mp member with
    | inl here => exact here ▸ head
    | inr later => exact tail item later
  · exact fun entry member => absurd member List.not_mem_nil
  · intro first rest head tail entry member
    cases List.mem_cons.mp member with
    | inl here => exact here ▸ head
    | inr later => exact tail entry later

theorem itemDepth_le {items : List Value} {bound : Nat} : itemDepth items ≤ bound ↔ ∀ item ∈ items, depth item ≤ bound := by
  induction items with
  | nil => simp [itemDepth]
  | cons item items ih => rw [itemDepth, Nat.max_le, ih, List.forall_mem_cons]

theorem fieldDepth_le {fields : List (Points × Value)} {bound : Nat} :
    fieldDepth fields ≤ bound ↔ ∀ field ∈ fields, depth field.2 ≤ bound := by
  induction fields with
  | nil => simp [fieldDepth]
  | cons field fields ih =>
    obtain ⟨name, value⟩ := field
    rw [fieldDepth, Nat.max_le, ih, List.forall_mem_cons]

theorem wholeItems_eq (items : List Value) : wholeItems items = items.all wholeValue := by
  induction items with
  | nil => rw [wholeItems, List.all_nil]
  | cons item items ih => rw [wholeItems, List.all_cons, ih]

theorem wholeFields_eq (fields : List (Points × Value)) :
    wholeFields fields = fields.all fun field => whole field.1 && wholeValue field.2 := by
  induction fields with
  | nil => rw [wholeFields, List.all_nil]
  | cons field fields ih =>
    obtain ⟨name, value⟩ := field
    rw [wholeFields, List.all_cons, ih]

theorem sortedItems_eq (items : List Value) : sortedItems items = items.map sorted := by
  induction items with
  | nil => rw [sortedItems, List.map_nil]
  | cons item items ih => rw [sortedItems, List.map_cons, ih]

theorem sortedFields_eq (fields : List (Points × Value)) :
    sortedFields fields = fields.map fun field => (field.1, sorted field.2) := by
  induction fields with
  | nil => rw [sortedFields, List.map_nil]
  | cons field fields ih =>
    obtain ⟨name, value⟩ := field
    rw [sortedFields, List.map_cons, ih]

theorem sorted_perm (fields : List (Points × Value)) :
    ((sortedFields fields).mergeSort fun left right => pointsBefore left.1 right.1).Perm
      (fields.map fun field => (field.1, sorted field.2)) := by
  rw [sortedFields_eq]
  exact List.mergeSort_perm _ _

/-- Sorting keeps how deep a value is. -/
theorem depth_sorted (value : Value) : depth (sorted value) = depth value := by
  induction value using value_induction with
  | list items ih =>
    rw [sorted, depth, depth, sortedItems_eq]
    have same : ∀ bound, itemDepth (items.map sorted) ≤ bound ↔ itemDepth items ≤ bound := by
      intro bound
      rw [itemDepth_le, itemDepth_le, List.forall_mem_map]
      exact forall₂_congr fun item member => by rw [ih item member]
    rw [Nat.le_antisymm ((same _).mpr (Nat.le_refl _)) ((same _).mp (Nat.le_refl _))]
  | dict entries ih =>
    rw [sorted, depth, depth]
    have same : ∀ bound, fieldDepth ((sortedFields entries).mergeSort fun left right => pointsBefore left.1 right.1) ≤ bound ↔
        fieldDepth entries ≤ bound := by
      intro bound
      rw [fieldDepth_le, fieldDepth_le]
      simp only [(sorted_perm entries).mem_iff]
      rw [List.forall_mem_map]
      exact forall₂_congr fun entry member => by rw [ih entry member]
    rw [Nat.le_antisymm ((same _).mpr (Nat.le_refl _)) ((same _).mp (Nat.le_refl _))]
  | _ => simp [sorted]

theorem all_agree {α : Type} {first second : α → Bool} {items : List α} (same : ∀ item ∈ items, first item = second item) :
    items.all first = items.all second := by
  induction items with
  | nil => rfl
  | cons item items ih =>
    rw [List.all_cons, List.all_cons, same item List.mem_cons_self, ih fun other member => same other (List.mem_cons_of_mem _ member)]

theorem wholeValue_sorted (value : Value) : wholeValue (sorted value) = wholeValue value := by
  induction value using value_induction with
  | list items ih =>
    rw [sorted, wholeValue, wholeValue, sortedItems_eq, wholeItems_eq, wholeItems_eq, List.all_map]
    exact all_agree ih
  | dict entries ih =>
    rw [sorted, wholeValue, wholeValue, wholeFields_eq, wholeFields_eq, (sorted_perm entries).all_eq, List.all_map]
    exact all_agree fun entry member => congrArg (whole entry.1 && ·) (ih entry member)
  | _ => simp [sorted]

theorem whole_append (front back : Points) : whole (front ++ back) = (whole front && whole back) := List.all_append

theorem whole_cons (point : Nat) (text : Points) : whole (point :: text) = (!surrogate point && whole text) := List.all_cons

theorem whole_points (text : String) : whole (points text) = true := by
  unfold whole points
  rw [List.all_map, List.all_eq_true]
  intro char _
  have valid : char.toNat < 0xD800 ∨ 0xDFFF < char.toNat ∧ char.toNat < 0x110000 := char.valid
  simp only [Function.comp_apply, surrogate, Bool.not_eq_true', Bool.and_eq_false_iff, decide_eq_false_iff_not]
  omega

theorem whole_escaped (point : Nat) : whole (escaped point) = !surrogate point := by
  by_cases small : point < 128
  · have each : ∀ sign < 128, whole (escaped sign) = !surrogate sign := by decide
    exact each point small
  · have plain : escaped point = [point] := by
      unfold escaped
      rw [if_neg (by omega), if_neg (by omega), if_neg (by omega), if_neg (by omega), if_neg (by omega), if_neg (by omega),
        if_neg (by omega), if_neg (by omega)]
    rw [plain, whole_cons]
    exact Bool.and_true _

theorem whole_quoted (text : Points) : whole (quoted text) = whole text := by
  have inside : whole (text.flatMap escaped) = whole text := by
    induction text with
    | nil => rfl
    | cons point text ih => rw [List.flatMap_cons, whole_append, whole_escaped, ih, whole_cons]
  rw [quoted, whole_cons, whole_append, inside]
  exact Bool.and_true _

theorem whole_separated (parts : List Points) : whole (separated parts) = parts.all whole := by
  induction parts with
  | nil => rfl
  | cons part parts ih =>
    cases parts with
    | nil =>
      rw [separated, List.intercalate_singleton, List.all_cons]
      exact (Bool.and_true _).symm
    | cons other parts =>
      unfold separated at ih ⊢
      have comma : whole [44] = true := by decide
      rw [List.intercalate_cons_cons, whole_append, whole_append, ih, comma, Bool.and_true]
      rfl

variable {floatText : String → String}

theorem compactItems_eq (items : List Value) : compactItems floatText items = items.map (compact floatText) := by
  induction items with
  | nil => rw [compactItems, List.map_nil]
  | cons item items ih => rw [compactItems, List.map_cons, ih]

theorem compactFields_eq (fields : List (Points × Value)) :
    compactFields floatText fields = fields.map fun field => quoted field.1 ++ 58 :: compact floatText field.2 := by
  induction fields with
  | nil => rw [compactFields, List.map_nil]
  | cons field fields ih =>
    obtain ⟨name, value⟩ := field
    rw [compactFields, List.map_cons, ih]

theorem whole_bracketed (first last : Nat) (inner : Points) (plain : surrogate first = false ∧ surrogate last = false) :
    whole (first :: (inner ++ [last])) = whole inner := by
  rw [whole_cons, whole_append, whole_cons, plain.1, plain.2]
  exact Bool.and_true _

/-- A value is written without lone surrogates exactly when it has none. -/
theorem whole_compact (value : Value) : whole (compact floatText value) = wholeValue value := by
  induction value using value_induction with
  | null => simp [compact, wholeValue, whole_points]
  | bool value => simp [compact, wholeValue, whole_points]
  | int value => simp [compact, wholeValue, whole_points]
  | float numeral => simp [compact, wholeValue, whole_points]
  | str text => rw [compact, wholeValue, whole_quoted]
  | list items ih =>
    rw [compact, wholeValue, whole_bracketed 91 93 _ (by decide), whole_separated, compactItems_eq, List.all_map, wholeItems_eq]
    exact all_agree ih
  | dict entries ih =>
    rw [compact, wholeValue, whole_bracketed 123 125 _ (by decide), whole_separated, compactFields_eq, List.all_map, wholeFields_eq]
    refine all_agree fun entry member => ?_
    show whole (quoted entry.1 ++ 58 :: compact floatText entry.2) = _
    rw [whole_append, whole_quoted, whole_cons, ih entry member]
    rfl

end Facts

end Jiejian.Library.JsonText
