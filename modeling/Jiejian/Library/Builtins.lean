import Jiejian.Library.Document

namespace Jiejian.Library.Builtins

open Document

/-- `value == 0`; a false truth value is equal to it. -/
def isZero : Json → Bool
  | .bool value => !value
  | .int value => value = 0
  | .float text => text = "0.0" || text = "-0.0"
  | _ => false

/-- `bool(value)`. -/
def truthy : Json → Bool
  | .null => false
  | .str text => text ≠ ""
  | .list items => !items.isEmpty
  | .dict entries => !entries.isEmpty
  | value => !isZero value

/-- The number, when the value is an integer and not a truth value. -/
def integer : Json → Option Int
  | .int value => some value
  | _ => none

/-- `value == text`. -/
def isText (value : Option Json) (text : String) : Bool :=
  match value with
  | some (.str stored) => stored = text
  | _ => false

/-- The characters that `str.upper` makes ASCII letters of; no other character becomes only ASCII. -/
def upperChar (char : Char) : List Char :=
  if 'a' ≤ char ∧ char ≤ 'z' then [char.toUpper]
  else match char with
  | 'ı' => ['I']
  | 'ſ' => ['S']
  | 'ß' => ['S', 'S']
  | 'ﬀ' => ['F', 'F']
  | 'ﬁ' => ['F', 'I']
  | 'ﬂ' => ['F', 'L']
  | 'ﬃ' => ['F', 'F', 'I']
  | 'ﬄ' => ['F', 'F', 'L']
  | 'ﬅ' => ['S', 'T']
  | 'ﬆ' => ['S', 'T']
  | other => [other]

def upper (text : String) : String := String.ofList (text.toList.flatMap upperChar)

def hexChars (width value : Nat) : List Char :=
  let digits := Nat.toDigits 16 value
  List.replicate (width - digits.length) '0' ++ digits

section Texts

variable (printable : Char → Bool)

/-- One character inside the quotes of `repr`; beyond ASCII the printable ones stand for themselves. -/
def quotedChar (quote char : Char) : List Char :=
  if char = quote ∨ char = '\\' then ['\\', char]
  else if char = '\t' then ['\\', 't']
  else if char = '\n' then ['\\', 'n']
  else if char = '\r' then ['\\', 'r']
  else if 32 ≤ char.toNat ∧ char.toNat < 127 then [char]
  else if 127 < char.toNat ∧ printable char then [char]
  else if char.toNat < 256 then '\\' :: 'x' :: hexChars 2 char.toNat
  else if char.toNat < 65536 then '\\' :: 'u' :: hexChars 4 char.toNat
  else '\\' :: 'U' :: hexChars 8 char.toNat

/-- `repr(text)`: in single quotes, unless the text has such quotes and no double ones. -/
def reprText (text : String) : String :=
  let quote := if '\'' ∈ text.toList ∧ '"' ∉ text.toList then '"' else '\''
  String.ofList (quote :: text.toList.flatMap (quotedChar printable quote) ++ [quote])

mutual

/-- `repr(value)`. -/
def reprJson : Json → String
  | .null => "None"
  | .bool value => if value then "True" else "False"
  | .int value => toString value
  | .float text => text
  | .str text => reprText printable text
  | .list items => "[" ++ ", ".intercalate (reprItems items) ++ "]"
  | .dict entries => "\x7b" ++ ", ".intercalate (reprEntries entries) ++ "\x7d"

def reprItems : List Json → List String
  | [] => []
  | item :: items => reprJson item :: reprItems items

def reprEntries : List (String × Json) → List String
  | [] => []
  | (key, value) :: entries => (reprText printable key ++ ": " ++ reprJson value) :: reprEntries entries

end

/-- `str(value)`. -/
def strJson : Json → String
  | .str text => text
  | value => reprJson printable value

end Texts

end Jiejian.Library.Builtins
