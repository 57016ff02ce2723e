import Jiejian.Errors
import Jiejian.Library.Document
import Jiejian.Library.Outcome
import Mathlib.Data.List.Infix

namespace Jiejian.Web.JsonPaths

open Library.Document Library.Outcome Errors

/-- One token of a path as `re.findall` returns it: a dotted name, a quoted name or the digits of an index. -/
inductive Token where
  | dotted (name : String)
  | quoted (name : String)
  | indexed (digits : String)
  deriving DecidableEq, Repr

/-- `dotted or quoted or indexed`. -/
def Token.key : Token → String
  | .dotted name => name
  | .quoted name => name
  | .indexed digits => digits

/-- The group of the digits; the empty string for a name. -/
def Token.digits : Token → String
  | .indexed digits => digits
  | _ => ""

def nameStart (char : Char) : Bool := char.isAlpha || char = '_'

def nameChar (char : Char) : Bool := char.isAlphanum || char = '_' || char = '-'

def isQuote (char : Char) : Bool := char = '"' || char = '\''

/-- A greedy match of at most so many accepted characters, and what follows it. -/
def spanUpTo (accepts : Char → Bool) : Nat → List Char → List Char × List Char
  | 0, chars => ([], chars)
  | _ + 1, [] => ([], [])
  | limit + 1, char :: rest =>
    if accepts char then (char :: (spanUpTo accepts limit rest).1, (spanUpTo accepts limit rest).2)
    else ([], char :: rest)

/-- `[A-Za-z_][A-Za-z0-9_-]{0,63}`. -/
def matchName : List Char → Option (List Char × List Char)
  | [] => none
  | char :: rest =>
    if nameStart char then some (char :: (spanUpTo nameChar 63 rest).1, (spanUpTo nameChar 63 rest).2) else none

/-- `[\"']([^\"']+)[\"']\]` after the opening bracket. -/
def matchQuoted : List Char → Option (Token × List Char)
  | [] => none
  | first :: rest =>
    match rest.takeWhile (fun char => !isQuote char), rest.dropWhile (fun char => !isQuote char) with
    | name, last :: ']' :: after =>
      if isQuote first && isQuote last && name ≠ [] then some (.quoted (String.ofList name), after) else none
    | _, _ => none

/-- `([0-9]{1,4})\]` after the opening bracket. -/
def matchIndexed (chars : List Char) : Option (Token × List Char) :=
  match spanUpTo Char.isDigit 4 chars with
  | (digits, ']' :: after) => if digits ≠ [] then some (.indexed (String.ofList digits), after) else none
  | _ => none

/-- The token that starts here, if there is one. -/
def matchToken : List Char → Option (Token × List Char)
  | '.' :: rest => (matchName rest).map fun found => (.dotted (String.ofList found.1), found.2)
  | '[' :: rest => (matchQuoted rest).or (matchIndexed rest)
  | _ => none

/-- The tokens from left to right; a character that starts none is passed by. -/
def scan : Nat → List Char → List Token
  | 0, _ => []
  | _ + 1, [] => []
  | fuel + 1, char :: rest =>
    match matchToken (char :: rest) with
    | some (token, after) => token :: scan fuel after
    | none => scan fuel rest

/-- `re.findall(…, path[1:])`. -/
def findall (path : String) : List Token := scan path.length (path.toList.drop 1)

/-- `(?:0|[1-9][0-9]{0,3})\]` after the opening bracket. -/
def matchIndex : List Char → Option (List Char)
  | '0' :: ']' :: after => some after
  | first :: rest =>
    if first.isDigit && first ≠ '0' then
      match spanUpTo Char.isDigit 3 rest with
      | (_, ']' :: after) => some after
      | _ => none
    else none
  | [] => none

/-- `[\"'][A-Za-z_][A-Za-z0-9_-]{0,63}[\"']\]` after the opening bracket. -/
def matchQuotedName : List Char → Option (List Char)
  | first :: rest =>
    if isQuote first then
      match matchName rest with
      | some (_, last :: ']' :: after) => if isQuote last then some after else none
      | _ => none
    else none
  | [] => none

/-- One repetition of `_JSON_PATH`. -/
def matchSegment : List Char → Option (List Char)
  | '.' :: rest => (matchName rest).map Prod.snd
  | '[' :: rest => (matchIndex rest).or (matchQuotedName rest)
  | _ => none

/-- At most so many segments and nothing else. -/
def fullSegments : Nat → List Char → Bool
  | _, [] => true
  | 0, _ :: _ => false
  | limit + 1, char :: rest =>
    match matchSegment (char :: rest) with
    | some after => fullSegments limit after
    | none => false

/-- `_JSON_PATH.fullmatch`. -/
def fullmatch (value : String) : Bool :=
  match value.toList with
  | '$' :: rest => fullSegments 8 rest
  | _ => false

/-- `_validate_json_path`. -/
def validateJsonPath (value : String) : Except Raised String := do
  require (value.length ≤ 256 ∧ fullmatch value = true) (.ValueError "JSON path must be a finite simple path")
  require (∀ token ∈ ["..", "*", "?", "(", ")", "@", "script"], ¬token.toList <:+: value.toList)
    (.ValueError "JSON path cannot contain wildcard, filter, or code")
  return value

def position (digits : String) : Nat :=
  digits.toList.foldl (fun value char => 10 * value + (char.toNat - '0'.toNat)) 0

/-- `int(text)` of a text of digits; the empty text has no value. -/
def parseInt (text : String) : Except Raised Nat := do
  require (text ≠ "") (.ValueError "invalid literal for int() with base 10: ''")
  return position text

/-- The loop of `_read_json_path`; `none` is `(False, None)`. -/
def readTokens (value : Json) : List Token → Except Raised (Option Json)
  | [] => .ok (some value)
  | token :: rest =>
    match value with
    | .dict entries =>
      match fieldOf entries token.key with
      | some child => readTokens child rest
      | none => .ok none
    | .list items => do
      let index ← parseInt token.digits
      match items[index]? with
      | some child => readTokens child rest
      | none => .ok none
    | _ => .ok none

/-- `_read_json_path`, the walker of the outcome predicates. -/
def readJsonPath (value : Json) (path : String) : Except Raised (Option Json) :=
  if path = "$" then .ok (some value)
  else if (findall path).length > 8 then .ok none
  else readTokens value (findall path)

def extractionFailed : JiejianError := ⟨.VALUE_EXTRACTION_FAILED, "响应字段提取为空"⟩

/-- The loop of `_extract_json_path`. -/
def extractTokens (value : Json) : List Token → Except JiejianError Json
  | [] => .ok value
  | .indexed digits :: rest =>
    match value with
    | .list items =>
      match items[position digits]? with
      | some child => extractTokens child rest
      | none => .error extractionFailed
    | _ => .error extractionFailed
  | token :: rest =>
    match value with
    | .dict entries =>
      match fieldOf entries token.key with
      | some child => extractTokens child rest
      | none => .error extractionFailed
    | _ => .error extractionFailed

/-- `_extract_json_path`, the walker of the response extractors. -/
def extractJsonPath (document : Json) (path : String) : Except JiejianError Json :=
  if path = "$" then .ok document else extractTokens document (findall path)

/-- How a path writes one token. -/
inductive Written : Token → List Char → Prop
  | dotted {first : Char} {name : List Char} (start : nameStart first = true)
      (chars : ∀ char ∈ name, nameChar char = true) :
      Written (.dotted (String.ofList (first :: name))) ('.' :: first :: name)
  | quoted {before after first : Char} {name : List Char} (opens : isQuote before = true) (closes : isQuote after = true)
      (start : nameStart first = true) (chars : ∀ char ∈ name, nameChar char = true) :
      Written (.quoted (String.ofList (first :: name))) ('[' :: before :: first :: name ++ [after, ']'])
  | indexed {first : Char} {digits : List Char} (start : first.isDigit = true)
      (chars : ∀ char ∈ digits, char.isDigit = true) :
      Written (.indexed (String.ofList (first :: digits))) ('[' :: first :: digits ++ [']'])

/-- The tokens are written one after the other. -/
inductive Spelled : List Token → List Char → Prop
  | nil : Spelled [] []
  | cons {token : Token} {tokens : List Token} {text rest : List Char} (here : Written token text)
      (later : Spelled tokens rest) : Spelled (token :: tokens) (text ++ rest)

section Matches

theorem spanUpTo_append (accepts : Char → Bool) (limit : Nat) (chars : List Char) :
    (spanUpTo accepts limit chars).1 ++ (spanUpTo accepts limit chars).2 = chars := by
  induction limit generalizing chars with
  | zero => rfl
  | succ limit ih =>
    cases chars with
    | nil => rfl
    | cons char rest =>
      rw [spanUpTo]
      by_cases accepted : accepts char = true
      · rw [if_pos accepted, List.cons_append, ih]
      · rw [if_neg accepted, List.nil_append]

theorem spanUpTo_accepted (accepts : Char → Bool) (limit : Nat) (chars : List Char) :
    ∀ char ∈ (spanUpTo accepts limit chars).1, accepts char = true := by
  induction limit generalizing chars with
  | zero => exact fun char member => absurd member List.not_mem_nil
  | succ limit ih =>
    cases chars with
    | nil => exact fun char member => absurd member List.not_mem_nil
    | cons first rest =>
      rw [spanUpTo]
      by_cases accepted : accepts first = true
      · rw [if_pos accepted]
        intro char member
        rcases List.mem_cons.mp member with rfl | later
        · exact accepted
        · exact ih rest char later
      · rw [if_neg accepted]
        exact fun char member => absurd member List.not_mem_nil

/-- A matched name is written at the start. -/
theorem matchName_eq_some {chars name after : List Char} (found : matchName chars = some (name, after)) :
    ∃ first rest, name = first :: rest ∧ chars = first :: rest ++ after ∧ nameStart first = true ∧
      ∀ char ∈ rest, nameChar char = true := by
  cases chars with
  | nil => cases found
  | cons first rest =>
    rw [matchName] at found
    by_cases start : nameStart first = true
    · rw [if_pos start] at found
      obtain ⟨rfl, rfl⟩ := Prod.mk.inj (Option.some.inj found)
      refine ⟨first, _, rfl, ?_, start, spanUpTo_accepted nameChar 63 rest⟩
      rw [List.cons_append, spanUpTo_append]
    · rw [if_neg start] at found
      cases found

theorem not_quote_of_nameChar {char : Char} (named : nameChar char = true) : isQuote char = false := by
  rw [Bool.eq_false_iff]
  intro quote
  simp only [isQuote, Bool.or_eq_true, decide_eq_true_iff] at quote
  rcases quote with rfl | rfl
  · revert named
    decide
  · revert named
    decide

theorem not_quote_of_digit {char : Char} (digit : char.isDigit = true) : isQuote char = false := by
  rw [Bool.eq_false_iff]
  intro quote
  simp only [isQuote, Bool.or_eq_true, decide_eq_true_iff] at quote
  rcases quote with rfl | rfl
  · revert digit
    decide
  · revert digit
    decide

theorem nameChar_of_nameStart {char : Char} (start : nameStart char = true) : nameChar char = true := by
  simp only [nameStart, Bool.or_eq_true] at start
  simp only [nameChar, Char.isAlphanum, Bool.or_eq_true]
  rcases start with letter | underscore
  · exact .inl (.inl (.inl letter))
  · exact .inl (.inr underscore)

/-- The quoted name of a valid path is the token that is read there. -/
theorem matchQuoted_of_name {before last : Char} {name after : List Char} (opens : isQuote before = true)
    (closes : isQuote last = true) (filled : name ≠ []) (plain : ∀ char ∈ name, isQuote char = false) :
    matchQuoted (before :: (name ++ last :: ']' :: after)) = some (.quoted (String.ofList name), after) := by
  have all : ∀ char ∈ name, (!isQuote char) = true := fun char member => by rw [plain char member]; rfl
  have stops : (!isQuote last) = false := by rw [closes]; rfl
  have taken : (name ++ last :: ']' :: after).takeWhile (fun char => !isQuote char) = name := by
    rw [List.takeWhile_append_of_pos all, List.takeWhile_cons, stops]
    simp
  have dropped : (name ++ last :: ']' :: after).dropWhile (fun char => !isQuote char) = last :: ']' :: after := by
    rw [List.dropWhile_append_of_pos all, List.dropWhile_cons, stops]
    simp
  rw [matchQuoted]
  simp only [taken, dropped, opens, closes, Bool.true_and, decide_eq_true_iff]
  rw [if_pos filled]

theorem matchQuoted_none {first : Char} {rest : List Char} (plain : isQuote first = false) :
    matchQuoted (first :: rest) = none := by
  rw [matchQuoted]
  split
  · rw [plain]
    simp
  · rfl

theorem matchIndex_eq_some {chars after : List Char} (found : matchIndex chars = some after) :
    ∃ first digits, first.isDigit = true ∧ (∀ char ∈ digits, char.isDigit = true) ∧
      chars = first :: digits ++ ']' :: after ∧
      matchIndexed chars = some (.indexed (String.ofList (first :: digits)), after) := by
  unfold matchIndex at found
  split at found
  · rename_i rest
    have same := Option.some.inj found
    subst same
    refine ⟨'0', [], by decide, fun char member => absurd member List.not_mem_nil, rfl, ?_⟩
    have taken : spanUpTo Char.isDigit 4 ('0' :: ']' :: rest) = (['0'], ']' :: rest) := rfl
    rw [matchIndexed, taken]
    rfl
  · rename_i first rest _
    by_cases digit : (first.isDigit && first ≠ '0') = true
    · rw [if_pos digit] at found
      have start := (Bool.and_eq_true_iff.mp digit).1
      split at found
      · rename_i digits later spanned
        have same := Option.some.inj found
        subst same
        have written := spanUpTo_append Char.isDigit 3 rest
        have accepted := spanUpTo_accepted Char.isDigit 3 rest
        rw [spanned] at written accepted
        refine ⟨first, digits, start, accepted, by rw [← written]; rfl, ?_⟩
        have taken : spanUpTo Char.isDigit 4 (first :: rest) = (first :: digits, ']' :: later) := by
          rw [spanUpTo, if_pos start, spanned]
        rw [matchIndexed, taken]
        rfl
      · cases found
    · rw [if_neg digit] at found
      cases found
  · cases found

theorem matchQuotedName_eq_some {chars after : List Char} (found : matchQuotedName chars = some after) :
    ∃ before last first name, isQuote before = true ∧ isQuote last = true ∧ nameStart first = true ∧
      (∀ char ∈ name, nameChar char = true) ∧ chars = before :: (first :: name ++ last :: ']' :: after) := by
  cases chars with
  | nil => cases found
  | cons before rest =>
    rw [matchQuotedName] at found
    by_cases opens : isQuote before = true
    · rw [if_pos opens] at found
      split at found
      · rename_i name last later matched
        by_cases closes : isQuote last = true
        · rw [if_pos closes] at found
          have same := Option.some.inj found
          subst same
          obtain ⟨first, tail, -, written, start, accepted⟩ := matchName_eq_some matched
          exact ⟨before, last, first, tail, opens, closes, start, accepted, by rw [written]⟩
        · rw [if_neg closes] at found
          cases found
      · cases found
    · rw [if_neg opens] at found
      cases found

/-- What validation accepts as a segment is read as a token. -/
theorem matchSegment_eq_some {chars after : List Char} (found : matchSegment chars = some after) :
    ∃ token text, matchToken chars = some (token, after) ∧ Written token text ∧ chars = text ++ after := by
  unfold matchSegment at found
  split at found
  · rename_i rest
    obtain ⟨⟨name, later⟩, matched, same⟩ := Option.map_eq_some_iff.mp found
    have equal : later = after := same
    subst equal
    obtain ⟨first, tail, rfl, written, start, accepted⟩ := matchName_eq_some matched
    refine ⟨.dotted (String.ofList (first :: tail)), '.' :: first :: tail, ?_, .dotted start accepted, ?_⟩
    · rw [matchToken, matched]
      rfl
    · rw [written]
      rfl
  · rename_i rest
    rcases Option.or_eq_some_iff.mp found with index | ⟨-, quoted⟩
    · obtain ⟨first, digits, start, accepted, written, matched⟩ := matchIndex_eq_some index
      refine ⟨.indexed (String.ofList (first :: digits)), '[' :: first :: digits ++ [']'], ?_,
        .indexed start accepted, by rw [written]; simp⟩
      have unquoted : matchQuoted rest = none := by
        rw [written]
        exact matchQuoted_none (not_quote_of_digit start)
      rw [matchToken, unquoted, Option.none_or, matched]
    · obtain ⟨before, last, first, name, opens, closes, start, accepted, written⟩ := matchQuotedName_eq_some quoted
      refine ⟨.quoted (String.ofList (first :: name)), '[' :: before :: first :: name ++ [last, ']'], ?_,
        .quoted opens closes start accepted, by rw [written]; simp⟩
      have plain : ∀ char ∈ first :: name, isQuote char = false := by
        intro char member
        rcases List.mem_cons.mp member with rfl | later
        · exact not_quote_of_nameChar (nameChar_of_nameStart start)
        · exact not_quote_of_nameChar (accepted char later)
      have matched : matchQuoted rest = some (.quoted (String.ofList (first :: name)), after) := by
        rw [written]
        exact matchQuoted_of_name opens closes (List.cons_ne_nil first name) plain
      rw [matchToken, matched, Option.some_or]
  · cases found

theorem Written.length_pos {token : Token} {text : List Char} (written : Written token text) : 0 < text.length := by
  cases written <;> simp

/-- An accepted path is read token by token, with none left out. -/
theorem scan_spelled (limit : Nat) : ∀ (chars : List Char) (fuel : Nat), fullSegments limit chars = true →
    chars.length ≤ fuel → (scan fuel chars).length ≤ limit ∧ Spelled (scan fuel chars) chars := by
  induction limit with
  | zero =>
    intro chars fuel full enough
    cases chars with
    | nil => cases fuel <;> exact ⟨Nat.le_refl 0, .nil⟩
    | cons char rest => cases full
  | succ limit ih =>
    intro chars fuel full enough
    cases chars with
    | nil => cases fuel <;> exact ⟨Nat.zero_le _, .nil⟩
    | cons char rest =>
      cases fuel with
      | zero => simp at enough
      | succ fuel =>
        rw [fullSegments] at full
        cases segment : matchSegment (char :: rest) with
        | none =>
          rw [segment] at full
          cases full
        | some after =>
          rw [segment] at full
          obtain ⟨token, text, matched, written, split⟩ := matchSegment_eq_some segment
          have shorter : after.length ≤ fuel := by
            have lengths := congrArg List.length split
            rw [List.length_append] at lengths
            have positive := written.length_pos
            simp only [List.length_cons] at lengths enough
            omega
          obtain ⟨few, spelled⟩ := ih after fuel full shorter
          rw [scan, matched]
          refine ⟨by simpa using few, ?_⟩
          rw [split]
          exact .cons written spelled

end Matches

/-- The tokens of an accepted path spell it, and there are at most eight. -/
theorem findall_spelled {path : String} (accepted : validateJsonPath path = .ok path) :
    (findall path).length ≤ 8 ∧ ∃ rest, path.toList = '$' :: rest ∧ Spelled (findall path) rest := by
  obtain ⟨_, bounded, _⟩ := bind_eq_ok.mp accepted
  have full := (require_eq_ok.mp bounded).2
  unfold fullmatch at full
  split at full
  · rename_i rest begins
    have chars : path.toList.drop 1 = rest := by rw [begins]; rfl
    have enough : rest.length ≤ path.length := by
      rw [← String.length_toList, begins, List.length_cons]
      omega
    obtain ⟨few, spelled⟩ := scan_spelled 8 rest path.length full enough
    rw [findall, chars]
    exact ⟨few, rest, begins, spelled⟩
  · cases full

end Jiejian.Web.JsonPaths
