import Jiejian.Web.JsonPaths

namespace Jiejian.Web.JsonReaders

open Library.Document Library.Outcome Errors JsonPaths

/-- The reading of a path: a name is an object key, a number is a list position. -/
inductive Follows : Json → List Token → Json → Prop
  | here {value : Json} : Follows value [] value
  | key {entries : List (String × Json)} {token : Token} {rest : List Token} {child value : Json}
      (named : ∀ digits, token ≠ .indexed digits) (found : fieldOf entries token.key = some child)
      (later : Follows child rest value) :
      Follows (.dict entries) (token :: rest) value
  | position {items : List Json} {digits : String} {rest : List Token} {child value : Json}
      (found : items[position digits]? = some child) (later : Follows child rest value) :
      Follows (.list items) (.indexed digits :: rest) value

/-- The outcome walker does not give the path up: a number may name an object key, a name fails at a list. -/
def Passes : Json → List Token → Prop
  | _, [] => True
  | .dict entries, token :: rest => ∃ child, fieldOf entries token.key = some child ∧ Passes child rest
  | .list items, .indexed digits :: rest => ∃ child, items[position digits]? = some child ∧ Passes child rest
  | .list _, _ :: _ => True
  | _, _ :: _ => False

/-- The path leads to a list where a name follows, or to an object with a key that is the number that
follows and from where the rest of the path is not given up. -/
def Misread : Json → List Token → Prop
  | _, [] => False
  | .dict entries, .indexed digits :: rest => ∃ child, fieldOf entries digits = some child ∧ Passes child rest
  | .dict entries, token :: rest => ∃ child, fieldOf entries token.key = some child ∧ Misread child rest
  | .list items, .indexed digits :: rest => ∃ child, items[position digits]? = some child ∧ Misread child rest
  | .list _, _ :: _ => True
  | _, _ :: _ => False

/-- Both walkers end in an answer or in a missing value, they agree, and both follow the reading of the path. -/
structure Agree (document : Json) (path : String) : Prop where
  reads : (∃ value, readJsonPath document path = .ok (some value)) ∨ readJsonPath document path = .ok none
  extracts : (∃ value, extractJsonPath document path = .ok value) ∨
    extractJsonPath document path = .error extractionFailed
  found : ∀ value, readJsonPath document path = .ok (some value) ↔ extractJsonPath document path = .ok value
  missed : readJsonPath document path = .ok none ↔ extractJsonPath document path = .error extractionFailed
  follows : ∃ tokens rest, path.toList = '$' :: rest ∧ Spelled tokens rest ∧ ∀ value,
    extractJsonPath document path = .ok value ↔ Follows document tokens value

/-- What a walk of the extractor means for the outcome walker. -/
def answer : Except JiejianError Json → Except Raised (Option Json)
  | .ok value => .ok (some value)
  | .error _ => .ok none

/-- The token is a number. -/
def Indexed (token : Token) : Prop := ∃ digits, token = .indexed digits

attribute [local simp] readTokens extractTokens

theorem digits_of_name {token : Token} (named : ¬Indexed token) : token.digits = "" := by
  cases token with
  | indexed digits => exact absurd ⟨digits, rfl⟩ named
  | dotted name => rfl
  | quoted name => rfl

theorem extract_name {document : Json} {token : Token} {rest : List Token} (named : ¬Indexed token) :
    extractTokens document (token :: rest) = match document with
      | .dict entries => match fieldOf entries token.key with
        | some child => extractTokens child rest
        | none => .error extractionFailed
      | _ => .error extractionFailed := by
  cases token with
  | indexed digits => exact absurd ⟨digits, rfl⟩ named
  | dotted name => cases document <;> rfl
  | quoted name => cases document <;> rfl

theorem misread_name {document : Json} {token : Token} {rest : List Token} (named : ¬Indexed token) :
    Misread document (token :: rest) ↔ (∃ entries child, document = .dict entries ∧
      fieldOf entries token.key = some child ∧ Misread child rest) ∨ ∃ items, document = .list items := by
  cases token with
  | indexed digits => exact absurd ⟨digits, rfl⟩ named
  | dotted name => cases document <;> simp [Misread]
  | quoted name => cases document <;> simp [Misread]

theorem extractTokens_cases (document : Json) (tokens : List Token) :
    (∃ value, extractTokens document tokens = .ok value) ∨ extractTokens document tokens = .error extractionFailed := by
  induction tokens generalizing document with
  | nil => exact .inl ⟨document, rfl⟩
  | cons token rest ih =>
    by_cases indexed : Indexed token
    · obtain ⟨digits, rfl⟩ := indexed
      cases document with
      | list items =>
        rw [extractTokens]
        cases found : items[position digits]? with
        | none => exact .inr rfl
        | some child => exact ih child
      | _ => exact .inr rfl
    · rw [extract_name indexed]
      cases document with
      | dict entries =>
        dsimp only
        cases found : fieldOf entries token.key with
        | none => exact .inr rfl
        | some child => exact ih child
      | _ => exact .inr rfl

/-- The extractor follows the reading of the path. -/
theorem extractTokens_iff (document value : Json) (tokens : List Token) :
    extractTokens document tokens = .ok value ↔ Follows document tokens value := by
  induction tokens generalizing document with
  | nil =>
    constructor
    · intro same
      rw [← Except.ok.inj same]
      exact .here
    · intro follows
      cases follows
      rfl
  | cons token rest ih =>
    by_cases indexed : Indexed token
    · obtain ⟨digits, rfl⟩ := indexed
      constructor
      · intro found
        cases document with
        | list items =>
          rw [extractTokens] at found
          cases stored : items[position digits]? with
          | none =>
            rw [stored] at found
            cases found
          | some child =>
            rw [stored] at found
            exact .position stored ((ih child).mp found)
        | _ => cases found
      · intro follows
        cases follows with
        | key named _ _ => exact absurd rfl (named digits)
        | position stored later =>
          rw [extractTokens, stored]
          exact (ih _).mpr later
    · rw [extract_name indexed]
      constructor
      · intro found
        cases document with
        | dict entries =>
          dsimp only at found
          cases stored : fieldOf entries token.key with
          | none =>
            rw [stored] at found
            cases found
          | some child =>
            rw [stored] at found
            exact .key (fun digits same => indexed ⟨digits, same⟩) stored ((ih child).mp found)
        | _ => cases found
      · intro follows
        cases follows with
        | key _ stored later =>
          dsimp only
          rw [stored]
          exact (ih _).mpr later
        | position _ _ => exact absurd ⟨_, rfl⟩ indexed

/-- Every number among the tokens has digits. -/
def Numbered (tokens : List Token) : Prop := ∀ digits, .indexed digits ∈ tokens → digits ≠ ""

theorem numbered_of_spelled {tokens : List Token} {text : List Char} (spelled : Spelled tokens text) :
    Numbered tokens := by
  induction spelled with
  | nil => exact fun digits member => absurd member List.not_mem_nil
  | cons here _ ih =>
    intro digits member
    rcases List.mem_cons.mp member with same | later
    · cases here with
      | dotted _ _ => cases same
      | quoted _ _ _ _ => cases same
      | @indexed first rest _ _ =>
        injection same with equal
        rw [equal]
        intro empty
        have chars := congrArg String.toList empty
        rw [String.toList_ofList] at chars
        cases chars
    · exact ih digits later

theorem parseInt_digits {digits : String} (filled : digits ≠ "") : parseInt digits = .ok (position digits) := by
  have checked : require (digits ≠ "") (Raised.ValueError "invalid literal for int() with base 10: ''") = .ok () :=
    require_eq_ok.mpr filled
  rw [parseInt, checked]
  rfl

theorem read_indexed {items : List Json} {digits : String} {rest : List Token} (filled : digits ≠ "") :
    readTokens (.list items) (.indexed digits :: rest) = match items[position digits]? with
      | some child => readTokens child rest
      | none => .ok none := by
  rw [readTokens, show (Token.indexed digits).digits = digits from rfl, parseInt_digits filled]
  rfl

/-- A name at a list is read as a number without digits. -/
theorem read_name_at_list {items : List Json} {token : Token} {rest : List Token} (named : ¬Indexed token) :
    readTokens (.list items) (token :: rest) =
      .error (.ValueError "invalid literal for int() with base 10: ''") := by
  rw [readTokens, digits_of_name named]
  rfl

/-- The outcome walker gives a path up exactly when it does not pass. -/
theorem readTokens_none {document : Json} {tokens : List Token} (numbered : Numbered tokens) :
    readTokens document tokens = .ok none ↔ ¬Passes document tokens := by
  induction tokens generalizing document with
  | nil => simp [Passes]
  | cons token rest ih =>
    have later : Numbered rest := fun digits member => numbered digits (List.mem_cons_of_mem token member)
    cases document with
    | dict entries =>
      rw [readTokens]
      cases stored : fieldOf entries token.key with
      | none => simp [Passes, stored]
      | some child =>
        dsimp only
        rw [ih later]
        simp [Passes, stored]
    | list items =>
      by_cases indexed : Indexed token
      · obtain ⟨digits, rfl⟩ := indexed
        rw [read_indexed (numbered digits List.mem_cons_self)]
        cases stored : items[position digits]? with
        | none => simp [Passes, stored]
        | some child =>
          dsimp only
          rw [ih later]
          simp [Passes, stored]
      · rw [read_name_at_list indexed]
        cases token with
        | indexed digits => exact absurd ⟨digits, rfl⟩ indexed
        | dotted name => simp [Passes]
        | quoted name => simp [Passes]
    | _ => simp [Passes]

/-- The two walks end alike exactly when the path is not misread. -/
theorem walks_agree_iff {document : Json} {tokens : List Token} (numbered : Numbered tokens) :
    readTokens document tokens = answer (extractTokens document tokens) ↔ ¬Misread document tokens := by
  induction tokens generalizing document with
  | nil => simp [answer, Misread]
  | cons token rest ih =>
    have later : Numbered rest := fun digits member => numbered digits (List.mem_cons_of_mem token member)
    by_cases indexed : Indexed token
    · obtain ⟨digits, rfl⟩ := indexed
      cases document with
      | dict entries =>
        -- The extractor fails here; the outcome walker goes on at a key that looks like the number.
        rw [readTokens, show extractTokens (.dict entries) (.indexed digits :: rest) = .error extractionFailed from rfl]
        show (match fieldOf entries digits with | some child => readTokens child rest | none => .ok none) = .ok none ↔ _
        cases stored : fieldOf entries digits with
        | none => simp [Misread, stored]
        | some child =>
          dsimp only
          rw [readTokens_none later]
          simp [Misread, stored]
      | list items =>
        rw [read_indexed (numbered digits List.mem_cons_self), extractTokens]
        cases stored : items[position digits]? with
        | none => simp [Misread, stored, answer]
        | some child =>
          dsimp only
          rw [ih later]
          simp [Misread, stored]
      | _ => simp [answer, Misread]
    · rw [extract_name indexed, misread_name indexed]
      cases document with
      | dict entries =>
        rw [readTokens]
        dsimp only
        cases stored : fieldOf entries token.key with
        | none => simp [stored, answer]
        | some child =>
          dsimp only
          rw [ih later]
          simp [stored]
      | list items =>
        rw [read_name_at_list indexed]
        simp [answer]
      | _ => simp [answer]

theorem readJsonPath_eq {path : String} (few : (findall path).length ≤ 8) (document : Json) :
    readJsonPath document path = readTokens document (findall path) := by
  unfold readJsonPath
  by_cases whole : path = "$"
  · subst whole
    rfl
  · rw [if_neg whole, if_neg (by omega)]

theorem extractJsonPath_eq (document : Json) (path : String) :
    extractJsonPath document path = extractTokens document (findall path) := by
  unfold extractJsonPath
  by_cases whole : path = "$"
  · subst whole
    rfl
  · rw [if_neg whole]

/-- The two JSON path readers agree on an accepted path exactly where it is not misread. -/
theorem readers_agree_iff (document : Json) (path : String) (accepted : validateJsonPath path = .ok path) :
    Agree document path ↔ ¬Misread document (findall path) := by
  obtain ⟨few, rest, begins, spelled⟩ := findall_spelled accepted
  rw [← walks_agree_iff (numbered_of_spelled spelled)]
  have extracts := extractTokens_cases document (findall path)
  constructor
  · intro agree
    have missed := agree.missed
    have found := agree.found
    rw [readJsonPath_eq few, extractJsonPath_eq] at missed
    rcases extracts with ⟨value, extracted⟩ | failed
    · have read := (found value).mpr (by rw [extractJsonPath_eq, extracted])
      rw [readJsonPath_eq few] at read
      rw [read, extracted, answer]
    · rw [missed.mpr failed, failed, answer]
  · intro same
    refine ⟨?_, ?_, ?_, ?_, findall path, rest, begins, spelled, ?_⟩
    · rw [readJsonPath_eq few, same]
      rcases extracts with ⟨value, extracted⟩ | failed
      · exact .inl ⟨value, by rw [extracted, answer]⟩
      · exact .inr (by rw [failed, answer])
    · rw [extractJsonPath_eq]
      exact extracts
    · intro value
      rw [readJsonPath_eq few, extractJsonPath_eq, same]
      rcases extracts with ⟨other, extracted⟩ | failed
      · simp [extracted, answer]
      · simp [failed, answer]
    · rw [readJsonPath_eq few, extractJsonPath_eq, same]
      rcases extracts with ⟨other, extracted⟩ | failed
      · simp [extracted, answer]
      · simp [failed, answer]
    · intro value
      rw [extractJsonPath_eq]
      exact extractTokens_iff document value (findall path)

theorem readers_agree_at_name :
    Agree (.dict [("id", .int 7)]) "$.id" ↔ ¬Misread (.dict [("id", .int 7)]) (findall "$.id") :=
  readers_agree_iff _ "$.id" (by decide)

/-- A name asked of a list raises in the one reader and is a missing value in the other. -/
theorem readers_disagree : ¬∀ (document : Json) (path : String), validateJsonPath path = .ok path →
    Agree document path := by
  intro always
  have agree := always (.list []) "$.id" (by decide)
  have raised : readJsonPath (.list []) "$.id" =
      .error (.ValueError "invalid literal for int() with base 10: ''") := by
    have tokens : findall "$.id" = [.dotted "id"] := by decide
    unfold readJsonPath
    rw [tokens]
    rfl
  rcases agree.reads with ⟨value, found⟩ | missing
  · rw [raised] at found
    cases found
  · rw [raised] at missing
    cases missing

end Jiejian.Web.JsonReaders
