import Jiejian.Web.Responses

namespace Jiejian.Web.ResponseFailures

open Library Library.JsonText Library.Outcome Errors
open JsonPaths Redaction Rendering Responses TargetGuard Templates

/-- The computation ends with a value or with a stable error. -/
def Typed {α : Type} (outcome : Except Failure α) : Prop := ∀ error, outcome ≠ .error (.raised error)

section Rules

variable {α β : Type}

/-- A computation with a continuation ends with a value exactly when both parts do. -/
theorem bind_ends {ε : Type} {first : Except ε α} {next : α → Except ε β} :
    (∃ result, (first >>= next) = .ok result) ↔ ∃ value, first = .ok value ∧ ∃ result, next value = .ok result := by
  cases first with
  | error error =>
    refine iff_of_false (fun done => ?_) fun done => ?_
    · obtain ⟨_, same⟩ := done
      cases same
    · obtain ⟨_, same, _⟩ := done
      cases same
  | ok value =>
    refine ⟨fun done => ⟨value, rfl, done⟩, fun done => ?_⟩
    obtain ⟨other, same, rest⟩ := done
    exact Except.ok.inj same ▸ rest

theorem typed_ok (value : α) : Typed (.ok value) := fun _ clash => by cases clash

theorem typed_bind {first : Except Failure α} {next : α → Except Failure β} :
    Typed (first >>= next) ↔ Typed first ∧ ∀ value, first = .ok value → Typed (next value) := by
  cases first with
  | error failure =>
    refine ⟨fun typed => ⟨fun error same => typed error ?_, fun value same => by cases same⟩, fun typed error same => ?_⟩
    · exact congrArg Except.error (Except.error.inj same)
    · exact typed.1 error (congrArg Except.error (Except.error.inj same))
  | ok value =>
    refine ⟨fun typed => ⟨typed_ok value, fun other same => Except.ok.inj same ▸ typed⟩, fun typed => ?_⟩
    exact typed.2 value rfl

theorem typed_require {condition : Prop} [Decidable condition] {error : JiejianError} :
    Typed (require condition (Failure.stable error)) := by
  intro raised same
  unfold require at same
  by_cases holds : condition
  · rw [if_pos holds] at same
    cases same
  · rw [if_neg holds] at same
    cases same

theorem typed_orRaise {value : Option α} {error : JiejianError} : Typed (orRaise value (Failure.stable error)) := by
  cases value <;> exact fun _ clash => by cases clash

theorem typed_stable {ε : Type} {outcome : Except ε α} {name : ε → JiejianError} :
    Typed (outcome.mapError fun error => Failure.stable (name error)) := by
  cases outcome <;> exact fun _ clash => by cases clash

/-- An exception of the language that is not caught is no stable error. -/
theorem typed_raised {outcome : Except Raised α} :
    Typed (outcome.mapError Failure.raised) ↔ ∃ value, outcome = .ok value := by
  cases outcome with
  | error error => exact iff_of_false (fun typed => typed error rfl) fun found => by obtain ⟨_, same⟩ := found; cases same
  | ok value => exact iff_of_true (fun _ clash => by cases clash) ⟨value, rfl⟩

theorem typed_asRedirect {outcome : Except Failure α} : Typed (outcome.mapError asRedirect) ↔ Typed outcome := by
  cases outcome with
  | error failure =>
    cases failure with
    | stable error => exact iff_of_true (fun _ clash => by cases clash) fun _ clash => by cases clash
    | raised error => exact iff_of_false (fun typed => typed error rfl) fun typed => typed error rfl
  | ok value => exact iff_of_true (fun _ clash => by cases clash) fun _ clash => by cases clash

end Rules

section Redirects

/-- The response redirects. -/
def Redirects (arrival : Arrival) : Prop :=
  300 ≤ arrival.statusCode ∧ arrival.statusCode < 400 ∧ (headerOf arrival.headers "location").getD "" ≠ ""

instance (arrival : Arrival) : Decidable (Redirects arrival) :=
  inferInstanceAs (Decidable (300 ≤ arrival.statusCode ∧ arrival.statusCode < 400 ∧ _ ≠ ""))

/-- The place that a response redirects to is a URL that can be taken apart. -/
def Joinable (forms : HostForms) (current location : List Char) : Prop :=
  ∃ url parsed, Urls.urljoin forms.nfkc current location = some url ∧ Urls.urlsplit forms.nfkc url [] = some parsed

variable {guard : WebTargetGuard} {forms : HostForms} {current location url : List Char} {parsed : Urls.SplitUrl}

/-- Whatever a guard refuses, it refuses with a stable error. -/
theorem authorizeSplit_typed : Typed (authorizeSplit guard forms url parsed) := by
  refine typed_bind.mpr ⟨typed_require, fun _ _ => ?_⟩
  refine typed_bind.mpr ⟨typed_require, fun _ _ => ?_⟩
  refine typed_bind.mpr ⟨typed_orRaise, fun named _ => ?_⟩
  refine typed_bind.mpr ⟨typed_stable, fun given _ => ?_⟩
  refine typed_bind.mpr ⟨typed_require, fun _ _ => ?_⟩
  refine typed_bind.mpr ⟨typed_require, fun _ _ => ?_⟩
  refine typed_bind.mpr ⟨typed_require, fun _ _ => ?_⟩
  refine typed_bind.mpr ⟨typed_require, fun _ _ => ?_⟩
  refine typed_bind.mpr ⟨typed_orRaise, fun address _ => ?_⟩
  refine typed_bind.mpr ⟨typed_require, fun _ _ => ?_⟩
  refine typed_bind.mpr ⟨typed_require, fun _ _ => ?_⟩
  exact typed_ok _

theorem orRaise_invalid {α : Type} {value : Option α} : Typed (orRaise value invalidUrl) ↔ ∃ found, value = some found := by
  cases value with
  | none => exact iff_of_false (fun typed => typed _ rfl) fun found => by obtain ⟨_, same⟩ := found; cases same
  | some found => exact iff_of_true (fun _ clash => by cases clash) ⟨found, rfl⟩

theorem authorizeRedirect_typed : Typed (authorizeRedirect guard forms current location) ↔ Joinable forms current location := by
  unfold authorizeRedirect authorizeUrl Joinable
  rw [typed_asRedirect, typed_bind, orRaise_invalid]
  constructor
  · intro typed
    obtain ⟨url, joined⟩ := typed.1
    obtain ⟨parsed, split⟩ := orRaise_invalid.mp (typed_bind.mp (typed.2 url (orRaise_eq_ok.mpr joined))).1
    exact ⟨url, parsed, joined, split⟩
  · intro readable
    obtain ⟨url, parsed, joined, split⟩ := readable
    refine ⟨⟨url, joined⟩, fun other same => ?_⟩
    have here : url = other := Option.some.inj (joined.symm.trans (orRaise_eq_ok.mp same))
    rw [← here, typed_bind]
    exact ⟨orRaise_invalid.mpr ⟨parsed, split⟩, fun _ _ => authorizeSplit_typed⟩

end Redirects

section Reading

variable {runtime : Runtime} {content : List UInt8}

/-- The text is JSON with integers and a depth that the language reads, or it is no JSON at all. -/
def Readable (runtime : Runtime) (content : List UInt8) : Prop :=
  ∀ failure, loads runtime.decoderRoom content = .error failure → failure = .malformed

theorem loadJson_eq_ok : (∃ found, loadJson runtime content = .ok found) ↔ Readable runtime content := by
  unfold loadJson Readable
  cases loads runtime.decoderRoom content with
  | ok value => exact iff_of_true ⟨_, rfl⟩ fun _ clash => by cases clash
  | error failure =>
    cases failure with
    | malformed => exact iff_of_true ⟨_, rfl⟩ fun other same => (Except.error.inj same).symm
    | tooLong =>
      refine iff_of_false (fun found => by obtain ⟨_, same⟩ := found; cases same) fun readable => ?_
      cases readable .tooLong rfl
    | tooDeep =>
      refine iff_of_false (fun found => by obtain ⟨_, same⟩ := found; cases same) fun readable => ?_
      cases readable .tooDeep rfl

theorem loadJson_document {document : Value} :
    loadJson runtime content = .ok (some document) ↔ loads runtime.decoderRoom content = .ok document := by
  unfold loadJson
  cases loads runtime.decoderRoom content with
  | ok value => simp
  | error failure => cases failure <;> simp [loadError]

theorem readable_nil : Readable runtime [] := by
  intro failure same
  have read : loads runtime.decoderRoom [] = .error .malformed := rfl
  rw [read] at same
  exact (Except.error.inj same).symm

theorem decodeResponse_eq_ok : (∃ decoded, decodeResponse runtime content = .ok decoded) ↔ Readable runtime content := by
  unfold decodeResponse
  by_cases empty : content = []
  · rw [if_pos empty, empty]
    exact iff_of_true ⟨[], rfl⟩ readable_nil
  · rw [if_neg empty, ← loadJson_eq_ok]
    constructor
    · intro found
      obtain ⟨decoded, done⟩ := found
      obtain ⟨read, here, _⟩ := bind_eq_ok.mp done
      exact ⟨read, here⟩
    · intro found
      obtain ⟨read, here⟩ := found
      rw [here]
      cases read with
      | none => exact ⟨_, rfl⟩
      | some value => cases value <;> exact ⟨_, rfl⟩

end Reading

section Sealing

variable {runtime : Runtime} {value : Value}

/-- What can be written and hashed: finite numbers, no lone surrogates, and not too deep. -/
structure Sealable (runtime : Runtime) (value : Value) : Prop where
  finite : finite value = true
  whole : wholeValue value = true
  shallow : depth value < runtime.encoderRoom

theorem webJsonSha256_eq_ok : (∃ hash, webJsonSha256 runtime value = .ok hash) ↔
    finite value = true ∧ depth value ≤ runtime.encoderRoom ∧ wholeValue value = true := by
  unfold webJsonSha256
  constructor
  · intro found
    obtain ⟨hash, done⟩ := found
    obtain ⟨_, finite', done⟩ := bind_eq_ok.mp done
    obtain ⟨text, dumped, done⟩ := bind_eq_ok.mp done
    obtain ⟨encoded, done, _⟩ := bind_eq_ok.mp done
    obtain ⟨_, shallow, same⟩ := bind_eq_ok.mp dumped
    obtain ⟨_, whole', _⟩ := bind_eq_ok.mp done
    have shallow' := require_eq_ok.mp shallow
    have whole'' := require_eq_ok.mp whole'
    rw [← Except.ok.inj same, whole_compact, wholeValue_sorted] at whole''
    rw [depth_sorted] at shallow'
    exact ⟨require_eq_ok.mp finite', shallow', whole''⟩
  · intro holds
    obtain ⟨finite', shallow, whole'⟩ := holds
    rw [← depth_sorted] at shallow
    have dumped : dumps runtime (sorted value) = .ok (compact runtime.floatText (sorted value)) :=
      bind_eq_ok.mpr ⟨(), require_eq_ok.mpr shallow, rfl⟩
    have plain : whole (compact runtime.floatText (sorted value)) = true := by
      rw [whole_compact, wholeValue_sorted]
      exact whole'
    exact ⟨_, bind_eq_ok.mpr ⟨(), require_eq_ok.mpr finite', bind_eq_ok.mpr ⟨_, dumped,
      bind_eq_ok.mpr ⟨_, bind_eq_ok.mpr ⟨(), require_eq_ok.mpr plain, rfl⟩, rfl⟩⟩⟩⟩

/-- The hash of a response is the hash of its status and its data. -/
theorem sealed_eq_ok {status : Int} {data : List (Points × Value)} :
    (∃ hash, webJsonSha256 runtime (.dict [(points "status", .int status), (points "data", .dict data)]) = .ok hash) ↔
      Sealable runtime (.dict data) := by
  rw [webJsonSha256_eq_ok]
  have finite' : finite (.dict [(points "status", .int status), (points "data", .dict data)]) = finite (.dict data) := by
    simp [finite, finiteFields]
  have deep : depth (.dict [(points "status", .int status), (points "data", .dict data)]) = depth (.dict data) + 1 := by
    simp [depth, fieldDepth]
  have whole' : wholeValue (.dict [(points "status", .int status), (points "data", .dict data)]) =
      wholeValue (.dict data) := by
    simp [wholeValue, wholeFields, whole_points]
  rw [finite', deep, whole']
  exact ⟨fun holds => ⟨holds.1, holds.2.2, holds.2.1⟩, fun holds => ⟨holds.finite, holds.shallow, holds.whole⟩⟩

end Sealing

section Walking

/-- A list is asked for a field by its name on the way along the path. -/
def Misread (value : Value) : List Token → Prop
  | [] => False
  | token :: rest =>
    match value with
    | .dict entries => ∃ child, childNamed entries token.key = some child ∧ Misread child rest
    | .list items => token.digits = "" ∨ ∃ child, items[position token.digits]? = some child ∧ Misread child rest
    | _ => False

theorem readValueTokens_eq_ok {value : Value} {tokens : List Token} :
    (∃ found, readValueTokens value tokens = .ok found) ↔ ¬Misread value tokens := by
  induction tokens generalizing value with
  | nil =>
    rw [readValueTokens, Misread]
    exact iff_of_true ⟨_, rfl⟩ id
  | cons token rest ih =>
    cases value with
    | dict entries =>
      rw [readValueTokens, Misread]
      cases child : childNamed entries token.key with
      | none => exact iff_of_true ⟨_, rfl⟩ fun found => by obtain ⟨_, same, _⟩ := found; cases same
      | some stored =>
        dsimp only
        rw [ih]
        exact not_congr ⟨fun misread => ⟨stored, rfl, misread⟩, fun found => by obtain ⟨_, same, here⟩ := found; cases same; exact here⟩
    | list items =>
      rw [readValueTokens, Misread]
      by_cases blank : token.digits = ""
      · refine iff_of_false (fun found => ?_) fun plain => plain (.inl blank)
        obtain ⟨found, done⟩ := found
        obtain ⟨index, parsed, _⟩ := bind_eq_ok.mp done
        obtain ⟨_, given, _⟩ := bind_eq_ok.mp parsed
        exact require_eq_ok.mp given blank
      · have parsed : parseInt token.digits = .ok (position token.digits) :=
          bind_eq_ok.mpr ⟨(), require_eq_ok.mpr blank, rfl⟩
        rw [parsed, or_iff_right blank]
        dsimp only [bind, Except.bind]
        cases child : items[position token.digits]? with
        | none => exact iff_of_true ⟨_, rfl⟩ fun found => by obtain ⟨_, same, _⟩ := found; cases same
        | some stored =>
          dsimp only
          rw [ih]
          exact not_congr
            ⟨fun misread => ⟨stored, rfl, misread⟩, fun found => by obtain ⟨_, same, here⟩ := found; cases same; exact here⟩
    | _ =>
      rw [readValueTokens, Misread]
      · exact iff_of_true ⟨_, rfl⟩ id
      all_goals simp

/-- A predicate's path does not fit the shape of the document. -/
def MisreadAt (document : Value) (path : String) : Prop :=
  path ≠ "$" ∧ (findall path).length ≤ 8 ∧ Misread document (findall path)

theorem readValuePath_eq_ok {document : Value} {path : String} :
    (∃ found, readValuePath document path = .ok found) ↔ ¬MisreadAt document path := by
  unfold readValuePath MisreadAt
  by_cases root : path = "$"
  · rw [if_pos root]
    exact iff_of_true ⟨_, rfl⟩ fun misread => misread.1 root
  · rw [if_neg root]
    by_cases long : (findall path).length > 8
    · rw [if_pos long]
      exact iff_of_true ⟨_, rfl⟩ fun misread => absurd misread.2.1 (by omega)
    · rw [if_neg long, readValueTokens_eq_ok, and_iff_right root, and_iff_right (by omega : (findall path).length ≤ 8)]

end Walking

section Classifying

variable {runtime : Runtime} {status : Nat} {headers : List (String × String)} {body : List UInt8}

def jsonPath : HttpPredicate → Option String
  | .jsonPathExists path => some path
  | .jsonPathEquals path _ => some path
  | .jsonPathIn path _ => some path
  | _ => none

/-- A JSON predicate whose path does not fit the body. -/
def Misreads (runtime : Runtime) (body : List UInt8) (predicate : HttpPredicate) : Prop :=
  ∃ path document, jsonPath predicate = some path ∧ loads runtime.decoderRoom body = .ok document ∧ MisreadAt document path

theorem jsonMatches_eq_ok {path : String} {meets : Value → Bool} (readable : Readable runtime body) :
    (∃ found, jsonMatches runtime body path meets = .ok found) ↔
      ¬∃ document, loads runtime.decoderRoom body = .ok document ∧ MisreadAt document path := by
  obtain ⟨read, here⟩ := loadJson_eq_ok.mpr readable
  unfold jsonMatches
  rw [here]
  cases read with
  | none =>
    refine iff_of_true ⟨_, rfl⟩ fun found => ?_
    obtain ⟨document, loaded, _⟩ := found
    rw [loadJson_document.mpr loaded] at here
    cases here
  | some document =>
    have loaded := loadJson_document.mp here
    have only : (∃ other, loads runtime.decoderRoom body = .ok other ∧ MisreadAt other path) ↔ MisreadAt document path := by
      constructor
      · intro found
        obtain ⟨other, same, misread⟩ := found
        exact Except.ok.inj (loaded.symm.trans same) ▸ misread
      · exact fun misread => ⟨document, loaded, misread⟩
    rw [only, ← readValuePath_eq_ok]
    constructor
    · intro found
      obtain ⟨_, done⟩ := found
      obtain ⟨_, same, done⟩ := bind_eq_ok.mp done
      cases same
      obtain ⟨value, done, _⟩ := bind_eq_ok.mp done
      exact ⟨value, done⟩
    · intro found
      obtain ⟨value, done⟩ := found
      exact ⟨_, bind_eq_ok.mpr ⟨some document, rfl, bind_eq_ok.mpr ⟨value, done, rfl⟩⟩⟩

theorem predicateMatches_eq_ok {predicate : HttpPredicate} (readable : Readable runtime body) :
    (∃ found, predicateMatches runtime status headers body predicate = .ok found) ↔ ¬Misreads runtime body predicate := by
  have json : ∀ path meets, jsonPath predicate = some path →
      predicateMatches runtime status headers body predicate = jsonMatches runtime body path meets →
      ((∃ found, predicateMatches runtime status headers body predicate = .ok found) ↔ ¬Misreads runtime body predicate) := by
    intro path meets named same
    rw [same, jsonMatches_eq_ok readable]
    refine not_congr ⟨fun found => ?_, fun found => ?_⟩
    · obtain ⟨document, loaded, misread⟩ := found
      exact ⟨path, document, named, loaded, misread⟩
    · obtain ⟨other, document, named', loaded, misread⟩ := found
      exact ⟨document, loaded, Option.some.inj (named.symm.trans named') ▸ misread⟩
  cases predicate with
  | jsonPathExists path => exact json path _ rfl rfl
  | jsonPathEquals path expected => exact json path _ rfl rfl
  | jsonPathIn path values => exact json path _ rfl rfl
  | _ => exact iff_of_true ⟨_, rfl⟩ fun found => by obtain ⟨_, _, named, _⟩ := found; cases named

/-- The predicate is looked at: none before it matches. -/
def Reached (test : HttpPredicate → Except Raised Bool) (predicates : List HttpPredicate) (predicate : HttpPredicate) : Prop :=
  ∃ before after, predicates = before ++ predicate :: after ∧ ∀ earlier ∈ before, test earlier = .ok false

theorem anyMatches_eq_ok {test : HttpPredicate → Except Raised Bool} {predicates : List HttpPredicate} :
    (∃ found, anyMatches test predicates = .ok found) ↔
      ∀ predicate, Reached test predicates predicate → ∃ found, test predicate = .ok found := by
  induction predicates with
  | nil =>
    refine iff_of_true ⟨_, rfl⟩ fun predicate reached => ?_
    obtain ⟨before, after, shape, _⟩ := reached
    cases before <;> cases shape
  | cons first rest ih =>
    rw [anyMatches]
    constructor
    · intro found predicate reached
      obtain ⟨_, done⟩ := found
      obtain ⟨matched, here, later⟩ := bind_eq_ok.mp done
      obtain ⟨before, after, shape, silent⟩ := reached
      cases before with
      | nil =>
        obtain ⟨same, _⟩ := List.cons.inj shape
        exact same ▸ ⟨matched, here⟩
      | cons earlier before =>
        obtain ⟨same, shape⟩ := List.cons.inj shape
        have quiet := silent earlier List.mem_cons_self
        rw [← same, here] at quiet
        rw [Except.ok.inj quiet] at later
        exact ih.mp ⟨_, later⟩ predicate ⟨before, after, shape, fun other member => silent other (List.mem_cons_of_mem _ member)⟩
    · intro each
      obtain ⟨matched, here⟩ := each first ⟨[], rest, rfl, fun _ member => absurd member List.not_mem_nil⟩
      rw [here]
      cases matched with
      | true => exact ⟨_, rfl⟩
      | false =>
        refine ih.mpr fun predicate reached => each predicate ?_
        obtain ⟨before, after, shape, silent⟩ := reached
        exact ⟨first :: before, after, congrArg (first :: ·) shape, List.forall_mem_cons.mpr ⟨here, silent⟩⟩

end Classifying

end Jiejian.Web.ResponseFailures
