import Jiejian.Library.Placeholders
import Jiejian.Library.Table
import Jiejian.Web.JsonPaths

namespace Jiejian.Web.Templates

open Library Library.Document Library.Outcome Library.Placeholders Errors JsonPaths

inductive HttpMethod where
  | GET
  | PATCH
  | POST
  | PUT
  | DELETE
  | HEAD
  deriving DecidableEq, Repr

inductive ValueSlotSource where
  | CASE_SUBJECT_ID
  | CASE_RESOURCE_ID
  | FIXED_LITERAL
  | SECRET_REF
  | PRIOR_STEP_JSON_PATH
  | PRIOR_STEP_HEADER
  | PRIOR_STEP_COOKIE
  | PRIOR_STEP_LOCATION
  deriving DecidableEq, Repr

inductive ValueSlotConsumer where
  | PATH
  | QUERY
  | HEADER
  | JSON_BODY
  | FORM_FIELD
  | MULTIPART_FIELD
  deriving DecidableEq, Repr

inductive ValueType where
  | STRING
  | INTEGER
  | BOOLEAN
  | JSON
  deriving DecidableEq, Repr

/-- What the regular expressions that search a text find in it. -/
structure Patterns where
  codeMarker : String → Bool
  secretName : String → Bool
  selector : String → Bool

structure ValueSlot where
  slotId : String
  source : ValueSlotSource
  consumer : ValueSlotConsumer
  valueType : ValueType := .STRING
  maxLength : Nat := 256
  secret : Bool := false
  literal : Json := .null
  secretRef : Option String := none
  sourcePath : Option String := none
  producerStepId : Option String := none
  consumerStepId : Option String := none
  producerStep : Option Nat := none
  consumerStep : Option Nat := none

/-- The value of a parameter: a literal or the value of a declared slot, never both. -/
inductive ParameterValue where
  | literal (text : String)
  | slot (slotId : String)
  deriving DecidableEq, Repr

def ParameterValue.slotId : ParameterValue → Option String
  | .slot slotId => some slotId
  | .literal _ => none

structure HttpParameter where
  name : String
  value : ParameterValue
  deriving DecidableEq, Repr

/-- The one source of a multipart part. -/
inductive PartSource where
  | literal (text : String)
  | slot (slotId : String)
  | fixture (artifactId : String)
  deriving DecidableEq, Repr

def PartSource.slotId : PartSource → Option String
  | .slot slotId => some slotId
  | _ => none

structure MultipartPart where
  name : String
  source : PartSource
  filename : Option String := none
  contentType : Option String := none
  deriving DecidableEq, Repr

inductive HttpBody where
  | empty
  | json (value : Json)
  | form (fields : List HttpParameter)
  | multipart (parts : List MultipartPart)

inductive ResponseExtractorKind where
  | JSON_PATH
  | HEADER
  | COOKIE
  | LOCATION
  | HTML_SELECTOR
  | HTML_ATTRIBUTE
  deriving DecidableEq, Repr

structure ResponseExtractor where
  extractorId : String
  kind : ResponseExtractorKind
  jsonPath : Option String := none
  headerName : Option String := none
  cookieName : Option String := none
  selector : Option String := none
  attributeName : Option String := none
  maxLength : Nat := 256
  secret : Bool := false
  deriving DecidableEq, Repr

structure HttpRequestTemplate where
  method : HttpMethod
  path : String
  query : List HttpParameter := []
  headers : List HttpParameter := []
  body : HttpBody := .empty
  inputSlots : List ValueSlot := []
  responseExtractors : List ResponseExtractor := []

def templateMaxDepth : Nat := 8

def templateMaxFields : Nat := 128

def literalMaxLength : Nat := 1024

def slotMaxLength : Nat := 4096

/-- The key of a slot reference in a JSON body. -/
def slotKey : String := "$slot"

def idChar (char : Char) : Bool := char.isAlphanum || char ∈ ['_', '.', ':', '-']

/-- `[A-Za-z][A-Za-z0-9_.:-]{0,63}`. -/
def identifier (text : String) : Bool :=
  match text.toList with
  | first :: rest => first.isAlpha && decide (rest.length ≤ 63) && rest.all idChar
  | [] => false

def pathChar (char : Char) : Bool :=
  char.isAlphanum || char ∈ ['_', '.', '/', '\x7b', '\x7d', '~', ':', '@', '%', '+', '-']

/-- `_PATH`. -/
def templatePath (path : String) : Bool :=
  match path.toList with
  | '/' :: rest => rest.all pathChar
  | _ => false

def parameterName (name : String) : Bool :=
  decide (1 ≤ name.length ∧ name.length ≤ 128) &&
    name.toList.all fun char => char.isAlphanum || char ∈ ['_', '.', '~', '-']

/-- A piece of a template path: a character that is kept, or a reference to a slot. -/
inductive Piece where
  | char (char : Char)
  | slot (slotId : String)
  deriving DecidableEq, Repr

def Piece.slotId : Piece → Option String
  | .slot slotId => some slotId
  | .char _ => none

/-- A slot reference in braces that starts here. -/
def matchSlot : List Char → Option (String × List Char)
  | '\x7b' :: first :: rest =>
    match spanUpTo idChar 63 rest with
    | (name, '\x7d' :: after) => if first.isAlpha then some (String.ofList (first :: name), after) else none
    | _ => none
  | _ => none

/-- The path from left to right, as the slot expression finds its references. -/
def scanPieces : Nat → List Char → List Piece
  | 0, _ => []
  | _ + 1, [] => []
  | fuel + 1, char :: rest =>
    match matchSlot (char :: rest) with
    | some (slotId, after) => .slot slotId :: scanPieces fuel after
    | none => .char char :: scanPieces fuel rest

def pieces (path : String) : List Piece := scanPieces path.length path.toList

/-- `re.findall` of the slot expression. -/
def pathSlots (path : String) : List String := (pieces path).filterMap Piece.slotId

/-- `_validate_literal`. -/
def validateLiteral (patterns : Patterns) (value : String) : Except Raised Unit :=
  require (value ≠ "" ∧ value.length ≤ literalMaxLength ∧ patterns.codeMarker value = false)
    (.ValueError "literal must be bounded literal data")

/-- The digits that `_STEP_NUMBER` finds at the end: one to three, after no other digit. -/
def stepIndex (value : Option String) : Option Nat :=
  value.bind fun text =>
    let digits := (text.toList.reverse.takeWhile Char.isDigit).reverse
    if 1 ≤ digits.length ∧ digits.length ≤ 3 then some (position (String.ofList digits)) else none

def fieldName (patterns : Patterns) (name : String) : Except Raised Unit :=
  require (name.length ≤ 128 ∧ patterns.codeMarker name = false) (.ValueError "JSON body contains an invalid field name")

/-- The content of a slot reference names a slot. -/
def slotReference : Json → Except Raised String
  | .str slotId => do
    require (identifier slotId = true) (.ValueError "JSON slot reference is invalid")
    return slotId
  | _ => .error (.ValueError "JSON slot reference is invalid")

mutual

/-- `_validate_json_value`. -/
def validateJsonValue (patterns : Patterns) (depth : Nat) : Json → Except Raised Unit
  | .str text => do
    require (depth ≤ templateMaxDepth) (.ValueError "JSON body nesting exceeds the supported depth")
    require (text.length ≤ slotMaxLength) (.ValueError "JSON body string is too long")
  | .float text => do
    require (depth ≤ templateMaxDepth) (.ValueError "JSON body nesting exceeds the supported depth")
    require (text ∉ ["nan", "inf", "-inf"]) (.ValueError "JSON body cannot contain non-finite numbers")
  | .list items => do
    require (depth ≤ templateMaxDepth) (.ValueError "JSON body nesting exceeds the supported depth")
    require (items.length ≤ templateMaxFields) (.ValueError "JSON body contains too many items")
    validateItems patterns (depth + 1) items
  | .dict entries => do
    require (depth ≤ templateMaxDepth) (.ValueError "JSON body nesting exceeds the supported depth")
    require (entries.length ≤ templateMaxFields) (.ValueError "JSON body contains too many fields")
    (marked slotKey entries).elim (validateFields patterns (depth + 1) entries) fun content => do
      fieldName patterns slotKey
      discard (slotReference content)
  | _ => require (depth ≤ templateMaxDepth) (.ValueError "JSON body nesting exceeds the supported depth")

def validateItems (patterns : Patterns) (depth : Nat) : List Json → Except Raised Unit
  | [] => .ok ()
  | item :: items => do
    validateJsonValue patterns depth item
    validateItems patterns depth items

def validateFields (patterns : Patterns) (depth : Nat) : List (String × Json) → Except Raised Unit
  | [] => .ok ()
  | (name, value) :: fields => do
    fieldName patterns name
    validateJsonValue patterns depth value
    validateFields patterns depth fields

end

attribute [local simp] validateJsonValue validateItems validateFields

/-- `_validate_slot`: the slot is declared, for this kind of field. -/
def validateSlot (slots : List ValueSlot) (consumer : ValueSlotConsumer) (slotId : String) : Except Raised Unit := do
  let slot ← orRaise (Table.latest ValueSlot.slotId slots slotId) (.ValueError "template references an undeclared slot")
  require (slot.consumer = consumer) (.ValueError "slot consumer does not match its template field")

mutual

/-- `_validate_json_slots`. -/
def validateJsonSlots (patterns : Patterns) (slots : List ValueSlot) (depth : Nat) : Json → Except Raised Unit
  | .list items => do
    require (depth ≤ templateMaxDepth) (.ValueError "JSON body exceeds maximum nesting depth")
    validateItemSlots patterns slots (depth + 1) items
  | .dict entries => do
    require (depth ≤ templateMaxDepth) (.ValueError "JSON body exceeds maximum nesting depth")
    (marked slotKey entries).elim (validateFieldSlots patterns slots (depth + 1) entries) fun content =>
      match content with
      | .str slotId => validateSlot slots .JSON_BODY slotId
      | _ => .error (.ValueError "JSON slot reference must be a string")
  | _ => require (depth ≤ templateMaxDepth) (.ValueError "JSON body exceeds maximum nesting depth")

def validateItemSlots (patterns : Patterns) (slots : List ValueSlot) (depth : Nat) : List Json → Except Raised Unit
  | [] => .ok ()
  | item :: items => do
    validateJsonSlots patterns slots depth item
    validateItemSlots patterns slots depth items

def validateFieldSlots (patterns : Patterns) (slots : List ValueSlot) (depth : Nat) :
    List (String × Json) → Except Raised Unit
  | [] => .ok ()
  | (name, value) :: fields => do
    fieldName patterns name
    validateJsonSlots patterns slots depth value
    validateFieldSlots patterns slots depth fields

end

attribute [local simp] validateJsonSlots validateItemSlots validateFieldSlots

def ValueSlotSource.priorStep : ValueSlotSource → Bool
  | .PRIOR_STEP_JSON_PATH | .PRIOR_STEP_HEADER | .PRIOR_STEP_COOKIE | .PRIOR_STEP_LOCATION => true
  | _ => false

/-- A slot may not consume a step that does not come before it. -/
def consumesEarlier (producer consumer : Option Nat) : Bool :=
  match producer, consumer with
  | some producer, some consumer => decide (producer < consumer)
  | _, _ => true

/-- `ValueSlot.validate_slot`. -/
def ValueSlot.validate (patterns : Patterns) (slot : ValueSlot) : Except Raised Unit := do
  require (identifier slot.slotId = true ∧ 1 ≤ slot.maxLength ∧ slot.maxLength ≤ slotMaxLength)
    (.ValueError "invalid slot field")
  require (slot.source = .SECRET_REF → slot.secret = true) (.ValueError "SECRET_REF slots must be secret")
  match slot.source, slot.literal, slot.secretRef with
  | .FIXED_LITERAL, .null, _ => .error (.ValueError "FIXED_LITERAL slots require a literal and no secret ref")
  | .FIXED_LITERAL, literal, none => validateJsonValue patterns 0 literal
  | .FIXED_LITERAL, _, some _ => .error (.ValueError "FIXED_LITERAL slots require a literal and no secret ref")
  | .SECRET_REF, .null, some _ => .ok ()
  | .SECRET_REF, _, _ => .error (.ValueError "SECRET_REF slots require a secret ref and no literal")
  | _, .null, none => .ok ()
  | _, _, _ => .error (.ValueError "only fixed or secret slots may carry a source value")
  require (¬(slot.secret = true ∧ slot.consumer = .PATH)) (.ValueError "secret slots cannot be placed in a path")
  require (slot.source.priorStep = true → slot.producerStepId.isSome ∨ slot.producerStep.isSome)
    (.ValueError "prior-step slots require a producer step")
  match slot.source, slot.sourcePath with
  | .PRIOR_STEP_JSON_PATH, some path => discard (validateJsonPath path)
  | .PRIOR_STEP_JSON_PATH, none => .error (.ValueError "JSON response slots require source_path")
  | _, path =>
    require (slot.source.priorStep = true → path.any (· ≠ ""))
      (.ValueError "header, cookie, and location slots require source_path")
  require (consumesEarlier slot.producerStep slot.consumerStep = true ∧
    consumesEarlier (stepIndex slot.producerStepId) (stepIndex slot.consumerStepId) = true)
    (.ValueError "a slot cannot consume a future or current step")

/-- `HttpParameter.validate_value`. -/
def HttpParameter.validate (patterns : Patterns) (parameter : HttpParameter) : Except Raised Unit := do
  require (parameterName parameter.name = true) (.ValueError "invalid parameter name")
  match parameter.value with
  | .literal text => validateLiteral patterns text
  | .slot slotId => require (identifier slotId = true) (.ValueError "invalid slot identifier")

/-- `MultipartPart.validate_source`. -/
def MultipartPart.validate (patterns : Patterns) (part : MultipartPart) : Except Raised Unit := do
  require (parameterName part.name = true) (.ValueError "invalid part name")
  match part.source with
  | .literal text => validateLiteral patterns text
  | .slot slotId => require (identifier slotId = true) (.ValueError "invalid slot identifier")
  | .fixture _ => require part.filename.isSome (.ValueError "fixture multipart parts require a safe filename")

/-- `ResponseExtractor.validate_extractor`. -/
def ResponseExtractor.validate (patterns : Patterns) (extractor : ResponseExtractor) : Except Raised Unit := do
  require (identifier extractor.extractorId = true ∧ 1 ≤ extractor.maxLength ∧ extractor.maxLength ≤ slotMaxLength)
    (.ValueError "invalid extractor field")
  match extractor.kind with
  | .JSON_PATH => do
    let path ← orRaise extractor.jsonPath (.ValueError "JSON_PATH extractor requires json_path")
    discard (validateJsonPath path)
  | .HEADER => require (extractor.headerName.any (· ≠ "")) (.ValueError "HEADER extractor requires header_name")
  | .COOKIE => do
    require (extractor.cookieName.any (· ≠ "")) (.ValueError "COOKIE extractor requires cookie_name")
    require (extractor.secret = true) (.ValueError "COOKIE extractor must be secret")
  | .LOCATION => require (extractor.attributeName = none) (.ValueError "LOCATION extractor cannot have an attribute")
  | .HTML_SELECTOR => require (extractor.selector.any (· ≠ "")) (.ValueError "HTML_SELECTOR extractor requires selector")
  | .HTML_ATTRIBUTE =>
    require (extractor.selector.any (· ≠ "") ∧ extractor.attributeName.any (· ≠ ""))
      (.ValueError "HTML_ATTRIBUTE extractor requires selector and attribute")
  require (∀ selector ∈ extractor.selector, patterns.codeMarker selector = false ∧ patterns.selector selector = true)
    (.ValueError "HTML selector is outside the supported subset")
  require (∀ name ∈ extractor.headerName, patterns.secretName name = true → extractor.secret = true)
    (.ValueError "response secret headers must be explicitly classified as secret")

def forbiddenHeaders : List String :=
  ["host", "content-length", "transfer-encoding", "connection", "authorization", "cookie"]

/-- `reject_reserved_headers`; `seen` are the lower-case names before the present one. -/
def rejectReservedHeaders (patterns : Patterns) : List String → List HttpParameter → Except Raised Unit
  | _, [] => .ok ()
  | seen, item :: items => do
    let name := item.name.toLower
    require (name ∉ forbiddenHeaders ∧ ¬"x-jiejian-".toList <+: name.toList)
      (.ValueError "request template cannot provide reserved headers")
    require (name ∉ seen) (.ValueError "request template headers must be unique")
    require (item.value.slotId.isNone → patterns.secretName name = false)
      (.ValueError "static headers cannot contain secret material")
    rejectReservedHeaders patterns (name :: seen) items

/-- `_validate_parameters`. -/
def validateParameters (slots : List ValueSlot) (consumer : ValueSlotConsumer) (values : List HttpParameter) :
    Except Raised Unit :=
  (values.filterMap fun item => item.value.slotId).forM (validateSlot slots consumer)

def HttpBody.validate (patterns : Patterns) : HttpBody → Except Raised Unit
  | .empty => .ok ()
  | .json value => validateJsonValue patterns 0 value
  | .form fields => do
    require (fields.length ≤ templateMaxFields) (.ValueError "too many fields")
    fields.forM (·.validate patterns)
  | .multipart parts => do
    require (1 ≤ parts.length ∧ parts.length ≤ templateMaxFields) (.ValueError "too few or too many parts")
    parts.forM (·.validate patterns)

/-- The checks that the fields of a template pass one by one. -/
def HttpRequestTemplate.validateFields (patterns : Patterns) (template : HttpRequestTemplate) : Except Raised Unit := do
  require (template.path.length ≤ 2048 ∧ templatePath template.path = true) (.ValueError "invalid template path")
  require (template.query.length ≤ templateMaxFields ∧ template.headers.length ≤ templateMaxFields ∧
    template.inputSlots.length ≤ templateMaxFields ∧ template.responseExtractors.length ≤ templateMaxFields)
    (.ValueError "too many fields")
  template.query.forM (·.validate patterns)
  template.headers.forM (·.validate patterns)
  rejectReservedHeaders patterns [] template.headers
  template.body.validate patterns
  template.inputSlots.forM (·.validate patterns)
  template.responseExtractors.forM (·.validate patterns)

def validateBodyReferences (patterns : Patterns) (slots : List ValueSlot) : HttpBody → Except Raised Unit
  | .empty => .ok ()
  | .json value => validateJsonSlots patterns slots 0 value
  | .form fields => validateParameters slots .FORM_FIELD fields
  | .multipart parts => (parts.filterMap fun part => part.source.slotId).forM (validateSlot slots .MULTIPART_FIELD)

/-- `HttpRequestTemplate.validate_references`. -/
def HttpRequestTemplate.validateReferences (patterns : Patterns) (template : HttpRequestTemplate) :
    Except Raised Unit := do
  require (template.inputSlots.map (·.slotId)).Nodup (.ValueError "input slot IDs must be unique")
  require (template.responseExtractors.map (·.extractorId)).Nodup (.ValueError "response extractor IDs must be unique")
  require (pathSlots template.path).Nodup (.ValueError "path slot references must be unique")
  (pathSlots template.path).forM (validateSlot template.inputSlots .PATH)
  validateParameters template.inputSlots .QUERY template.query
  validateParameters template.inputSlots .HEADER template.headers
  validateBodyReferences patterns template.inputSlots template.body

/-- `HttpRequestTemplate.model_validate_json` of a dumped template. -/
def HttpRequestTemplate.validate (patterns : Patterns) (template : HttpRequestTemplate) :
    Except Raised HttpRequestTemplate := do
  template.validateFields patterns
  template.validateReferences patterns
  return template

def HttpBody.references : HttpBody → List String
  | .empty => []
  | .json value => (Placeholders.references slotKey value).filterMap fun content =>
      match content with
      | .str slotId => some slotId
      | _ => none
  | .form fields => fields.filterMap fun item => item.value.slotId
  | .multipart parts => parts.filterMap fun part => part.source.slotId

/-- The slots that the path, the query, the headers and the body of a template refer to. -/
def HttpRequestTemplate.references (template : HttpRequestTemplate) : List String :=
  pathSlots template.path ++ template.query.filterMap (fun item => item.value.slotId) ++
    template.headers.filterMap (fun item => item.value.slotId) ++ template.body.references

section Accepted

variable {patterns : Patterns} {slots : List ValueSlot}

theorem then_eq_ok {first next : Except Raised Unit} :
    (first >>= fun _ => next) = .ok () ↔ first = .ok () ∧ next = .ok () := by
  cases first <;> simp [bind, Except.bind]

theorem validateItems_eq_ok {depth : Nat} {items : List Json} :
    validateItems patterns depth items = .ok () ↔ ∀ item ∈ items, validateJsonValue patterns depth item = .ok () := by
  induction items with
  | nil => simp
  | cons item items ih =>
    rw [validateItems, then_eq_ok, List.forall_mem_cons, ih]

theorem validateFields_eq_ok {depth : Nat} {fields : List (String × Json)} :
    validateFields patterns depth fields = .ok () ↔
      ∀ field ∈ fields, fieldName patterns field.1 = .ok () ∧ validateJsonValue patterns depth field.2 = .ok () := by
  induction fields with
  | nil => simp
  | cons field fields ih =>
    obtain ⟨name, value⟩ := field
    rw [validateFields, then_eq_ok, then_eq_ok, List.forall_mem_cons, ih, and_assoc]

/-- A value that a body may hold at some depth. -/
def Accepted (patterns : Patterns) (document : Json) : Prop :=
  ∃ depth, validateJsonValue patterns depth document = .ok ()

theorem accepted_str {text : String} (accepted : Accepted patterns (.str text)) : text.length ≤ slotMaxLength := by
  obtain ⟨depth, valid⟩ := accepted
  rw [validateJsonValue] at valid
  obtain ⟨-, -, bounded⟩ := bind_eq_ok.mp valid
  exact require_eq_ok.mp bounded

theorem accepted_items {items : List Json} (accepted : Accepted patterns (.list items)) :
    ∀ item ∈ items, Accepted patterns item := by
  obtain ⟨depth, valid⟩ := accepted
  rw [validateJsonValue] at valid
  obtain ⟨-, -, valid⟩ := bind_eq_ok.mp valid
  obtain ⟨-, -, valid⟩ := bind_eq_ok.mp valid
  exact fun item member => ⟨depth + 1, validateItems_eq_ok.mp valid item member⟩

theorem accepted_fields {entries : List (String × Json)} (accepted : Accepted patterns (.dict entries))
    (plain : marked slotKey entries = none) : ∀ entry ∈ entries, Accepted patterns entry.2 := by
  obtain ⟨depth, valid⟩ := accepted
  rw [validateJsonValue] at valid
  obtain ⟨-, -, valid⟩ := bind_eq_ok.mp valid
  obtain ⟨-, -, valid⟩ := bind_eq_ok.mp valid
  rw [plain] at valid
  exact fun entry member => ⟨depth + 1, (validateFields_eq_ok.mp valid entry member).2⟩

theorem slotReference_eq_ok {content : Json} {slotId : String} (named : slotReference content = .ok slotId) :
    content = .str slotId := by
  cases content with
  | str text =>
    obtain ⟨-, -, same⟩ := bind_eq_ok.mp named
    exact congrArg Json.str (Except.ok.inj same)
  | _ => cases named

theorem accepted_placeholder {content : Json} (accepted : Accepted patterns (placeholder slotKey content)) :
    ∃ slotId, content = .str slotId := by
  obtain ⟨depth, valid⟩ := accepted
  rw [placeholder, validateJsonValue] at valid
  obtain ⟨-, -, valid⟩ := bind_eq_ok.mp valid
  obtain ⟨-, -, valid⟩ := bind_eq_ok.mp valid
  rw [(marked_eq_some slotKey).mpr rfl] at valid
  obtain ⟨-, -, valid⟩ := bind_eq_ok.mp valid
  obtain ⟨slotId, named, -⟩ := map_eq_ok.mp valid
  exact ⟨slotId, slotReference_eq_ok named⟩

/-- Every slot reference of an accepted body names a slot. -/
theorem accepted_references {document : Json} (accepted : Accepted patterns document) :
    ∀ content ∈ references slotKey document, ∃ slotId, content = .str slotId := by
  induction document using placeholder_induction slotKey with
  | flat document flat =>
    rw [references_flat slotKey flat]
    exact fun content found => absurd found List.not_mem_nil
  | list items ih =>
    rw [references_list]
    intro content found
    obtain ⟨item, member, inside⟩ := List.mem_flatMap.mp found
    exact ih item member (accepted_items accepted item member) content inside
  | hole content =>
    rw [references_placeholder]
    intro other found
    rw [List.mem_singleton.mp found]
    exact accepted_placeholder accepted
  | dict entries plain ih =>
    rw [references_dict slotKey plain]
    intro content found
    obtain ⟨entry, member, inside⟩ := List.mem_flatMap.mp found
    exact ih entry member (accepted_fields accepted plain entry member) content inside

theorem validateItemSlots_eq_ok {depth : Nat} {items : List Json} :
    validateItemSlots patterns slots depth items = .ok () ↔
      ∀ item ∈ items, validateJsonSlots patterns slots depth item = .ok () := by
  induction items with
  | nil => simp
  | cons item items ih =>
    rw [validateItemSlots, then_eq_ok, List.forall_mem_cons, ih]

theorem validateFieldSlots_eq_ok {depth : Nat} {fields : List (String × Json)} :
    validateFieldSlots patterns slots depth fields = .ok () ↔
      ∀ field ∈ fields, fieldName patterns field.1 = .ok () ∧ validateJsonSlots patterns slots depth field.2 = .ok () := by
  induction fields with
  | nil => simp
  | cons field fields ih =>
    obtain ⟨name, value⟩ := field
    rw [validateFieldSlots, then_eq_ok, then_eq_ok, List.forall_mem_cons, ih, and_assoc]

/-- The slots that an accepted body refers to are declared for a JSON body. -/
theorem validateJsonSlots_references {document : Json} {depth : Nat}
    (valid : validateJsonSlots patterns slots depth document = .ok ()) :
    ∀ slotId, .str slotId ∈ references slotKey document → validateSlot slots .JSON_BODY slotId = .ok () := by
  induction document using placeholder_induction slotKey generalizing depth with
  | flat document flat =>
    rw [references_flat slotKey flat]
    exact fun slotId found => absurd found List.not_mem_nil
  | list items ih =>
    rw [references_list]
    intro slotId found
    obtain ⟨item, member, inside⟩ := List.mem_flatMap.mp found
    rw [validateJsonSlots] at valid
    obtain ⟨-, -, valid⟩ := bind_eq_ok.mp valid
    exact ih item member (validateItemSlots_eq_ok.mp valid item member) slotId inside
  | hole content =>
    rw [references_placeholder]
    intro slotId found
    rw [← List.mem_singleton.mp found, placeholder, validateJsonSlots, (marked_eq_some slotKey).mpr rfl] at valid
    obtain ⟨-, -, valid⟩ := bind_eq_ok.mp valid
    exact valid
  | dict entries plain ih =>
    rw [references_dict slotKey plain]
    intro slotId found
    obtain ⟨entry, member, inside⟩ := List.mem_flatMap.mp found
    rw [validateJsonSlots, plain] at valid
    obtain ⟨-, -, valid⟩ := bind_eq_ok.mp valid
    exact ih entry member (validateFieldSlots_eq_ok.mp valid entry member).2 slotId inside

theorem validateSlot_eq_ok {consumer : ValueSlotConsumer} {slotId : String}
    (valid : validateSlot slots consumer slotId = .ok ()) :
    ∃ slot ∈ slots, slot.slotId = slotId ∧ slot.consumer = consumer := by
  obtain ⟨slot, found, kind⟩ := bind_eq_ok.mp valid
  obtain ⟨member, named⟩ := Table.latest_some (orRaise_eq_ok.mp found)
  exact ⟨slot, member, named, require_eq_ok.mp kind⟩

theorem validate_eq_ok {template result : HttpRequestTemplate} (valid : template.validate patterns = .ok result) :
    result = template ∧ template.validateFields patterns = .ok () ∧ template.validateReferences patterns = .ok () := by
  obtain ⟨⟨⟩, fields, valid⟩ := bind_eq_ok.mp valid
  obtain ⟨⟨⟩, references, same⟩ := bind_eq_ok.mp valid
  exact ⟨(Except.ok.inj same).symm, fields, references⟩

theorem accepted_body {template : HttpRequestTemplate} {value : Json} (valid : template.validateFields patterns = .ok ())
    (body : template.body = .json value) : Accepted patterns value := by
  obtain ⟨-, -, valid⟩ := bind_eq_ok.mp valid
  obtain ⟨-, -, valid⟩ := bind_eq_ok.mp valid
  obtain ⟨-, -, valid⟩ := bind_eq_ok.mp valid
  obtain ⟨-, -, valid⟩ := bind_eq_ok.mp valid
  obtain ⟨-, -, valid⟩ := bind_eq_ok.mp valid
  obtain ⟨⟨⟩, here, -⟩ := bind_eq_ok.mp valid
  rw [body] at here
  exact ⟨0, here⟩

theorem mem_jsonReferences {value : Json} {slotId : String} :
    slotId ∈ (HttpBody.json value).references ↔ .str slotId ∈ references slotKey value := by
  rw [HttpBody.references, List.mem_filterMap]
  constructor
  · rintro ⟨content, found, same⟩
    split at same
    · cases same
      exact found
    · cases same
  · intro found
    exact ⟨_, found, rfl⟩

theorem body_declared {body : HttpBody} (valid : validateBodyReferences patterns slots body = .ok ()) :
    ∀ slotId ∈ body.references, ∃ slot ∈ slots, slot.slotId = slotId := by
  intro slotId found
  have declared : ∀ consumer, validateSlot slots consumer slotId = .ok () → ∃ slot ∈ slots, slot.slotId = slotId := by
    intro consumer checked
    obtain ⟨slot, member, named, -⟩ := validateSlot_eq_ok checked
    exact ⟨slot, member, named⟩
  cases body with
  | empty => exact absurd found List.not_mem_nil
  | json value => exact declared _ (validateJsonSlots_references valid slotId (mem_jsonReferences.mp found))
  | form fields => exact declared _ (forM_eq_ok.mp valid slotId found)
  | multipart parts => exact declared _ (forM_eq_ok.mp valid slotId found)

/-- Every slot that an accepted template refers to is one of its slots. -/
theorem references_declared {template : HttpRequestTemplate} (valid : template.validateReferences patterns = .ok ()) :
    ∀ slotId ∈ template.references, ∃ slot ∈ template.inputSlots, slot.slotId = slotId := by
  obtain ⟨-, -, valid⟩ := bind_eq_ok.mp valid
  obtain ⟨-, -, valid⟩ := bind_eq_ok.mp valid
  obtain ⟨-, -, valid⟩ := bind_eq_ok.mp valid
  obtain ⟨⟨⟩, path, valid⟩ := bind_eq_ok.mp valid
  obtain ⟨⟨⟩, query, valid⟩ := bind_eq_ok.mp valid
  obtain ⟨⟨⟩, headers, body⟩ := bind_eq_ok.mp valid
  intro slotId found
  have declared : ∀ consumer, validateSlot template.inputSlots consumer slotId = .ok () →
      ∃ slot ∈ template.inputSlots, slot.slotId = slotId := by
    intro consumer checked
    obtain ⟨slot, member, named, -⟩ := validateSlot_eq_ok checked
    exact ⟨slot, member, named⟩
  rcases List.mem_append.mp found with found | inBody
  · rcases List.mem_append.mp found with found | inHeaders
    · rcases List.mem_append.mp found with inPath | inQuery
      · exact declared _ (forM_eq_ok.mp path slotId inPath)
      · exact declared _ (forM_eq_ok.mp query slotId inQuery)
    · exact declared _ (forM_eq_ok.mp headers slotId inHeaders)
  · exact body_declared body slotId inBody

end Accepted

end Jiejian.Web.Templates
