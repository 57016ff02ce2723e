import Jiejian.Web.Templates

namespace Jiejian.Web.Rendering

open Library Library.Document Library.Outcome Library.Placeholders Errors JsonPaths Templates

/-- How a step of the adapter ends early: with a stable error, or with an exception of the language. -/
inductive Failure where
  | stable (error : JiejianError)
  | raised (error : Raised)
  deriving DecidableEq, Repr

/-- The values that are given for the slots of a template. -/
abbrev SlotValues := String → Option Json

def SlotValues.set (values : SlotValues) (slotId : String) (value : Json) : SlotValues :=
  fun wanted => if wanted = slotId then some value else values wanted

def executionError (message : String) : Failure := .stable ⟨.EXEC_REQUEST, message⟩

/-- `str(value)` of a number. -/
def intText (value : Int) : Except Failure String := do
  require ((toString value.natAbs).length ≤ 4300)
    (.raised (.ValueError "Exceeds the limit (4300 digits) for integer string conversion"))
  return toString value

/-- A float as `json.dumps` writes it. -/
def floatText (text : String) : String :=
  if text = "nan" then "NaN" else if text = "inf" then "Infinity" else if text = "-inf" then "-Infinity" else text

def hexDigit (value : Nat) : Char := if value < 10 then Char.ofNat (48 + value) else Char.ofNat (55 + value)

/-- One character of a text as `json.dumps(…, ensure_ascii=False)` writes it. -/
def escapedChar (char : Char) : List Char :=
  if char = '"' then ['\\', '"']
  else if char = '\\' then ['\\', '\\']
  else if char = '\n' then ['\\', 'n']
  else if char = '\r' then ['\\', 'r']
  else if char = '\t' then ['\\', 't']
  else if char = '\x08' then ['\\', 'b']
  else if char = '\x0c' then ['\\', 'f']
  else if char.toNat < 32 then
    ['\\', 'u', '0', '0', (hexDigit (char.toNat / 16)).toLower, (hexDigit (char.toNat % 16)).toLower]
  else [char]

def quoted (text : String) : String := "\"" ++ String.ofList (text.toList.flatMap escapedChar) ++ "\""

mutual

/-- `json.dumps(value, ensure_ascii=False, separators=(",", ":"))`. -/
def dumps : Json → Except Failure String
  | .null => .ok "null"
  | .bool value => .ok (if value then "true" else "false")
  | .int value => intText value
  | .float text => .ok (floatText text)
  | .str text => .ok (quoted text)
  | .list items => do
    let written ← dumpItems items
    return "[" ++ ",".intercalate written ++ "]"
  | .dict entries => do
    let written ← dumpFields entries
    return "\x7b" ++ ",".intercalate written ++ "\x7d"

def dumpItems : List Json → Except Failure (List String)
  | [] => .ok []
  | item :: items => do
    let first ← dumps item
    let rest ← dumpItems items
    return first :: rest

def dumpFields : List (String × Json) → Except Failure (List String)
  | [] => .ok []
  | (name, value) :: fields => do
    let first ← dumps value
    let rest ← dumpFields fields
    return (quoted name ++ ":" ++ first) :: rest

end

/-- `str(value)`, `true` and `false` for a truth value, the compact document for anything else. -/
def slotText : Json → Except Failure String
  | .bool value => .ok (if value then "true" else "false")
  | .str text => .ok text
  | .int value => intText value
  | .float text => .ok text
  | value => dumps value

/-- `_bounded_slot_value`. -/
def boundedSlotValue (value : Json) : Except Failure String := do
  let rendered ← slotText value
  require (rendered.length ≤ slotMaxLength) (executionError "请求 Slot 值超过长度预算")
  return rendered

/-- A slot whose value is `None` is as good as one that is not given. -/
def givenValue (values : SlotValues) (slotId : String) : Option Json :=
  (values slotId).bind fun value =>
    match value with
    | .null => none
    | value => some value

def renderParameter (values : SlotValues) (item : HttpParameter) : Except Failure (String × String) := do
  let value ← (match item.value with
    | .literal text => .ok (.str text)
    | .slot slotId => orRaise (givenValue values slotId) (executionError "请求模板 Slot 未提供值"))
  let text ← boundedSlotValue value
  return (item.name, text)

/-- `_render_parameters`. -/
def renderParameters (values : SlotValues) (items : List HttpParameter) : Except Failure (List (String × String)) :=
  items.mapM (renderParameter values)

def unreserved (char : Char) : Bool := char.isAlphanum || char ∈ ['_', '.', '-', '~']

def percentByte (byte : UInt8) : List Char := ['%', hexDigit (byte.toNat / 16), hexDigit (byte.toNat % 16)]

/-- `quote(text, safe="")`. -/
def quote (text : String) : List Char :=
  text.toList.flatMap fun char => if unreserved char then [char] else (String.utf8EncodeChar char).flatMap percentByte

def renderPiece (values : SlotValues) : Piece → Except Failure (List Char)
  | .char char => .ok [char]
  | .slot slotId => do
    let value ← orRaise (values slotId) (executionError "路径 Slot 未提供值")
    let text ← boundedSlotValue value
    return quote text

/-- `_render_path`. -/
def renderPath (values : SlotValues) (path : String) : Except Failure String := do
  let rendered ← (pieces path).mapM (renderPiece values)
  return String.ofList rendered.flatten

/-- What a slot reference of a JSON body is rendered to. -/
def renderReference (values : SlotValues) : Json → Except Failure Json
  | .str slotId => do
    let value ← orRaise (values slotId) (executionError "JSON Slot 未提供值")
    let text ← boundedSlotValue value
    return .str text
  | .list _ => .error (.raised .TypeError)
  | .dict _ => .error (.raised .TypeError)
  | _ => .error (executionError "JSON Slot 未提供值")

mutual

/-- `_render_json`. -/
def renderJson (values : SlotValues) : Json → Except Failure Json
  | .list items => do
    let rendered ← renderItems values items
    return .list rendered
  | .dict entries =>
    (marked slotKey entries).elim
      (do let rendered ← renderFields values entries
          return .dict rendered)
      (renderReference values)
  | value => .ok value

def renderItems (values : SlotValues) : List Json → Except Failure (List Json)
  | [] => .ok []
  | item :: items => do
    let first ← renderJson values item
    let rest ← renderItems values items
    return first :: rest

def renderFields (values : SlotValues) : List (String × Json) → Except Failure (List (String × Json))
  | [] => .ok []
  | (name, value) :: fields => do
    let first ← renderJson values value
    let rest ← renderFields values fields
    return (name, first) :: rest

end

attribute [local simp] renderJson renderItems renderFields

/-- A part that is sent as a file: its name, its file name, its bytes and its type. -/
structure FilePart where
  name : String
  filename : String
  content : List UInt8
  contentType : String
  deriving DecidableEq, Repr

inductive RenderedBody where
  | empty
  | json (document : Json)
  | data (fields : List (String × String))
  | multipart (data : List (String × String)) (files : List FilePart)

inductive RenderedPart where
  | field (name text : String)
  | file (part : FilePart)
  deriving DecidableEq, Repr

def defaultContentType : String := "application/octet-stream"

def renderPart (values : SlotValues) (fixtures : String → Option (List UInt8)) (part : MultipartPart) :
    Except Failure RenderedPart := do
  match part.source with
  | .fixture artifactId => do
    let artifact ← orRaise (fixtures artifactId) (executionError "Multipart fixture/artifact 未登记")
    return .file ⟨part.name, part.filename.getD "fixture.bin", artifact, part.contentType.getD defaultContentType⟩
  | source => do
    let value ← (match source with
      | .literal text => .ok (.str text)
      | .slot slotId => orRaise (givenValue values slotId) (executionError "Multipart Slot 未提供值")
      | .fixture _ => .error (executionError "Multipart Slot 未提供值"))
    let text ← boundedSlotValue value
    match part.filename with
    | none => return .field part.name text
    | some filename => return .file ⟨part.name, filename, text.toUTF8.toList, part.contentType.getD defaultContentType⟩

def RenderedPart.asField : RenderedPart → Option (String × String)
  | .field name text => some (name, text)
  | .file _ => none

def RenderedPart.asFile : RenderedPart → Option FilePart
  | .field _ _ => none
  | .file part => some part

/-- `dict(pairs)`: a name that comes again takes the later value in the earlier place. -/
def dictOf (pairs : List (String × String)) : List (String × String) := pairs.foldl (Table.put Prod.fst) []

/-- `_render_body`. -/
def renderBody (values : SlotValues) (fixtures : String → Option (List UInt8)) : HttpBody → Except Failure RenderedBody
  | .empty => .ok .empty
  | .json value => do
    let document ← renderJson values value
    return .json document
  | .form fields => do
    let rendered ← renderParameters values fields
    return .data (dictOf rendered)
  | .multipart parts => do
    let rendered ← parts.mapM (renderPart values fixtures)
    return .multipart (rendered.filterMap RenderedPart.asField) (rendered.filterMap RenderedPart.asFile)

structure RenderedRequest where
  method : HttpMethod
  path : String
  query : List (String × String)
  headers : List (String × String)
  body : RenderedBody

/-- What `execute_detailed` and `request` make of a template before it is sent. -/
def renderRequest (values : SlotValues) (fixtures : String → Option (List UInt8)) (template : HttpRequestTemplate) :
    Except Failure RenderedRequest := do
  let path ← renderPath values template.path
  let query ← renderParameters values template.query
  let headers ← renderParameters values template.headers
  let body ← renderBody values fixtures template.body
  return ⟨template.method, path, query, headers, body⟩

section Equations

variable (values : SlotValues)

theorem renderItems_eq (items : List Json) : renderItems values items = items.mapM (renderJson values) := by
  induction items with
  | nil => rfl
  | cons item items ih => rw [renderItems, ih, List.mapM_cons]

def renderField (field : String × Json) : Except Failure (String × Json) := do
  let rendered ← renderJson values field.2
  return (field.1, rendered)

theorem renderFields_eq (fields : List (String × Json)) : renderFields values fields = fields.mapM (renderField values) := by
  induction fields with
  | nil => rfl
  | cons field fields ih =>
    obtain ⟨name, value⟩ := field
    rw [renderFields, ih, List.mapM_cons, renderField]
    cases renderJson values value <;> rfl

theorem renderJson_flat {document : Json} (flat : Flat document) : renderJson values document = .ok document := by
  cases document with
  | list items => exact flat.elim
  | dict entries => exact flat.elim
  | _ => simp

theorem renderJson_list (items : List Json) :
    renderJson values (.list items) = (items.mapM (renderJson values)).map Json.list := by
  rw [renderJson, renderItems_eq]
  cases items.mapM (renderJson values) <;> rfl

theorem renderJson_placeholder (content : Json) :
    renderJson values (placeholder slotKey content) = renderReference values content := by
  rw [placeholder, renderJson, (marked_eq_some slotKey).mpr rfl]
  rfl

theorem renderJson_dict {entries : List (String × Json)} (plain : marked slotKey entries = none) :
    renderJson values (.dict entries) = (entries.mapM (renderField values)).map Json.dict := by
  rw [renderJson, plain, renderFields_eq]
  cases entries.mapM (renderField values) <;> rfl

end Equations

section Spec

variable {values : SlotValues}

def Renderable (values : SlotValues) (content : Json) : Prop := ∃ rendered, renderReference values content = .ok rendered

/-- What a renderable reference stands for. -/
def referenceValue (values : SlotValues) (content : Json) : Json :=
  match renderReference values content with
  | .ok rendered => rendered
  | .error _ => .null

theorem renderReference_eq_ok {content rendered : Json} :
    renderReference values content = .ok rendered ↔ Renderable values content ∧ rendered = referenceValue values content := by
  unfold Renderable referenceValue
  cases renderReference values content with
  | error failure => simp
  | ok value => simp [eq_comm]

/-- The rendered body has the shape of the template, and exactly the slot references are replaced. -/
theorem renderJson_eq_ok {document image : Json} :
    renderJson values document = .ok image ↔
      (∀ content ∈ references slotKey document, Renderable values content) ∧
        image = fill slotKey (referenceValue values) document := by
  induction document using placeholder_induction slotKey generalizing image with
  | flat document flat =>
    rw [renderJson_flat values flat, references_flat slotKey flat, fill_flat slotKey _ flat]
    simp [eq_comm]
  | list items ih =>
    rw [renderJson_list, map_eq_ok, references_list, fill_list]
    have passed := fun results => @mapM_eq_ok_map _ _ _ _ _ _ _ results fun item member result => ih item member
    constructor
    · rintro ⟨results, rendered, rfl⟩
      obtain ⟨fine, rfl⟩ := (passed results).mp rendered
      refine ⟨fun content found => ?_, rfl⟩
      obtain ⟨item, member, inside⟩ := List.mem_flatMap.mp found
      exact fine item member content inside
    · rintro ⟨fine, rfl⟩
      exact ⟨_, (passed _).mpr ⟨fun item member content inside =>
        fine content (List.mem_flatMap.mpr ⟨item, member, inside⟩), rfl⟩, rfl⟩
  | hole content =>
    rw [renderJson_placeholder, references_placeholder, fill_placeholder, renderReference_eq_ok]
    simp
  | dict entries plain ih =>
    rw [renderJson_dict values plain, map_eq_ok, references_dict slotKey plain, fill_dict slotKey _ plain]
    have each : ∀ entry ∈ entries, ∀ result, renderField values entry = .ok result ↔
        (∀ content ∈ references slotKey entry.2, Renderable values content) ∧
          result = (entry.1, fill slotKey (referenceValue values) entry.2) := by
      intro entry member result
      rw [renderField, bind_eq_ok]
      constructor
      · rintro ⟨rendered, here, same⟩
        obtain ⟨fine, rfl⟩ := (ih entry member).mp here
        exact ⟨fine, (Except.ok.inj same).symm⟩
      · rintro ⟨fine, rfl⟩
        exact ⟨_, (ih entry member).mpr ⟨fine, rfl⟩, rfl⟩
    have passed := fun results => @mapM_eq_ok_map _ _ _ _ _ _ _ results each
    constructor
    · rintro ⟨results, rendered, rfl⟩
      obtain ⟨fine, rfl⟩ := (passed results).mp rendered
      refine ⟨fun content found => ?_, rfl⟩
      obtain ⟨entry, member, inside⟩ := List.mem_flatMap.mp found
      exact fine entry member content inside
    · rintro ⟨fine, rfl⟩
      exact ⟨_, (passed _).mpr ⟨fun entry member content inside =>
        fine content (List.mem_flatMap.mpr ⟨entry, member, inside⟩), rfl⟩, rfl⟩

section Agreement

variable {other : SlotValues}

theorem renderReference_congr {content : Json} (agree : ∀ slotId, content = .str slotId → values slotId = other slotId) :
    renderReference values content = renderReference other content := by
  cases content with
  | str slotId => rw [renderReference, renderReference, agree slotId rfl]
  | _ => rfl

/-- Only the values of the slots that a body refers to are looked at. -/
theorem renderJson_congr {document image : Json}
    (agree : ∀ slotId, .str slotId ∈ references slotKey document → values slotId = other slotId) :
    renderJson values document = .ok image ↔ renderJson other document = .ok image := by
  have same : ∀ content ∈ references slotKey document, renderReference values content = renderReference other content :=
    fun content found => renderReference_congr fun slotId equal => agree slotId (equal ▸ found)
  have filled : fill slotKey (referenceValue values) document = fill slotKey (referenceValue other) document :=
    fill_congr fun content found => by rw [referenceValue, same content found, referenceValue]
  rw [renderJson_eq_ok, renderJson_eq_ok, filled]
  refine and_congr_left fun _ => forall₂_congr fun content found => ?_
  rw [Renderable, same content found, Renderable]

theorem renderPath_congr {path : String} (agree : ∀ slotId ∈ pathSlots path, values slotId = other slotId) :
    renderPath values path = renderPath other path := by
  have same : (pieces path).mapM (renderPiece values) = (pieces path).mapM (renderPiece other) := by
    refine mapM_congr (List.forall₂_same.mpr fun piece member => ?_)
    cases piece with
    | char char => rfl
    | slot slotId =>
      rw [renderPiece, renderPiece, agree slotId (List.mem_filterMap.mpr ⟨_, member, rfl⟩)]
  rw [renderPath, same, renderPath]

theorem renderParameters_congr {items : List HttpParameter}
    (agree : ∀ slotId ∈ items.filterMap (fun item => item.value.slotId), values slotId = other slotId) :
    renderParameters values items = renderParameters other items := by
  refine mapM_congr (List.forall₂_same.mpr fun item member => ?_)
  cases value : item.value with
  | literal text => rw [renderParameter, renderParameter, value]
  | slot slotId =>
    have given : givenValue values slotId = givenValue other slotId := by
      rw [givenValue, agree slotId (List.mem_filterMap.mpr ⟨item, member, by rw [value]; rfl⟩), givenValue]
    rw [renderParameter, renderParameter, value]
    simp only [given]

end Agreement

end Spec

end Jiejian.Web.Rendering
