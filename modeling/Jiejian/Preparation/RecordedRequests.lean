import Jiejian.Library.FormEncoding
import Jiejian.Library.Substrings
import Jiejian.Web.Rendering

namespace Jiejian.Preparation.RecordedRequests

open Library Library.Document Library.Outcome Library.Placeholders Library.Substrings Errors
open Web.Templates Web.Rendering

/-- The text that stands for the resource in a recorded request. -/
def marker : String := "\x7bcase_resource_id\x7d"

def redacted : String := "[REDACTED]"

/-- What the searches of the regular expressions find in a recorded text. -/
structure TextPatterns where
  unsafeText : String → Bool
  secretKey : String → Bool

/-- The body of a recorded request: no text, a text that is no JSON, or what `json.loads` reads. -/
inductive RecordedBody where
  | none
  | invalid
  | document (value : Json)

/-- A recorded REQUEST event, with the path and the query that `urlsplit` finds in its URL. -/
structure RecordedEvent where
  method : String
  path : String
  query : String
  body : RecordedBody

structure RecordedRequestTemplate where
  method : String
  relativePath : String
  jsonBody : List (String × Json)

section Candidates

def recordDraftReference (message : String) : JiejianError := ⟨.RECORD_DRAFT_REFERENCE, message⟩

/-- `_request_json`. -/
def requestJson (event : RecordedEvent) : Except JiejianError (List (String × Json)) :=
  match event.body with
  | .none => .ok []
  | .invalid => .error (recordDraftReference "录制请求正文不能表示为受限 JSON")
  | .document (.dict entries) => .ok entries
  | .document _ => .error (recordDraftReference "录制请求正文必须是 JSON 对象")

mutual

/-- `_replace_json_value`; a text or an integer that reads as the resource gives way to the marker. -/
def replaceJsonValue (expected : String) : Json → Json × Bool
  | .str text => if text = expected then (.str marker, true) else (.str text, false)
  | .int value => if toString value = expected then (.str marker, true) else (.int value, false)
  | .list items => (.list (replaceItems expected items).1, (replaceItems expected items).2)
  | .dict entries => (.dict (replaceFields expected entries).1, (replaceFields expected entries).2)
  | value => (value, false)

def replaceItems (expected : String) : List Json → List Json × Bool
  | [] => ([], false)
  | item :: items =>
    ((replaceJsonValue expected item).1 :: (replaceItems expected items).1,
      (replaceJsonValue expected item).2 || (replaceItems expected items).2)

def replaceFields (expected : String) : List (String × Json) → List (String × Json) × Bool
  | [] => ([], false)
  | (name, value) :: fields =>
    ((name, (replaceJsonValue expected value).1) :: (replaceFields expected fields).1,
      (replaceJsonValue expected value).2 || (replaceFields expected fields).2)

end

/-- `quote(value, safe="\x7b\x7d:@!$&'()*+,;=-._~")`. -/
def pathKept (char : Char) : Bool :=
  unreserved char || char ∈ ['\x7b', '\x7d', ':', '@', '!', '$', '&', '\'', '(', ')', '*', '+', ',', ';', '=']

/-- `urlencode(query, safe="\x7b\x7d")`. -/
def queryKept (char : Char) : Bool := unreserved char || char ∈ ['\x7b', '\x7d']

/-- The decoded segments of a path. -/
def decodedSegments (path : String) : List (List Char) := (path.toList.splitOn '/').map PercentEncoding.unquote

def placeSegment (resource value : List Char) : List Char :=
  PercentEncoding.quote pathKept (if value ≠ [] ∧ value = resource then marker.toList else value)

def placePath (resource : List Char) (segments : List (List Char)) : List Char :=
  ['/'].intercalate (segments.map (placeSegment resource))

/-- The name and value pairs of a query, in their order. -/
def queryPairs (query : String) : List (List Char × List Char) := FormEncoding.parseQsl query.toList

def placeValue (resource : List Char) (pair : List Char × List Char) : List Char × List Char :=
  (pair.1, if pair.2 = resource then marker.toList else pair.2)

/-- The path and the query of a candidate, written as one text. -/
def relativePath (event : RecordedEvent) (resource : List Char) : List Char :=
  placePath resource (decodedSegments event.path) ++
    if queryPairs event.query = [] then []
    else '?' :: FormEncoding.urlencode queryKept ((queryPairs event.query).map (placeValue resource))

/-- The resource was found in the path or in the query. -/
def replacedInUrl (event : RecordedEvent) (resource : List Char) : Bool :=
  (decodedSegments event.path).any (fun value => value ≠ [] ∧ value = resource) ||
    (queryPairs event.query).any fun pair => pair.2 = resource

end Candidates

section Reading

/-- What `urlsplit` finds in a text that starts with one slash and has no control characters. -/
def splitRelative (text : List Char) : List Char × List Char :=
  let bare := text.takeWhile (· ≠ '#')
  (bare.takeWhile (· ≠ '?'), (bare.dropWhile (· ≠ '?')).drop 1)

/-- The path of a template stays on its site and keeps its segments. -/
def safePath (texts : TextPatterns) (value : String) : Prop :=
  value.toList.head? = some '/' ∧ (value.toList.drop 1).head? ≠ some '/' ∧ '\\' ∉ value.toList ∧
    (value.toList.dropWhile (· ≠ '#')).drop 1 = [] ∧
    (∀ part ∈ (PercentEncoding.unquote (splitRelative value.toList).1).splitOn '/', part ≠ ['.'] ∧ part ≠ ['.', '.']) ∧
    (value.toList.any fun char => char.toNat < 32 || char.toNat = 127) = false ∧ texts.unsafeText value = false ∧
    ¬redacted.toList <:+: value.toList

instance (texts : TextPatterns) (value : String) : Decidable (safePath texts value) := by
  unfold safePath
  infer_instance

mutual

/-- The spaces that `json.dumps` writes after commas and colons. -/
def spacing : Json → Nat
  | .list items => (items.length - 1) + itemSpacing items
  | .dict entries => (entries.length - 1) + entries.length + fieldSpacing entries
  | _ => 0

def itemSpacing : List Json → Nat
  | [] => 0
  | item :: items => spacing item + itemSpacing items

def fieldSpacing : List (String × Json) → Nat
  | [] => 0
  | (_, value) :: fields => spacing value + fieldSpacing fields

end

/-- A text of the body that may be kept. -/
def keptText (texts : TextPatterns) (text : String) : Bool :=
  text.length ≤ 8192 && !texts.unsafeText text && !decide (redacted.toList <:+: text.toList)

mutual

/-- The walk over all names and values of the body. -/
def keptValue (texts : TextPatterns) : Json → Bool
  | .str text => keptText texts text
  | .float text => text ∉ ["nan", "inf", "-inf"]
  | .list items => keptItems texts items
  | .dict entries => keptFields texts entries
  | _ => true

def keptItems (texts : TextPatterns) : List Json → Bool
  | [] => true
  | item :: items => keptValue texts item && keptItems texts items

def keptFields (texts : TextPatterns) : List (String × Json) → Bool
  | [] => true
  | (name, value) :: fields => !texts.secretKey name && keptText texts name && keptValue texts value && keptFields texts fields

end

mutual

/-- `contains_resource_slot`. -/
def containsResourceSlot : Json → Bool
  | .str text => text = marker
  | .list items => itemsContainSlot items
  | .dict entries => fieldsContainSlot entries
  | _ => false

def itemsContainSlot : List Json → Bool
  | [] => false
  | item :: items => containsResourceSlot item || itemsContainSlot items

def fieldsContainSlot : List (String × Json) → Bool
  | [] => false
  | (_, value) :: fields => containsResourceSlot value || fieldsContainSlot fields

end

/-- What reading a `RecordedRequestTemplate` checks. -/
def RecordedRequestTemplate.validate (texts : TextPatterns) (template : RecordedRequestTemplate) : Except Raised Unit := do
  require (template.method ∈ ["GET", "POST", "PUT", "PATCH", "DELETE"]) (.ValueError "method")
  require (1 ≤ template.relativePath.length ∧ template.relativePath.length ≤ 2048) (.ValueError "relative_path")
  require (safePath texts template.relativePath) (.ValueError "recorded request path is unsafe")
  require ((Json.dict template.jsonBody).encodedSize + spacing (.dict template.jsonBody) ≤ 65536)
    (.ValueError "recorded request body exceeds budget")
  require (keptFields texts template.jsonBody = true) (.ValueError "recorded request body contains unsafe text")
  require (marker.toList <:+: template.relativePath.toList ∨ fieldsContainSlot template.jsonBody = true)
    (.ValueError "recorded request requires a resource slot")

/-- `_template_for_resource`. -/
def templateForResource (texts : TextPatterns) (event : RecordedEvent) (resource : String) :
    Option RecordedRequestTemplate :=
  match requestJson event with
  | .error _ => none
  | .ok entries =>
    let body := replaceFields resource entries
    if event.method = "GET" ∧ body.1 ≠ [] then none
    else if (replacedInUrl event resource.toList || body.2) = false then none
    else
      let template : RecordedRequestTemplate :=
        ⟨event.method, String.ofList (relativePath event resource.toList), body.1⟩
      match template.validate texts with
      | .error _ => none
      | .ok _ => some template

end Reading

section Templates

def incomplete (reason : String) : Failure := .stable ⟨.STATE_PRECONDITION, reason⟩

/-- `f"resource_{len(slots)}"`. -/
def slotName (index : Nat) : String := "resource_" ++ toString index

def resourceSlot (consumer : ValueSlotConsumer) (index : Nat) : ValueSlot where
  slotId := slotName index
  source := .CASE_RESOURCE_ID
  consumer := consumer

/-- So many slots for one kind of field, numbered from the first free number on. -/
def resourceSlots (consumer : ValueSlotConsumer) (first howMany : Nat) : List ValueSlot :=
  (List.range' first howMany).map (resourceSlot consumer)

/-- The path with its marker as a slot, and the number of slots so far. -/
def slotPath (path : List Char) : Except Failure (List Char × Nat) :=
  if marker.toList <:+: path then
    if count marker.toList path = 1 then
      .ok (replace marker.toList ('\x7b' :: ((slotName 0).toList ++ ['\x7d'])) path, 1)
    else .error (incomplete "RECOVERY_REQUEST_UNSUPPORTED")
  else .ok (path, 0)

/-- The parameters of the query: a value that is the marker becomes a slot. -/
def slotQuery : Nat → List (List Char × List Char) → Except Failure (List HttpParameter × Nat)
  | next, [] => .ok ([], next)
  | next, (name, value) :: pairs =>
    if value = marker.toList then do
      let rest ← slotQuery (next + 1) pairs
      return (⟨String.ofList name, .slot (slotName next)⟩ :: rest.1, rest.2)
    else if marker.toList <:+: value then .error (incomplete "OBSERVATION_REQUEST_UNSUPPORTED")
    else do
      let rest ← slotQuery next pairs
      return (⟨String.ofList name, .literal (String.ofList value)⟩ :: rest.1, rest.2)

mutual

/-- `body_value`, with the number of slots so far. -/
def bodyValue : Nat → Json → Json × Nat
  | next, .str text => if text = marker then (placeholder slotKey (.str (slotName next)), next + 1) else (.str text, next)
  | next, .list items => (.list (bodyItems next items).1, (bodyItems next items).2)
  | next, .dict entries => (.dict (bodyFields next entries).1, (bodyFields next entries).2)
  | next, value => (value, next)

def bodyItems : Nat → List Json → List Json × Nat
  | next, [] => ([], next)
  | next, item :: items =>
    ((bodyValue next item).1 :: (bodyItems (bodyValue next item).2 items).1, (bodyItems (bodyValue next item).2 items).2)

def bodyFields : Nat → List (String × Json) → List (String × Json) × Nat
  | next, [] => ([], next)
  | next, (name, value) :: fields =>
    ((name, (bodyValue next value).1) :: (bodyFields (bodyValue next value).2 fields).1,
      (bodyFields (bodyValue next value).2 fields).2)

end

def methodOf (name : String) : Option HttpMethod :=
  match name with
  | "GET" => some .GET
  | "PATCH" => some .PATCH
  | "POST" => some .POST
  | "PUT" => some .PUT
  | "DELETE" => some .DELETE
  | "HEAD" => some .HEAD
  | _ => none

/-- `recorded_request_template`. -/
def recordedRequestTemplate (patterns : Patterns) (template : RecordedRequestTemplate) :
    Except Failure HttpRequestTemplate := do
  let (path, query) := splitRelative template.relativePath.toList
  let (path, afterPath) ← slotPath path
  let (query, afterQuery) ← slotQuery afterPath (FormEncoding.parseQsl query)
  let (body, afterBody) := bodyFields afterQuery template.jsonBody
  let method ← orRaise (methodOf template.method) (.raised (.ValueError "method"))
  let built : HttpRequestTemplate :=
    { method := method
      path := String.ofList path
      query := query
      body := if template.jsonBody = [] then .empty else .json (.dict body)
      inputSlots := resourceSlots .PATH 0 afterPath ++ resourceSlots .QUERY afterPath (afterQuery - afterPath) ++
        resourceSlots .JSON_BODY afterQuery (afterBody - afterQuery) }
  (built.validate patterns).mapError .raised

/-- Every slot of the template takes the resource id. -/
def resourceValues (template : HttpRequestTemplate) (resource : String) : SlotValues :=
  fun slotId => if slotId ∈ template.inputSlots.map (·.slotId) then some (.str resource) else none

end Templates

end Jiejian.Preparation.RecordedRequests
