import Jiejian.Library.Builtins
import Jiejian.Library.Equality
import Jiejian.Web.JsonPaths
import Jiejian.Web.Redaction
import Jiejian.Web.TargetGuard

namespace Jiejian.Web.Responses

open Library Library.Document Library.JsonText Library.Outcome Errors
open JsonPaths Redaction Rendering TargetGuard Templates

/-- What the HTML parser tells of a text: opened, single and closed elements, and the text between them. -/
inductive HtmlEvent where
  | opened (tag : String) (attributes : List (String × String))
  | single (tag : String) (attributes : List (String × String))
  | text (data : String)
  | closed (tag : String)
  deriving DecidableEq, Repr

/-- How the language runs: how deep it calls itself, how it writes floats, and what its HTML parser reads. -/
structure Runtime where
  decoderRoom : Nat
  encoderRoom : Nat
  frames : Nat
  floatText : String → String
  floatInteger : String → Option Int
  lower : String → String
  printable : Char → Bool
  forms : HostForms
  masks : Masks
  feed : String → Option (List HtmlEvent)
  feedAndClose : String → Option (List HtmlEvent)
  sha256 : List UInt8 → String
  opensOne : 0 < decoderRoom

/-- What the client delivers: the headers under their lower-case names, and the whole content. -/
structure Arrival where
  statusCode : Nat
  headers : List (String × String)
  content : List UInt8

structure SentRequest where
  url : List Char
  caseId : String
  actionId : String
  inputHash : String
  requestNonce : String
  requestDigest : String

structure HttpResponse where
  statusCode : Nat
  data : List (Points × Value)
  headers : List (String × String)
  body : List UInt8
  url : List Char
  requestNonce : String
  requestDigest : String

section Reading

variable (runtime : Runtime)

def headerOf (headers : List (String × String)) (name : String) : Option String :=
  (Table.lookup Prod.fst headers name).map Prod.snd

/-- `content.decode("utf-8", errors="replace")`. -/
def decodedText (content : List UInt8) : String := String.ofList (PercentEncoding.decode content)

/-- What `json.loads` raises when a text is not refused as JSON but cannot be read either. -/
def loadError : LoadFailure → Option Raised
  | .malformed => none
  | .tooLong => some (.ValueError "Exceeds the limit (4300 digits) for integer string conversion")
  | .tooDeep => some .RecursionError

/-- `json.loads` under a handler for texts that are no JSON; `none` is what the handler takes over. -/
def loadJson (content : List UInt8) : Except Raised (Option Value) :=
  match loads runtime.decoderRoom content with
  | .ok value => .ok (some value)
  | .error failure => (loadError failure).elim (.ok none) .error

/-- `_decode_response`. -/
def decodeResponse (content : List UInt8) : Except Raised (List (Points × Value)) :=
  if content = [] then .ok []
  else do
    let decoded ← loadJson runtime content
    match decoded with
    | some (.dict entries) => return entries
    | some value => return [(points "value", value)]
    | none => return [(points "text", .str (points (decodedText content)))]

/-- The text of a value in UTF-8; lone surrogates cannot be encoded. -/
def encodedText (text : Points) : Except Raised (List UInt8) := do
  require (whole text = true) (.ValueError "surrogates not allowed")
  return text.flatMap fun point => String.utf8EncodeChar (Char.ofNat point)

/-- `json.dumps(value, ensure_ascii=False, separators=(",", ":"))`. -/
def dumps (value : Value) : Except Raised Points := do
  require (depth value ≤ runtime.encoderRoom) .RecursionError
  return compact runtime.floatText value

/-- `_web_json_sha256`. -/
def webJsonSha256 (value : Value) : Except Raised String := do
  require (finite value = true) (.ValueError "Out of range float values are not JSON compliant")
  let text ← dumps runtime (sorted value)
  let encoded ← encodedText text
  return runtime.sha256 encoded

/-- The entries that a redacted object leaves. -/
def entriesOf : Value → List (Points × Value)
  | .dict entries => entries
  | _ => []

/-- What `request` makes of the response that arrives. -/
def receive (guard : WebTargetGuard) (secrets : KnownSecrets) (sent : SentRequest) (arrival : Arrival) :
    Except Failure HttpResponse := do
  require (arrival.content.length ≤ guard.scope.maxResponseBytes) (.stable ⟨.EXEC_RESPONSE_TOO_LARGE, "响应体超过安全预算"⟩)
  let location := (headerOf arrival.headers "location").getD ""
  (if 300 ≤ arrival.statusCode ∧ arrival.statusCode < 400 ∧ location ≠ "" then
    discard (authorizeRedirect guard runtime.forms sent.url location.toList)
  else .ok ())
  let safeContent := redactBytes secrets arrival.content
  let decoded ← (decodeResponse runtime safeContent).mapError .raised
  let data ← (redactKnownSecrets runtime.masks secrets runtime.frames (.dict decoded)).mapError .raised
  return {
    statusCode := arrival.statusCode
    data := entriesOf data
    headers := arrival.headers
    body := safeContent
    url := sent.url
    requestNonce := sent.requestNonce
    requestDigest := sent.requestDigest }

end Reading

section Walking

def childNamed (entries : List (Points × Value)) (name : String) : Option Value :=
  (Table.lookup Prod.fst entries (points name)).map Prod.snd

/-- The loop of `_read_json_path`. -/
def readValueTokens (value : Value) : List Token → Except Raised (Option Value)
  | [] => .ok (some value)
  | token :: rest =>
    match value with
    | .dict entries =>
      match childNamed entries token.key with
      | some child => readValueTokens child rest
      | none => .ok none
    | .list items => do
      let index ← parseInt token.digits
      match items[index]? with
      | some child => readValueTokens child rest
      | none => .ok none
    | _ => .ok none

/-- `_read_json_path`. -/
def readValuePath (value : Value) (path : String) : Except Raised (Option Value) :=
  if path = "$" then .ok (some value)
  else if (findall path).length > 8 then .ok none
  else readValueTokens value (findall path)

/-- The loop of `_extract_json_path`. -/
def extractValueTokens (value : Value) : List Token → Except JiejianError Value
  | [] => .ok value
  | .indexed digits :: rest =>
    match value with
    | .list items =>
      match items[position digits]? with
      | some child => extractValueTokens child rest
      | none => .error extractionFailed
    | _ => .error extractionFailed
  | token :: rest =>
    match value with
    | .dict entries =>
      match childNamed entries token.key with
      | some child => extractValueTokens child rest
      | none => .error extractionFailed
    | _ => .error extractionFailed

/-- `_extract_json_path`. -/
def extractValuePath (value : Value) (path : String) : Except JiejianError Value :=
  if path = "$" then .ok value else extractValueTokens value (findall path)

end Walking

section Predicates

/-- `HttpPredicate`, with what each kind must have. -/
inductive HttpPredicate where
  | statusIn (statuses : List Nat)
  | jsonPathExists (path : String)
  | jsonPathEquals (path : String) (expected : Json)
  | jsonPathIn (path : String) (values : List Json)
  | headerExists (name : String)
  | headerEquals (name : String) (expected : Json)
  | redirectPathMatches (path : String)
  | htmlSelectorExists (selector : String)
  | htmlAttributeEquals (selector : String) (attribute' : String) (expected : Json)
  | bodyContainsLiteral (literal : String)

structure HttpOutcomeClassifier where
  accepted : List HttpPredicate := []
  denied : List HttpPredicate := []
  completionBinding : Option String := none

inductive HttpOutcome where
  | ACCEPTED
  | DENIED
  | UNKNOWN
  deriving DecidableEq, Repr

variable (runtime : Runtime)

/-- What a scalar is compared by: a truth value is an integer, and so is a float without a fraction. -/
inductive Scalar where
  | nothing
  | integer (value : Int)
  | real (text : String)
  | word (text : String)
  deriving DecidableEq, Repr

def scalarOf : Json → Scalar
  | .bool value => .integer (if value then 1 else 0)
  | .int value => .integer value
  | .float text => (runtime.floatInteger text).elim (.real (runtime.floatText text)) .integer
  | .str text => .word text
  | _ => .nothing

def plainText (text : Points) : String := String.ofList (text.map Char.ofNat)

mutual

/-- The document without lone surrogates. -/
def plainValue : Value → Json
  | .null => .null
  | .bool value => .bool value
  | .int value => .int value
  | .float numeral => .float numeral
  | .str text => .str (plainText text)
  | .list items => .list (plainItems items)
  | .dict entries => .dict (plainFields entries)

def plainItems : List Value → List Json
  | [] => []
  | item :: items => plainValue item :: plainItems items

def plainFields : List (Points × Value) → List (String × Json)
  | [] => []
  | (name, value) :: fields => (plainText name, plainValue value) :: plainFields fields

end

/-- `value == expected`; no expected document has a lone surrogate. -/
def sameValue (value : Value) (expected : Json) : Bool :=
  wholeValue value && Equality.equal (scalarOf runtime) (plainValue value) expected

/-- The tag, the identifier, the class and the attribute that a selector asks for. -/
structure Selector where
  tag : String
  nodeId : Option String := none
  nodeClass : Option String := none
  requiredAttribute : Option String := none

def selectorName (char : Char) : Bool := char.isAlphanum || char ∈ ['_', '-']

def named (accepts : Char → Bool) (starts : Char → Bool) (text : List Char) : Bool :=
  match text with
  | first :: rest => starts first && rest.all accepts
  | [] => false

def attributeChar (char : Char) : Bool := char.isAlphanum || char ∈ ['_', '.', ':', '-']

/-- `re.fullmatch` of the selector expression. -/
def parseSelector (selector : String) : Option Selector :=
  let tag := selector.toList.takeWhile selectorName
  let rest := selector.toList.dropWhile selectorName
  if named selectorName Char.isAlpha tag then
    match rest with
    | [] => some { tag := String.ofList tag }
    | '#' :: name =>
      if named selectorName Char.isAlpha name then
        some { tag := String.ofList tag, nodeId := some (String.ofList name) }
      else none
    | '.' :: name =>
      if named selectorName Char.isAlpha name then
        some { tag := String.ofList tag, nodeClass := some (String.ofList name) }
      else none
    | '[' :: inner =>
      if inner.getLast? = some ']' ∧
          named attributeChar (fun char => char.isAlpha || char = '_' || char = ':') inner.dropLast = true then
        some { tag := String.ofList tag, requiredAttribute := some (String.ofList inner.dropLast) }
      else none
    | _ => none
  else none

/-- The blanks that `str.strip` and `str.split` know. -/
def blankChar (char : Char) : Bool :=
  let point := char.toNat
  (9 ≤ point && point ≤ 13) || (28 ≤ point && point ≤ 32) || point ∈ [0x85, 0xA0, 0x1680, 0x2028, 0x2029, 0x202F, 0x205F, 0x3000] ||
    (0x2000 ≤ point && point ≤ 0x200A)

def strip (text : List Char) : List Char := ((text.dropWhile blankChar).reverse.dropWhile blankChar).reverse

def blankWords (text : String) : List String :=
  ((text.toList.splitOnP blankChar).filter (· ≠ [])).map String.ofList

def loweredAttributes (attributes : List (String × String)) : List (String × String) :=
  (attributes.map fun pair => (runtime.lower pair.1, pair.2)).foldl (Table.put Prod.fst) []

/-- The element is one that the selector asks for. -/
def Selector.matches (selector : Selector) (tag : String) (attributes : List (String × String)) : Bool :=
  runtime.lower tag = runtime.lower selector.tag &&
    (selector.nodeId.all fun name => headerOf attributes "id" = some name) &&
    (selector.nodeClass.all fun name => name ∈ blankWords ((headerOf attributes "class").getD "")) &&
    selector.requiredAttribute.all fun name => runtime.lower name ∈ attributes.map Prod.fst

/-- The elements that `_HtmlProbe` collects. -/
def probedNodes (events : List HtmlEvent) : List (String × List (String × String)) :=
  events.filterMap fun event =>
    match event with
    | .opened tag attributes => some (tag, loweredAttributes runtime attributes)
    | .single tag attributes => some (tag, loweredAttributes runtime attributes)
    | _ => none

def probedText (text : String) : String := String.ofList (text.toList.take 262144)

/-- `_html_matches`. -/
def htmlMatches (text selector : String) (expected : Option (String × Json)) : Bool :=
  match runtime.feed (probedText text), parseSelector selector with
  | some events, some wanted =>
    (probedNodes runtime events).any fun node =>
      wanted.matches runtime node.1 node.2 &&
        expected.all fun pair => headerOf node.2 (runtime.lower pair.1) = some (Builtins.strJson runtime.printable pair.2)
  | _, _ => false

/-- A part of a path in braces that stands for any part. -/
def openPart (part : List Char) : Bool :=
  match part with
  | '\x7b' :: rest => rest.getLast? = some '\x7d' && identifier (String.ofList rest.dropLast)
  | _ => false

/-- `_safe_path_match`. -/
def safePathMatch (actual expected : List Char) : Bool :=
  let actualParts := actual.splitOn '/'
  let expectedParts := expected.splitOn '/'
  actualParts.length = expectedParts.length &&
    (actualParts.zip expectedParts).all fun pair => (pair.1 ≠ [] && openPart pair.2) || pair.1 = pair.2

def redirectPath (location : String) : List Char :=
  (location.toList.takeWhile (· ≠ '?')).takeWhile (· ≠ '#')

/-- A JSON predicate: what is read at its path meets a condition. -/
def jsonMatches (body : List UInt8) (path : String) (meets : Value → Bool) : Except Raised Bool := do
  let document ← loadJson runtime body
  match document with
  | none => return false
  | some document => do
    let found ← readValuePath document path
    return found.any meets

/-- `_predicate_matches`. -/
def predicateMatches (status : Nat) (headers : List (String × String)) (body : List UInt8) : HttpPredicate → Except Raised Bool
  | .statusIn statuses => .ok (status ∈ statuses)
  | .jsonPathExists path => jsonMatches runtime body path fun _ => true
  | .jsonPathEquals path expected => jsonMatches runtime body path fun value => sameValue runtime value expected
  | .jsonPathIn path values => jsonMatches runtime body path fun value => values.any (sameValue runtime value)
  | .headerExists name => .ok ((headerOf headers (runtime.lower name)).isSome)
  | .headerEquals name expected => .ok (headerOf headers (runtime.lower name) = some (Builtins.strJson runtime.printable expected))
  | .redirectPathMatches path =>
    .ok ((headerOf headers "location").any fun location => safePathMatch (redirectPath location) path.toList)
  | .htmlSelectorExists selector => .ok (htmlMatches runtime (decodedText body) selector none)
  | .htmlAttributeEquals selector name expected =>
    .ok (htmlMatches runtime (decodedText body) selector (some (name, expected)))
  | .bodyContainsLiteral literal => .ok (literal.toList <:+: (decodedText body).toList)

/-- `any(_predicate_matches(…) …)`: later predicates are not looked at once one matches. -/
def anyMatches (test : HttpPredicate → Except Raised Bool) : List HttpPredicate → Except Raised Bool
  | [] => .ok false
  | predicate :: predicates => do
    let found ← test predicate
    if found then return true else anyMatches test predicates

/-- The body that `_response_parts` finds. -/
def responseBody (response : HttpResponse) : Except Raised (List UInt8) :=
  if response.body ≠ [] then .ok response.body
  else do
    let text ← dumps runtime (.dict response.data)
    encodedText text

/-- `HttpOutcomeClassifier.classify`. -/
def HttpOutcomeClassifier.classify (classifier : HttpOutcomeClassifier) (response : HttpResponse)
    (terminalCompleted : Option Bool) : Except Raised HttpOutcome := do
  let headers := loweredAttributes runtime response.headers
  let body ← responseBody runtime response
  let test := predicateMatches runtime response.statusCode headers body
  let accepted ← anyMatches test classifier.accepted
  let denied ← anyMatches test classifier.denied
  let open' := response.statusCode = 202 ∧ ¬(classifier.completionBinding.any (· ≠ "") = true ∧ terminalCompleted = some true)
  let accepted := accepted && !decide open'
  if accepted = denied then return .UNKNOWN else return if accepted then .ACCEPTED else .DENIED

end Predicates

section Executing

structure ExecutionFact where
  caseId : String
  actionId : String
  outcome : HttpOutcome
  executionMarker : String
  inputHash : String
  outputHash : String
  reasonCodes : List String

variable (runtime : Runtime)

/-- What `execute_detailed` makes of the response that arrives. -/
def executeDetailed (guard : WebTargetGuard) (secrets : KnownSecrets) (sent : SentRequest)
    (classifier : Option HttpOutcomeClassifier) (terminalCompleted : Option Bool) (arrival : Arrival) :
    Except Failure (ExecutionFact × HttpResponse) := do
  let response ← receive runtime guard secrets sent arrival
  let outputHash ← (webJsonSha256 runtime
    (.dict [(points "status", .int response.statusCode), (points "data", .dict response.data)])).mapError .raised
  let outcome ← ((classifier.getD {}).classify runtime response terminalCompleted).mapError .raised
  return ({
    caseId := sent.caseId
    actionId := sent.actionId
    outcome := outcome
    executionMarker := sent.caseId
    inputHash := sent.inputHash
    outputHash := outputHash
    reasonCodes := if outcome = .UNKNOWN then ["UNINTERPRETED_RESPONSE"] else [] }, response)

def extractionError (message : String) : Failure := .stable ⟨.VALUE_EXTRACTION_FAILED, message⟩

/-- What `_HtmlValueProbe` has seen so far. -/
structure ProbeState where
  value : Option String := none
  capturing : Option String := none
  text : List String := []

def ProbeState.start (wanted : Selector) (attribute' : Option String) (state : ProbeState) (tag : String)
    (attributes : List (String × String)) : ProbeState :=
  let attributes := loweredAttributes runtime attributes
  if state.value.isSome || state.capturing.isSome || !wanted.matches runtime tag attributes then state
  else
    match attribute' with
    | some name => { state with value := headerOf attributes name }
    | none => { state with capturing := some (runtime.lower tag) }

def ProbeState.event (wanted : Selector) (attribute' : Option String) (state : ProbeState) : HtmlEvent → ProbeState
  | .opened tag attributes => state.start runtime wanted attribute' tag attributes
  | .single tag attributes =>
    let state := state.start runtime wanted attribute' tag attributes
    if state.capturing = some (runtime.lower tag) then { state with value := some "", capturing := none } else state
  | .text data => if state.capturing.isSome then { state with text := state.text ++ [data] } else state
  | .closed tag =>
    if state.capturing = some (runtime.lower tag) then
      { state with value := some (String.ofList (strip ("".intercalate state.text).toList)), capturing := none }
    else state

/-- The first text or attribute that a selector finds. -/
def probedValue (text selector : String) (attribute' : Option String) : Option String :=
  match parseSelector selector, runtime.feedAndClose (probedText text) with
  | some wanted, some events =>
    (events.foldl (fun (state : ProbeState) event => state.event runtime wanted (attribute'.map runtime.lower) event) {}).value
  | _, _ => none

/-- The value of a cookie that the response sets. -/
def cookieValue (headers : List (String × String)) (name : String) : Option String :=
  ((((headerOf headers "set-cookie").getD "").toList.splitOn ',').find? fun part =>
    decide (name.toList ++ ['='] <+: strip part)).map fun part =>
      String.ofList (((part.dropWhile (· ≠ '=')).drop 1).takeWhile (· ≠ ';'))

/-- The raw value that an extractor finds. -/
def foundValue (response : HttpResponse) (extractor : ResponseExtractor) : Except Failure (Option Value) :=
  let word (found : Option String) : Except Failure (Option Value) := .ok (found.map fun text => .str (points text))
  match extractor.kind with
  | .JSON_PATH => do
    let document ← (loadJson runtime response.body).mapError .raised
    let document ← orRaise document (extractionError "响应 JSON 提取失败")
    let value ← (extractValuePath document (extractor.jsonPath.getD "$")).mapError .stable
    return some value
  | .HEADER => word (headerOf response.headers (runtime.lower (extractor.headerName.getD "")))
  | .LOCATION => word (headerOf response.headers "location")
  | .COOKIE => word (cookieValue response.headers (extractor.cookieName.getD ""))
  | .HTML_SELECTOR => word (probedValue runtime (decodedText response.body) (extractor.selector.getD "") extractor.attributeName)
  | .HTML_ATTRIBUTE => word (probedValue runtime (decodedText response.body) (extractor.selector.getD "") extractor.attributeName)

/-- The text whose length is bounded. -/
def renderedValue : Value → Except Raised Points
  | .list items => dumps runtime (.list items)
  | .dict entries => dumps runtime (.dict entries)
  | .bool value => .ok (points (if value then "True" else "False"))
  | .int value => .ok (points (toString value))
  | .float numeral => .ok (points (runtime.floatText numeral))
  | .str text => .ok text
  | .null => .ok (points "None")

/-- A value that there is: neither `None` nor the empty text. -/
def present : Option Value → Option Value
  | some .null => none
  | some (.str []) => none
  | found => found

/-- `extract_response_value`. -/
def extractResponseValue (response : HttpResponse) (extractor : ResponseExtractor) : Except Failure Value := do
  let found ← foundValue runtime response extractor
  let value ← orRaise (present found) (extractionError "响应提取为空")
  let rendered ← (renderedValue runtime value).mapError .raised
  require (rendered.length ≤ extractor.maxLength) (extractionError "响应提取超过长度预算")
  return value

/-- `execute_detailed`, `classify` and `extract_response_value` for one response. -/
def settleResponse (guard : WebTargetGuard) (secrets : KnownSecrets) (sent : SentRequest)
    (classifier : Option HttpOutcomeClassifier) (terminalCompleted : Option Bool) (extractor : ResponseExtractor)
    (arrival : Arrival) : Except Failure (ExecutionFact × HttpOutcome × Value) := do
  let (fact, response) ← executeDetailed runtime guard secrets sent classifier terminalCompleted arrival
  let outcome ← ((classifier.getD {}).classify runtime response terminalCompleted).mapError .raised
  let value ← extractResponseValue runtime response extractor
  return (fact, outcome, value)

end Executing

end Jiejian.Web.Responses
