import Jiejian.Web.ResponseFailures

namespace Jiejian.Web.ResponseSettlement

open Library Library.JsonText Library.Outcome Errors
open JsonPaths Redaction Rendering ResponseFailures Responses TargetGuard Templates

section Receiving

variable (runtime : Runtime)

/-- The object that a content is read as. -/
def decodedEntries (content : List UInt8) : List (Points × Value) :=
  if content = [] then []
  else
    match loads runtime.decoderRoom content with
    | .ok (.dict entries) => entries
    | .ok value => [(points "value", value)]
    | .error _ => [(points "text", .str (points (decodedText content)))]

/-- What is left of the object once it is redacted by its names and by the shapes of secrets. -/
def maskedEntries (content : List UInt8) : Value := redact runtime.masks (.dict (decodedEntries runtime content))

/-- The data that the response carries. -/
def shownData (secrets : KnownSecrets) (content : List UInt8) : List (Points × Value) :=
  entriesOf (replaceKnown secrets (maskedEntries runtime content))

/-- The response that is made of what arrives. -/
def responseOf (secrets : KnownSecrets) (sent : SentRequest) (arrival : Arrival) : HttpResponse where
  statusCode := arrival.statusCode
  data := shownData runtime secrets (redactBytes secrets arrival.content)
  headers := arrival.headers
  body := redactBytes secrets arrival.content
  url := sent.url
  requestNonce := sent.requestNonce
  requestDigest := sent.requestDigest

def locationOf (arrival : Arrival) : String := (headerOf arrival.headers "location").getD ""

/-- A redirect leads to an authorized place. -/
def Permitted (guard : WebTargetGuard) (sent : SentRequest) (arrival : Arrival) : Prop :=
  Redirects arrival → ∃ target, authorizeRedirect guard runtime.forms sent.url (locationOf arrival).toList = .ok target

/-- The content can be read and redacted. -/
structure Receivable (content : List UInt8) : Prop where
  readable : Readable runtime content
  shallow : depth (maskedEntries runtime content) < runtime.frames

variable {runtime} {guard : WebTargetGuard} {secrets : KnownSecrets} {sent : SentRequest} {arrival : Arrival}
  {content : List UInt8}

theorem decodeResponse_entries (readable : Readable runtime content) :
    decodeResponse runtime content = .ok (decodedEntries runtime content) := by
  unfold decodeResponse decodedEntries
  by_cases empty : content = []
  · rw [if_pos empty, if_pos empty]
  · rw [if_neg empty, if_neg empty]
    unfold loadJson
    cases read : loads runtime.decoderRoom content with
    | ok value => cases value <;> rfl
    | error failure =>
      cases readable failure read
      rfl

/-- What follows the check of the redirect ends in the language's own exception unless the content is receivable. -/
theorem decoded_typed {β : Type} {next : Value → Except Failure β} :
    Typed (do
      let decoded ← (decodeResponse runtime content).mapError Failure.raised
      let data ← (redactKnownSecrets runtime.masks secrets runtime.frames (.dict decoded)).mapError Failure.raised
      next data) ↔
      Receivable runtime content ∧
        (Receivable runtime content → Typed (next (replaceKnown secrets (maskedEntries runtime content)))) := by
  rw [typed_bind, typed_raised, decodeResponse_eq_ok]
  constructor
  · intro typed
    obtain ⟨readable, later⟩ := typed
    have rest := later _ (mapError_eq_ok.mpr (decodeResponse_entries readable))
    rw [typed_bind, typed_raised] at rest
    obtain ⟨redacted, following⟩ := rest
    obtain ⟨result, done⟩ := redacted
    have shallow := (redactKnownSecrets_eq_ok.mp done).1
    exact ⟨⟨readable, shallow⟩, fun _ => following _ (mapError_eq_ok.mpr (redactKnownSecrets_eq_ok.mpr ⟨shallow, rfl⟩))⟩
  · intro holds
    obtain ⟨receivable, following⟩ := holds
    refine ⟨receivable.readable, fun decoded same => ?_⟩
    rw [mapError_eq_ok, decodeResponse_entries receivable.readable] at same
    rw [← Except.ok.inj same, typed_bind, typed_raised]
    have redacted := @redactKnownSecrets_eq_ok runtime.masks secrets runtime.frames (.dict (decodedEntries runtime content))
    refine ⟨⟨_, redacted.mpr ⟨receivable.shallow, rfl⟩⟩, fun data done => ?_⟩
    rw [← (redacted.mp (mapError_eq_ok.mp done)).2]
    exact following receivable

/-- The step that looks at the redirect. -/
def redirectStep (runtime : Runtime) (guard : WebTargetGuard) (sent : SentRequest) (arrival : Arrival) : Except Failure Unit :=
  if Redirects arrival then
    discard (authorizeRedirect guard runtime.forms sent.url (locationOf arrival).toList)
  else .ok ()

theorem redirectStep_eq_ok {done : Unit} :
    redirectStep runtime guard sent arrival = .ok done ↔ Permitted runtime guard sent arrival := by
  unfold redirectStep Permitted
  by_cases redirects : Redirects arrival
  · rw [if_pos redirects]
    cases authorized : authorizeRedirect guard runtime.forms sent.url (locationOf arrival).toList with
    | error failure =>
      refine iff_of_false (fun same => by cases same) fun permitted => ?_
      obtain ⟨_, same⟩ := permitted redirects
      cases same
    | ok target => exact iff_of_true rfl fun _ => ⟨target, rfl⟩
  · rw [if_neg redirects]
    exact iff_of_true rfl fun holds => absurd holds redirects

theorem redirectStep_typed : Typed (redirectStep runtime guard sent arrival) ↔
    (Redirects arrival → Joinable runtime.forms sent.url (locationOf arrival).toList) := by
  unfold redirectStep
  by_cases redirects : Redirects arrival
  · rw [if_pos redirects, ← @authorizeRedirect_typed guard, forall_prop_of_true redirects]
    cases authorizeRedirect guard runtime.forms sent.url (locationOf arrival).toList with
    | error failure => exact ⟨fun typed error same => typed error (congrArg Except.error (Except.error.inj same)),
        fun typed error same => typed error (congrArg Except.error (Except.error.inj same))⟩
    | ok target => exact iff_of_true (typed_ok _) (typed_ok _)
  · rw [if_neg redirects]
    exact iff_of_true (typed_ok _) fun holds => absurd holds redirects

/-- The steps of `request` after the response arrived. -/
theorem receive_steps : receive runtime guard secrets sent arrival = (do
    require (arrival.content.length ≤ guard.scope.maxResponseBytes) (.stable ⟨.EXEC_RESPONSE_TOO_LARGE, "响应体超过安全预算"⟩)
    redirectStep runtime guard sent arrival
    let decoded ← (decodeResponse runtime (redactBytes secrets arrival.content)).mapError Failure.raised
    let data ← (redactKnownSecrets runtime.masks secrets runtime.frames (.dict decoded)).mapError Failure.raised
    return { responseOf runtime secrets sent arrival with data := entriesOf data }) := rfl

theorem receive_typed : Typed (receive runtime guard secrets sent arrival) ↔
    (arrival.content.length ≤ guard.scope.maxResponseBytes →
      (Redirects arrival → Joinable runtime.forms sent.url (locationOf arrival).toList) ∧
        (Permitted runtime guard sent arrival → Receivable runtime (redactBytes secrets arrival.content))) := by
  rw [receive_steps, typed_bind, and_iff_right typed_require]
  have within : ∀ done, require (arrival.content.length ≤ guard.scope.maxResponseBytes)
      (Failure.stable ⟨.EXEC_RESPONSE_TOO_LARGE, "响应体超过安全预算"⟩) = .ok done ↔
      arrival.content.length ≤ guard.scope.maxResponseBytes := fun _ => require_eq_ok
  simp only [within, forall_const]
  refine imp_congr_right fun _ => ?_
  rw [typed_bind, redirectStep_typed]
  refine and_congr_right fun _ => ?_
  simp only [redirectStep_eq_ok, forall_const]
  refine imp_congr_right fun _ => ?_
  rw [decoded_typed]
  exact and_iff_left_of_imp fun _ _ => typed_ok _

theorem receive_eq_ok {response : HttpResponse} : receive runtime guard secrets sent arrival = .ok response ↔
    arrival.content.length ≤ guard.scope.maxResponseBytes ∧ Permitted runtime guard sent arrival ∧
      Receivable runtime (redactBytes secrets arrival.content) ∧ responseOf runtime secrets sent arrival = response := by
  rw [receive_steps]
  constructor
  · intro done
    obtain ⟨_, within, done⟩ := bind_eq_ok.mp done
    obtain ⟨_, permitted, done⟩ := bind_eq_ok.mp done
    have typed : Typed (do
        let decoded ← (decodeResponse runtime (redactBytes secrets arrival.content)).mapError Failure.raised
        let data ← (redactKnownSecrets runtime.masks secrets runtime.frames (.dict decoded)).mapError Failure.raised
        return { responseOf runtime secrets sent arrival with data := entriesOf data }) := by
      rw [done]
      exact typed_ok _
    have receivable := (decoded_typed.mp typed).1
    obtain ⟨decoded, read, done⟩ := bind_eq_ok.mp done
    obtain ⟨data, redacted, same⟩ := bind_eq_ok.mp done
    rw [mapError_eq_ok, decodeResponse_entries receivable.readable] at read
    rw [mapError_eq_ok, ← Except.ok.inj read, redactKnownSecrets_eq_ok] at redacted
    have built : { responseOf runtime secrets sent arrival with data := entriesOf data } = response := Except.ok.inj same
    rw [← redacted.2] at built
    exact ⟨require_eq_ok.mp within, redirectStep_eq_ok.mp permitted, receivable, built⟩
  · intro holds
    obtain ⟨within, permitted, receivable, same⟩ := holds
    refine bind_eq_ok.mpr ⟨(), require_eq_ok.mpr within, ?_⟩
    refine bind_eq_ok.mpr ⟨(), redirectStep_eq_ok.mpr permitted, ?_⟩
    refine bind_eq_ok.mpr ⟨_, mapError_eq_ok.mpr (decodeResponse_entries receivable.readable), ?_⟩
    exact bind_eq_ok.mpr ⟨_, mapError_eq_ok.mpr (redactKnownSecrets_eq_ok.mpr ⟨receivable.shallow, rfl⟩), congrArg Except.ok same⟩

end Receiving

section Interpreting

variable (runtime : Runtime)

/-- The body that the classifier reads: an empty content is read as an empty object. -/
def readBody (content : List UInt8) : List UInt8 := if content = [] then [123, 125] else content

/-- No predicate that is looked at has a path that does not fit the body. -/
def Fitting (classifier : HttpOutcomeClassifier) (status : Nat) (headers : List (String × String)) (body : List UInt8) : Prop :=
  ∀ predicates ∈ [classifier.accepted, classifier.denied], ∀ predicate,
    Reached (predicateMatches runtime status (loweredAttributes runtime headers) body) predicates predicate →
      ¬Misreads runtime body predicate

/-- A list or an object that a JSON extractor finds is not too deep to be written. -/
def Extractable (extractor : ResponseExtractor) (content : List UInt8) : Prop :=
  extractor.kind = .JSON_PATH → ∀ document value, loads runtime.decoderRoom content = .ok document →
    extractValuePath document (extractor.jsonPath.getD "$") = .ok value → depth value ≤ runtime.encoderRoom

variable {runtime} {secrets : KnownSecrets} {classifier : HttpOutcomeClassifier} {extractor : ResponseExtractor}
  {response : HttpResponse} {terminalCompleted : Option Bool} {content body : List UInt8}

theorem decodedEntries_nil : decodedEntries runtime [] = [] := if_pos rfl

theorem shownData_nil : shownData runtime secrets [] = [] := by
  unfold shownData maskedEntries
  rw [decodedEntries_nil, redact, redactFields, replaceKnown, replaceFields]
  rfl

theorem responseBody_eq (carried : response.data = shownData runtime secrets response.body)
    (sealable : Sealable runtime (.dict response.data)) : responseBody runtime response = .ok (readBody response.body) := by
  unfold responseBody readBody
  by_cases empty : response.body = []
  · rw [if_neg (not_not.mpr empty), if_pos empty]
    have data : response.data = [] := by rw [carried, empty, shownData_nil]
    have shallow : depth (.dict response.data) ≤ runtime.encoderRoom := Nat.le_of_lt sealable.shallow
    rw [data] at shallow ⊢
    have dumped : dumps runtime (.dict []) = .ok (compact runtime.floatText (.dict [])) :=
      bind_eq_ok.mpr ⟨(), require_eq_ok.mpr shallow, rfl⟩
    rw [dumped]
    rfl
  · rw [if_pos empty, if_neg empty]

/-- The empty object can be read however deep the language calls itself. -/
theorem readable_readBody (readable : Readable runtime content) : Readable runtime (readBody content) := by
  unfold readBody
  by_cases empty : content = []
  · rw [if_pos empty]
    intro failure same
    obtain ⟨room, deep⟩ := Nat.exists_eq_succ_of_ne_zero (Nat.ne_of_gt runtime.opensOne)
    have read : loads runtime.decoderRoom [123, 125] = .ok (.dict []) := by
      rw [deep]
      rfl
    rw [read] at same
    cases same
  · rw [if_neg empty]
    exact readable

theorem classify_eq_ok (found : responseBody runtime response = .ok body) (readable : Readable runtime body) :
    (∃ outcome, classifier.classify runtime response terminalCompleted = .ok outcome) ↔
      Fitting runtime classifier response.statusCode response.headers body := by
  have lists : ∀ predicates : List HttpPredicate,
      (∃ matched, anyMatches (predicateMatches runtime response.statusCode (loweredAttributes runtime response.headers) body)
        predicates = .ok matched) ↔ ∀ predicate,
        Reached (predicateMatches runtime response.statusCode (loweredAttributes runtime response.headers) body)
          predicates predicate → ¬Misreads runtime body predicate := by
    intro predicates
    rw [anyMatches_eq_ok]
    exact forall₂_congr fun predicate _ => predicateMatches_eq_ok readable
  unfold Fitting
  rw [List.forall_mem_cons, List.forall_mem_singleton, ← lists, ← lists]
  unfold HttpOutcomeClassifier.classify
  constructor
  · intro done
    obtain ⟨_, done⟩ := done
    obtain ⟨other, same, done⟩ := bind_eq_ok.mp done
    rw [found] at same
    cases same
    obtain ⟨accepted, first, done⟩ := bind_eq_ok.mp done
    obtain ⟨denied, second, _⟩ := bind_eq_ok.mp done
    exact ⟨⟨accepted, first⟩, denied, second⟩
  · intro holds
    obtain ⟨⟨accepted, first⟩, denied, second⟩ := holds
    refine bind_ends.mpr ⟨body, found, bind_ends.mpr ⟨accepted, first, bind_ends.mpr ⟨denied, second, ?_⟩⟩⟩
    dsimp only
    split <;> exact ⟨_, rfl⟩

/-- A text is written whatever it is. -/
theorem renderedValue_eq_ok {value : Value} :
    (∃ rendered, renderedValue runtime value = .ok rendered) ↔ depth value ≤ runtime.encoderRoom := by
  have written : (∃ rendered, dumps runtime value = .ok rendered) ↔ depth value ≤ runtime.encoderRoom := by
    constructor
    · intro done
      obtain ⟨_, done⟩ := done
      obtain ⟨_, shallow, _⟩ := bind_eq_ok.mp done
      exact require_eq_ok.mp shallow
    · exact fun shallow => ⟨_, bind_eq_ok.mpr ⟨(), require_eq_ok.mpr shallow, rfl⟩⟩
  cases value with
  | list items => exact written
  | dict entries => exact written
  | _ => exact iff_of_true ⟨_, rfl⟩ (Nat.zero_le _)

/-- A value that is rendered and measured. -/
theorem rendered_typed {found : Option Value} : Typed (do
    let value ← orRaise (present found) (extractionError "响应提取为空")
    let rendered ← (renderedValue runtime value).mapError Failure.raised
    require (rendered.length ≤ extractor.maxLength) (extractionError "响应提取超过长度预算")
    return value) ↔ ∀ value, present found = some value → depth value ≤ runtime.encoderRoom := by
  rw [typed_bind]
  refine (and_iff_right typed_orRaise).trans (forall_congr' fun value => ?_)
  rw [orRaise_eq_ok]
  refine imp_congr_right fun _ => ?_
  rw [typed_bind, typed_raised, renderedValue_eq_ok]
  exact and_iff_left fun rendered _ => typed_bind.mpr ⟨typed_require, fun _ _ => typed_ok value⟩

theorem eq_of_present {found : Option Value} {value : Value} (there : present found = some value) : found = some value := by
  unfold present at there
  split at there
  · cases there
  · cases there
  · exact there

/-- Whatever is no JSON path finds a text or nothing. -/
theorem foundValue_text (other : extractor.kind ≠ .JSON_PATH) :
    ∃ found : Option String, foundValue runtime response extractor = .ok (found.map fun text => .str (points text)) := by
  unfold foundValue
  cases kind : extractor.kind with
  | JSON_PATH => exact absurd kind other
  | _ => exact ⟨_, rfl⟩

theorem foundValue_json (json : extractor.kind = .JSON_PATH) (readable : Readable runtime response.body) :
    Typed (foundValue runtime response extractor) ∧
      ∀ value, foundValue runtime response extractor = .ok (some value) ↔ ∃ document,
        loads runtime.decoderRoom response.body = .ok document ∧
          extractValuePath document (extractor.jsonPath.getD "$") = .ok value := by
  unfold foundValue
  rw [json]
  obtain ⟨read, here⟩ := loadJson_eq_ok.mpr readable
  constructor
  · refine typed_bind.mpr ⟨typed_raised.mpr ⟨read, here⟩, fun found _ => ?_⟩
    refine typed_bind.mpr ⟨typed_orRaise, fun document _ => ?_⟩
    exact typed_bind.mpr ⟨typed_stable, fun value _ => typed_ok _⟩
  · intro value
    constructor
    · intro done
      obtain ⟨loaded, same, done⟩ := bind_eq_ok.mp done
      obtain ⟨document, there, done⟩ := bind_eq_ok.mp done
      obtain ⟨found, extracted, last⟩ := bind_eq_ok.mp done
      rw [orRaise_eq_ok.mp there, mapError_eq_ok, loadJson_document] at same
      rw [mapError_eq_ok] at extracted
      exact ⟨document, same, Option.some.inj (Except.ok.inj last) ▸ extracted⟩
    · intro found
      obtain ⟨document, loaded, extracted⟩ := found
      refine bind_eq_ok.mpr ⟨some document, mapError_eq_ok.mpr (loadJson_document.mpr loaded), ?_⟩
      exact bind_eq_ok.mpr ⟨document, rfl, bind_eq_ok.mpr ⟨value, mapError_eq_ok.mpr extracted, rfl⟩⟩

theorem extractResponseValue_typed (readable : Readable runtime response.body) :
    Typed (extractResponseValue runtime response extractor) ↔ Extractable runtime extractor response.body := by
  unfold extractResponseValue Extractable
  rw [typed_bind]
  by_cases json : extractor.kind = .JSON_PATH
  · obtain ⟨typed, values⟩ := @foundValue_json runtime extractor response json readable
    rw [and_iff_right typed, forall_prop_of_true json]
    simp only [rendered_typed]
    constructor
    · intro each document value loaded extracted
      have found := (values value).mpr ⟨document, loaded, extracted⟩
      cases value with
      | list items => exact each _ found _ rfl
      | dict entries => exact each _ found _ rfl
      | _ => exact Nat.zero_le _
    · intro each found same value there
      rw [eq_of_present there] at same
      obtain ⟨document, loaded, extracted⟩ := (values value).mp same
      exact each document value loaded extracted
  · obtain ⟨text, found⟩ := @foundValue_text runtime extractor response json
    rw [found]
    refine iff_of_true ⟨typed_ok _, fun other same => ?_⟩ fun holds => absurd holds json
    rw [rendered_typed, ← Except.ok.inj same]
    intro value there
    have read := eq_of_present there
    cases text with
    | none => cases read
    | some text =>
      cases read
      exact Nat.zero_le _

end Interpreting

section Settling

variable (runtime : Runtime) (guard : WebTargetGuard) (secrets : KnownSecrets) (sent : SentRequest)
  (classifier : HttpOutcomeClassifier) (extractor : ResponseExtractor) (arrival : Arrival)

/-- The content can be read, redacted, hashed, classified and extracted from. -/
structure Digestible (content : List UInt8) : Prop where
  received : Receivable runtime content
  sealable : Sealable runtime (.dict (shownData runtime secrets content))
  fitting : Fitting runtime classifier arrival.statusCode arrival.headers (readBody content)
  extractable : Extractable runtime extractor content

/-- A response within the size limit redirects to a readable place, if anywhere, and an authorized one has a digestible content. -/
def Settles : Prop :=
  arrival.content.length ≤ guard.scope.maxResponseBytes →
    (Redirects arrival → Joinable runtime.forms sent.url (locationOf arrival).toList) ∧
      (Permitted runtime guard sent arrival →
        Digestible runtime secrets classifier extractor arrival (redactBytes secrets arrival.content))

variable {runtime guard secrets sent extractor arrival} {given : Option HttpOutcomeClassifier} {terminalCompleted : Option Bool}
  {response : HttpResponse}

/-- The fact that an executed request leaves. -/
def factOf (sent : SentRequest) (outcome : HttpOutcome) (outputHash : String) : ExecutionFact where
  caseId := sent.caseId
  actionId := sent.actionId
  outcome := outcome
  executionMarker := sent.caseId
  inputHash := sent.inputHash
  outputHash := outputHash
  reasonCodes := if outcome = .UNKNOWN then ["UNINTERPRETED_RESPONSE"] else []

/-- What a received response is hashed and classified by. -/
theorem classify_received (received : receive runtime guard secrets sent arrival = .ok response)
    (sealable : Sealable runtime (.dict response.data)) :
    (∃ outcome, (given.getD {}).classify runtime response terminalCompleted = .ok outcome) ↔
      Fitting runtime (given.getD {}) arrival.statusCode arrival.headers (readBody (redactBytes secrets arrival.content)) := by
  obtain ⟨_, _, receivable, same⟩ := receive_eq_ok.mp received
  have carried : response.data = shownData runtime secrets response.body := by rw [← same]; rfl
  have found := responseBody_eq carried sealable
  have readable : Readable runtime (readBody response.body) := by
    rw [← same]
    exact readable_readBody receivable.readable
  rw [classify_eq_ok found readable, ← same]
  rfl

theorem executeDetailed_typed : Typed (executeDetailed runtime guard secrets sent given terminalCompleted arrival) ↔
    Typed (receive runtime guard secrets sent arrival) ∧
      ∀ response, receive runtime guard secrets sent arrival = .ok response → Sealable runtime (.dict response.data) ∧
        Fitting runtime (given.getD {}) arrival.statusCode arrival.headers (readBody (redactBytes secrets arrival.content)) := by
  unfold executeDetailed
  rw [typed_bind]
  refine and_congr_right fun _ => forall₂_congr fun response received => ?_
  rw [typed_bind, typed_raised, sealed_eq_ok]
  refine and_congr_right fun sealable => ?_
  obtain ⟨hash, hashed⟩ := sealed_eq_ok.mpr sealable
  have once : (∀ outputHash, (webJsonSha256 runtime (.dict [(points "status", .int response.statusCode),
      (points "data", .dict response.data)])).mapError Failure.raised = .ok outputHash → Typed (do
        let outcome ← ((given.getD {}).classify runtime response terminalCompleted).mapError Failure.raised
        return (factOf sent outcome outputHash, response))) ↔
      ∃ outcome, (given.getD {}).classify runtime response terminalCompleted = .ok outcome := by
    constructor
    · intro each
      exact typed_raised.mp (typed_bind.mp (each hash (mapError_eq_ok.mpr hashed))).1
    · exact fun found _ _ => typed_bind.mpr ⟨typed_raised.mpr found, fun _ _ => typed_ok _⟩
  exact once.trans (classify_received received sealable)

theorem executeDetailed_eq_ok : (∃ fact, executeDetailed runtime guard secrets sent given terminalCompleted arrival =
    .ok (fact, response)) ↔ receive runtime guard secrets sent arrival = .ok response ∧
      Sealable runtime (.dict response.data) ∧
        Fitting runtime (given.getD {}) arrival.statusCode arrival.headers (readBody (redactBytes secrets arrival.content)) := by
  constructor
  · intro done
    obtain ⟨fact, done⟩ := done
    have typed : Typed (executeDetailed runtime guard secrets sent given terminalCompleted arrival) := by
      rw [done]
      exact typed_ok _
    obtain ⟨found, received, done⟩ := bind_eq_ok.mp done
    obtain ⟨_, _, done⟩ := bind_eq_ok.mp done
    obtain ⟨_, _, same⟩ := bind_eq_ok.mp done
    cases same
    exact ⟨received, (executeDetailed_typed.mp typed).2 _ received⟩
  · intro holds
    obtain ⟨received, sealable, fitting⟩ := holds
    obtain ⟨hash, hashed⟩ := sealed_eq_ok.mpr sealable
    obtain ⟨outcome, classified⟩ := (@classify_received runtime guard secrets sent arrival given terminalCompleted response
      received sealable).mpr fitting
    refine ⟨factOf sent outcome hash, bind_eq_ok.mpr ⟨response, received, bind_eq_ok.mpr ⟨hash, mapError_eq_ok.mpr hashed, ?_⟩⟩⟩
    exact bind_eq_ok.mpr ⟨outcome, mapError_eq_ok.mpr classified, rfl⟩

/-- A response ends in a value or in a stable error exactly when it settles. -/
theorem response_settled_iff (given : Option HttpOutcomeClassifier) :
    Typed (settleResponse runtime guard secrets sent given terminalCompleted extractor arrival) ↔
      Settles runtime guard secrets sent (given.getD {}) extractor arrival := by
  unfold settleResponse
  rw [typed_bind]
  constructor
  · intro typed within
    obtain ⟨executed, later⟩ := typed
    obtain ⟨received, each⟩ := executeDetailed_typed.mp executed
    obtain ⟨joinable, receivable⟩ := receive_typed.mp received within
    refine ⟨joinable, fun permitted => ?_⟩
    have arrives := receive_eq_ok.mpr ⟨within, permitted, receivable permitted, rfl⟩
    obtain ⟨sealable, fitting⟩ := each _ arrives
    obtain ⟨fact, done⟩ := executeDetailed_eq_ok.mpr ⟨arrives, sealable, fitting⟩
    obtain ⟨found, classified⟩ := typed_bind.mp (later _ done)
    obtain ⟨outcome, same⟩ := typed_raised.mp found
    have extracted := (typed_bind.mp (classified outcome (mapError_eq_ok.mpr same))).1
    exact ⟨receivable permitted, sealable, fitting, (extractResponseValue_typed (receivable permitted).readable).mp extracted⟩
  · intro settles
    have digestible : ∀ response, receive runtime guard secrets sent arrival = .ok response →
        Digestible runtime secrets (given.getD {}) extractor arrival (redactBytes secrets arrival.content) := by
      intro response received
      obtain ⟨within, permitted, _⟩ := receive_eq_ok.mp received
      exact (settles within).2 permitted
    have carried : ∀ response, receive runtime guard secrets sent arrival = .ok response →
        responseOf runtime secrets sent arrival = response := fun response received => (receive_eq_ok.mp received).2.2.2
    constructor
    · refine executeDetailed_typed.mpr ⟨receive_typed.mpr fun within => ?_, fun response received => ?_⟩
      · exact ⟨(settles within).1, fun permitted => ((settles within).2 permitted).received⟩
      · have whole := digestible response received
        rw [← carried response received]
        exact ⟨whole.sealable, whole.fitting⟩
    · intro pair done
      obtain ⟨fact, response⟩ := pair
      obtain ⟨received, sealable, fitting⟩ := executeDetailed_eq_ok.mp ⟨fact, done⟩
      have whole := digestible response received
      have readable : Readable runtime response.body := by
        rw [← carried response received]
        exact whole.received.readable
      have extractable : Extractable runtime extractor response.body := by
        rw [← carried response received]
        exact whole.extractable
      refine typed_bind.mpr ⟨typed_raised.mpr ((classify_received received sealable).mpr fitting), fun outcome _ => ?_⟩
      exact typed_bind.mpr ⟨(extractResponseValue_typed readable).mpr extractable, fun value _ => typed_ok _⟩

/-- A runtime with the usual limits, as it is for texts of plain letters without secrets. -/
def plainRuntime : Runtime where
  decoderRoom := 1000
  encoderRoom := 1000
  frames := 900
  floatText := id
  floatInteger := fun _ => none
  lower := String.toLower
  printable := fun _ => true
  forms := ⟨id, List.map Char.toLower⟩
  masks := ⟨fun _ => false, id⟩
  feed := fun _ => some []
  feedAndClose := fun _ => some []
  sha256 := fun _ => ""
  opensOne := by decide

def localGuard : WebTargetGuard where
  scope := {
    baseUrl := "http://10.0.0.1:80".toList
    allowedOrigins := ["http://10.0.0.1:80".toList]
    allowedHosts := ["10.0.0.1".toList]
    allowedPorts := [80]
    allowPrivateNetwork := true
    maxResponseBytes := 1024 }
  reservedOrigins := []

def orderRequest : SentRequest where
  url := "http://10.0.0.1:80/orders".toList
  caseId := "case"
  actionId := "order"
  inputHash := ""
  requestNonce := ""
  requestDigest := ""

def nextLocation : ResponseExtractor := { extractorId := "next", kind := .LOCATION }

/-- The body is `NaN`, or the place of a redirect has an open bracket. -/
theorem odd_responses_escape :
    ¬Typed (settleResponse plainRuntime localGuard .none orderRequest none none nextLocation ⟨200, [], [78, 97, 78]⟩) ∧
      ¬Typed (settleResponse plainRuntime localGuard .none orderRequest none none nextLocation
        ⟨302, [("location", "http://[")], []⟩) := by
  constructor
  · exact fun typed => typed (.ValueError "Out of range float values are not JSON compliant") rfl
  · exact fun typed => typed (.ValueError "Invalid IPv6 URL") rfl

end Settling

end Jiejian.Web.ResponseSettlement
