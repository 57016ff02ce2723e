import Jiejian.Preparation.RecordedRendering
import Mathlib.Data.List.TakeWhile

namespace Jiejian.Preparation.RecordedReplay

open Library Library.Document Library.Outcome Library.Placeholders Library.Segments Errors
open Web.Templates Web.Rendering RecordedRequests RecordedRendering

section Reading

variable {resource : List Char} {event : RecordedEvent}

theorem placePath_closed {sign : Char} (segments : List (List Char)) (dropped : pathKept sign = false)
    (escape : sign ≠ '%') (special : sign.isAlphanum = false) (slash : sign ≠ '/') :
    sign ∉ placePath resource segments := by
  refine not_mem_intercalate slash fun written listed => ?_
  obtain ⟨segment, _, built⟩ := List.mem_map.mp listed
  exact built ▸ placeSegment_closed sign dropped escape special

theorem urlencode_closed (pairs : List (List Char × List Char)) : '#' ∉ FormEncoding.urlencode queryKept pairs := by
  refine not_mem_intercalate (by decide) fun field listed member => ?_
  obtain ⟨pair, _, built⟩ := List.mem_map.mp listed
  have absent : ∀ text, '#' ∉ FormEncoding.quotePlus queryKept text :=
    fun text => FormEncoding.not_mem_quotePlus (by decide) (by decide) (by decide) (by decide) (by decide)
  rw [← built] at member
  rcases List.mem_append.mp member with front | back
  · exact absent _ front
  · rcases List.mem_cons.mp back with clash | value
    · exact absurd clash (by decide)
    · exact absent _ value

/-- The written path and the written query are found again. -/
theorem splitRelative_relativePath : splitRelative (relativePath event resource) =
    (placePath resource (decodedSegments event.path),
      FormEncoding.urlencode queryKept ((queryPairs event.query).map (placeValue resource))) := by
  have noQuestion : ∀ char ∈ placePath resource (decodedSegments event.path), decide (char ≠ '?') = true := by
    intro char member
    refine decide_eq_true fun same => ?_
    exact placePath_closed _ (by decide) (by decide) (by decide) (by decide) (same ▸ member)
  have noHash : ∀ char ∈ relativePath event resource, decide (char ≠ '#') = true := by
    intro char member
    refine decide_eq_true fun same => ?_
    rw [same] at member
    rcases List.mem_append.mp member with path | query
    · exact placePath_closed _ (by decide) (by decide) (by decide) (by decide) path
    · by_cases none' : queryPairs event.query = []
      · rw [if_pos none'] at query
        cases query
      · rw [if_neg none'] at query
        rcases List.mem_cons.mp query with clash | written
        · exact absurd clash (by decide)
        · exact urlencode_closed _ written
  unfold splitRelative
  rw [List.takeWhile_eq_self_iff.mpr noHash]
  dsimp only
  unfold relativePath
  rw [List.takeWhile_append_of_pos noQuestion, List.dropWhile_append_of_pos noQuestion]
  by_cases none' : queryPairs event.query = []
  · rw [if_pos none', none', List.takeWhile_nil, List.append_nil]
    rfl
  · rw [if_neg none']
    simp

theorem read_query : FormEncoding.parseQsl (splitRelative (relativePath event resource)).2 =
    (queryPairs event.query).map (placeValue resource) := by
  rw [splitRelative_relativePath]
  exact FormEncoding.parseQsl_urlencode queryKept_formal _

end Reading

section Building

variable {texts : TextPatterns} {patterns : Patterns} {event : RecordedEvent} {resource : String}

theorem templateForResource_ok {recorded : RecordedRequestTemplate}
    (made : templateForResource texts event resource = some recorded) :
    ∃ entries, requestJson event = .ok entries ∧
      (replacedInUrl event resource.toList = true ∨ (replaceFields resource entries).2 = true) ∧
      recorded = ⟨event.method, String.ofList (relativePath event resource.toList), (replaceFields resource entries).1⟩ := by
  unfold templateForResource at made
  cases body : requestJson event with
  | error failure =>
    rw [body] at made
    cases made
  | ok entries =>
    rw [body] at made
    dsimp only at made
    refine ⟨entries, rfl, ?_⟩
    split at made
    · cases made
    · split at made
      · cases made
      · rename_i found
        split at made
        · cases made
        · exact ⟨Bool.or_eq_true_iff.mp (Bool.eq_true_of_not_eq_false found), (Option.some.inj made).symm⟩

/-- How the parts of a template come from the recorded ones. -/
structure Built (patterns : Patterns) (method : String) (written : List Char)
    (pairs : List (List Char × List Char)) (entries : List (String × Json)) (template : HttpRequestTemplate) where
  path : List Char
  afterPath : Nat
  afterQuery : Nat
  slotted : slotPath written = .ok (path, afterPath)
  queried : slotQuery afterPath pairs = .ok (template.query, afterQuery)
  named : methodOf method = some template.method
  sentPath : template.path = String.ofList path
  headers : template.headers = []
  body : template.body = if entries = [] then .empty else .json (.dict (bodyFields afterQuery entries).1)
  slots : template.inputSlots = resourceSlots .PATH 0 afterPath ++ resourceSlots .QUERY afterPath (afterQuery - afterPath) ++
    resourceSlots .JSON_BODY afterQuery ((bodyFields afterQuery entries).2 - afterQuery)
  fields : template.validateFields patterns = .ok ()
  references : template.validateReferences patterns = .ok ()

theorem recordedRequestTemplate_ok {recorded : RecordedRequestTemplate} {template : HttpRequestTemplate}
    (built : recordedRequestTemplate patterns recorded = .ok template) :
    Nonempty (Built patterns recorded.method (splitRelative recorded.relativePath.toList).1
      (FormEncoding.parseQsl (splitRelative recorded.relativePath.toList).2) recorded.jsonBody template) := by
  obtain ⟨⟨path, afterPath⟩, slotted, built⟩ := bind_eq_ok.mp built
  obtain ⟨⟨items, afterQuery⟩, queried, built⟩ := bind_eq_ok.mp built
  obtain ⟨method, named, built⟩ := bind_eq_ok.mp built
  obtain ⟨same, fields, references⟩ := validate_eq_ok (mapError_eq_ok.mp built)
  rw [← same] at fields references
  refine ⟨⟨path, afterPath, afterQuery, slotted, ?_, ?_, ?_, ?_, ?_, ?_, fields, references⟩⟩ <;> rw [same]
  · exact queried
  · exact orRaise_eq_ok.mp named

/-- Every slot of a template takes the resource. -/
theorem resourceValues_given {template : HttpRequestTemplate} {slotId : String}
    (declared : ∃ slot ∈ template.inputSlots, slot.slotId = slotId) :
    resourceValues template resource slotId = some (.str resource) := by
  obtain ⟨slot, member, named⟩ := declared
  unfold resourceValues
  rw [if_pos (List.mem_map.mpr ⟨slot, member, named⟩)]

theorem mem_resourceSlots {consumer : ValueSlotConsumer} {first howMany index : Nat} (lower : first ≤ index)
    (upper : index < first + howMany) : resourceSlot consumer index ∈ resourceSlots consumer first howMany :=
  List.mem_map_of_mem (List.mem_range'_1.mpr ⟨lower, upper⟩)

theorem consumer_of_resourceSlots {slot : ValueSlot} {consumer : ValueSlotConsumer} {first howMany : Nat}
    (member : slot ∈ resourceSlots consumer first howMany) :
    slot.consumer = consumer ∧ slot.slotId ∈ (List.range' first howMany).map slotName := by
  obtain ⟨index, listed, built⟩ := List.mem_map.mp member
  rw [← built]
  exact ⟨rfl, List.mem_map_of_mem listed⟩

end Building

section Replay

variable {texts : TextPatterns} {patterns : Patterns} {fixtures : String → Option (List UInt8)}
variable {event : RecordedEvent} {resource : String} {recorded : RecordedRequestTemplate} {template : HttpRequestTemplate}

/-- The body that is sent is the recorded one. -/
def SameBody : RecordedBody → RenderedBody → Prop
  | .none, .empty => True
  | .document value, .json sent => sent = value
  | _, _ => False

/-- The rendered request is the recorded request: its method, its decoded path, its query and its body. -/
structure Reproduces (event : RecordedEvent) (rendered : RenderedRequest) : Prop where
  method : methodOf event.method = some rendered.method
  path : decodedSegments rendered.path = decodedSegments event.path
  query : rendered.query = (queryPairs event.query).map textPair
  body : SameBody event.body rendered.body

/-- A recorded body that is sent as it was: not the empty object, and plain. -/
def PlainBody (resource : String) : RecordedBody → Prop
  | .document value => value ≠ .dict [] ∧ PlainDocument resource value
  | _ => True

/-- The resource fits a slot, its placeholder is no text of the request, and no number reads as the resource. -/
structure Reproducible (event : RecordedEvent) (resource : String) : Prop where
  short : resource.length ≤ slotMaxLength
  path : PlainPath resource.toList (decodedSegments event.path)
  query : PlainQuery resource (queryPairs event.query)
  body : PlainBody resource event.body

theorem decodedSegments_ne_nil (path : String) : decodedSegments path ≠ [] := by
  intro empty
  exact List.splitOn_ne_nil _ _ (List.map_eq_nil_iff.mp empty)

theorem replaceFields_eq_nil {entries : List (String × Json)} :
    (replaceFields resource entries).1 = [] ↔ entries = [] := by
  cases entries with
  | nil => simp [replaceFields]
  | cons entry entries =>
    obtain ⟨name, value⟩ := entry
    simp [replaceFields]

/-- The parts of a template that comes from a recorded event. -/
abbrev BuiltFrom (patterns : Patterns) (event : RecordedEvent) (resource : String) (entries : List (String × Json))
    (template : HttpRequestTemplate) :=
  Built patterns event.method (placePath resource.toList (decodedSegments event.path))
    ((queryPairs event.query).map (placeValue resource.toList)) (replaceFields resource entries).1 template

variable {entries : List (String × Json)}

theorem builtFrom_event (made : templateForResource texts event resource = some recorded)
    (built : recordedRequestTemplate patterns recorded = .ok template) :
    ∃ entries, requestJson event = .ok entries ∧
      (replacedInUrl event resource.toList = true ∨ (replaceFields resource entries).2 = true) ∧
      Nonempty (BuiltFrom patterns event resource entries template) := by
  obtain ⟨entries, body, replaced, shape⟩ := templateForResource_ok made
  refine ⟨entries, body, replaced, ?_⟩
  have parts := recordedRequestTemplate_ok built
  rw [shape] at parts
  dsimp only at parts
  rw [String.toList_ofList, read_query, splitRelative_relativePath] at parts
  exact parts

/-- The path of a template refers to the slots of the path only, and to each of them once. -/
theorem path_declared (parts : BuiltFrom patterns event resource entries template) :
    (∀ slotId ∈ pathSlots template.path, slotId ∈ (List.range' 0 parts.afterPath).map slotName) ∧
      (pathSlots template.path).Nodup := by
  obtain ⟨_, _, valid⟩ := bind_eq_ok.mp parts.references
  obtain ⟨_, _, valid⟩ := bind_eq_ok.mp valid
  obtain ⟨_, unique, valid⟩ := bind_eq_ok.mp valid
  obtain ⟨_, declared, _⟩ := bind_eq_ok.mp valid
  refine ⟨fun slotId named => ?_, require_eq_ok.mp unique⟩
  obtain ⟨slot, member, same, kind⟩ := validateSlot_eq_ok (forM_eq_ok.mp declared slotId named)
  rw [parts.slots] at member
  rcases List.mem_append.mp member with front | body
  · rcases List.mem_append.mp front with path | query
    · exact same ▸ (consumer_of_resourceSlots path).2
    · have other := (consumer_of_resourceSlots query).1
      rw [kind] at other
      cases other
  · have other := (consumer_of_resourceSlots body).1
    rw [kind] at other
    cases other

theorem query_valid (valid : template.validateFields patterns = .ok ()) :
    ∀ item ∈ template.query, item.validate patterns = .ok () := by
  obtain ⟨_, _, valid⟩ := bind_eq_ok.mp valid
  obtain ⟨_, _, valid⟩ := bind_eq_ok.mp valid
  obtain ⟨⟨⟩, query, _⟩ := bind_eq_ok.mp valid
  exact forM_eq_ok.mp query

/-- A reference of a template takes the resource. -/
theorem reference_given (parts : BuiltFrom patterns event resource entries template) {slotId : String}
    (named : slotId ∈ template.references) : resourceValues template resource slotId = some (.str resource) :=
  resourceValues_given (references_declared parts.references slotId named)

theorem pathSlot_given (parts : BuiltFrom patterns event resource entries template) {index : Nat}
    (inside : index < parts.afterPath) : resourceValues template resource (slotName index) = some (.str resource) := by
  refine resourceValues_given ⟨resourceSlot .PATH index, ?_, rfl⟩
  rw [parts.slots]
  exact List.mem_append_left _ (List.mem_append_left _ (mem_resourceSlots (Nat.zero_le _) (by omega)))

theorem querySlot_given (parts : BuiltFrom patterns event resource entries template) {index : Nat}
    (lower : parts.afterPath ≤ index) (upper : index < parts.afterQuery) :
    resourceValues template resource (slotName index) = some (.str resource) := by
  refine resourceValues_given ⟨resourceSlot .QUERY index, ?_, rfl⟩
  rw [parts.slots]
  exact List.mem_append_left _ (List.mem_append_right _ (mem_resourceSlots lower (by omega)))

theorem body_rendered (parts : BuiltFrom patterns event resource entries template)
    (body : requestJson event = .ok entries) (short : resource.length ≤ slotMaxLength) :
    ∃ sent, renderBody (resourceValues template resource) fixtures template.body = .ok sent ∧
      (SameBody event.body sent ↔ PlainBody resource event.body) := by
  by_cases empty : entries = []
  · refine ⟨.empty, ?_, ?_⟩
    · rw [parts.body, if_pos (replaceFields_eq_nil.mpr empty)]
      rfl
    · unfold requestJson at body
      cases recorded : event.body with
      | none => exact iff_of_true trivial trivial
      | invalid =>
        rw [recorded] at body
        cases body
      | document value =>
        rw [recorded] at body
        cases value with
        | dict fields =>
          have same : fields = entries := Except.ok.inj body
          refine iff_of_false id fun plain => plain.1 ?_
          rw [same, empty]
        | _ => cases body
  · have shape : event.body = .document (.dict entries) := by
      unfold requestJson at body
      cases recorded : event.body with
      | none =>
        rw [recorded] at body
        exact absurd (Except.ok.inj body).symm empty
      | invalid =>
        rw [recorded] at body
        cases body
      | document value =>
        rw [recorded] at body
        cases value with
        | dict fields => rw [Except.ok.inj body]
        | _ => cases body
    have written : template.body =
        .json (.dict (bodyFields parts.afterQuery (replaceFields resource entries).1).1) := by
      rw [parts.body, if_neg (mt replaceFields_eq_nil.mp empty)]
    have rendered := body_reproduced rfl (accepted_body parts.fields written)
      (fun slotId named => reference_given parts (List.mem_append_right _ (by
        rw [written]
        exact mem_jsonReferences.mpr named))) short
    refine ⟨.json (restored resource (.dict entries)), ?_, ?_⟩
    · rw [written]
      exact bind_eq_ok.mpr ⟨_, rendered, rfl⟩
    · rw [shape]
      show restored resource (.dict entries) = .dict entries ↔ _
      rw [restored_eq_self_iff]
      exact (and_iff_right fun same => empty (Json.dict.inj same)).symm

/-- With a resource that fits its slots a template is rendered, and only plainness decides what comes out. -/
theorem request_rendered (parts : BuiltFrom patterns event resource entries template)
    (body : requestJson event = .ok entries) (short : resource.length ≤ slotMaxLength) :
    ∃ rendered, renderRequest (resourceValues template resource) fixtures template = .ok rendered ∧
      (Reproduces event rendered ↔ PlainPath resource.toList (decodedSegments event.path) ∧
        PlainQuery resource (queryPairs event.query) ∧ PlainBody resource event.body) := by
  obtain ⟨declared, unique⟩ := path_declared parts
  rw [parts.sentPath] at declared unique
  obtain ⟨path, sentPath, samePath⟩ := path_reproduced (decodedSegments_ne_nil event.path) parts.slotted declared unique
    (fun index inside => pathSlot_given parts inside) fun _ => short
  have sentQuery := slotQuery_renders parts.queried (query_valid parts.fields)
    (fun index lower upper => querySlot_given parts lower upper) fun _ => short
  obtain ⟨sent, sentBody, sameBody⟩ := @body_rendered patterns fixtures event resource template entries parts body short
  have sentHeaders : renderParameters (resourceValues template resource) template.headers = .ok [] := by
    rw [parts.headers]
    rfl
  refine ⟨⟨template.method, path, ((queryPairs event.query).map (placeValue resource.toList)).map (sentValue resource),
    [], sent⟩, ?_, ?_⟩
  · rw [← parts.sentPath] at sentPath
    exact bind_eq_ok.mpr ⟨_, sentPath, bind_eq_ok.mpr ⟨_, sentQuery, bind_eq_ok.mpr ⟨_, sentHeaders,
      bind_eq_ok.mpr ⟨_, sentBody, rfl⟩⟩⟩⟩
  · rw [← samePath, ← query_reproduced, ← sameBody]
    exact ⟨fun same => ⟨same.path, same.query, same.body⟩, fun same => ⟨parts.named, same.1, same.2.1, same.2.2⟩⟩

theorem query_slot {next after : Nat} {pairs : List (List Char × List Char)} {items : List HttpParameter}
    (slotted : slotQuery next pairs = .ok (items, after)) (marks : ∃ pair ∈ pairs, pair.2 = marker.toList) :
    ∃ slotId, slotId ∈ items.filterMap fun item => item.value.slotId := by
  induction pairs generalizing next items with
  | nil =>
    obtain ⟨_, none', _⟩ := marks
    cases none'
  | cons pair pairs ih =>
    obtain ⟨name, value⟩ := pair
    rw [slotQuery] at slotted
    by_cases slot : value = marker.toList
    · rw [if_pos slot] at slotted
      obtain ⟨rest, _, same⟩ := bind_eq_ok.mp slotted
      rw [← (Prod.mk.inj (Except.ok.inj same)).1]
      exact ⟨slotName next, List.mem_cons_self⟩
    · rw [if_neg slot] at slotted
      by_cases inside : marker.toList <:+: value
      · rw [if_pos inside] at slotted
        cases slotted
      · rw [if_neg inside] at slotted
        obtain ⟨rest, later, same⟩ := bind_eq_ok.mp slotted
        obtain ⟨built, last⟩ := Prod.mk.inj (Except.ok.inj same)
        rw [← built]
        refine @ih next rest.1 (last ▸ later) ?_
        obtain ⟨pair, member, here⟩ := marks
        rcases List.mem_cons.mp member with first | other
        · rw [first] at here
          exact absurd here slot
        · exact ⟨pair, other, here⟩

/-- A recorded resource in the URL leaves a slot in the path or in the query. -/
theorem url_slot (parts : BuiltFrom patterns event resource entries template)
    (replaced : replacedInUrl event resource.toList = true) :
    (∃ slotId, slotId ∈ pathSlots template.path) ∨
      ∃ slotId, slotId ∈ template.query.filterMap fun item => item.value.slotId := by
  unfold replacedInUrl at replaced
  rcases Bool.or_eq_true_iff.mp replaced with inPath | inQuery
  · left
    obtain ⟨segment, member, here⟩ := List.any_eq_true.mp inPath
    obtain ⟨nonempty, same⟩ := of_decide_eq_true here
    have listed : placeSegment resource.toList segment ∈
        (placePath resource.toList (decodedSegments event.path)).splitOn '/' := by
      rw [placePath_segments (decodedSegments_ne_nil event.path)]
      exact List.mem_map_of_mem member
    rw [placeSegment_resource nonempty same] at listed
    obtain ⟨_, before, after, _, _, _, built⟩ := slotPath_marked parts.slotted (infix_of_mem_splitOn listed)
    refine ⟨slotName 0, ?_⟩
    rw [parts.sentPath, built, pathSlots, Web.PathPieces.pieces_eq, String.toList_ofList,
      Web.PathPieces.piecesOf_slot (matchSlot_slotName after), List.filterMap_append]
    exact List.mem_append_right _ List.mem_cons_self
  · right
    obtain ⟨pair, member, here⟩ := List.any_eq_true.mp inQuery
    refine query_slot parts.queried ⟨placeValue resource.toList pair, List.mem_map_of_mem member, ?_⟩
    exact if_pos (of_decide_eq_true here)

/-- A template that is rendered has put the resource into a slot, so it fits one. -/
theorem rendered_short (parts : BuiltFrom patterns event resource entries template)
    (replaced : replacedInUrl event resource.toList = true ∨ (replaceFields resource entries).2 = true)
    {rendered : RenderedRequest}
    (done : renderRequest (resourceValues template resource) fixtures template = .ok rendered) :
    resource.length ≤ slotMaxLength := by
  obtain ⟨path, sentPath, done⟩ := bind_eq_ok.mp done
  obtain ⟨query, sentQuery, done⟩ := bind_eq_ok.mp done
  obtain ⟨headers, _, done⟩ := bind_eq_ok.mp done
  obtain ⟨sent, sentBody, _⟩ := bind_eq_ok.mp done
  have given : ∀ slotId, slotId ∈ template.references → resourceValues template resource slotId = some (.str resource) :=
    fun slotId named => reference_given parts named
  unfold HttpRequestTemplate.references at given
  rcases replaced with inUrl | inBody
  · rcases url_slot parts inUrl with inPath | inQuery
    · obtain ⟨slotId, named⟩ := inPath
      exact path_short sentPath named (given slotId (List.mem_append_left _ (List.mem_append_left _
        (List.mem_append_left _ named))))
    · obtain ⟨slotId, named⟩ := inQuery
      exact parameter_short sentQuery named (given slotId (List.mem_append_left _ (List.mem_append_left _
        (List.mem_append_right _ named))))
  · have nonempty : (replaceFields resource entries).1 ≠ [] := by
      intro empty
      rw [replaceFields_eq_nil.mp empty] at inBody
      simp [replaceFields] at inBody
    have written := parts.body
    rw [if_neg nonempty] at written
    have slots := references_replaced (.dict entries) parts.afterQuery (by rw [replaceJsonValue]; exact inBody)
    rw [replaceJsonValue, bodyValue] at slots
    obtain ⟨content, found⟩ := List.exists_mem_of_ne_nil _ slots
    obtain ⟨slotId, text⟩ := accepted_references (accepted_body parts.fields written) content found
    rw [text] at found
    rw [written] at sentBody given
    obtain ⟨image, sentDocument, _⟩ := bind_eq_ok.mp sentBody
    exact body_short sentDocument found (given slotId (List.mem_append_right _ (mem_jsonReferences.mpr found)))

/-- Rendering a template with its resource gives the recorded request exactly when the request is reproducible. -/
theorem recorded_request_reproduced (made : templateForResource texts event resource = some recorded)
    (built : recordedRequestTemplate patterns recorded = .ok template) :
    (∃ rendered, renderRequest (resourceValues template resource) fixtures template = .ok rendered ∧
      Reproduces event rendered) ↔ Reproducible event resource := by
  obtain ⟨entries, body, replaced, ⟨parts⟩⟩ := builtFrom_event made built
  constructor
  · intro found
    obtain ⟨rendered, done, same⟩ := found
    have short := rendered_short parts replaced done
    obtain ⟨other, done', exact'⟩ := @request_rendered patterns fixtures event resource template entries parts body short
    have only : rendered = other := Except.ok.inj (done.symm.trans done')
    obtain ⟨path, query, plain⟩ := exact'.mp (only ▸ same)
    exact ⟨short, path, query, plain⟩
  · intro plain
    obtain ⟨rendered, done, exact'⟩ :=
      @request_rendered patterns fixtures event resource template entries parts body plain.short
    exact ⟨rendered, done, exact'.mpr ⟨plain.path, plain.query, plain.body⟩⟩

section Samples

def samplePatterns : Patterns := ⟨fun _ => false, fun _ => false, fun _ => false⟩

def sampleTexts : TextPatterns := ⟨fun _ => false, fun _ => false⟩

def taskRead : RecordedEvent := ⟨"GET", "/tasks/7", "page=7", .none⟩

def taskReadRecorded : RecordedRequestTemplate :=
  ⟨"GET", "/tasks/\x7bcase_resource_id\x7d?page=\x7bcase_resource_id\x7d", []⟩

def taskReadTemplate : HttpRequestTemplate where
  method := .GET
  path := "/tasks/\x7bresource_0\x7d"
  query := [⟨"page", .slot "resource_1"⟩]
  inputSlots := [resourceSlot .PATH 0, resourceSlot .QUERY 1]

theorem task_read_reproduced : templateForResource sampleTexts taskRead "7" = some taskReadRecorded ∧
    recordedRequestTemplate samplePatterns taskReadRecorded = .ok taskReadTemplate ∧
    ((∃ rendered, renderRequest (resourceValues taskReadTemplate "7") (fun _ => none) taskReadTemplate = .ok rendered ∧
      Reproduces taskRead rendered) ↔ Reproducible taskRead "7") :=
  ⟨rfl, rfl, @recorded_request_reproduced sampleTexts samplePatterns (fun _ => none) taskRead "7" taskReadRecorded
    taskReadTemplate rfl rfl⟩

/-- A task is created with a number for its id. -/
def taskCreation : RecordedEvent := ⟨"POST", "/tasks", "", .document (.dict [("id", .int 7)])⟩

def taskCreationRecorded : RecordedRequestTemplate := ⟨"POST", "/tasks", [("id", .str marker)]⟩

def taskCreationTemplate : HttpRequestTemplate where
  method := .POST
  path := "/tasks"
  body := .json (.dict [("id", placeholder slotKey (.str "resource_0"))])
  inputSlots := [resourceSlot .JSON_BODY 0]

/-- The number is sent as a text. -/
theorem recorded_number_sent_as_text : templateForResource sampleTexts taskCreation "7" = some taskCreationRecorded ∧
    recordedRequestTemplate samplePatterns taskCreationRecorded = .ok taskCreationTemplate ∧
    ¬∃ rendered, renderRequest (resourceValues taskCreationTemplate "7") (fun _ => none) taskCreationTemplate =
      .ok rendered ∧ Reproduces taskCreation rendered := by
  refine ⟨rfl, rfl, fun found => ?_⟩
  obtain ⟨rendered, done, same⟩ := found
  have sent : renderRequest (resourceValues taskCreationTemplate "7") (fun _ => none) taskCreationTemplate =
      .ok ⟨.POST, "/tasks", [], [], .json (.dict [("id", .str "7")])⟩ := rfl
  have only := Except.ok.inj (sent.symm.trans done)
  have body : SameBody taskCreation.body (.json (.dict [("id", .str "7")])) := by
    have here := same.body
    rw [← only] at here
    exact here
  have number : Json.dict [("id", .str "7")] = .dict [("id", .int 7)] := body
  simp at number

end Samples

end Replay

end Jiejian.Preparation.RecordedReplay
