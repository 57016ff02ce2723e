import Jiejian.Checks.BatchRequests
import Jiejian.Protocol.Pairs

namespace Jiejian.Checks.BatchSending

open Library Library.Document Library.Outcome Library.Placeholders Library.Places Errors
open Protocol.Cases Protocol.Runtime Protocol.Scenarios Web.Templates Web.Rendering BatchRequests

def Container : Json → Prop
  | .list _ => True
  | .dict _ => True
  | _ => False

section Walking

/-- Below a text there are only texts. -/
theorem subscript_text {path : List PathPart} {text : String} {last : Json}
    (walked : path.foldlM subscript (.str text) = .ok last) : ∃ final, last = .str final := by
  induction path generalizing text with
  | nil => exact ⟨text, (Except.ok.inj walked).symm⟩
  | cons part path ih =>
    rw [List.foldlM_cons] at walked
    obtain ⟨child, here, later⟩ := bind_eq_ok.mp walked
    cases part with
    | key name => cases here
    | index position =>
      obtain ⟨char, -, rfl⟩ := Option.map_eq_some_iff.mp (orRaise_eq_ok.mp here)
      exact ih later

theorem subscript_eq_ok {whole child : Json} {part : PathPart} (found : subscript whole part = .ok child) :
    containers.child whole part = some child ∨ ∃ text, child = .str text := by
  cases whole with
  | dict entries =>
    cases part with
    | key name => exact .inl (orRaise_eq_ok.mp found)
    | index position => cases found
  | list items =>
    cases part with
    | key name => cases found
    | index position => exact .inl (orRaise_eq_ok.mp found)
  | str text =>
    cases part with
    | key name => cases found
    | index position =>
      obtain ⟨char, -, rfl⟩ := Option.map_eq_some_iff.mp (orRaise_eq_ok.mp found)
      exact .inr ⟨_, rfl⟩
  | _ => cases found

/-- A path that ends at a list goes through dicts and lists only. -/
theorem read_of_subscript {path : List PathPart} {whole : Json} {items : List Json}
    (walked : path.foldlM subscript whole = .ok (.list items)) : containers.read path whole = some (.list items) := by
  induction path generalizing whole with
  | nil => exact congrArg some (Except.ok.inj walked)
  | cons part path ih =>
    rw [List.foldlM_cons] at walked
    obtain ⟨child, here, later⟩ := bind_eq_ok.mp walked
    rcases subscript_eq_ok here with stored | ⟨text, rfl⟩
    · exact read_cons.mpr ⟨child, stored, ih later⟩
    · obtain ⟨final, same⟩ := subscript_text later
      cases same

theorem accepted_child {patterns : Patterns} {whole part : Json} {place : PathPart} (accepted : Accepted patterns whole)
    (found : containers.child whole place = some part) (container : Container part) : Accepted patterns part := by
  rcases childOf_eq_some found with ⟨entries, name, rfl, rfl, stored⟩ | ⟨items, position, rfl, rfl, stored⟩
  · obtain ⟨entry, first, same⟩ := Option.map_eq_some_iff.mp stored
    have member := List.mem_of_find?_eq_some first
    cases plain : marked slotKey entries with
    | none => exact same ▸ accepted_fields accepted plain entry member
    | some content =>
      rw [(marked_eq_some slotKey).mp plain] at accepted member
      obtain ⟨slotId, named⟩ := accepted_placeholder accepted
      rw [List.mem_singleton.mp member] at same
      rw [← same, show (slotKey, content).2 = content from rfl, named] at container
      exact container.elim
  · exact accepted_items accepted part (List.mem_of_getElem? stored)

theorem container_of_child {whole part : Json} {place : PathPart} (found : containers.child whole place = some part) :
    Container whole := by
  rcases childOf_eq_some found with ⟨entries, name, rfl, -, -⟩ | ⟨items, position, rfl, -, -⟩
  · trivial
  · trivial

theorem container_put {whole part : Json} {place : PathPart} (found : containers.child whole place = some part) (new : Json) :
    Container (containers.put whole place new) := by
  rcases childOf_eq_some found with ⟨entries, name, rfl, rfl, -⟩ | ⟨items, position, rfl, rfl, -⟩
  · trivial
  · trivial

theorem container_of_read {path : List PathPart} {whole last : Json} (holds : containers.read path whole = some last)
    (container : Container last) : Container whole := by
  cases path with
  | nil => exact Option.some.inj holds ▸ container
  | cons place path =>
    obtain ⟨part, here, -⟩ := read_cons.mp holds
    exact container_of_child here

theorem accepted_read {patterns : Patterns} {path : List PathPart} {whole last : Json} (accepted : Accepted patterns whole)
    (holds : containers.read path whole = some last) (container : Container last) : Accepted patterns last := by
  induction path generalizing whole with
  | nil => exact Option.some.inj holds ▸ accepted
  | cons place path ih =>
    obtain ⟨part, here, later⟩ := read_cons.mp holds
    exact ih (accepted_child accepted here (container_of_read later container)) later

end Walking

section Carrying

variable {values : SlotValues}

theorem forall₂_place {α β : Type} {related : α → β → Prop} {items : List α} {images : List β}
    (pairwise : List.Forall₂ related items images) {position : Nat} {item : α} (stored : items[position]? = some item) :
    ∃ image, images[position]? = some image ∧ related item image ∧
      ∀ new newImage, related new newImage → List.Forall₂ related (items.set position new) (images.set position newImage) := by
  induction pairwise generalizing position with
  | nil => cases stored
  | @cons first firstImage items images here later ih =>
    cases position with
    | zero =>
      have same : first = item := Option.some.inj stored
      subst same
      exact ⟨firstImage, rfl, here, fun new newImage holds => .cons holds later⟩
    | succ position =>
      have deeper : items[position]? = some item := stored
      obtain ⟨image, found, holds, exchanged⟩ := ih deeper
      exact ⟨image, found, holds, fun new newImage related => .cons here (exchanged new newImage related)⟩

theorem renderField_eq_ok {field image : String × Json} :
    renderField values field = .ok image ↔ image.1 = field.1 ∧ renderJson values field.2 = .ok image.2 := by
  rw [renderField, bind_eq_ok]
  constructor
  · rintro ⟨rendered, here, same⟩
    cases same
    exact ⟨rfl, here⟩
  · rintro ⟨named, here⟩
    exact ⟨image.2, here, by rw [← named]; rfl⟩

theorem renderFields_place {entries images : List (String × Json)}
    (pairwise : List.Forall₂ (fun field image => renderField values field = .ok image) entries images) {name : String}
    {part : Json} (stored : fieldOf entries name = some part) :
    ∃ partImage, renderJson values part = .ok partImage ∧ fieldOf images name = some partImage ∧
      ∀ new newImage, renderJson values new = .ok newImage →
        List.Forall₂ (fun field image => renderField values field = .ok image) (setField name new entries)
          (setField name newImage images) := by
  induction pairwise with
  | nil => cases stored
  | @cons field image entries images here later ih =>
    obtain ⟨key, child⟩ := field
    obtain ⟨imageKey, childImage⟩ := image
    obtain ⟨sameKey, rendered⟩ := renderField_eq_ok.mp here
    have keys : imageKey = key := sameKey
    subst keys
    by_cases same : imageKey = name
    · rw [fieldOf_cons, if_pos same] at stored
      have whole : child = part := Option.some.inj stored
      subst whole
      refine ⟨childImage, rendered, by rw [fieldOf_cons, if_pos same], fun new newImage done => ?_⟩
      rw [setField, if_pos same, setField, if_pos same]
      exact .cons (renderField_eq_ok.mpr ⟨rfl, done⟩) later
    · rw [fieldOf_cons, if_neg same] at stored
      obtain ⟨partImage, done, found, exchanged⟩ := ih stored
      refine ⟨partImage, done, by rw [fieldOf_cons, if_neg same, found], fun new newImage ready => ?_⟩
      rw [setField, if_neg same, setField, if_neg same]
      exact .cons here (exchanged new newImage ready)

/-- Rendering a body renders its parts in their places. -/
theorem renderJson_carries : Carries containers (renderJson values) Container := by
  intro whole place part image found fit rendered
  rcases childOf_eq_some found with ⟨entries, name, rfl, rfl, stored⟩ | ⟨items, position, rfl, rfl, stored⟩
  · cases plain : marked slotKey entries with
    | none =>
      rw [renderJson_dict values plain] at rendered
      obtain ⟨images, passed, rfl⟩ := map_eq_ok.mp rendered
      obtain ⟨partImage, done, there, exchanged⟩ := renderFields_place (mapM_eq_ok_iff.mp passed) stored
      refine ⟨partImage, done, there, fun new newImage ready _ => ?_⟩
      show renderJson values (.dict (setField name new entries)) = .ok (.dict (setField name newImage images))
      rw [renderJson_dict values (marked_none_of_keys slotKey (keys_setField name new entries) plain),
        mapM_eq_ok_iff.mpr (exchanged new newImage ready)]
      rfl
    | some content =>
      -- A slot reference holds a text, never a list or a dict.
      rw [(marked_eq_some slotKey).mp plain] at stored rendered
      have same : content = part := by
        rw [fieldOf_cons] at stored
        by_cases key : slotKey = name
        · rw [if_pos key] at stored
          exact Option.some.inj stored
        · rw [if_neg key] at stored
          cases stored
      have refused := (renderJson_placeholder values content).symm.trans rendered
      rw [same] at refused
      cases part with
      | list items => cases refused
      | dict entries => cases refused
      | _ => exact fit.elim
  · rw [renderJson_list] at rendered
    obtain ⟨images, passed, rfl⟩ := map_eq_ok.mp rendered
    obtain ⟨partImage, there, done, exchanged⟩ := forall₂_place (mapM_eq_ok_iff.mp passed) stored
    refine ⟨partImage, done, there, fun new newImage ready _ => ?_⟩
    show renderJson values (.list (items.set position new)) = .ok (.list (images.set position newImage))
    rw [renderJson_list, mapM_eq_ok_iff.mpr (exchanged new newImage ready)]
    rfl

/-- A rendered body holds the rendered list at the place of the list, and another list can be rendered there. -/
theorem renderJson_at {path : List PathPart} {whole image : Json} {items : List Json}
    (holds : containers.read path whole = some (.list items)) (rendered : renderJson values whole = .ok image) :
    ∃ images, items.mapM (renderJson values) = .ok images ∧ containers.read path image = some (.list images) ∧
      ∀ others otherImages, others.mapM (renderJson values) = .ok otherImages →
        renderJson values (containers.write path (.list others) whole) =
          .ok (containers.write path (.list otherImages) image) := by
  obtain ⟨listImage, done, found, exchanged⟩ := carries_path renderJson_carries
    (fun whole place part here => container_of_child here) (fun whole place part new here => container_put here new)
    holds trivial rendered
  rw [renderJson_list] at done
  obtain ⟨images, passed, rfl⟩ := map_eq_ok.mp done
  refine ⟨images, passed, found, fun others otherImages ready => exchanged _ _ ?_ trivial⟩
  rw [renderJson_list, ready]
  rfl

end Carrying

section Items

variable {slotId resource : String} {values : SlotValues}

theorem exchange_named {found : String} :
    exchange slotId resource (.str found) = if found = slotId then .str resource else placeholder slotKey (.str found) := by
  by_cases same : found = slotId
  · rw [if_pos same, exchange, names, if_pos (decide_eq_true same)]
  · rw [if_neg same, exchange, names, if_neg (by simpa using same)]

theorem named_itemFor {item : Json} (named : Named item) : Named (itemFor slotId resource item) := by
  intro content found
  rw [itemFor, references_fill, List.mem_flatMap] at found
  obtain ⟨outer, member, inside⟩ := found
  obtain ⟨name, rfl⟩ := named outer member
  rw [exchange_named] at inside
  by_cases same : name = slotId
  · rw [if_pos same] at inside
    exact absurd inside (by simp [references])
  · rw [if_neg same, references_placeholder] at inside
    exact ⟨name, List.mem_singleton.mp inside⟩

/-- The filled item refers to the other slots as the template item does, and no more to the replaced one. -/
theorem mem_references_itemFor {item : Json} (named : Named item) {other : String} :
    .str other ∈ references slotKey (itemFor slotId resource item) ↔
      .str other ∈ references slotKey item ∧ other ≠ slotId := by
  rw [itemFor, references_fill, List.mem_flatMap]
  constructor
  · rintro ⟨content, found, inside⟩
    obtain ⟨name, rfl⟩ := named content found
    rw [exchange_named] at inside
    by_cases same : name = slotId
    · rw [if_pos same] at inside
      exact absurd inside (by simp [references])
    · rw [if_neg same, references_placeholder] at inside
      cases List.mem_singleton.mp inside
      exact ⟨found, same⟩
  · rintro ⟨found, different⟩
    refine ⟨_, found, ?_⟩
    rw [exchange_named, if_neg different, references_placeholder]
    exact List.mem_singleton_self _

/-- The resource of an accepted item is no longer than the value of a slot may be. -/
theorem resource_bounded {patterns : Patterns} {item : Json} (named : Named item) (used : .str slotId ∈ references slotKey item)
    (accepted : Accepted patterns (itemFor slotId resource item)) : resource.length ≤ slotMaxLength := by
  unfold itemFor at accepted
  unfold Named at named
  induction item using placeholder_induction slotKey with
  | flat document flat =>
    rw [references_flat slotKey flat] at used
    cases used
  | list items ih =>
    rw [references_list] at used named
    rw [fill_list] at accepted
    obtain ⟨item, member, inside⟩ := List.mem_flatMap.mp used
    exact ih item member (fun content found => named content (List.mem_flatMap.mpr ⟨item, member, found⟩)) inside
      (accepted_items accepted _ (List.mem_map.mpr ⟨item, member, rfl⟩))
  | hole content =>
    rw [references_placeholder] at used
    rw [fill_placeholder, ← List.mem_singleton.mp used, exchange_named, if_pos rfl] at accepted
    exact accepted_str accepted
  | dict entries plain ih =>
    rw [references_dict slotKey plain] at used named
    rw [fill_dict slotKey _ plain] at accepted
    obtain ⟨entry, member, inside⟩ := List.mem_flatMap.mp used
    exact ih entry member (fun content found => named content (List.mem_flatMap.mpr ⟨entry, member, found⟩)) inside
      (accepted_fields accepted (marked_none_of_keys slotKey (keys_fill entries) plain) _
        (List.mem_map.mpr ⟨entry, member, rfl⟩))

theorem renderReference_set_self (bounded : resource.length ≤ slotMaxLength) :
    renderReference (values.set slotId (.str resource)) (.str slotId) = .ok (.str resource) := by
  have given : values.set slotId (.str resource) slotId = some (.str resource) := if_pos rfl
  have text : boundedSlotValue (.str resource) = .ok resource := by
    rw [boundedSlotValue, slotText]
    exact bind_eq_ok.mpr ⟨resource, rfl, bind_eq_ok.mpr ⟨(), require_eq_ok.mpr bounded, rfl⟩⟩
  rw [renderReference, given]
  exact bind_eq_ok.mpr ⟨_, rfl, bind_eq_ok.mpr ⟨resource, text, rfl⟩⟩

theorem set_other {other : String} (different : other ≠ slotId) (value : Json) :
    values.set slotId value other = values other := if_neg different

theorem renderReference_set_other {other : String} (different : other ≠ slotId) (value : Json) :
    renderReference (values.set slotId value) (.str other) = renderReference values (.str other) :=
  renderReference_congr fun name same => set_other (fun equal => different (by rw [Json.str.inj same, equal])) value

/-- The filled item renders to what the template item renders to when the slot has the resource for its value. -/
theorem render_itemFor {item image : Json} (named : Named item)
    (bounded : .str slotId ∈ references slotKey item → resource.length ≤ slotMaxLength) :
    renderJson values (itemFor slotId resource item) = .ok image ↔
      renderJson (values.set slotId (.str resource)) item = .ok image := by
  rw [renderJson_eq_ok, renderJson_eq_ok]
  have filled : fill slotKey (referenceValue values) (itemFor slotId resource item) =
      fill slotKey (referenceValue (values.set slotId (.str resource))) item := by
    rw [itemFor, fill_fill]
    refine fill_congr fun content found => ?_
    obtain ⟨name, rfl⟩ := named content found
    rw [exchange_named]
    by_cases same : name = slotId
    · subst same
      have text : Flat (.str resource) := trivial
      rw [if_pos rfl, fill_flat slotKey _ text, referenceValue, renderReference_set_self (bounded found)]
    · rw [if_neg same, fill_placeholder, referenceValue, referenceValue, renderReference_set_other same]
  rw [filled]
  refine and_congr_left fun _ => ⟨fun fine content found => ?_, fun fine content found => ?_⟩
  · obtain ⟨name, rfl⟩ := named content found
    by_cases same : name = slotId
    · subst same
      exact ⟨_, renderReference_set_self (bounded found)⟩
    · rw [Renderable, renderReference_set_other same]
      exact fine _ ((mem_references_itemFor named).mpr ⟨found, same⟩)
  · obtain ⟨name, rfl⟩ := named_itemFor named content found
    obtain ⟨member, different⟩ := (mem_references_itemFor named).mp found
    have rendered := fine _ member
    rw [Renderable, renderReference_set_other different] at rendered
    exact rendered

end Items

/-- One template item for each case, each with the resource of its case. -/
def itemsFor (slotId : String) (cases : List ExecutionCase) (item : Json) : List Json :=
  cases.map fun case => itemFor slotId case.resourceId item

/-- How a batch request was made from its template. -/
structure Batched (patterns : Patterns) (target : HttpRequestTemplate) (slot : ValueSlot) (path : List PathPart)
    (cases : List ExecutionCase) (document item : Json) (request : HttpRequestTemplate) : Prop where
  filled : cases ≠ []
  body : target.body = .json document
  slots : target.inputSlots.filter (fun other => other.source = .CASE_RESOURCE_ID) = [slot]
  adopted : containers.read path document = some (.list [item])
  named : Named item
  once : occurrences slot.slotId item = 1
  built : request = { target with
    body := .json (containers.write path (.list (itemsFor slot.slotId cases item)) document)
    inputSlots := target.inputSlots.filter fun other => other.slotId ≠ slot.slotId }
  accepted : Accepted patterns (containers.write path (.list (itemsFor slot.slotId cases item)) document)
  declared : request.validateReferences patterns = .ok ()

section Inversion

variable {patterns : Patterns}

theorem batchInput_eq_ok {request : HttpRequestTemplate} {document : Json} {slot : ValueSlot}
    (input : batchInput request = .ok (document, slot)) : request.body = .json document ∧
      request.inputSlots.filter (fun other => other.source = .CASE_RESOURCE_ID) = [slot] := by
  unfold batchInput at input
  split at input
  · rename_i value only body slots
    obtain ⟨-, -, same⟩ := bind_eq_ok.mp input
    cases same
    exact ⟨body, slots⟩
  · cases input

theorem adoptedItem_eq_ok {path : List PathPart} {document item : Json} (adopted : adoptedItem path document = .ok item) :
    containers.read path document = some (.list [item]) := by
  obtain ⟨-, -, adopted⟩ := bind_eq_ok.mp adopted
  obtain ⟨existing, walked, adopted⟩ := bind_eq_ok.mp adopted
  split at adopted
  · cases adopted
    exact read_of_subscript walked
  · cases adopted

theorem configuredBatch_eq_ok {action : Option (ConfiguredAction patterns)} {invocation : ScenarioInvocation}
    {cases : List ExecutionCase} {chosen : ConfiguredAction patterns} {batch : BatchInvocation}
    (configured : configuredBatch action invocation cases = .ok (chosen, batch)) :
    action = some chosen ∧ invocation.batch = some batch ∧ cases ≠ [] := by
  unfold configuredBatch at configured
  split at configured
  · rename_i found declared
    obtain ⟨_, filled, same⟩ := bind_eq_ok.mp configured
    cases same
    exact ⟨rfl, declared, require_eq_ok.mp filled⟩
  · cases configured

theorem batchItem_eq_ok {slotId : String} {item result : Json} {case : ExecutionCase} (named : Named item) :
    batchItem slotId item case = .ok result ↔ occurrences slotId item = 1 ∧ result = itemFor slotId case.resourceId item := by
  rw [batchItem, replace_eq named, bind_eq_ok]
  constructor
  · rintro ⟨_, once, same⟩
    exact ⟨require_eq_ok.mp once, (Except.ok.inj same).symm⟩
  · rintro ⟨once, rfl⟩
    exact ⟨(), require_eq_ok.mpr once, rfl⟩

/-- What `batch_request` makes when it makes a request. -/
theorem batchRequest_ok {action : Option (ConfiguredAction patterns)} {invocation : ScenarioInvocation}
    {cases : List ExecutionCase} {request : HttpRequestTemplate} (built : batchRequest action invocation cases = .ok request) :
    ∃ chosen batch step slot document item, action = some chosen ∧ invocation.batch = some batch ∧
      step ∈ chosen.steps ∧ step.purpose = .TARGET ∧
      Batched patterns step.request slot batch.arrayPath cases document item request := by
  obtain ⟨⟨chosen, batch⟩, configured, built⟩ := bind_eq_ok.mp built
  obtain ⟨-, -, built⟩ := bind_eq_ok.mp built
  obtain ⟨-, -, built⟩ := bind_eq_ok.mp built
  obtain ⟨step, found, built⟩ := bind_eq_ok.mp built
  obtain ⟨⟨document, slot⟩, input, built⟩ := bind_eq_ok.mp built
  obtain ⟨item, adopted, built⟩ := bind_eq_ok.mp built
  obtain ⟨items, rendered, valid⟩ := bind_eq_ok.mp built
  obtain ⟨here, declared, filled⟩ := configuredBatch_eq_ok configured
  have found := orRaise_eq_ok.mp found
  have member := List.mem_of_find?_eq_some found
  have purpose : step.purpose = .TARGET := by simpa using List.find?_some found
  obtain ⟨body, slots⟩ := batchInput_eq_ok input
  have place := adoptedItem_eq_ok adopted
  have template := accepted_body (validate_eq_ok (chosen.accepted step member)).2.1 body
  have accepted_item := accepted_items (accepted_read template place trivial) item (List.mem_singleton_self item)
  have named : Named item := accepted_references accepted_item
  obtain ⟨once, rfl⟩ := (mapM_eq_ok_map fun case _ result => batchItem_eq_ok named).mp rendered
  obtain ⟨same, fields, references⟩ := validate_eq_ok valid
  obtain ⟨first, rest, rfl⟩ := List.exists_cons_of_ne_nil filled
  exact ⟨chosen, batch, step, slot, document, item, here, declared, member, purpose, {
    filled := filled
    body := body
    slots := slots
    adopted := place
    named := named
    once := once first List.mem_cons_self
    built := same
    accepted := accepted_body fields rfl
    declared := same ▸ references }⟩

end Inversion

/-- What a batch request carries, against the template it was made from. -/
structure CarriesItems (target : HttpRequestTemplate) (slot : ValueSlot) (path : List PathPart)
    (cases : List ExecutionCase) (request : HttpRequestTemplate) : Prop where
  /-- The array has the adopted item once for each case, in their order; everything outside it is the template's. -/
  items : ∃ template item document, target.body = .json template ∧ containers.read path template = some (.list [item]) ∧
    occurrences slot.slotId item = 1 ∧ request.body = .json document ∧
    containers.read path document = some (.list (itemsFor slot.slotId cases item)) ∧
    ∀ filler, containers.write path filler document = containers.write path filler template
  rest : { request with body := target.body, inputSlots := target.inputSlots } = target
  slots : request.inputSlots = target.inputSlots.filter fun other => other.slotId ≠ slot.slotId
  no_resource_slot : ∀ left ∈ request.inputSlots, left.source ≠ .CASE_RESOURCE_ID
  no_reference : slot.slotId ∉ request.references
  /-- The request renders to the template's request for any of its cases, with only the array exchanged. -/
  sends : ∀ values fixtures sent, renderRequest values fixtures request = .ok sent →
    ∃ body items, sent.body = .json body ∧ containers.read path body = some (.list items) ∧
      List.Forall₂ (fun case item => renderRequest (values.set slot.slotId (.str case.resourceId)) fixtures target =
        .ok { sent with body := .json (containers.write path (.list [item]) body) }) cases items
  sendable : ∀ values fixtures,
    (∀ case ∈ cases, ∃ single, renderRequest (values.set slot.slotId (.str case.resourceId)) fixtures target = .ok single) →
      ∃ sent, renderRequest values fixtures request = .ok sent

section Sending

variable {patterns : Patterns} {target request : HttpRequestTemplate} {slot : ValueSlot} {path : List PathPart}
  {cases : List ExecutionCase} {document item : Json}

theorem Batched.no_reference (batched : Batched patterns target slot path cases document item request) :
    slot.slotId ∉ request.references := by
  intro found
  obtain ⟨left, member, same⟩ := references_declared batched.declared slot.slotId found
  rw [batched.built] at member
  have different := (List.mem_filter.mp member).2
  rw [same] at different
  simp at different

theorem Batched.no_resource_slot (batched : Batched patterns target slot path cases document item request) :
    ∀ left ∈ request.inputSlots, left.source ≠ .CASE_RESOURCE_ID := by
  intro left member resource
  rw [batched.built] at member
  obtain ⟨inside, different⟩ := List.mem_filter.mp member
  have only : left ∈ target.inputSlots.filter fun other => other.source = .CASE_RESOURCE_ID :=
    List.mem_filter.mpr ⟨inside, decide_eq_true resource⟩
  rw [batched.slots, List.mem_singleton] at only
  rw [only] at different
  simp at different

theorem Batched.item_used (batched : Batched patterns target slot path cases document item request) :
    .str slot.slotId ∈ references slotKey item := by
  have positive : 0 < occurrences slot.slotId item := by rw [batched.once]; omega
  obtain ⟨content, found, this⟩ := List.countP_pos_iff.mp positive
  obtain ⟨name, rfl⟩ := batched.named content found
  have same : name = slot.slotId := of_decide_eq_true this
  exact same ▸ found

theorem Batched.written (batched : Batched patterns target slot path cases document item request) :
    containers.read path (containers.write path (.list (itemsFor slot.slotId cases item)) document) =
      some (.list (itemsFor slot.slotId cases item)) := read_write batched.adopted _

theorem Batched.bounded (batched : Batched patterns target slot path cases document item request) :
    ∀ case ∈ cases, case.resourceId.length ≤ slotMaxLength := by
  intro case member
  have accepted := accepted_items (accepted_read batched.accepted batched.written trivial)
    (itemFor slot.slotId case.resourceId item) (List.mem_map.mpr ⟨case, member, rfl⟩)
  exact resource_bounded batched.named batched.item_used accepted

/-- A value for the replaced slot makes no difference to the batch request. -/
theorem Batched.render_set (batched : Batched patterns target slot path cases document item request) (values : SlotValues)
    (value image : Json) :
    renderJson (values.set slot.slotId value)
        (containers.write path (.list (itemsFor slot.slotId cases item)) document) = .ok image ↔
      renderJson values (containers.write path (.list (itemsFor slot.slotId cases item)) document) = .ok image := by
  refine renderJson_congr fun slotId found => set_other ?_ value
  rintro rfl
  refine batched.no_reference ?_
  rw [HttpRequestTemplate.references, List.mem_append]
  rw [batched.built]
  exact .inr (mem_jsonReferences.mpr found)

theorem renderRequest_eq_ok {values : SlotValues} {fixtures : String → Option (List UInt8)} {template : HttpRequestTemplate}
    {value : Json} (body : template.body = .json value) {sent : RenderedRequest} :
    renderRequest values fixtures template = .ok sent ↔
      ∃ image, renderJson values value = .ok image ∧ sent.body = .json image ∧ sent.method = template.method ∧
        renderPath values template.path = .ok sent.path ∧ renderParameters values template.query = .ok sent.query ∧
        renderParameters values template.headers = .ok sent.headers := by
  rw [renderRequest, body]
  constructor
  · intro rendered
    obtain ⟨route, here, rendered⟩ := bind_eq_ok.mp rendered
    obtain ⟨query, asked, rendered⟩ := bind_eq_ok.mp rendered
    obtain ⟨headers, headed, rendered⟩ := bind_eq_ok.mp rendered
    obtain ⟨whole, inside, same⟩ := bind_eq_ok.mp rendered
    obtain ⟨image, json, made⟩ := bind_eq_ok.mp inside
    cases same
    cases made
    exact ⟨image, json, rfl, rfl, here, asked, headed⟩
  · rintro ⟨image, rendered, inside, method, here, asked, headed⟩
    rw [here, asked, headed]
    obtain ⟨_, _, _, _, whole⟩ := sent
    cases inside
    cases method
    show (renderBody values fixtures (.json value) >>= _) = _
    rw [renderBody, rendered]
    rfl

/-- The path, the query and the headers of the template are rendered the same, whatever the replaced slot is given. -/
theorem Batched.fields_set (batched : Batched patterns target slot path cases document item request) (values : SlotValues)
    (value : Json) :
    renderPath (values.set slot.slotId value) target.path = renderPath values target.path ∧
      renderParameters (values.set slot.slotId value) target.query = renderParameters values target.query ∧
      renderParameters (values.set slot.slotId value) target.headers = renderParameters values target.headers := by
  have absent : ∀ slotId ∈ request.references, values.set slot.slotId value slotId = values slotId := by
    intro slotId found
    refine set_other ?_ value
    rintro rfl
    exact batched.no_reference found
  have built := batched.built
  refine ⟨renderPath_congr fun slotId found => absent slotId ?_, renderParameters_congr fun slotId found => absent slotId ?_,
    renderParameters_congr fun slotId found => absent slotId ?_⟩
  · rw [HttpRequestTemplate.references, built]
    simp only [List.mem_append]
    exact .inl (.inl (.inl found))
  · rw [HttpRequestTemplate.references, built]
    simp only [List.mem_append]
    exact .inl (.inl (.inr found))
  · rw [HttpRequestTemplate.references, built]
    simp only [List.mem_append]
    exact .inl (.inr found)

/-- With the array exchanged for the adopted item, the batch body is the template's body. -/
theorem Batched.exchanged_back (batched : Batched patterns target slot path cases document item request) :
    containers.write path (.list [item]) (containers.write path (.list (itemsFor slot.slotId cases item)) document) =
      document := by
  rw [write_write batched.adopted, write_read batched.adopted]

theorem Batched.sends (batched : Batched patterns target slot path cases document item request) (values : SlotValues)
    (fixtures : String → Option (List UInt8)) (sent : RenderedRequest)
    (rendered : renderRequest values fixtures request = .ok sent) :
    ∃ body items, sent.body = .json body ∧ containers.read path body = some (.list items) ∧
      List.Forall₂ (fun case item => renderRequest (values.set slot.slotId (.str case.resourceId)) fixtures target =
        .ok { sent with body := .json (containers.write path (.list [item]) body) }) cases items := by
  have built := batched.built
  obtain ⟨body, whole, inside, method, route, query, headers⟩ := (renderRequest_eq_ok (by rw [built])).mp rendered
  rw [built] at method route query headers
  obtain ⟨items, passed, found, -⟩ := renderJson_at batched.written whole
  refine ⟨body, items, inside, found, ?_⟩
  have each := List.forall₂_map_left_iff.mp (mapM_eq_ok_iff.mp passed)
  refine ((List.forall₂_and_left _ _).mpr ⟨batched.bounded, each⟩).imp ?_
  rintro case image ⟨bounded, here⟩
  obtain ⟨samePath, sameQuery, sameHeaders⟩ := batched.fields_set values (.str case.resourceId)
  have single := (render_itemFor batched.named fun _ => bounded).mp here
  have whole_single := (batched.render_set values (.str case.resourceId) body).mpr whole
  obtain ⟨-, -, -, exchange⟩ := renderJson_at batched.written whole_single
  have one : [item].mapM (renderJson (values.set slot.slotId (.str case.resourceId))) = .ok [image] := by
    rw [List.mapM_cons, single]
    rfl
  have made := exchange [item] [image] one
  rw [batched.exchanged_back] at made
  exact (renderRequest_eq_ok batched.body).mpr ⟨_, made, rfl, method, samePath ▸ route, sameQuery ▸ query,
    sameHeaders ▸ headers⟩

theorem Batched.sendable (batched : Batched patterns target slot path cases document item request) (values : SlotValues)
    (fixtures : String → Option (List UInt8))
    (singles : ∀ case ∈ cases, ∃ single,
      renderRequest (values.set slot.slotId (.str case.resourceId)) fixtures target = .ok single) :
    ∃ sent, renderRequest values fixtures request = .ok sent := by
  have images : ∀ case ∈ cases, ∃ image, renderJson values (itemFor slot.slotId case.resourceId item) = .ok image := by
    intro case member
    obtain ⟨single, rendered⟩ := singles case member
    obtain ⟨body, whole, -⟩ := (renderRequest_eq_ok batched.body).mp rendered
    obtain ⟨items, passed, -⟩ := renderJson_at batched.adopted whole
    obtain ⟨image, -, here⟩ := partner_right (mapM_eq_ok_iff.mp passed) (List.mem_singleton_self item)
    exact ⟨image, (render_itemFor batched.named fun _ => batched.bounded case member).mpr here⟩
  obtain ⟨first, rest, shape⟩ := List.exists_cons_of_ne_nil batched.filled
  have member : first ∈ cases := by rw [shape]; exact List.mem_cons_self
  obtain ⟨single, rendered⟩ := singles first member
  obtain ⟨body, whole, -, method, route, query, headers⟩ := (renderRequest_eq_ok batched.body).mp rendered
  obtain ⟨samePath, sameQuery, sameHeaders⟩ := batched.fields_set values (.str first.resourceId)
  have all : ∃ others, (itemsFor slot.slotId cases item).mapM
      (renderJson (values.set slot.slotId (.str first.resourceId))) = .ok others := by
    refine mapM_total fun filled inside => ?_
    obtain ⟨case, present, rfl⟩ := List.mem_map.mp inside
    obtain ⟨image, here⟩ := images case present
    refine ⟨image, (renderJson_congr fun slotId found => set_other ?_ _).mpr here⟩
    exact ((mem_references_itemFor batched.named).mp found).2
  obtain ⟨others, passed⟩ := all
  obtain ⟨-, -, -, exchange⟩ := renderJson_at batched.adopted whole
  have made := (batched.render_set values _ _).mp (exchange _ others passed)
  have built := batched.built
  refine ⟨{ single with body := .json (containers.write path (.list others) body) }, ?_⟩
  have declared : request.body = .json (containers.write path (.list (itemsFor slot.slotId cases item)) document) := by
    rw [built]
  refine (renderRequest_eq_ok declared).mpr ⟨_, made, rfl, ?_, ?_, ?_, ?_⟩
  · rw [built]
    exact method
  · rw [built]
    exact samePath ▸ route
  · rw [built]
    exact sameQuery ▸ query
  · rw [built]
    exact sameHeaders ▸ headers

end Sending

/-- One batch request carries exactly the planned items, and is sent as the template's request with the array exchanged. -/
theorem batch_carries_items {patterns : Patterns} {action : Option (ConfiguredAction patterns)}
    {invocation : ScenarioInvocation} {cases : List ExecutionCase} {request : HttpRequestTemplate}
    (built : batchRequest action invocation cases = .ok request) :
    ∃ chosen batch step slot, action = some chosen ∧ invocation.batch = some batch ∧ step ∈ chosen.steps ∧
      step.purpose = .TARGET ∧ slot ∈ step.request.inputSlots ∧ slot.source = .CASE_RESOURCE_ID ∧
      CarriesItems step.request slot batch.arrayPath cases request := by
  obtain ⟨chosen, batch, step, slot, document, item, here, declared, member, purpose, batched⟩ := batchRequest_ok built
  have only : slot ∈ step.request.inputSlots.filter fun other => other.source = .CASE_RESOURCE_ID := by
    rw [batched.slots]
    exact List.mem_singleton_self slot
  obtain ⟨inside, source⟩ := List.mem_filter.mp only
  refine ⟨chosen, batch, step, slot, here, declared, member, purpose, inside, of_decide_eq_true source, {
    items := ⟨document, item, _, batched.body, batched.adopted, batched.once, by rw [batched.built], batched.written,
      fun filler => write_write batched.adopted _ filler⟩
    rest := by rw [batched.built]
    slots := by rw [batched.built]
    no_resource_slot := batched.no_resource_slot
    no_reference := batched.no_reference
    sends := batched.sends
    sendable := batched.sendable }⟩

section Sample

def plainPatterns : Patterns := ⟨fun _ => false, fun _ => false, fun _ => true⟩

/-- A request that takes a list of one item. -/
def archiveTemplate : HttpRequestTemplate where
  method := .POST
  path := "/archive"
  body := .json (.dict [("items", .list [placeholder slotKey (.str "item")])])
  inputSlots := [{ slotId := "item", source := .CASE_RESOURCE_ID, consumer := .JSON_BODY }]

def archiveSteps : List CheckFlowStep := [⟨"target", .TARGET, archiveTemplate⟩]

theorem archiveSteps_accepted : ∀ step ∈ archiveSteps, step.request.validate plainPatterns = .ok step.request := by
  intro step member
  rw [List.mem_singleton.mp member]
  rfl

def archiveAction : ConfiguredAction plainPatterns where
  actionId := "archive"
  actionRevision := 1
  actionSemanticFingerprint := ""
  displayName := "archive"
  stateChanging := true
  proofs := []
  steps := archiveSteps
  accepted := archiveSteps_accepted

def archiveInvocation : ScenarioInvocation where
  id := "archive"
  label := "archive"
  items := []
  batch := some ⟨.PER_ITEM, [.key "items"], none, none⟩
  dependsOn := []

def archiveCases : List ExecutionCase := [Protocol.Pairs.deniedCase "first" [], Protocol.Pairs.deniedCase "second" []]

def archiveRequest : HttpRequestTemplate :=
  { archiveTemplate with body := .json (.dict [("items", .list [.str "first", .str "second"])]), inputSlots := [] }

theorem archive_built : batchRequest (some archiveAction) archiveInvocation archiveCases = .ok archiveRequest := rfl

theorem batch_carries_two : ∃ chosen batch step slot, some archiveAction = some chosen ∧
    archiveInvocation.batch = some batch ∧ step ∈ chosen.steps ∧ step.purpose = .TARGET ∧
    slot ∈ step.request.inputSlots ∧ slot.source = .CASE_RESOURCE_ID ∧
    CarriesItems step.request slot batch.arrayPath archiveCases archiveRequest :=
  batch_carries_items archive_built

end Sample

end Jiejian.Checks.BatchSending
