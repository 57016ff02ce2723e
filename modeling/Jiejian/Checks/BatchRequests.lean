import Jiejian.Library.Places
import Jiejian.Protocol.Runtime
import Jiejian.Protocol.Scenarios
import Jiejian.Web.Rendering

namespace Jiejian.Checks.BatchRequests

open Library Library.Document Library.Outcome Library.Placeholders Library.Places Errors
open Protocol.Cases Protocol.Runtime Protocol.Scenarios Web.Templates Web.Rendering

inductive StepPurpose where
  | SETUP
  | TARGET
  deriving DecidableEq, Repr

structure CheckFlowStep where
  stepId : String
  purpose : StepPurpose
  request : HttpRequestTemplate

/-- A configured action with its steps, whose requests are accepted templates. -/
structure ConfiguredAction (patterns : Patterns) extends CheckActionConfig where
  steps : List CheckFlowStep
  accepted : ∀ step ∈ steps, step.request.validate patterns = .ok step.request

/-- `document[name] = value` for a name that the document has. -/
def setField (name : String) (value : Json) : List (String × Json) → List (String × Json)
  | [] => []
  | (key, stored) :: fields => if key = name then (key, value) :: fields else (key, stored) :: setField name value fields

def childOf : Json → PathPart → Option Json
  | .dict entries, .key name => fieldOf entries name
  | .list items, .index position => items[position]?
  | _, _ => none

def setChild : Json → PathPart → Json → Json
  | .dict entries, .key name, value => .dict (setField name value entries)
  | .list items, .index position, value => .list (items.set position value)
  | whole, _, _ => whole

theorem fieldOf_setField {name : String} {entries : List (String × Json)} {stored : Json}
    (found : fieldOf entries name = some stored) (value : Json) : fieldOf (setField name value entries) name = some value := by
  induction entries with
  | nil => cases found
  | cons entry entries ih =>
    obtain ⟨key, child⟩ := entry
    by_cases same : key = name
    · rw [setField, if_pos same, fieldOf_cons, if_pos same]
    · rw [fieldOf_cons, if_neg same] at found
      rw [setField, if_neg same, fieldOf_cons, if_neg same, ih found]

theorem setField_setField (name : String) (first second : Json) (entries : List (String × Json)) :
    setField name second (setField name first entries) = setField name second entries := by
  induction entries with
  | nil => rfl
  | cons entry entries ih =>
    obtain ⟨key, child⟩ := entry
    by_cases same : key = name
    · simp [setField, same]
    · simp [setField, same, ih]

theorem setField_fieldOf {name : String} {entries : List (String × Json)} {stored : Json}
    (found : fieldOf entries name = some stored) : setField name stored entries = entries := by
  induction entries with
  | nil => rfl
  | cons entry entries ih =>
    obtain ⟨key, child⟩ := entry
    by_cases same : key = name
    · rw [fieldOf_cons, if_pos same] at found
      rw [setField, if_pos same, Option.some.inj found]
    · rw [fieldOf_cons, if_neg same] at found
      rw [setField, if_neg same, ih found]

theorem keys_setField (name : String) (value : Json) (entries : List (String × Json)) :
    entries.map Prod.fst = (setField name value entries).map Prod.fst := by
  induction entries with
  | nil => rfl
  | cons entry entries ih =>
    obtain ⟨key, child⟩ := entry
    by_cases same : key = name
    · simp [setField, same]
    · simp [setField, same, ih]

/-- A part that stands somewhere is a field of a dict or an item of a list. -/
theorem childOf_eq_some {whole part : Json} {place : PathPart} (found : childOf whole place = some part) :
    (∃ entries name, whole = .dict entries ∧ place = .key name ∧ fieldOf entries name = some part) ∨
      ∃ items position, whole = .list items ∧ place = .index position ∧ items[position]? = some part := by
  cases whole with
  | dict entries =>
    cases place with
    | key name => exact .inl ⟨entries, name, rfl, rfl, found⟩
    | index position => cases found
  | list items =>
    cases place with
    | key name => cases found
    | index position => exact .inr ⟨items, position, rfl, rfl, found⟩
  | _ => cases found

/-- The dicts and lists of a document, with the places in them. -/
def containers : Nested Json PathPart where
  child := childOf
  put := setChild
  child_put := by
    intro whole place part new found
    rcases childOf_eq_some found with ⟨entries, name, rfl, rfl, stored⟩ | ⟨items, position, rfl, rfl, stored⟩
    · exact fieldOf_setField stored new
    · have bound := (List.getElem?_eq_some_iff.mp stored).1
      simp [childOf, setChild, bound]
  put_put := by
    intro whole place part first second found
    rcases childOf_eq_some found with ⟨entries, name, rfl, rfl, stored⟩ | ⟨items, position, rfl, rfl, stored⟩
    · exact congrArg Json.dict (setField_setField name first second entries)
    · simp [setChild]
  put_child := by
    intro whole place part found
    rcases childOf_eq_some found with ⟨entries, name, rfl, rfl, stored⟩ | ⟨items, position, rfl, rfl, stored⟩
    · exact congrArg Json.dict (setField_fieldOf stored)
    · obtain ⟨bound, same⟩ := List.getElem?_eq_some_iff.mp stored
      rw [setChild, ← same, List.set_getElem_self]

/-- `parent[part]`; a text is indexed by its characters. -/
def subscript (parent : Json) (part : PathPart) : Except Raised Json :=
  match parent, part with
  | .dict entries, .key name => orRaise (fieldOf entries name) .KeyError
  | .dict _, .index _ => .error .KeyError
  | .list items, .index position => orRaise items[position]? .IndexError
  | .str text, .index position =>
    orRaise ((text.toList[position]?).map fun char => .str (String.singleton char)) .IndexError
  | _, _ => .error .TypeError

/-- The content of a slot reference is this slot. -/
def names (slotId : String) : Option Json → Bool
  | some (.str found) => found = slotId
  | _ => false

mutual

/-- `replace`: the item for a resource, and how many references were replaced. -/
def replace (slotId resource : String) : Json → Json × Nat
  | .dict entries =>
    if names slotId (marked slotKey entries) then (.str resource, 1)
    else (.dict (replaceFields slotId resource entries).1, (replaceFields slotId resource entries).2)
  | .list items => (.list (replaceItems slotId resource items).1, (replaceItems slotId resource items).2)
  | item => (item, 0)

def replaceItems (slotId resource : String) : List Json → List Json × Nat
  | [] => ([], 0)
  | child :: items =>
    ((replace slotId resource child).1 :: (replaceItems slotId resource items).1,
      (replace slotId resource child).2 + (replaceItems slotId resource items).2)

def replaceFields (slotId resource : String) : List (String × Json) → List (String × Json) × Nat
  | [] => ([], 0)
  | (name, child) :: fields =>
    ((name, (replace slotId resource child).1) :: (replaceFields slotId resource fields).1,
      (replace slotId resource child).2 + (replaceFields slotId resource fields).2)

end

/-- The body and the one slot of a request that can be made a batch. -/
def batchInput (request : HttpRequestTemplate) : Except Raised (Json × ValueSlot) :=
  match request.body, request.inputSlots.filter fun slot => slot.source = .CASE_RESOURCE_ID with
  | .json value, [slot] => do
    require (slot.consumer = .JSON_BODY) (.ValueError "batch input must use its one declared JSON resource slot")
    return (value, slot)
  | _, _ => .error (.ValueError "batch input must use its one declared JSON resource slot")

/-- What stands at the array path: a list of one item. -/
def adoptedItem (path : List PathPart) (value : Json) : Except Raised Json := do
  require (path ≠ []) .IndexError
  let existing ← path.foldlM subscript value
  match existing with
  | .list [item] => return item
  | _ => .error (.ValueError "batch array path must identify the adopted one-item input")

def batchItem (slotId : String) (item : Json) (case : ExecutionCase) : Except Raised Json := do
  require ((replace slotId case.resourceId item).2 = 1) (.ValueError "batch item must contain its exact declared resource slot")
  return (replace slotId case.resourceId item).1

def configuredBatch {patterns : Patterns} (action : Option (ConfiguredAction patterns)) (invocation : ScenarioInvocation)
    (cases : List ExecutionCase) : Except Raised (ConfiguredAction patterns × BatchInvocation) := do
  match action, invocation.batch with
  | some action, some batch => do
    require (cases ≠ []) (.ValueError "batch configuration missing")
    return (action, batch)
  | _, _ => .error (.ValueError "batch configuration missing")

/-- `batch_request`. -/
def batchRequest {patterns : Patterns} (action : Option (ConfiguredAction patterns)) (invocation : ScenarioInvocation)
    (cases : List ExecutionCase) : Except Raised HttpRequestTemplate := do
  let (action, batch) ← configuredBatch action invocation cases
  require (∀ proof ∈ action.proofs, proof.effectKind ∈ ["STATE_MUTATION", "DATA_DISCLOSURE"])
    (.ValueError "this effect has no per-item batch proof")
  require ((∃ proof ∈ action.proofs, proof.effectKind = "DATA_DISCLOSURE") →
    batch.responseItemsPath.isSome ∧ batch.responseResourceField.isSome)
    (.ValueError "batch disclosure requires explicit per-item response correlation")
  let target ← orRaise (action.steps.find? fun step => step.purpose = .TARGET) .StopIteration
  let (value, slot) ← batchInput target.request
  let item ← adoptedItem batch.arrayPath value
  let items ← cases.mapM (batchItem slot.slotId item)
  let request := { target.request with
    body := .json (containers.write batch.arrayPath (.list items) value)
    inputSlots := target.request.inputSlots.filter fun other => other.slotId ≠ slot.slotId }
  request.validate patterns

/-- What a reference becomes when one slot is given a resource. -/
def exchange (slotId resource : String) (content : Json) : Json :=
  if names slotId (some content) then .str resource else placeholder slotKey content

/-- The template item with its resource slot replaced and nothing else changed. -/
def itemFor (slotId resource : String) (item : Json) : Json := fill slotKey (exchange slotId resource) item

/-- Every slot reference names a slot. -/
def Named (document : Json) : Prop := ∀ content ∈ references slotKey document, ∃ slotId, content = .str slotId

/-- How often a document refers to a slot. -/
def occurrences (slotId : String) (document : Json) : Nat :=
  (references slotKey document).countP fun content => names slotId (some content)

section Replacement

variable {slotId resource : String}

theorem replaceItems_eq (items : List Json) : replaceItems slotId resource items =
    (items.map fun item => (replace slotId resource item).1,
      (items.map fun item => (replace slotId resource item).2).foldr (· + ·) 0) := by
  induction items with
  | nil => rfl
  | cons item items ih => rw [replaceItems, ih, List.map_cons, List.map_cons, List.foldr_cons]

theorem replaceFields_eq (fields : List (String × Json)) : replaceFields slotId resource fields =
    (fields.map fun field => (field.1, (replace slotId resource field.2).1),
      (fields.map fun field => (replace slotId resource field.2).2).foldr (· + ·) 0) := by
  induction fields with
  | nil => rfl
  | cons field fields ih =>
    obtain ⟨name, child⟩ := field
    rw [replaceFields, ih, List.map_cons, List.map_cons, List.foldr_cons]

theorem countP_flatMap {α : Type} (parts : α → List Json) (counted : Json → Bool) (items : List α) :
    (items.flatMap parts).countP counted = (items.map fun item => (parts item).countP counted).foldr (· + ·) 0 := by
  induction items with
  | nil => rfl
  | cons item items ih => rw [List.flatMap_cons, List.countP_append, ih, List.map_cons, List.foldr_cons]

/-- The replacement fills in the one slot and counts its references. -/
theorem replace_eq {item : Json} (named : Named item) :
    replace slotId resource item = (itemFor slotId resource item, occurrences slotId item) := by
  unfold itemFor occurrences
  unfold Named at named
  induction item using placeholder_induction slotKey with
  | flat document flat =>
    rw [fill_flat slotKey _ flat, references_flat slotKey flat]
    cases document with
    | list items => exact flat.elim
    | dict entries => exact flat.elim
    | _ => simp [replace]
  | list items ih =>
    rw [references_list] at named
    have each : ∀ item ∈ items, replace slotId resource item = (fill slotKey (exchange slotId resource) item,
        (references slotKey item).countP fun content => names slotId (some content)) :=
      fun item member => ih item member fun content found => named content (List.mem_flatMap.mpr ⟨item, member, found⟩)
    rw [replace, replaceItems_eq, fill_list, references_list, countP_flatMap,
      List.map_congr_left fun item member => congrArg Prod.fst (each item member),
      List.map_congr_left fun item member => congrArg Prod.snd (each item member)]
  | hole content =>
    obtain ⟨found, rfl⟩ := named content (by simp)
    rw [fill_placeholder, references_placeholder, placeholder, replace, (marked_eq_some slotKey).mpr rfl]
    by_cases same : found = slotId
    · simp [names, exchange, same]
    · simp [names, exchange, same, replaceFields, replace, placeholder]
  | dict entries plain ih =>
    rw [references_dict slotKey plain] at named
    have each : ∀ entry ∈ entries, replace slotId resource entry.2 = (fill slotKey (exchange slotId resource) entry.2,
        (references slotKey entry.2).countP fun content => names slotId (some content)) :=
      fun entry member => ih entry member fun content found => named content (List.mem_flatMap.mpr ⟨entry, member, found⟩)
    have unnamed : names slotId none = false := rfl
    rw [replace, plain, unnamed, if_neg Bool.false_ne_true, replaceFields_eq, fill_dict slotKey _ plain,
      references_dict slotKey plain, countP_flatMap,
      List.map_congr_left fun entry member => congrArg (fun found => (entry.1, found.1)) (each entry member),
      List.map_congr_left fun entry member => congrArg Prod.snd (each entry member)]

end Replacement

end Jiejian.Checks.BatchRequests
