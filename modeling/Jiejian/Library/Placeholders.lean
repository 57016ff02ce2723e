import Jiejian.Library.Document

namespace Jiejian.Library.Placeholders

open Document

/-- The content of a placeholder: a dict with the placeholder's key and no other. -/
def marked (key : String) : List (String × Json) → Option Json
  | [(name, content)] => if name = key then some content else none
  | _ => none

def placeholder (key : String) (content : Json) : Json := .dict [(key, content)]

mutual

/-- The contents of the placeholders of a document, from left to right. -/
def references (key : String) : Json → List Json
  | .list items => itemReferences key items
  | .dict entries => (marked key entries).elim (fieldReferences key entries) fun content => [content]
  | _ => []

def itemReferences (key : String) : List Json → List Json
  | [] => []
  | item :: items => references key item ++ itemReferences key items

def fieldReferences (key : String) : List (String × Json) → List Json
  | [] => []
  | (_, value) :: fields => references key value ++ fieldReferences key fields

end

attribute [local simp] references itemReferences fieldReferences

mutual

/-- The document with every placeholder replaced by what its content stands for. -/
def fill (key : String) (value : Json → Json) : Json → Json
  | .list items => .list (fillItems key value items)
  | .dict entries => (marked key entries).elim (.dict (fillFields key value entries)) value
  | document => document

def fillItems (key : String) (value : Json → Json) : List Json → List Json
  | [] => []
  | item :: items => fill key value item :: fillItems key value items

def fillFields (key : String) (value : Json → Json) : List (String × Json) → List (String × Json)
  | [] => []
  | (name, child) :: fields => (name, fill key value child) :: fillFields key value fields

end

attribute [local simp] fill fillItems fillFields

/-- A document that holds no other. -/
def Flat : Json → Prop
  | .list _ => False
  | .dict _ => False
  | _ => True

/-- Induction on a document by the documents it holds. -/
theorem document_induction {motive : Json → Prop} (flat : ∀ document, Flat document → motive document)
    (list : ∀ items, (∀ item ∈ items, motive item) → motive (.list items))
    (dict : ∀ entries, (∀ entry ∈ entries, motive entry.2) → motive (.dict entries)) (document : Json) :
    motive document := by
  refine @Json.rec motive (fun items => ∀ item ∈ items, motive item) (fun entries => ∀ entry ∈ entries, motive entry.2)
    (fun entry => motive entry.2) (flat _ trivial) (fun _ => flat _ trivial) (fun _ => flat _ trivial)
    (fun _ => flat _ trivial) (fun _ => flat _ trivial) list dict ?_ ?_ ?_ ?_ (fun _ _ child => child) document
  · exact fun item member => absurd member List.not_mem_nil
  · intro first rest head tail item member
    rcases List.mem_cons.mp member with rfl | later
    · exact head
    · exact tail item later
  · exact fun entry member => absurd member List.not_mem_nil
  · intro first rest head tail entry member
    rcases List.mem_cons.mp member with rfl | later
    · exact head
    · exact tail entry later

section Equations

variable (key : String)

theorem marked_eq_some {entries : List (String × Json)} {content : Json} :
    marked key entries = some content ↔ entries = [(key, content)] := by
  unfold marked
  split
  · rename_i name stored
    by_cases same : name = key
    · rw [if_pos same, same]
      simp
    · rw [if_neg same]
      simp [same]
  · rename_i other
    constructor
    · intro found
      cases found
    · intro same
      exact absurd same (other key content)

/-- Whether a dict is a placeholder is decided by its keys. -/
theorem marked_none_of_keys {entries others : List (String × Json)} (same : entries.map Prod.fst = others.map Prod.fst)
    (plain : marked key entries = none) : marked key others = none := by
  rw [Option.eq_none_iff_forall_ne_some]
  intro content found
  rw [marked_eq_some] at found
  rw [found] at same
  obtain ⟨⟨name, stored⟩, rfl, named⟩ := List.map_eq_singleton_iff.mp same
  have hit : marked key [(name, stored)] = some stored := by
    rw [marked_eq_some, show name = key from named]
  rw [hit] at plain
  cases plain

theorem itemReferences_eq (items : List Json) : itemReferences key items = items.flatMap (references key) := by
  induction items with
  | nil => rfl
  | cons item items ih => rw [itemReferences, ih, List.flatMap_cons]

theorem fieldReferences_eq (fields : List (String × Json)) :
    fieldReferences key fields = fields.flatMap fun field => references key field.2 := by
  induction fields with
  | nil => rfl
  | cons field fields ih =>
    obtain ⟨name, value⟩ := field
    rw [fieldReferences, ih, List.flatMap_cons]

theorem fillItems_eq (value : Json → Json) (items : List Json) : fillItems key value items = items.map (fill key value) := by
  induction items with
  | nil => rfl
  | cons item items ih => rw [fillItems, ih, List.map_cons]

theorem fillFields_eq (value : Json → Json) (fields : List (String × Json)) :
    fillFields key value fields = fields.map fun field => (field.1, fill key value field.2) := by
  induction fields with
  | nil => rfl
  | cons field fields ih =>
    obtain ⟨name, child⟩ := field
    rw [fillFields, ih, List.map_cons]

@[simp] theorem references_flat {document : Json} (flat : Flat document) : references key document = [] := by
  cases document with
  | list items => exact flat.elim
  | dict entries => exact flat.elim
  | _ => simp

@[simp] theorem references_list (items : List Json) :
    references key (.list items) = items.flatMap (references key) := by
  rw [references, itemReferences_eq]

@[simp] theorem references_placeholder (content : Json) : references key (placeholder key content) = [content] := by
  rw [placeholder, references, (marked_eq_some key).mpr rfl]
  rfl

theorem references_dict {entries : List (String × Json)} (plain : marked key entries = none) :
    references key (.dict entries) = entries.flatMap fun entry => references key entry.2 := by
  rw [references, plain, fieldReferences_eq]
  rfl

@[simp] theorem fill_flat (value : Json → Json) {document : Json} (flat : Flat document) :
    fill key value document = document := by
  cases document with
  | list items => exact flat.elim
  | dict entries => exact flat.elim
  | _ => simp

@[simp] theorem fill_list (value : Json → Json) (items : List Json) :
    fill key value (.list items) = .list (items.map (fill key value)) := by
  rw [fill, fillItems_eq]

@[simp] theorem fill_placeholder (value : Json → Json) (content : Json) :
    fill key value (placeholder key content) = value content := by
  rw [placeholder, fill, (marked_eq_some key).mpr rfl]
  rfl

theorem fill_dict (value : Json → Json) {entries : List (String × Json)} (plain : marked key entries = none) :
    fill key value (.dict entries) = .dict (entries.map fun entry => (entry.1, fill key value entry.2)) := by
  rw [fill, plain, fillFields_eq]
  rfl

/-- Induction in which a placeholder is a case of its own. -/
theorem placeholder_induction {motive : Json → Prop} (flat : ∀ document, Flat document → motive document)
    (list : ∀ items, (∀ item ∈ items, motive item) → motive (.list items))
    (hole : ∀ content, motive (placeholder key content))
    (dict : ∀ entries, marked key entries = none → (∀ entry ∈ entries, motive entry.2) → motive (.dict entries))
    (document : Json) : motive document := by
  refine document_induction flat list ?_ document
  intro entries ih
  cases found : marked key entries with
  | none => exact dict entries found ih
  | some content =>
    rw [(marked_eq_some key).mp found]
    exact hole content

end Equations

section Laws

variable {key : String} {value other : Json → Json}

/-- Only the values of the placeholders that are there matter. -/
theorem fill_congr {document : Json} (agree : ∀ content ∈ references key document, value content = other content) :
    fill key value document = fill key other document := by
  induction document using placeholder_induction key with
  | flat document flat => rw [fill_flat key _ flat, fill_flat key _ flat]
  | list items ih =>
    rw [fill_list, fill_list]
    refine congrArg Json.list (List.map_congr_left fun item member => ih item member fun content found => ?_)
    exact agree content (by rw [references_list]; exact List.mem_flatMap.mpr ⟨item, member, found⟩)
  | hole content =>
    rw [fill_placeholder, fill_placeholder]
    exact agree content (by simp)
  | dict entries plain ih =>
    rw [fill_dict key _ plain, fill_dict key _ plain]
    refine congrArg Json.dict (List.map_congr_left fun entry member => ?_)
    rw [ih entry member fun content found => agree content ?_]
    rw [references_dict key plain]
    exact List.mem_flatMap.mpr ⟨entry, member, found⟩

theorem keys_fill (entries : List (String × Json)) :
    entries.map Prod.fst = (entries.map fun entry => (entry.1, fill key value entry.2)).map Prod.fst := by
  rw [List.map_map]
  rfl

/-- Filling twice is filling once with the filled values. -/
theorem fill_fill (document : Json) :
    fill key value (fill key other document) = fill key (fun content => fill key value (other content)) document := by
  induction document using placeholder_induction key with
  | flat document flat => rw [fill_flat key _ flat, fill_flat key _ flat, fill_flat key _ flat]
  | list items ih =>
    rw [fill_list, fill_list, fill_list, List.map_map]
    exact congrArg Json.list (List.map_congr_left ih)
  | hole content => rw [fill_placeholder, fill_placeholder]
  | dict entries plain ih =>
    rw [fill_dict key _ plain, fill_dict key _ (marked_none_of_keys key (keys_fill entries) plain),
      fill_dict key _ plain, List.map_map]
    refine congrArg Json.dict (List.map_congr_left fun entry member => ?_)
    rw [← ih entry member]
    rfl

/-- What is left to fill is what the values bring in. -/
theorem references_fill (document : Json) :
    references key (fill key value document) =
      (references key document).flatMap fun content => references key (value content) := by
  induction document using placeholder_induction key with
  | flat document flat => rw [fill_flat key _ flat, references_flat key flat, List.flatMap_nil]
  | list items ih =>
    rw [fill_list, references_list, references_list, List.flatMap_map, List.flatMap_assoc]
    exact List.flatMap_congr ih
  | hole content => rw [fill_placeholder, references_placeholder, List.flatMap_singleton]
  | dict entries plain ih =>
    rw [fill_dict key _ plain, references_dict key (marked_none_of_keys key (keys_fill entries) plain),
      references_dict key plain, List.flatMap_map, List.flatMap_assoc]
    exact List.flatMap_congr ih

end Laws

end Jiejian.Library.Placeholders
