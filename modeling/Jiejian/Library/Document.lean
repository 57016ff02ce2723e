import Mathlib.Data.List.Sort
import Mathlib.Data.String.Basic
import Mathlib.Logic.Encodable.Basic
import Mathlib.Logic.Equiv.List

namespace Jiejian.Library.Document

/-- A JSON value. A float is its shortest representation, a dict keeps the order in which its
entries were written. -/
inductive Json where
  | null
  | bool (value : Bool)
  | int (value : Int)
  | float (text : String)
  | str (text : String)
  | list (items : List Json)
  | dict (entries : List (String × Json))
  deriving Repr

mutual

def Json.same : Json → Json → Bool
  | .null, .null => true
  | .bool first, .bool second => first == second
  | .int first, .int second => first == second
  | .float first, .float second => first == second
  | .str first, .str second => first == second
  | .list first, .list second => sameItems first second
  | .dict first, .dict second => sameEntries first second
  | _, _ => false

def sameItems : List Json → List Json → Bool
  | [], [] => true
  | first :: firsts, second :: seconds => first.same second && sameItems firsts seconds
  | _, _ => false

def sameEntries : List (String × Json) → List (String × Json) → Bool
  | [], [] => true
  | (key, first) :: firsts, (other, second) :: seconds => key == other && first.same second && sameEntries firsts seconds
  | _, _ => false

end

/-- The bytes that `json.dumps(ensure_ascii=False)` spends on one character. -/
def escapedSize (char : Char) : Nat :=
  if char ∈ ['"', '\\', '\n', '\r', '\t', '\x08', '\x0c'] then 2
  else if char.toNat < 32 then 6 else char.utf8Size

def quotedSize (text : String) : Nat := text.toList.foldl (fun size char => size + escapedSize char) 2

mutual

/-- The length of `json.dumps(value, separators=(",", ":")).encode("utf-8")`. -/
def Json.encodedSize : Json → Nat
  | .null => 4
  | .bool value => if value then 4 else 5
  | .int value => (toString value).length
  | .float text => text.length
  | .str text => quotedSize text
  | .list items => 2 + encodedItems items
  | .dict entries => 2 + encodedEntries entries

def encodedItems : List Json → Nat
  | [] => 0
  | [item] => item.encodedSize
  | item :: rest => item.encodedSize + 1 + encodedItems rest

def encodedEntries : List (String × Json) → Nat
  | [] => 0
  | [(key, value)] => quotedSize key + 1 + value.encodedSize
  | (key, value) :: rest => quotedSize key + 1 + value.encodedSize + 1 + encodedEntries rest

end

/-- Fields in the order of their names; of two equal names the earlier stays first. -/
def byName (fields : List (String × Json)) : List (String × Json) :=
  fields.insertionSort fun left right => left.1 ≤ right.1

mutual

/-- The one form all equal documents share: the entries of every dict are sorted. -/
def Json.canonical : Json → Json
  | .null => .null
  | .bool value => .bool value
  | .int value => .int value
  | .float text => .float text
  | .str text => .str text
  | .list items => .list (canonicalItems items)
  | .dict entries => .dict (byName (canonicalFields entries))

def canonicalItems : List Json → List Json
  | [] => []
  | item :: items => item.canonical :: canonicalItems items

def canonicalFields : List (String × Json) → List (String × Json)
  | [] => []
  | (name, value) :: fields => (name, value.canonical) :: canonicalFields fields

end

attribute [local simp] Json.canonical canonicalItems canonicalFields

/-- The first value written under a name. -/
def fieldOf (fields : List (String × Json)) (name : String) : Option Json :=
  (fields.find? fun field => field.1 = name).map Prod.snd

def Json.field (document : Json) (name : String) : Option Json :=
  match document with
  | .dict entries => fieldOf entries name
  | _ => none

@[simp] theorem fieldOf_nil (name : String) : fieldOf [] name = none := rfl

@[simp] theorem fieldOf_cons (key : String) (value : Json) (fields : List (String × Json)) (name : String) :
    fieldOf ((key, value) :: fields) name = if key = name then some value else fieldOf fields name := by
  by_cases same : key = name <;> simp [fieldOf, same]

@[simp] theorem field_dict (entries : List (String × Json)) (name : String) :
    (Json.dict entries).field name = fieldOf entries name := rfl

theorem fieldOf_orderedInsert (key : String) (value : Json) (fields : List (String × Json)) (name : String) :
    fieldOf (fields.orderedInsert (fun left right => left.1 ≤ right.1) (key, value)) name =
      if key = name then some value else fieldOf fields name := by
  induction fields with
  | nil => simp
  | cons field fields ih =>
    obtain ⟨other, stored⟩ := field
    by_cases before : key ≤ other
    · rw [List.orderedInsert_cons, if_pos before]
      simp
    · rw [List.orderedInsert_cons, if_neg before, fieldOf_cons, ih, fieldOf_cons]
      by_cases same : key = name
      · have differ : other ≠ name := by
          intro equal
          exact before (by simp [same, equal])
        simp [same, differ]
      · simp [same]

theorem fieldOf_byName (fields : List (String × Json)) (name : String) :
    fieldOf (byName fields) name = fieldOf fields name := by
  induction fields with
  | nil => rfl
  | cons field fields ih =>
    obtain ⟨key, value⟩ := field
    rw [byName, List.insertionSort_cons, fieldOf_orderedInsert, fieldOf_cons]
    rw [byName] at ih
    rw [ih]

theorem fieldOf_canonicalFields (fields : List (String × Json)) (name : String) :
    fieldOf (canonicalFields fields) name = (fieldOf fields name).map Json.canonical := by
  induction fields with
  | nil => simp
  | cons field fields ih =>
    obtain ⟨key, value⟩ := field
    simp only [canonicalFields, fieldOf_cons, ih]
    by_cases same : key = name <;> simp [same]

/-- A canonical document holds the canonical values of the same fields. -/
theorem field_canonical (document : Json) (name : String) :
    document.canonical.field name = (document.field name).map Json.canonical := by
  cases document with
  | dict entries =>
    rw [Json.canonical, field_dict, field_dict, fieldOf_byName, fieldOf_canonicalFields]
  | _ => simp [Json.field]

/-- Equal canonical documents agree on every field. -/
theorem field_of_canonical_eq {left right : Json} (same : left.canonical = right.canonical) (name : String) :
    (left.field name).map Json.canonical = (right.field name).map Json.canonical := by
  rw [← field_canonical, ← field_canonical, same]

theorem canonicalItems_eq_map (items : List Json) : canonicalItems items = items.map Json.canonical := by
  induction items with
  | nil => rfl
  | cons item items ih => rw [canonicalItems, ih, List.map_cons]

@[simp] theorem canonical_str (text : String) : (Json.str text).canonical = .str text := by
  rw [Json.canonical]

@[simp] theorem canonical_int (value : Int) : (Json.int value).canonical = .int value := by
  rw [Json.canonical]

@[simp] theorem canonical_null : Json.null.canonical = .null := by
  rw [Json.canonical]

@[simp] theorem canonical_list (items : List Json) :
    (Json.list items).canonical = .list (items.map Json.canonical) := by
  rw [Json.canonical, canonicalItems_eq_map]

def stringTokens (value : String) : List Nat :=
  value.toList.length :: value.toList.map Char.toNat

mutual

/-- A numbering of documents in which no document's tokens begin another's. -/
def Json.tokens : Json → List Nat
  | .null => [0]
  | .bool value => [1, value.toNat]
  | .int value => [2, Encodable.encode value]
  | .float text => 3 :: stringTokens text
  | .str text => 4 :: stringTokens text
  | .list items => 5 :: itemTokens items
  | .dict entries => 6 :: fieldTokens entries

def itemTokens : List Json → List Nat
  | [] => [0]
  | item :: items => 1 :: (item.tokens ++ itemTokens items)

def fieldTokens : List (String × Json) → List Nat
  | [] => [0]
  | (name, value) :: fields => 1 :: (stringTokens name ++ (value.tokens ++ fieldTokens fields))

end

attribute [local simp] Json.tokens itemTokens fieldTokens

theorem stringTokens_unique {left right : String} {after after' : List Nat}
    (same : stringTokens left ++ after = stringTokens right ++ after') : left = right ∧ after = after' := by
  simp only [stringTokens, List.cons_append, List.cons.injEq] at same
  have split := List.append_inj same.2 (by simpa using same.1)
  have chars : left.toList = right.toList :=
    List.map_injective_iff.mpr (fun _ _ => Char.toNat_inj.mp) split.1
  exact ⟨String.toList_injective chars, split.2⟩

mutual

theorem tokens_unique (left right : Json) (after after' : List Nat)
    (same : left.tokens ++ after = right.tokens ++ after') : left = right ∧ after = after' := by
  cases left with
  | null => cases right <;> simp_all
  | bool value =>
    cases right <;> simp_all
    case bool other => cases value <;> cases other <;> simp_all
  | int value => cases right <;> simp_all
  | float text =>
    cases right <;> simp_all
    case float other => exact stringTokens_unique same
  | str text =>
    cases right <;> simp_all
    case str other => exact stringTokens_unique same
  | list items =>
    cases right <;> simp_all
    case list others => exact itemTokens_unique items others after after' same
  | dict entries =>
    cases right <;> simp_all
    case dict others => exact fieldTokens_unique entries others after after' same

theorem itemTokens_unique (left right : List Json) (after after' : List Nat)
    (same : itemTokens left ++ after = itemTokens right ++ after') : left = right ∧ after = after' := by
  cases left with
  | nil => cases right <;> simp_all
  | cons item items =>
    cases right with
    | nil => simp_all
    | cons other others =>
      simp only [itemTokens, List.cons_append, List.append_assoc, List.cons.injEq, true_and] at same
      obtain ⟨head, tail⟩ := tokens_unique item other _ _ same
      obtain ⟨rest, ends⟩ := itemTokens_unique items others _ _ tail
      exact ⟨by rw [head, rest], ends⟩

theorem fieldTokens_unique (left right : List (String × Json)) (after after' : List Nat)
    (same : fieldTokens left ++ after = fieldTokens right ++ after') : left = right ∧ after = after' := by
  match left, right with
  | [], [] => simpa using same
  | [], (_, _) :: _ => simp at same
  | (_, _) :: _, [] => simp at same
  | (name, value) :: fields, (name', value') :: others =>
    simp only [fieldTokens, List.cons_append, List.append_assoc, List.cons.injEq, true_and] at same
    obtain ⟨names, later⟩ := stringTokens_unique same
    obtain ⟨values, tail⟩ := tokens_unique value value' _ _ later
    obtain ⟨rest, ends⟩ := fieldTokens_unique fields others _ _ tail
    exact ⟨by rw [names, values, rest], ends⟩

end

theorem tokens_injective : Function.Injective Json.tokens := by
  intro left right same
  exact (tokens_unique left right [] [] (by rw [same])).1

/-- A text that determines the document it was made from. -/
def Json.text (document : Json) : String :=
  String.ofList (List.replicate (Encodable.encode document.tokens) '0')

theorem text_injective : Function.Injective Json.text := by
  intro left right same
  have lengths := congrArg (fun text : String => text.toList.length) same
  simp only [Json.text, String.toList_ofList, List.length_replicate] at lengths
  exact tokens_injective (Encodable.encode_injective lengths)

end Jiejian.Library.Document
