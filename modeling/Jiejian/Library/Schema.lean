import Jiejian.Library.Document

namespace Jiejian.Library.Schema

open Document

variable {α : Type}

/-- Different values are written as different documents, in whatever order the fields stand. -/
def Separating (write : α → Json) : Prop :=
  ∀ left right, (write left).canonical = (write right).canonical → left = right

theorem separating_str : Separating Json.str := by
  intro left right same
  simpa using same

theorem separating_word {word : α → String} (injective : Function.Injective word) :
    Separating fun value => Json.str (word value) := by
  intro left right same
  exact injective (separating_str _ _ same)

theorem separating_natural : Separating fun value : Nat => Json.int value := by
  intro left right same
  simp only [canonical_int, Json.int.injEq] at same
  omega

theorem separating_list {write : α → Json} (separating : Separating write) :
    Separating fun items : List α => Json.list (items.map write) := by
  intro left right same
  simp only [canonical_list, List.map_map, Json.list.injEq] at same
  exact List.map_injective_iff.mpr (fun _ _ equal => separating _ _ equal) same

@[simp] theorem fieldOf_append (first second : List (String × Json)) (name : String) :
    fieldOf (first ++ second) name = (fieldOf first name).or (fieldOf second name) := by
  induction first with
  | nil => simp
  | cons field rest ih =>
    obtain ⟨key, value⟩ := field
    rw [List.cons_append, fieldOf_cons, fieldOf_cons, ih]
    by_cases same : key = name
    · rw [if_pos same, if_pos same]
      rfl
    · rw [if_neg same, if_neg same]

/-- Equal records hold equal values under a name. -/
theorem Separating.field {write : α → Json} (separating : Separating write) {left right : List (String × Json)}
    (same : (Json.dict left).canonical = (Json.dict right).canonical) (name : String) {first second : α}
    (here : fieldOf left name = some (write first)) (there : fieldOf right name = some (write second)) :
    first = second := by
  have values := field_of_canonical_eq same name
  rw [field_dict, field_dict, here, there] at values
  exact separating first second (Option.some.inj values)

/-- Equal records hold the same value under a name, or neither has one. -/
theorem Separating.optional {write : α → Json} (separating : Separating write) {left right : List (String × Json)}
    (same : (Json.dict left).canonical = (Json.dict right).canonical) (name : String) {first second : Option α}
    (here : fieldOf left name = first.map write) (there : fieldOf right name = second.map write) :
    first = second := by
  have values := field_of_canonical_eq same name
  rw [field_dict, field_dict, here, there, Option.map_map, Option.map_map] at values
  exact Option.map_injective (fun _ _ equal => separating _ _ equal) values

end Jiejian.Library.Schema
