import Jiejian.Library.Document

namespace Jiejian.Library.Reading

open Document

variable {α β : Type}

def text : Json → Option String
  | .str value => some value
  | _ => none

def natural : Json → Option Nat
  | .int value => if 0 ≤ value then some value.toNat else none
  | _ => none

def truth : Json → Option Bool
  | .bool value => some value
  | _ => none

def items (read : Json → Option α) : Json → Option (List α)
  | .list values => values.mapM read
  | _ => none

/-- `null` for a value that is left out. -/
def nullable (read : Json → Option α) : Json → Option (Option α)
  | .null => some none
  | value => (read value).map some

/-- One of the listed words. -/
def word (choices : List α) (value : α → String) (document : Json) : Option α :=
  (text document).bind fun written => choices.find? fun choice => value choice = written

/-- A field that must be there. -/
def field (read : Json → Option α) (document : Json) (name : String) : Option α :=
  (document.field name).bind read

/-- A field that may be left out for its default. -/
def fieldOr (read : Json → Option α) (default : α) (document : Json) (name : String) : Option α :=
  match document.field name with
  | none => some default
  | some value => read value

/-- A record with no other fields than these. -/
def hasOnly (names : List String) : Json → Bool
  | .dict entries => entries.all fun entry => entry.1 ∈ names
  | _ => false

/-- What is written is read back. -/
def Reads (read : Json → Option α) (write : α → Json) : Prop :=
  ∀ value, read (write value) = some value

theorem reads_text : Reads text Json.str := fun _ => rfl

theorem reads_natural : Reads natural fun value : Nat => Json.int value := by
  intro value
  simp [natural]

theorem reads_items {read : Json → Option α} {write : α → Json} (reads : Reads read write) :
    Reads (items read) fun values => Json.list (values.map write) := by
  intro values
  induction values with
  | nil => rfl
  | cons value rest ih =>
    have here := reads value
    have there : (rest.map write).mapM read = some rest := ih
    simp only [items, List.map_cons, List.mapM_cons, here, there]
    rfl

/-- A written field is read back. -/
theorem Reads.field {read : Json → Option α} {write : α → Json} (reads : Reads read write) {document : Json}
    {name : String} {value : α} (holds : document.field name = some (write value)) :
    Reading.field read document name = some value := by
  rw [Reading.field, holds, Option.bind_some]
  exact reads value

theorem Reads.fieldOr {read : Json → Option α} {write : α → Json} (reads : Reads read write) {default : α}
    {document : Json} {name : String} {value : α} (holds : document.field name = some (write value)) :
    Reading.fieldOr read default document name = some value := by
  rw [Reading.fieldOr, holds]
  exact reads value

end Jiejian.Library.Reading
