import Jiejian.Library.Document

namespace Jiejian.Library.Equality

open Document

/-- What two documents are compared by, once every scalar stands for its value. -/
inductive Meaning (Scalar : Type) where
  | scalar (value : Scalar)
  | empty
  | item (head rest : Meaning Scalar)
  | entry (name : String) (value rest : Meaning Scalar)
  | list (items : Meaning Scalar)
  | dict (entries : Meaning Scalar)
  deriving DecidableEq

section Equality

variable {Scalar : Type} (scalar : Json → Scalar)

mutual

def meaning : Json → Meaning Scalar
  | .list items => .list (itemsMeaning items)
  | .dict entries => .dict (entriesMeaning entries)
  | value => .scalar (scalar value)

def itemsMeaning : List Json → Meaning Scalar
  | [] => .empty
  | item :: items => .item (meaning item) (itemsMeaning items)

def entriesMeaning : List (String × Json) → Meaning Scalar
  | [] => .empty
  | (name, value) :: entries => .entry name (meaning value) (entriesMeaning entries)

end

/-- Equality of documents: the order of the entries of a dict does not matter, nor how a scalar is written. -/
def equal [DecidableEq Scalar] (left right : Json) : Bool :=
  meaning scalar left.canonical = meaning scalar right.canonical

variable {scalar}

theorem entriesMeaning_field {left right : List (String × Json)}
    (same : entriesMeaning scalar left = entriesMeaning scalar right) (name : String) :
    (fieldOf left name).map (meaning scalar) = (fieldOf right name).map (meaning scalar) := by
  induction left generalizing right with
  | nil =>
    cases right with
    | nil => rfl
    | cons entry right =>
      rw [entriesMeaning, entriesMeaning] at same
      cases same
  | cons entry left ih =>
    obtain ⟨key, value⟩ := entry
    cases right with
    | nil =>
      rw [entriesMeaning, entriesMeaning] at same
      cases same
    | cons other right =>
      obtain ⟨other, stored⟩ := other
      rw [entriesMeaning, entriesMeaning] at same
      injection same with names values rest
      rw [fieldOf_cons, fieldOf_cons, names]
      by_cases found : other = name
      · rw [if_pos found, if_pos found, Option.map_some, Option.map_some, values]
      · rw [if_neg found, if_neg found]
        exact ih rest

variable [DecidableEq Scalar] {left middle right : Json}

theorem equal_iff : equal scalar left right = true ↔ meaning scalar left.canonical = meaning scalar right.canonical :=
  decide_eq_true_iff

@[simp] theorem equal_refl (document : Json) : equal scalar document document = true := equal_iff.mpr rfl

/-- Equal documents compare alike with every other. -/
theorem equal_congr (same : equal scalar left right = true) (other : Json) :
    equal scalar left other = equal scalar right other := by
  simp only [equal, equal_iff.mp same]

/-- Only a dict equals a dict. -/
theorem equal_dict {entries : List (String × Json)} (same : equal scalar (.dict entries) right = true) :
    ∃ others, right = .dict others := by
  have meanings := equal_iff.mp same
  cases right with
  | dict others => exact ⟨others, rfl⟩
  | _ =>
    simp only [Json.canonical, meaning] at meanings
    cases meanings

/-- Equal dicts have the same names, with equal values. -/
theorem equal_fields {entries others : List (String × Json)} (name : String)
    (same : equal scalar (.dict entries) (.dict others) = true) :
    (fieldOf entries name = none ∧ fieldOf others name = none) ∨
      ∃ value other, fieldOf entries name = some value ∧ fieldOf others name = some other ∧
        equal scalar value other = true := by
  have meanings := equal_iff.mp same
  simp only [Json.canonical, meaning, Meaning.dict.injEq] at meanings
  have fields := entriesMeaning_field meanings name
  rw [fieldOf_byName, fieldOf_byName, fieldOf_canonicalFields, fieldOf_canonicalFields] at fields
  cases found : fieldOf entries name with
  | none =>
    cases stored : fieldOf others name with
    | none => exact .inl ⟨rfl, rfl⟩
    | some other => simp [found, stored] at fields
  | some value =>
    cases stored : fieldOf others name with
    | none => simp [found, stored] at fields
    | some other =>
      simp only [found, stored, Option.map_some, Option.some.injEq] at fields
      exact .inr ⟨value, other, rfl, rfl, equal_iff.mpr fields⟩

end Equality

end Jiejian.Library.Equality
