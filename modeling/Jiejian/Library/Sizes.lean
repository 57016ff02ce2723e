import Jiejian.Library.Document
import Mathlib.Logic.Basic

namespace Jiejian.Library.Numerals

/-- A number is written in one way. -/
theorem repr_injective {left right : Nat} (same : left.repr = right.repr) : left = right := by
  have digits : Nat.toDigits 10 left = Nat.toDigits 10 right := by
    simpa only [Nat.toList_repr] using congrArg String.toList same
  calc
    left = Nat.ofDigitChars 10 (Nat.toDigits 10 left) 0 := Nat.ofDigitChars_ten_toDigits.symm
    _ = Nat.ofDigitChars 10 (Nat.toDigits 10 right) 0 := by rw [digits]
    _ = right := Nat.ofDigitChars_ten_toDigits

/-- Labels of one kind are told apart by their numbers. -/
theorem label_injective {label : String} {left right : Nat} (same : label ++ toString left = label ++ toString right) :
    left = right :=
  repr_injective ((String.append_right_inj label).mp same)

end Jiejian.Library.Numerals

namespace Jiejian.Library.Sizes

open Document

theorem escapedSize_le (char : Char) : escapedSize char ≤ 6 := by
  have bytes := char.utf8Size_le_four
  unfold escapedSize
  split
  · omega
  · split <;> omega

/-- A text without escapes, of one-byte characters. -/
def Plain (text : String) : Prop := ∀ char ∈ text.toList, escapedSize char = 1

theorem plain_of_all {text : String} (each : (text.toList.all fun char => escapedSize char == 1) = true) :
    Plain text := by
  intro char member
  simpa using List.all_eq_true.mp each char member

theorem foldl_size_le {limit : Nat} {chars : List Char} (small : ∀ char ∈ chars, escapedSize char ≤ limit)
    (start : Nat) : chars.foldl (fun size char => size + escapedSize char) start ≤ start + limit * chars.length := by
  induction chars generalizing start with
  | nil => simp
  | cons char rest ih =>
    have here := small char (by simp)
    have there := ih (fun other member => small other (by simp [member])) (start + escapedSize char)
    rw [List.foldl_cons, List.length_cons]
    have widen : limit * (rest.length + 1) = limit * rest.length + limit := Nat.mul_succ _ _
    omega

theorem quotedSize_le (text : String) : quotedSize text ≤ 2 + 6 * text.length := by
  have each : ∀ char ∈ text.toList, escapedSize char ≤ 6 := fun char _ => escapedSize_le char
  have walked := foldl_size_le each 2
  simpa [quotedSize, String.length_toList] using walked

theorem quotedSize_plain {text : String} (plain : Plain text) : quotedSize text ≤ 2 + text.length := by
  have each : ∀ char ∈ text.toList, escapedSize char ≤ 1 := fun char member => (plain char member).le
  have walked := foldl_size_le each 2
  simpa [quotedSize, String.length_toList] using walked

/-- A list of small documents is small. -/
theorem encodedItems_le {limit : Nat} {values : List Json} (small : ∀ value ∈ values, value.encodedSize ≤ limit) :
    encodedItems values ≤ (limit + 1) * values.length := by
  induction values with
  | nil => simp [encodedItems]
  | cons value rest ih =>
    have here := small value (by simp)
    have there := ih fun other member => small other (by simp [member])
    have widen : (limit + 1) * (rest.length + 1) = (limit + 1) * rest.length + (limit + 1) := Nat.mul_succ _ _
    cases rest with
    | nil =>
      simp only [encodedItems, List.length_singleton]
      omega
    | cons other more =>
      rw [encodedItems, List.length_cons]
      · omega
      · simp

/-- A number of 64 bits has at most twenty digits. -/
theorem encodedSize_natural {value : Nat} (small : value < 2 ^ 64) : (Json.int value).encodedSize ≤ 20 := by
  have digits : value.repr.length ≤ 20 := (Nat.length_repr_le_iff (by decide)).mpr (by omega)
  have written : (Json.int value).encodedSize = value.repr.length := by
    rw [Json.encodedSize]
    rfl
  omega

end Jiejian.Library.Sizes
