import Jiejian.Library.PercentEncoding
import Jiejian.Library.Segments

namespace Jiejian.Library.FormEncoding

open PercentEncoding

variable {kept : Char → Bool}

def spaceToPlus (char : Char) : Char := if char = ' ' then '+' else char

def plusToSpace (char : Char) : Char := if char = '+' then ' ' else char

/-- `quote_plus`. -/
def quotePlus (kept : Char → Bool) (text : List Char) : List Char :=
  (quote (fun char => char = ' ' || kept char) text).map spaceToPlus

/-- `unquote_plus`. -/
def unquotePlus (text : List Char) : List Char := unquote (text.map plusToSpace)

/-- One field of `urlencode`. -/
def encodedField (kept : Char → Bool) (pair : List Char × List Char) : List Char :=
  quotePlus kept pair.1 ++ '=' :: quotePlus kept pair.2

/-- `urlencode`. -/
def urlencode (kept : Char → Bool) (pairs : List (List Char × List Char)) : List Char :=
  ['&'].intercalate (pairs.map (encodedField kept))

/-- A field, cut at its first equals sign; one without has a blank value. -/
def parseField (field : List Char) : List Char × List Char :=
  (unquotePlus (field.takeWhile (· ≠ '=')), unquotePlus ((field.dropWhile (· ≠ '=')).drop 1))

/-- `parse_qsl` that keeps blank values. -/
def parseQsl (text : List Char) : List (List Char × List Char) :=
  ((text.splitOn '&').filter (· ≠ [])).map parseField

/-- The signs with a meaning of their own in a query are escaped. -/
structure Formal (kept : Char → Bool) : Prop where
  plain : Plain kept
  plus : kept '+' = false
  equals : kept '=' = false
  ampersand : kept '&' = false

theorem plusToSpace_spaceToPlus {char : Char} (other : char ≠ '+') : plusToSpace (spaceToPlus char) = char := by
  unfold plusToSpace spaceToPlus
  by_cases space : char = ' '
  · rw [if_pos space, if_pos rfl, space]
  · rw [if_neg space, if_neg other]

theorem spacePlain (formal : Formal kept) : Plain fun char => char = ' ' || kept char := by
  intro char keep
  cases Bool.or_eq_true_iff.mp keep with
  | inl space =>
    rw [of_decide_eq_true space]
    decide
  | inr own => exact formal.plain char own

theorem not_mem_quotePlus {text : List Char} {sign : Char} (dropped : kept sign = false) (escape : sign ≠ '%')
    (special : sign.isAlphanum = false) (space : sign ≠ ' ') (plus : sign ≠ '+') : sign ∉ quotePlus kept text := by
  intro member
  obtain ⟨char, written, same⟩ := List.mem_map.mp member
  have here : char = sign := by
    unfold spaceToPlus at same
    by_cases blank : char = ' '
    · rw [if_pos blank] at same
      exact absurd same.symm plus
    · rw [if_neg blank] at same
      exact same
  rw [here] at written
  refine @not_mem_quote (fun char => char = ' ' || kept char) _ _ ?_ escape special written
  simp [dropped, space]

theorem unquotePlus_quotePlus (formal : Formal kept) (text : List Char) : unquotePlus (quotePlus kept text) = text := by
  have back : (quotePlus kept text).map plusToSpace = quote (fun char => char = ' ' || kept char) text := by
    unfold quotePlus
    rw [List.map_map]
    refine (List.map_congr_left fun char member => ?_).trans (List.map_id _)
    refine plusToSpace_spaceToPlus fun plus => ?_
    rw [plus] at member
    exact not_mem_quote (by simp [formal.plus]) (by decide) (by decide) member
  rw [unquotePlus, back, unquote_quote (spacePlain formal)]

theorem parseField_encodedField (formal : Formal kept) (pair : List Char × List Char) :
    parseField (encodedField kept pair) = pair := by
  have name : ∀ char ∈ quotePlus kept pair.1, decide (char ≠ '=') = true := by
    intro char member
    refine decide_eq_true fun same => ?_
    rw [same] at member
    exact not_mem_quotePlus formal.equals (by decide) (by decide) (by decide) (by decide) member
  unfold parseField encodedField
  rw [List.takeWhile_append_of_pos name, List.dropWhile_append_of_pos name]
  simp [unquotePlus_quotePlus formal]

/-- The pairs that are written as a query are read back in their order, blank values included. -/
theorem parseQsl_urlencode (formal : Formal kept) (pairs : List (List Char × List Char)) :
    parseQsl (urlencode kept pairs) = pairs := by
  have closed : ∀ field ∈ pairs.map (encodedField kept), '&' ∉ field := by
    intro field listed member
    obtain ⟨pair, _, built⟩ := List.mem_map.mp listed
    rw [← built] at member
    have absent : ∀ text, '&' ∉ quotePlus kept text :=
      fun text => not_mem_quotePlus formal.ampersand (by decide) (by decide) (by decide) (by decide)
    cases List.mem_append.mp member with
    | inl front => exact absent _ front
    | inr back =>
      cases List.mem_cons.mp back with
      | inl clash => exact absurd clash (by decide)
      | inr value => exact absent _ value
  unfold parseQsl urlencode
  cases shape : pairs with
  | nil => rfl
  | cons pair rest =>
    rw [← shape, List.splitOn_intercalate '&' closed (by simp [shape])]
    rw [List.filter_eq_self.mpr, List.map_map]
    · exact (List.map_congr_left fun pair _ => parseField_encodedField formal pair).trans (List.map_id _)
    · intro field listed
      obtain ⟨pair, _, built⟩ := List.mem_map.mp listed
      rw [← built]
      simp [encodedField]

end Jiejian.Library.FormEncoding
