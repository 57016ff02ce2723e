import Mathlib.Data.List.Basic

namespace Jiejian.Library.Segments

section Splitting

variable {α β : Type}

theorem splitOnP_append_plain {cuts : β → Bool} {front : List β} (plain : ∀ item ∈ front, cuts item = false)
    (rest : List β) : (front ++ rest).splitOnP cuts = (rest.splitOnP cuts).modifyHead (front ++ ·) := by
  induction front with
  | nil => cases shape : rest.splitOnP cuts <;> simp [shape]
  | cons item front ih =>
    have here := plain item List.mem_cons_self
    have later := ih fun other member => plain other (List.mem_cons_of_mem item member)
    rw [List.cons_append, List.splitOnP_cons_eq_if_modifyHead, if_neg (by simp [here]), later]
    cases rest.splitOnP cuts <;> rfl

/-- Cutting an expanded list is expanding its pieces, when exactly the separators are expanded to separators. -/
theorem splitOnP_flatMap {separates : α → Bool} {cuts : β → Bool} {expand : α → List β}
    (cut : ∀ item, separates item = true → ∃ mark, expand item = [mark] ∧ cuts mark = true)
    (plain : ∀ item, separates item = false → ∀ mark ∈ expand item, cuts mark = false) (items : List α) :
    (items.flatMap expand).splitOnP cuts = (items.splitOnP separates).map fun piece => piece.flatMap expand := by
  induction items with
  | nil => simp
  | cons item items ih =>
    rw [List.flatMap_cons, List.splitOnP_cons_eq_if_modifyHead]
    cases separated : separates item with
    | true =>
      obtain ⟨mark, expanded, marks⟩ := cut item separated
      rw [expanded, List.singleton_append, List.splitOnP_cons_eq_if_modifyHead, if_pos marks, ih]
      simp
    | false =>
      rw [splitOnP_append_plain (plain item separated), ih]
      cases items.splitOnP separates <;> simp

theorem not_mem_intercalate {separator sign : α} {parts : List (List α)} (other : sign ≠ separator)
    (absent : ∀ part ∈ parts, sign ∉ part) : sign ∉ [separator].intercalate parts := by
  induction parts with
  | nil => exact List.not_mem_nil
  | cons part parts ih =>
    cases parts with
    | nil =>
      rw [List.intercalate_singleton]
      exact absent part List.mem_cons_self
    | cons next parts =>
      rw [List.intercalate_cons_cons]
      intro member
      rcases List.mem_append.mp member with front | back
      · rcases List.mem_append.mp front with here | between
        · exact absent part List.mem_cons_self here
        · exact other (List.mem_singleton.mp between)
      · exact ih (fun later listed => absent later (List.mem_cons_of_mem _ listed)) back

variable [DecidableEq α] {separator : α}

/-- A piece between separators is a part of the list. -/
theorem infix_of_mem_splitOn {items piece : List α} (member : piece ∈ items.splitOn separator) : piece <:+: items := by
  induction items generalizing piece with
  | nil =>
    rw [List.splitOn_nil, List.mem_singleton] at member
    exact member ▸ List.nil_infix
  | cons item items ih =>
    rw [List.splitOn_cons_eq_if_modifyHead] at member
    by_cases here : (item == separator) = true
    · rw [if_pos here] at member
      cases List.mem_cons.mp member with
      | inl first => exact first ▸ List.nil_infix
      | inr later => exact List.infix_cons (ih later)
    · rw [if_neg here] at member
      cases shape : items.splitOn separator with
      | nil => exact absurd shape (List.splitOn_ne_nil _ _)
      | cons head pieces =>
        rw [shape, List.modifyHead_cons] at member
        cases List.mem_cons.mp member with
        | inl first =>
          have joined : [separator].intercalate (items.splitOn separator) = items := List.intercalate_splitOn separator
          rw [shape] at joined
          refine first ▸ (List.cons_prefix_cons.mpr ⟨rfl, ?_⟩).isInfix
          cases pieces with
          | nil =>
            rw [List.intercalate_singleton] at joined
            exact joined ▸ List.prefix_refl head
          | cons other others =>
            rw [List.intercalate_cons_cons, List.append_assoc] at joined
            exact joined ▸ List.prefix_append _ _
        | inr later => exact List.infix_cons (ih (shape ▸ List.mem_cons_of_mem _ later))

/-- Only the piece in the middle depends on what stands there, as long as it has no separator. -/
theorem splitOn_around (front back : List α) : ∃ earlier last first later, front.splitOn separator = earlier ++ [last] ∧
    back.splitOn separator = first :: later ∧ ∀ middle, separator ∉ middle →
      (front ++ middle ++ back).splitOn separator = earlier ++ (last ++ middle ++ first) :: later := by
  cases shape : back.splitOn separator with
  | nil => exact absurd shape (List.splitOn_ne_nil _ _)
  | cons first later =>
    induction front with
    | nil =>
      refine ⟨[], [], first, later, rfl, rfl, fun middle plain => ?_⟩
      have cut := @splitOnP_append_plain _ (· == separator) middle
        (fun item member => beq_false_of_ne fun same => plain (same ▸ member)) back
      rw [List.nil_append, List.splitOn_eq_splitOnP, cut, ← List.splitOn_eq_splitOnP, shape]
      rfl
    | cons item front ih =>
      obtain ⟨earlier, last, first', later', before, after, around⟩ := ih
      obtain ⟨same, same'⟩ := List.cons.inj after
      by_cases here : (item == separator) = true
      · refine ⟨[] :: earlier, last, first, later, ?_, rfl, fun middle plain => ?_⟩
        · rw [List.splitOn_cons_eq_if_modifyHead, if_pos here, before]
          rfl
        · rw [List.cons_append, List.cons_append, List.splitOn_cons_eq_if_modifyHead, if_pos here, around middle plain, same, same']
          rfl
      · cases earlier with
        | nil =>
          refine ⟨[], item :: last, first, later, ?_, rfl, fun middle plain => ?_⟩
          · rw [List.splitOn_cons_eq_if_modifyHead, if_neg here, before]
            rfl
          · rw [List.cons_append, List.cons_append, List.splitOn_cons_eq_if_modifyHead, if_neg here, around middle plain, same, same']
            rfl
        | cons head earlier =>
          refine ⟨(item :: head) :: earlier, last, first, later, ?_, rfl, fun middle plain => ?_⟩
          · rw [List.splitOn_cons_eq_if_modifyHead, if_neg here, before]
            rfl
          · rw [List.cons_append, List.cons_append, List.splitOn_cons_eq_if_modifyHead, if_neg here, around middle plain, same, same']
            rfl

end Splitting

section Dots

/-- A segment that the normalisation of a path removes. -/
def Dot (segment : List Char) : Prop := segment = ['.'] ∨ segment = ['.', '.']

instance (segment : List Char) : Decidable (Dot segment) := inferInstanceAs (Decidable (_ ∨ _))

/-- A reader of paths that removes dot segments, and leaves a path without them as it is. -/
structure Normalizer where
  normalize : List (List Char) → List (List Char)
  keeps : ∀ segments, (∀ segment ∈ segments, ¬Dot segment) → normalize segments = segments
  removes : ∀ segments, ∀ segment ∈ normalize segments, ¬Dot segment

/-- A path is left as it is exactly when it has no dot segment. -/
theorem Normalizer.fixed_iff (parser : Normalizer) (segments : List (List Char)) :
    parser.normalize segments = segments ↔ ∀ segment ∈ segments, ¬Dot segment := by
  constructor
  · intro same segment member
    rw [← same] at member
    exact parser.removes segments segment member
  · exact parser.keeps segments

/-- One segment of `remove_dot_segments`; the root is never left. -/
def dropDot (output : List (List Char)) (segment : List Char) : List (List Char) :=
  if segment = ['.'] then output
  else if segment = ['.', '.'] then if output = [[]] then output else output.dropLast
  else output ++ [segment]

theorem dropDot_plain {output : List (List Char)} {segment : List Char} (plain : ¬Dot segment) :
    dropDot output segment = output ++ [segment] := by
  rw [dropDot, if_neg fun one => plain (.inl one), if_neg fun two => plain (.inr two)]

theorem dropDot_clean {output : List (List Char)} {segment : List Char} (clean : ∀ item ∈ output, ¬Dot item) :
    ∀ item ∈ dropDot output segment, ¬Dot item := by
  intro item member
  by_cases dot : Dot segment
  · rcases dot with rfl | rfl
    · exact clean item member
    · rw [dropDot, if_neg (by decide), if_pos rfl] at member
      by_cases root : output = [[]]
      · rw [if_pos root] at member
        exact clean item member
      · rw [if_neg root] at member
        exact clean item (List.dropLast_subset _ member)
  · rw [dropDot_plain dot] at member
    rcases List.mem_append.mp member with earlier | last
    · exact clean item earlier
    · rw [List.mem_singleton.mp last]
      exact dot

theorem foldl_dropDot_plain {segments output : List (List Char)} (plain : ∀ segment ∈ segments, ¬Dot segment) :
    segments.foldl dropDot output = output ++ segments := by
  induction segments generalizing output with
  | nil => simp
  | cons segment segments ih =>
    rw [List.foldl_cons, dropDot_plain (plain segment List.mem_cons_self),
      ih fun other member => plain other (List.mem_cons_of_mem segment member), List.append_assoc]
    rfl

theorem foldl_dropDot_clean {segments output : List (List Char)} (clean : ∀ item ∈ output, ¬Dot item) :
    ∀ item ∈ segments.foldl dropDot output, ¬Dot item := by
  induction segments generalizing output with
  | nil => exact clean
  | cons segment segments ih => exact ih (dropDot_clean clean)

def dropDots : Normalizer where
  normalize segments := segments.foldl dropDot []
  keeps _ plain := foldl_dropDot_plain plain
  removes _ := foldl_dropDot_clean fun _ member => absurd member List.not_mem_nil

end Dots

end Jiejian.Library.Segments
