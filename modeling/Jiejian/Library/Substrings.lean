import Mathlib.Data.List.Infix

namespace Jiejian.Library.Substrings

variable {α : Type} [DecidableEq α]

/-- The pieces between the occurrences of a mark, found from left to right. -/
def splitFrom (mark : List α) : Nat → List α → List (List α)
  | 0, text => [text]
  | fuel + 1, text =>
    if mark <+: text then [] :: splitFrom mark fuel (text.drop mark.length)
    else match text with
      | [] => [[]]
      | item :: rest => (splitFrom mark fuel rest).modifyHead (item :: ·)

/-- `text.split(mark)`. -/
def split (mark text : List α) : List (List α) := splitFrom mark (text.length + 1) text

/-- `text.count(mark)`. -/
def count (mark text : List α) : Nat := (split mark text).length - 1

/-- `text.replace(mark, new)`. -/
def replace (mark new text : List α) : List α := new.intercalate (split mark text)

variable {mark text : List α}

theorem splitFrom_ne_nil {fuel : Nat} : splitFrom mark fuel text ≠ [] := by
  induction fuel generalizing text with
  | zero => exact List.cons_ne_nil _ _
  | succ fuel ih =>
    unfold splitFrom
    by_cases here : mark <+: text
    · rw [if_pos here]
      exact List.cons_ne_nil _ _
    · rw [if_neg here]
      cases text with
      | nil => exact List.cons_ne_nil _ _
      | cons item rest =>
        dsimp only
        cases pieces : splitFrom mark fuel rest with
        | nil => exact absurd pieces ih
        | cons piece pieces => exact List.cons_ne_nil _ _

/-- The first piece starts the text, and no piece has the mark in it. -/
theorem splitFrom_spec (nonempty : mark ≠ []) {fuel : Nat} (enough : text.length < fuel) :
    mark.intercalate (splitFrom mark fuel text) = text ∧ (∀ piece ∈ splitFrom mark fuel text, ¬mark <:+: piece) ∧
      ∀ piece ∈ (splitFrom mark fuel text).head?, piece <+: text := by
  induction fuel generalizing text with
  | zero => omega
  | succ fuel ih =>
    unfold splitFrom
    have none' : ¬mark <:+: [] := fun inside => nonempty (List.infix_nil.mp inside)
    by_cases here : mark <+: text
    · rw [if_pos here]
      obtain ⟨rest, built⟩ := here
      have dropped : text.drop mark.length = rest := by rw [← built, List.drop_left]
      have positive := List.length_pos_of_ne_nil nonempty
      have shorter : rest.length < fuel := by
        have lengths := congrArg List.length built
        rw [List.length_append] at lengths
        omega
      obtain ⟨joined, clean, _⟩ := ih shorter
      rw [dropped]
      refine ⟨?_, List.forall_mem_cons.mpr ⟨none', clean⟩, ?_⟩
      · cases pieces : splitFrom mark fuel rest with
        | nil => exact absurd pieces splitFrom_ne_nil
        | cons piece pieces' =>
          rw [List.intercalate_cons_cons, ← pieces, joined, List.nil_append]
          exact built
      · intro piece first
        rw [List.head?_cons] at first
        rw [← Option.some.inj first]
        exact List.nil_prefix
    · rw [if_neg here]
      cases text with
      | nil =>
        refine ⟨rfl, ?_, ?_⟩
        · intro piece member
          rw [List.mem_singleton.mp member]
          exact none'
        · intro piece first
          rw [← Option.some.inj first]
      | cons item rest =>
        dsimp only
        obtain ⟨joined, clean, front⟩ := @ih rest (by rw [List.length_cons] at enough; omega)
        cases pieces : splitFrom mark fuel rest with
        | nil => exact absurd pieces splitFrom_ne_nil
        | cons piece others =>
          rw [pieces] at joined clean front
          have starts : piece <+: rest := front piece rfl
          refine ⟨?_, ?_, ?_⟩
          · cases others with
            | nil =>
              rw [List.intercalate_singleton] at joined
              rw [List.modifyHead_cons, List.intercalate_singleton, joined]
            | cons other others =>
              rw [List.intercalate_cons_cons] at joined
              rw [List.modifyHead_cons, List.intercalate_cons_cons, ← joined]
              rfl
          · refine List.forall_mem_cons.mpr ⟨fun inside => ?_, fun other member => clean other (List.mem_cons_of_mem _ member)⟩
            cases List.infix_cons_iff.mp inside with
            | inl first => exact here (first.trans (List.cons_prefix_cons.mpr ⟨rfl, starts⟩))
            | inr later => exact clean piece List.mem_cons_self later
          · intro other first
            rw [← Option.some.inj first]
            exact List.cons_prefix_cons.mpr ⟨rfl, starts⟩

/-- A text with the mark once: what is before it and after it has none, and it is exchanged. -/
theorem count_one (nonempty : mark ≠ []) (one : count mark text = 1) (new : List α) :
    ∃ before after, text = before ++ mark ++ after ∧ ¬mark <:+: before ∧ ¬mark <:+: after ∧
      replace mark new text = before ++ new ++ after := by
  obtain ⟨joined, clean, _⟩ := @splitFrom_spec _ _ mark text nonempty _ (Nat.lt_succ_self _)
  unfold count split at one
  unfold replace split
  cases pieces : splitFrom mark (text.length + 1) text with
  | nil => exact absurd pieces splitFrom_ne_nil
  | cons before others =>
    rw [pieces] at joined clean one
    obtain ⟨after, only⟩ := List.length_eq_one_iff.mp (by rw [List.length_cons] at one; omega : others.length = 1)
    rw [only, List.intercalate_cons_cons, List.intercalate_singleton] at joined
    rw [only] at clean
    refine ⟨before, after, joined.symm, clean before List.mem_cons_self, clean after (by simp), ?_⟩
    rw [only, List.intercalate_cons_cons, List.intercalate_singleton]

end Jiejian.Library.Substrings
