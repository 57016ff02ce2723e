import Jiejian.Library.Outcome
import Mathlib.Data.List.Perm.Basic

namespace Jiejian.Library.Arrangements

open Outcome

variable {ε α β γ δ : Type}

/-- The lists hold related items, whatever the order they stand in. -/
def Rearranged (related : α → β → Prop) (left : List α) (right : List β) : Prop :=
  ∃ middle, left.Perm middle ∧ List.Forall₂ related middle right

theorem rearranged_of_perm {related : α → α → Prop} (reflexive : ∀ item, related item item) {left right : List α}
    (perm : left.Perm right) : Rearranged related left right :=
  ⟨right, perm, List.forall₂_same.mpr fun item _ => reflexive item⟩

theorem perm_of_rearranged {left right : List α} (same : Rearranged Eq left right) : left.Perm right := by
  obtain ⟨middle, perm, equal⟩ := same
  rw [List.forall₂_eq_eq_eq] at equal
  rw [← equal]
  exact perm

theorem Rearranged.imp {few many : α → β → Prop} {left : List α} {right : List β} (same : Rearranged few left right)
    (wider : ∀ item ∈ left, ∀ other ∈ right, few item other → many item other) : Rearranged many left right := by
  obtain ⟨middle, perm, pairs⟩ := same
  refine ⟨middle, perm, ?_⟩
  have inside : ∀ item ∈ middle, item ∈ left := fun item member => perm.mem_iff.mpr member
  clear perm
  induction pairs with
  | nil => exact .nil
  | cons here _ ih =>
    apply List.Forall₂.cons
    · exact wider _ (inside _ List.mem_cons_self) _ List.mem_cons_self here
    · exact ih (fun item member other more => wider item member other (List.mem_cons_of_mem _ more))
        fun item member => inside item (List.mem_cons_of_mem _ member)

theorem Rearranged.flip {related : α → β → Prop} {left : List α} {right : List β} (same : Rearranged related left right) :
    Rearranged (fun item other => related other item) right left := by
  obtain ⟨middle, perm, pairs⟩ := same
  obtain ⟨moved, pairs', perm'⟩ := List.perm_comp_forall₂ perm pairs
  exact ⟨moved, perm'.symm, pairs'.flip⟩

/-- A pass over a list in another order gives the results in another order. -/
theorem mapM_perm {step : α → Except ε γ} {left right : List α} {results : List γ} (perm : left.Perm right)
    (passed : left.mapM step = .ok results) : ∃ others, right.mapM step = .ok others ∧ results.Perm others := by
  induction perm generalizing results with
  | nil => exact ⟨results, passed, .refl _⟩
  | cons item _ ih =>
    cases mapM_eq_ok_iff.mp passed with
    | cons here rest =>
      obtain ⟨others, moved, same⟩ := ih (mapM_eq_ok_iff.mpr rest)
      exact ⟨_, mapM_eq_ok_iff.mpr (.cons here (mapM_eq_ok_iff.mp moved)), same.cons _⟩
  | swap first second rest =>
    cases mapM_eq_ok_iff.mp passed with
    | cons here later =>
      cases later with
      | cons there rest => exact ⟨_, mapM_eq_ok_iff.mpr (.cons there (.cons here rest)), .swap _ _ _⟩
  | trans _ _ ih ih' =>
    obtain ⟨middle, moved, same⟩ := ih passed
    obtain ⟨others, moved', same'⟩ := ih' moved
    exact ⟨others, moved', same.trans same'⟩

/-- Passes over rearranged lists whose steps give related results give rearranged results. -/
theorem mapM_rearranged {related : α → β → Prop} {same : γ → δ → Prop} {step : α → Except ε γ} {step' : β → Except ε δ}
    (each : ∀ item other result, related item other → step item = .ok result →
      ∃ result', step' other = .ok result' ∧ same result result')
    {left : List α} {right : List β} {results : List γ} (arranged : Rearranged related left right)
    (passed : left.mapM step = .ok results) :
    ∃ others, right.mapM step' = .ok others ∧ Rearranged same results others := by
  obtain ⟨middle, perm, pairs⟩ := arranged
  obtain ⟨moved, passed', perm'⟩ := mapM_perm perm passed
  have paired : ∃ others, right.mapM step' = .ok others ∧ List.Forall₂ same moved others := by
    clear perm perm' passed
    induction pairs generalizing moved with
    | nil =>
      cases mapM_eq_ok_iff.mp passed'
      exact ⟨[], rfl, .nil⟩
    | cons here _ ih =>
      cases mapM_eq_ok_iff.mp passed' with
      | cons stepped rest =>
        obtain ⟨result, stepped', fits⟩ := each _ _ _ here stepped
        obtain ⟨others, passed'', fits'⟩ := ih _ (mapM_eq_ok_iff.mpr rest)
        exact ⟨result :: others, mapM_eq_ok_iff.mpr (.cons stepped' (mapM_eq_ok_iff.mp passed'')), .cons fits fits'⟩
  obtain ⟨others, passed'', fits⟩ := paired
  exact ⟨others, passed'', moved, perm', fits⟩

end Jiejian.Library.Arrangements
