import Mathlib.Data.List.Dedup
import Mathlib.Data.List.Nodup

namespace Jiejian.Library.Saturation

section Loop

variable {σ : Type} [DecidableEq σ] {step : σ → σ}

/-- The step is taken until it changes nothing, at most `fuel` times. -/
def saturate (step : σ → σ) : Nat → σ → σ
  | 0, state => state
  | fuel + 1, state => if step state = state then state else saturate step fuel (step state)

theorem saturate_invariant (good : σ → Prop) (kept : ∀ state, good state → good (step state)) (fuel : Nat)
    {state : σ} (start : good state) : good (saturate step fuel state) := by
  induction fuel generalizing state with
  | zero => exact start
  | succ fuel ih =>
    unfold saturate
    by_cases stable : step state = state
    · rw [if_pos stable]
      exact start
    · rw [if_neg stable]
      exact ih (kept state start)

/-- A measure that grows with every change and stays below a bound shows that the fuel is enough. -/
theorem saturate_fixed (good : σ → Prop) (measure : σ → Nat) (bound : Nat)
    (kept : ∀ state, good state → good (step state)) (bounded : ∀ state, good state → measure state ≤ bound)
    (grows : ∀ state, good state → step state ≠ state → measure state < measure (step state)) {fuel : Nat}
    {state : σ} (start : good state) (enough : bound ≤ measure state + fuel) :
    step (saturate step fuel state) = saturate step fuel state := by
  induction fuel generalizing state with
  | zero =>
    by_contra changes
    have more := grows state start changes
    have most := bounded _ (kept state start)
    omega
  | succ fuel ih =>
    unfold saturate
    by_cases stable : step state = state
    · rw [if_pos stable]
      exact stable
    · rw [if_neg stable]
      have more := grows state start stable
      exact ih (kept state start) (by omega)

end Loop

section Sets

variable {κ : Type} [DecidableEq κ] {known new : List κ} {value : κ}

/-- `set.update`, for sets that are kept as lists without repetition: what is known already is not added again. -/
def merge (known new : List κ) : List κ := known ++ new.dedup.filter (· ∉ known)

theorem mem_merge : value ∈ merge known new ↔ value ∈ known ∨ value ∈ new := by
  unfold merge
  rw [List.mem_append, List.mem_filter, List.mem_dedup, decide_eq_true_eq]
  by_cases present : value ∈ known
  · simp [present]
  · simp [present]

theorem subset_merge : known ⊆ merge known new := fun _ present => mem_merge.mpr (.inl present)

theorem nodup_merge (distinct : known.Nodup) : (merge known new).Nodup := by
  unfold merge
  rw [List.nodup_append']
  refine ⟨distinct, (List.nodup_dedup new).filter _, ?_⟩
  intro value present added
  exact absurd present (of_decide_eq_true (List.mem_filter.mp added).2)

theorem merge_eq_self : merge known new = known ↔ new ⊆ known := by
  unfold merge
  rw [List.append_right_eq_self, List.filter_eq_nil_iff]
  simp only [List.mem_dedup, decide_eq_true_eq, not_not]
  exact Iff.rfl

theorem length_merge : known.length ≤ (merge known new).length := by
  unfold merge
  rw [List.length_append]
  omega

/-- An update that changes the set makes it longer. -/
theorem length_merge_lt (changes : merge known new ≠ known) : known.length < (merge known new).length := by
  unfold merge at changes ⊢
  rw [List.length_append]
  have added : new.dedup.filter (· ∉ known) ≠ [] := by
    intro empty
    exact changes (by rw [empty, List.append_nil])
  have positive := List.length_pos_iff.mpr added
  omega

end Sets

end Jiejian.Library.Saturation
