import Mathlib.Data.List.Basic

namespace Jiejian.Library.Transition

/-- Runs of a total step function over a list of labels. -/
def run {σ α : Type} (step : σ → α → σ) (start : σ) (labels : List α) : σ := labels.foldl step start

@[simp] theorem run_nil {σ α : Type} (step : σ → α → σ) (start : σ) : run step start [] = start := rfl

@[simp] theorem run_cons {σ α : Type} (step : σ → α → σ) (start : σ) (label : α) (labels : List α) :
    run step start (label :: labels) = run step (step start label) labels := rfl

theorem run_append {σ α : Type} (step : σ → α → σ) (start : σ) (first second : List α) :
    run step start (first ++ second) = run step (run step start first) second :=
  List.foldl_append

theorem run_snoc {σ α : Type} (step : σ → α → σ) (start : σ) (labels : List α) (label : α) :
    run step start (labels ++ [label]) = step (run step start labels) label := by
  rw [run_append]
  rfl

/-- A state is reachable when some list of labels leads to it. -/
def Reachable {σ α : Type} (step : σ → α → σ) (start state : σ) : Prop :=
  ∃ labels, state = run step start labels

theorem run_invariant {σ α : Type} {step : σ → α → σ} {invariant : σ → Prop}
    (preserved : ∀ state label, invariant state → invariant (step state label))
    {start : σ} (initial : invariant start) (labels : List α) : invariant (run step start labels) := by
  induction labels generalizing start with
  | nil => exact initial
  | cons label labels ih => exact ih (preserved start label initial)

/-- The condition holds at every step of a run. -/
def Along {σ α : Type} (step : σ → α → σ) (condition : σ → α → Prop) : σ → List α → Prop
  | _, [] => True
  | state, label :: labels => condition state label ∧ Along step condition (step state label) labels

/-- An invariant that the steps under a condition keep holds after a run along that condition. -/
theorem run_invariant_along {σ α : Type} {step : σ → α → σ} {condition : σ → α → Prop} {invariant : σ → Prop}
    (preserved : ∀ state label, condition state label → invariant state → invariant (step state label))
    {start : σ} {labels : List α} (along : Along step condition start labels) (initial : invariant start) :
    invariant (run step start labels) := by
  induction labels generalizing start with
  | nil => exact initial
  | cons label labels ih => exact ih along.2 (preserved start label along.1 initial)

theorem reachable_invariant {σ α : Type} {step : σ → α → σ} {invariant : σ → Prop}
    (preserved : ∀ state label, invariant state → invariant (step state label))
    {start state : σ} (initial : invariant start) (reached : Reachable step start state) :
    invariant state := by
  obtain ⟨labels, rfl⟩ := reached
  exact run_invariant preserved initial labels

/-- A reflexive and transitive relation that holds across every step from a good state
holds across every run. -/
theorem run_relation {σ α : Type} {step : σ → α → σ} {invariant : σ → Prop} {relation : σ → σ → Prop}
    (preserved : ∀ state label, invariant state → invariant (step state label))
    (stepped : ∀ state label, invariant state → relation state (step state label))
    (reflexive : ∀ state, relation state state)
    (transitive : ∀ a b c, relation a b → relation b c → relation a c)
    {start : σ} (initial : invariant start) (labels : List α) : relation start (run step start labels) := by
  induction labels generalizing start with
  | nil => exact reflexive start
  | cons label labels ih =>
    exact transitive _ _ _ (stepped start label initial) (ih (preserved start label initial))

end Jiejian.Library.Transition
