import Mathlib.Logic.Relation

namespace Jiejian.Library.Lease

/-- A unit of work under a fenced lease: open, held under its token, or closed for good. -/
inductive Phase where
  | idle
  | held
  | closed
  deriving DecidableEq, Repr

structure State where
  phase : Phase
  token : Nat
  deriving DecidableEq, Repr

/-- The holder keeps, takes, returns or closes the lease; only taking it issues a token. -/
inductive Step : State → State → Prop
  | keep (lease : State) : Step lease lease
  | acquire (token : Nat) : Step ⟨.idle, token⟩ ⟨.held, token + 1⟩
  | release (token : Nat) : Step ⟨.held, token⟩ ⟨.idle, token⟩
  | close {phase : Phase} (unclosed : phase ≠ .closed) (token : Nat) : Step ⟨phase, token⟩ ⟨.closed, token⟩

/-- Grows at every acquisition and at every end of one. -/
def rank (lease : State) : Nat := 2 * lease.token + if lease.phase = .held then 0 else 1

/-- The holder's claim ended somewhere between the two states. -/
def Ends (before after : State) : Prop := before.phase = .held ∧ after.phase ≠ .held

theorem Step.rank_le {before after : State} (step : Step before after) : rank before ≤ rank after := by
  cases step with
  | keep => exact Nat.le_refl _
  | acquire token =>
    simp only [rank, reduceCtorEq, if_true, if_false]
    omega
  | release token => simp [rank]
  | @close phase unclosed token =>
    by_cases held : phase = .held <;> simp [rank, held]

theorem Step.token_le {before after : State} (step : Step before after) : before.token ≤ after.token := by
  cases step <;> simp

theorem steps_rank_le {before after : State} (steps : Relation.ReflTransGen Step before after) :
    rank before ≤ rank after := by
  induction steps with
  | refl => exact Nat.le_refl _
  | tail _ step ih => exact Nat.le_trans ih step.rank_le

theorem steps_token_le {before after : State} (steps : Relation.ReflTransGen Step before after) :
    before.token ≤ after.token := by
  induction steps with
  | refl => exact Nat.le_refl _
  | tail _ step ih => exact Nat.le_trans ih step.token_le

/-- A lease held again after its claim ended is held under a larger token. -/
theorem ends_once {before after later : State} (ending : Relation.ReflTransGen Step before after)
    (ended : Ends before after) (steps : Relation.ReflTransGen Step after later) (held : later.phase = .held) : before.token < later.token := by
  have grown := steps_rank_le steps
  have issued := steps_token_le ending
  simp only [rank, if_neg ended.2, if_pos held] at grown
  omega

end Jiejian.Library.Lease
