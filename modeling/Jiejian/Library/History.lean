import Mathlib.Data.List.Chain
import Mathlib.Data.List.Range

namespace Jiejian.Library.History

variable {ε σ : Type}

/-- A log that leads from one state to another: each entry starts where the one before it ended. -/
def Follows (source target : ε → σ) : σ → List ε → σ → Prop
  | start, [], finish => start = finish
  | start, entry :: rest, finish => source entry = start ∧ Follows source target (target entry) rest finish

/-- Consecutive numbers from `first` on. -/
def Numbered (number : ε → Nat) (first : Nat) (log : List ε) : Prop := log.map number = List.range' first log.length

variable {source target : ε → σ} {number : ε → Nat}

theorem follows_append {start finish : σ} {first second : List ε} :
    Follows source target start (first ++ second) finish ↔
      ∃ middle, Follows source target start first middle ∧ Follows source target middle second finish := by
  induction first generalizing start with
  | nil => simp [Follows]
  | cons entry rest ih => simp [Follows, ih, and_assoc]

theorem follows_one {entry : ε} {start finish : σ} (leaves : source entry = start) (reaches : target entry = finish) :
    Follows source target start [entry] finish := ⟨leaves, reaches⟩

/-- Every later entry starts in the state the entry before it reached. -/
theorem Follows.isChain {start finish : σ} {log : List ε} (follows : Follows source target start log finish) :
    log.IsChain fun earlier later => source later = target earlier := by
  induction log generalizing start with
  | nil => exact .nil
  | cons entry rest ih =>
    cases rest with
    | nil => exact .singleton entry
    | cons next tail => exact .cons_cons follows.2.1 (ih follows.2)

/-- A log with entries ends in the target of its last one. -/
theorem Follows.last {start finish : σ} {log : List ε} (follows : Follows source target start log finish)
    (present : log ≠ []) : log.getLast?.map target = some finish := by
  induction log generalizing start with
  | nil => exact absurd rfl present
  | cons entry rest ih =>
    cases rest with
    | nil => simpa [Follows] using follows.2
    | cons next tail =>
      rw [List.getLast?_cons_cons]
      exact ih follows.2 (by simp)

theorem Numbered.append {first count : Nat} {log added : List ε} (length : log.length = count)
    (numbered : Numbered number first log) (more : Numbered number (first + count) added) :
    Numbered number first (log ++ added) := by
  unfold Numbered at *
  subst length
  rw [List.map_append, numbered, more, List.length_append, ← List.range'_append_1]

theorem numbered_one {first : Nat} {entry : ε} (here : number entry = first) : Numbered number first [entry] := by
  simp [Numbered, here]

theorem Numbered.sorted {first : Nat} {log : List ε} (numbered : Numbered number first log) :
    log.Pairwise fun a b => number a ≤ number b := by
  have increasing : (log.map number).Pairwise (· < ·) := by
    rw [numbered]
    exact List.pairwise_lt_range'
  exact (List.pairwise_map.mp increasing).imp Nat.le_of_lt

end Jiejian.Library.History
