import Mathlib.Data.List.Basic

namespace Jiejian.Library.Logged

variable {α ε β γ σ : Type}

/-- A computation that writes a log and may fail; a failure keeps what was written. -/
abbrev LoggedRun (α ε β : Type) : Type := ExceptT ε (StateM (List α)) β

/-- What comes of a computation that finds the given log. -/
def runFrom (computation : LoggedRun α ε β) (log : List α) : Except ε β × List α := computation.run.run log

def record (entry : α) : LoggedRun α ε Unit := ExceptT.mk fun log => (.ok (), log ++ [entry])

/-- An answer from outside, which may depend on all that was written. -/
def ask (answer : List α → Except ε β) : LoggedRun α ε β := ExceptT.mk fun log => (answer log, log)

/-- From a log with `before`, a value leaves a log with `after`, and a failure one with `failed`. -/
def Triple (before : List α → Prop) (computation : LoggedRun α ε β) (after : β → List α → Prop)
    (failed : List α → Prop) : Prop :=
  ∀ log, before log → match runFrom computation log with
    | (.ok value, written) => after value written
    | (.error _, written) => failed written

theorem runFrom_bind {first : LoggedRun α ε γ} {next : γ → LoggedRun α ε β} {log written : List α} {value : γ}
    (here : runFrom first log = (.ok value, written)) : runFrom (first >>= next) log = runFrom (next value) written := by
  show (ExceptT.bindCont next (first.run.run log).1).run (first.run.run log).2 = _
  have shown : first.run.run log = (.ok value, written) := here
  rw [shown]
  rfl

theorem runFrom_failed {first : LoggedRun α ε γ} {next : γ → LoggedRun α ε β} {log written : List α} {error : ε}
    (here : runFrom first log = (.error error, written)) : runFrom (first >>= next) log = (.error error, written) := by
  show (ExceptT.bindCont next (first.run.run log).1).run (first.run.run log).2 = _
  have shown : first.run.run log = (.error error, written) := here
  rw [shown]
  rfl

section Rules

variable {before middle : List α → Prop} {after : β → List α → Prop} {failed : List α → Prop}

theorem Triple.value {value : β} (holds : ∀ log, before log → after value log) :
    Triple before (pure value : LoggedRun α ε β) after failed := fun log start => holds log start

theorem Triple.record (entry : α) :
    Triple before (Logged.record entry : LoggedRun α ε Unit)
      (fun _ log => ∃ earlier, before earlier ∧ log = earlier ++ [entry]) failed :=
  fun log start => ⟨log, start, rfl⟩

theorem Triple.ask {answer : List α → Except ε β} (fails : ∀ log, before log → failed log) :
    Triple before (Logged.ask answer) (fun _ => before) failed := by
  intro log start
  show match (answer log, log) with
    | (.ok _, written) => before written
    | (.error _, written) => failed written
  cases answer log with
  | error error => exact fails log start
  | ok value => exact start

theorem Triple.bind {first : LoggedRun α ε γ} {next : γ → LoggedRun α ε β} {between : γ → List α → Prop}
    (starts : Triple before first between failed) (continues : ∀ value, Triple (between value) (next value) after failed) :
    Triple before (first >>= next) after failed := by
  intro log start
  have here := starts log start
  cases shown : runFrom first log with
  | mk outcome written =>
    rw [shown] at here
    cases outcome with
    | error error =>
      rw [runFrom_failed shown]
      exact here
    | ok value =>
      rw [runFrom_bind shown]
      exact continues value written here

/-- A check leaves the log alone, and once it passes its value is known. -/
theorem Triple.check {check : Except ε γ} {next : γ → LoggedRun α ε β} (fails : ∀ log, before log → failed log)
    (continues : ∀ value, check = .ok value → Triple before (next value) after failed) :
    Triple before (liftM check >>= next) after failed := by
  cases shown : check with
  | error error => exact fun log start => fails log start
  | ok value => exact continues value shown

theorem Triple.weaken {before' : List α → Prop} {after' : β → List α → Prop} {failed' : List α → Prop}
    {computation : LoggedRun α ε β} (triple : Triple before' computation after' failed')
    (start : ∀ log, before log → before' log) (done : ∀ value log, after' value log → after value log)
    (broken : ∀ log, failed' log → failed log) : Triple before computation after failed := by
  intro log holds
  have here := triple log (start log holds)
  cases shown : runFrom computation log with
  | mk outcome written =>
    rw [shown] at here
    cases outcome with
    | error error => exact broken written here
    | ok value => exact done value written here

/-- A loop keeps what every turn keeps. -/
theorem Triple.foldlM {invariant : σ → List α → Prop} {step : σ → β → LoggedRun α ε σ} {items : List β}
    (keeps : ∀ item ∈ items, ∀ state, Triple (invariant state) (step state item) invariant failed) (start : σ) :
    Triple (invariant start) (items.foldlM step start) invariant failed := by
  induction items generalizing start with
  | nil => exact Triple.value fun _ holds => holds
  | cons item rest ih =>
    rw [List.foldlM_cons]
    exact Triple.bind (keeps item List.mem_cons_self start)
      fun state => ih (fun other member => keeps other (List.mem_cons_of_mem item member)) state

end Rules

end Jiejian.Library.Logged
