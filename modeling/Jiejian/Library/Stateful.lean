import Mathlib.Data.List.Basic

namespace Jiejian.Library.Stateful

variable {σ ε β γ : Type}

/-- A computation on a state that may raise; what was changed before stays changed. -/
abbrev StatefulRun (σ ε β : Type) : Type := ExceptT ε (StateM σ) β

/-- What comes of a computation that finds the given state. -/
def runFrom (computation : StatefulRun σ ε β) (state : σ) : Except ε β × σ := computation.run.run state

def inspect : StatefulRun σ ε σ := ExceptT.mk fun state => (.ok state, state)

def change (update : σ → σ) : StatefulRun σ ε Unit := ExceptT.mk fun state => (.ok (), update state)

def raise (error : ε) : StatefulRun σ ε β := ExceptT.mk fun state => (.error error, state)

/-- An answer from outside, which may depend on all that the state tells. -/
def ask (answer : σ → Except ε β) : StatefulRun σ ε β := ExceptT.mk fun state => (answer state, state)

/-- `try: body except error: handler`. -/
def attempt (body : StatefulRun σ ε β) (handler : ε → StatefulRun σ ε β) : StatefulRun σ ε β :=
  ExceptT.mk fun state => match runFrom body state with
    | (.ok value, reached) => (.ok value, reached)
    | (.error error, reached) => runFrom (handler error) reached

/-- `try: body finally: closing`; an error of the closing part takes the place of the outcome. -/
def always (body : StatefulRun σ ε β) (closing : StatefulRun σ ε Unit) : StatefulRun σ ε β :=
  ExceptT.mk fun state => match runFrom body state with
    | (outcome, reached) => match runFrom closing reached with
      | (.ok _, closed) => (outcome, closed)
      | (.error error, closed) => (.error error, closed)

/-- From a state with `before`, a value leaves a state with `after`, and an error one with `failed`. -/
def Triple (before : σ → Prop) (computation : StatefulRun σ ε β) (after : β → σ → Prop) (failed : ε → σ → Prop) : Prop :=
  ∀ state, before state → match runFrom computation state with
    | (.ok value, reached) => after value reached
    | (.error error, reached) => failed error reached

theorem runFrom_bind {first : StatefulRun σ ε γ} {next : γ → StatefulRun σ ε β} {state reached : σ} {value : γ}
    (here : runFrom first state = (.ok value, reached)) : runFrom (first >>= next) state = runFrom (next value) reached := by
  show (ExceptT.bindCont next (first.run.run state).1).run (first.run.run state).2 = _
  have shown : first.run.run state = (.ok value, reached) := here
  rw [shown]
  rfl

theorem runFrom_raised {first : StatefulRun σ ε γ} {next : γ → StatefulRun σ ε β} {state reached : σ} {error : ε}
    (here : runFrom first state = (.error error, reached)) : runFrom (first >>= next) state = (.error error, reached) := by
  show (ExceptT.bindCont next (first.run.run state).1).run (first.run.run state).2 = _
  have shown : first.run.run state = (.error error, reached) := here
  rw [shown]
  rfl

theorem runFrom_attempt {body : StatefulRun σ ε β} {handler : ε → StatefulRun σ ε β} {state : σ} :
    runFrom (attempt body handler) state = match runFrom body state with
      | (.ok value, reached) => (.ok value, reached)
      | (.error error, reached) => runFrom (handler error) reached := rfl

theorem runFrom_always {body : StatefulRun σ ε β} {closing : StatefulRun σ ε Unit} {state : σ} :
    runFrom (always body closing) state = match runFrom body state with
      | (outcome, reached) => match runFrom closing reached with
        | (.ok _, closed) => (outcome, closed)
        | (.error error, closed) => (.error error, closed) := rfl

section Rules

variable {before middle : σ → Prop} {after : β → σ → Prop} {failed : ε → σ → Prop}

theorem Triple.run {computation : StatefulRun σ ε β} (triple : Triple before computation after failed) {state : σ}
    (start : before state) {shared : σ → Prop} (done : ∀ value reached, after value reached → shared reached)
    (broken : ∀ error reached, failed error reached → shared reached) : shared (runFrom computation state).2 := by
  have here := triple state start
  cases shown : runFrom computation state with
  | mk outcome reached =>
    rw [shown] at here
    cases outcome with
    | error error => exact broken error reached here
    | ok value => exact done value reached here

theorem Triple.value {value : β} (holds : ∀ state, before state → after value state) :
    Triple before (pure value : StatefulRun σ ε β) after failed := fun state start => holds state start

theorem Triple.raise {error : ε} (holds : ∀ state, before state → failed error state) :
    Triple before (Stateful.raise error : StatefulRun σ ε β) after failed := fun state start => holds state start

theorem Triple.change {update : σ → σ} {after : Unit → σ → Prop} (holds : ∀ state, before state → after () (update state)) :
    Triple before (Stateful.change update : StatefulRun σ ε Unit) after failed := fun state start => holds state start

theorem Triple.ask {answer : σ → Except ε β} (fails : ∀ error state, before state → failed error state) :
    Triple before (Stateful.ask answer) (fun _ => before) failed := by
  intro state start
  show match (answer state, state) with
    | (.ok _, reached) => before reached
    | (.error error, reached) => failed error reached
  cases answer state with
  | error error => exact fails error state start
  | ok value => exact start

theorem Triple.bind {first : StatefulRun σ ε γ} {next : γ → StatefulRun σ ε β} {between : γ → σ → Prop}
    (starts : Triple before first between failed) (continues : ∀ value, Triple (between value) (next value) after failed) :
    Triple before (first >>= next) after failed := by
  intro state start
  have here := starts state start
  cases shown : runFrom first state with
  | mk outcome reached =>
    rw [shown] at here
    cases outcome with
    | error error =>
      rw [runFrom_raised shown]
      exact here
    | ok value =>
      rw [runFrom_bind shown]
      exact continues value reached here

/-- The same rule, where what holds in between has to be named. -/
theorem Triple.through {first : StatefulRun σ ε γ} {next : γ → StatefulRun σ ε β} (between : γ → σ → Prop)
    (starts : Triple before first between failed) (continues : ∀ value, Triple (between value) (next value) after failed) :
    Triple before (first >>= next) after failed := starts.bind continues

/-- What is done next may look at the state it finds. -/
theorem Triple.inspect {next : σ → StatefulRun σ ε β}
    (continues : ∀ found, before found → Triple (fun state => state = found) (next found) after failed) :
    Triple before (Stateful.inspect >>= next) after failed := by
  intro state start
  rw [runFrom_bind (rfl : runFrom (Stateful.inspect : StatefulRun σ ε σ) state = (.ok state, state))]
  exact continues state start state rfl

theorem Triple.attempt {body : StatefulRun σ ε β} {handler : ε → StatefulRun σ ε β} {raised : ε → σ → Prop}
    (tries : Triple before body after raised) (handles : ∀ error, Triple (raised error) (handler error) after failed) :
    Triple before (Stateful.attempt body handler) after failed := by
  intro state start
  have here := tries state start
  rw [runFrom_attempt]
  cases shown : runFrom body state with
  | mk outcome reached =>
    rw [shown] at here
    cases outcome with
    | error error => exact handles error reached here
    | ok value => exact here

theorem Triple.always {body : StatefulRun σ ε β} {closing : StatefulRun σ ε Unit} {ended : β → σ → Prop}
    {raised : ε → σ → Prop} (tries : Triple before body ended raised)
    (closes : ∀ value, Triple (ended value) closing (fun _ => after value) failed)
    (fails : ∀ error, Triple (raised error) closing (fun _ => failed error) failed) :
    Triple before (Stateful.always body closing) after failed := by
  intro state start
  have here := tries state start
  rw [runFrom_always]
  cases shown : runFrom body state with
  | mk outcome reached =>
    rw [shown] at here
    cases outcome with
    | error error =>
      have later := fails error reached here
      dsimp only
      cases closed : runFrom closing reached with
      | mk last final =>
        rw [closed] at later
        cases last with
        | error error' => exact later
        | ok done => exact later
    | ok value =>
      have later := closes value reached here
      dsimp only
      cases closed : runFrom closing reached with
      | mk last final =>
        rw [closed] at later
        cases last with
        | error error' => exact later
        | ok done => exact later

theorem Triple.weaken {before' : σ → Prop} {after' : β → σ → Prop} {failed' : ε → σ → Prop}
    {computation : StatefulRun σ ε β} (triple : Triple before' computation after' failed')
    (start : ∀ state, before state → before' state) (done : ∀ value state, after' value state → after value state)
    (broken : ∀ error state, failed' error state → failed error state) : Triple before computation after failed := by
  intro state holds
  have here := triple state (start state holds)
  cases shown : runFrom computation state with
  | mk outcome reached =>
    rw [shown] at here
    cases outcome with
    | error error => exact broken error reached here
    | ok value => exact done value reached here

/-- A loop keeps an invariant of what it has gone through when every turn does. -/
theorem Triple.forM {α : Type} {invariant : List α → σ → Prop} {turn : α → StatefulRun σ ε Unit} {items : List α}
    (keeps : ∀ earlier item later, items = earlier ++ item :: later →
      Triple (invariant earlier) (turn item) (fun _ => invariant (earlier ++ [item])) failed) :
    Triple (invariant []) (items.forM turn) (fun _ => invariant items) failed := by
  suffices loop : ∀ done rest, items = done ++ rest →
      Triple (invariant done) (rest.forM turn) (fun _ => invariant items) failed from loop [] items rfl
  intro done rest
  induction rest generalizing done with
  | nil =>
    intro split
    rw [List.append_nil] at split
    rw [split]
    exact Triple.value fun _ holds => holds
  | cons item rest ih =>
    intro split
    show Triple _ (turn item >>= fun _ => rest.forM turn) _ _
    refine Triple.bind (keeps done item rest split) fun _ => ih (done ++ [item]) ?_
    rw [List.append_assoc, List.singleton_append]
    exact split

end Rules

end Jiejian.Library.Stateful
