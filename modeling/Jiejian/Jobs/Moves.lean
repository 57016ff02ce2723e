import Jiejian.Jobs.System
import Jiejian.Library.History

namespace Jiejian.Jobs.Moves
open Jiejian.Errors Jiejian.Library Jiejian.Library.Outcome
open Jiejian.Jobs.Records Jiejian.Jobs.Models Jiejian.Jobs.Repository Jiejian.Jobs.Control Jiejian.Jobs.Targets
open Jiejian.Jobs.Queue Jiejian.Jobs.Attempts Jiejian.Jobs.Completion Jiejian.Jobs.System

variable {ρ ν : Type}

/-- How a final state is reported to the target. -/
def outcomeState : JobTargetOutcome → JobState
  | .cancelled => .cancelled
  | .failed => .failed

/-- Everything one committed transaction can do to a job row and to the tables of its target. -/
inductive JobMove (service : Service ρ ν) (published : Option PublishedResult) (targets : Targets ρ) (row : JobRow) :
    Targets ρ → JobRow → Prop
  | claimed {leaseOwner : String} {nowUs leaseExpiresAtUs : Nat} {view : TargetView ν} {targets' : Targets ρ}
      (waiting : row.state.isWaiting = true) (uncancelled : row.cancelRequestedAtUs = none)
      (budget : row.attempt < row.maxAttempts) (clock : row.updatedAtUs ≤ nowUs)
      (advanced : service.targets.advanceAfterClaim targets (claimedRow leaseOwner nowUs leaseExpiresAtUs row) nowUs
        = .ok (view, targets')) :
      JobMove service published targets row targets' (claimedRow leaseOwner nowUs leaseExpiresAtUs row)
  | renewed {nowUs leaseExpiresAtUs : Nat} (running : row.state = .running) (clock : row.updatedAtUs ≤ nowUs)
      (owned : row.leaseOwner ≠ none) :
      JobMove service published targets row targets (renewedRow nowUs leaseExpiresAtUs row)
  | cancelRequested {nowUs : Nat} (running : row.state = .running) (clock : row.updatedAtUs ≤ nowUs) :
      JobMove service published targets row targets (cancelRequestedRow nowUs row)
  | dropped (outcome : JobTargetOutcome) {nowUs : Nat} {marked : JobRow} {view : TargetView ν} {targets' : Targets ρ}
      (waiting : row.state.isWaiting = true) (clock : row.updatedAtUs ≤ nowUs)
      (marking : marked = row ∨ marked = cancelRequestedRow nowUs row)
      (finished : service.targets.finish targets (droppedRow (outcomeState outcome) nowUs marked) nowUs outcome
        = .ok (view, targets')) :
      JobMove service published targets row targets' (droppedRow (outcomeState outcome) nowUs marked)
  | requeued {nowUs availableAtUs : Nat} (running : row.state = .running) (clock : row.updatedAtUs ≤ nowUs)
      (uncancelled : row.cancelRequestedAtUs = none) :
      JobMove service published targets row targets (releasedRow .retryWait nowUs (some availableAtUs) row)
  | ended (outcome : JobTargetOutcome) {nowUs : Nat} {view : TargetView ν} {targets' : Targets ρ}
      (running : row.state = .running) (clock : row.updatedAtUs ≤ nowUs)
      (finished : service.targets.finish targets (releasedRow (outcomeState outcome) nowUs none row) nowUs outcome
        = .ok (view, targets')) :
      JobMove service published targets row targets' (releasedRow (outcomeState outcome) nowUs none row)
  | published {result : PublishedResult} {run : RunRow} {runTargets : Targets ρ} {other : ρ}
      (announced : published = some result) (named : result.jobId = row.jobId) (running : row.state = .running)
      (clock : row.updatedAtUs ≤ result.completedAtUs) (target : row.target = .run result.runId)
      (lifecycle : result.lifecycle = .completed ∨ result.lifecycle = .safetyStopped)
      (matrix : runMatrix result.lifecycle result.verdict = true)
      (finished : finishRun targets result.runId result.lifecycle result.verdict result.completedAtUs
        = (some run, runTargets)) :
      JobMove service published targets row { runTargets with other }
        (releasedRow .succeeded result.completedAtUs none row)
  | completed {nowUs : Nat} {other : ρ} (running : row.state = .running) (clock : row.updatedAtUs ≤ nowUs)
      (notRun : ∀ runId, row.target ≠ .run runId) :
      JobMove service published targets row { targets with other } (releasedRow .succeeded nowUs none row)

/-- The moves that the job control makes through the handlers of the targets. -/
inductive HandledMove (service : Service ρ ν) (targets : Targets ρ) (row : JobRow) : Targets ρ → JobRow → Prop
  | claimed {leaseOwner : String} {nowUs leaseExpiresAtUs : Nat} {view : TargetView ν} {targets' : Targets ρ}
      (waiting : row.state.isWaiting = true) (uncancelled : row.cancelRequestedAtUs = none)
      (budget : row.attempt < row.maxAttempts) (clock : row.updatedAtUs ≤ nowUs)
      (advanced : service.targets.advanceAfterClaim targets (claimedRow leaseOwner nowUs leaseExpiresAtUs row) nowUs
        = .ok (view, targets')) :
      HandledMove service targets row targets' (claimedRow leaseOwner nowUs leaseExpiresAtUs row)
  | renewed {nowUs leaseExpiresAtUs : Nat} (running : row.state = .running) (clock : row.updatedAtUs ≤ nowUs)
      (owned : row.leaseOwner ≠ none) : HandledMove service targets row targets (renewedRow nowUs leaseExpiresAtUs row)
  | cancelRequested {nowUs : Nat} (running : row.state = .running) (clock : row.updatedAtUs ≤ nowUs) :
      HandledMove service targets row targets (cancelRequestedRow nowUs row)
  | dropped (outcome : JobTargetOutcome) {nowUs : Nat} {marked : JobRow} {view : TargetView ν} {targets' : Targets ρ}
      (waiting : row.state.isWaiting = true) (clock : row.updatedAtUs ≤ nowUs)
      (marking : marked = row ∨ marked = cancelRequestedRow nowUs row)
      (finished : service.targets.finish targets (droppedRow (outcomeState outcome) nowUs marked) nowUs outcome
        = .ok (view, targets')) :
      HandledMove service targets row targets' (droppedRow (outcomeState outcome) nowUs marked)
  | requeued {nowUs availableAtUs : Nat} (running : row.state = .running) (clock : row.updatedAtUs ≤ nowUs)
      (uncancelled : row.cancelRequestedAtUs = none) :
      HandledMove service targets row targets (releasedRow .retryWait nowUs (some availableAtUs) row)
  | ended (outcome : JobTargetOutcome) {nowUs : Nat} {view : TargetView ν} {targets' : Targets ρ}
      (running : row.state = .running) (clock : row.updatedAtUs ≤ nowUs)
      (finished : service.targets.finish targets (releasedRow (outcomeState outcome) nowUs none row) nowUs outcome
        = .ok (view, targets')) :
      HandledMove service targets row targets' (releasedRow (outcomeState outcome) nowUs none row)

theorem HandledMove.move {service : Service ρ ν} {published : Option PublishedResult} {targets targets' : Targets ρ}
    {row row' : JobRow} (handled : HandledMove service targets row targets' row') :
    JobMove service published targets row targets' row' := by
  cases handled with
  | claimed waiting uncancelled budget clock advanced => exact .claimed waiting uncancelled budget clock advanced
  | renewed running clock owned => exact .renewed running clock owned
  | cancelRequested running clock => exact .cancelRequested running clock
  | dropped outcome waiting clock marking finished => exact .dropped outcome waiting clock marking finished
  | requeued running clock uncancelled => exact .requeued running clock uncancelled
  | ended outcome running clock finished => exact .ended outcome running clock finished

/-- The events one transaction appends: numbered on from the `count` stored ones, leading from the state the
row had to the state it reaches. -/
structure LogStep (jobId : String) (count : Nat) (source : JobState) (added : List JobEventRow) (target : JobState) :
    Prop where
  owner : ∀ event ∈ added, event.jobId = jobId
  numbered : History.Numbered JobEventRow.sequence (1 + count) added
  follows : History.Follows JobEventRow.sourceState JobEventRow.targetState (some source) added (some target)

/-- What every stored job row satisfies. -/
structure RowSound (row : JobRow) : Prop where
  token : row.fencingToken = row.attempt
  budget : row.attempt ≤ row.maxAttempts
  limit : 1 ≤ row.maxAttempts
  owner : row.leaseOwner.isSome = true ↔ row.state = .running
  expiry : row.leaseExpiresAtUs.isSome = true ↔ row.state = .running
  uncancelled : row.state.isWaiting = true → row.cancelRequestedAtUs = none
  unclaimed : row.state = .pending → row.attempt = 0
  claimed : row.state = .running ∨ row.state = .retryWait → 1 ≤ row.attempt
  created : row.createdAtUs ≤ row.updatedAtUs
  requested : ∀ time ∈ row.cancelRequestedAtUs, row.createdAtUs ≤ time
  operation : targetOperationValid row.target row.operationType row.maxAttempts = true

/-- The job table: one row for each id, every row sound. -/
structure RowsSound (db : Db ρ) : Prop where
  keyed : Table.Keyed JobRow.jobId db.jobs
  sound : ∀ row ∈ db.jobs, RowSound row

/-- A job as every submission creates it. -/
structure Fresh (job : JobRow) : Prop where
  state : job.state = .pending
  attempt : job.attempt = 0
  token : job.fencingToken = 0
  owner : job.leaseOwner = none
  expiry : job.leaseExpiresAtUs = none
  cancel : job.cancelRequestedAtUs = none
  created : job.createdAtUs = job.updatedAtUs

/-- The runs after a submission: a run job brings its queued run, any other job none. -/
def Enlisted (job : JobRow) (runs runs' : List RunRow) : Prop :=
  (∃ run : RunRow, job.target = .run run.runId ∧ Table.lookup RunRow.runId runs run.runId = none ∧
    run.lifecycle = .queued ∧ run.verdict = none ∧ run.updatedAtUs = job.updatedAtUs ∧ runs' = runs ++ [run]) ∨
  ((∀ runId, job.target ≠ .run runId) ∧ runs' = runs)

/-- The whole effect of a committed transaction. -/
inductive Commit (service : Service ρ ν) (published : Option PublishedResult) (fits : JobRow → Prop) (db : Db ρ) :
    Db ρ → Prop
  | unchanged : Commit service published fits db db
  | enqueued {job : JobRow} {event : JobEventRow} {targets' : Targets ρ} (fit : fits job) (fresh : Fresh job)
      (unique : db.job job.jobId = none) (distinct : ∀ row ∈ db.jobs, row.target ≠ job.target)
      (valid : validateJobFields job = true)
      (enlisted : Enlisted job db.targets.runs targets'.runs)
      (owner : event.jobId = job.jobId) (number : event.sequence = (db.listForJob job.jobId).length + 1)
      (leaves : event.sourceState = none) (reaches : event.targetState = some .pending) :
      Commit service published fits db
        { db with jobs := db.jobs ++ [job], events := db.events ++ [event], targets := targets' }
  | moved {row row' : JobRow} {targets' : Targets ρ} {added : List JobEventRow} (stored : row ∈ db.jobs)
      (fit : fits row) (move : JobMove service published db.targets row targets' row')
      (logged : LogStep row.jobId (db.listForJob row.jobId).length row.state added row'.state) :
      Commit service published fits db
        { storeJob db row' with events := db.events ++ added, targets := targets' }

/-- The whole effect of a transaction of the job control: nothing, or one such move. -/
inductive Handled (service : Service ρ ν) (fits : JobRow → Prop) (db : Db ρ) : Db ρ → Prop
  | unchanged : Handled service fits db db
  | moved {row row' : JobRow} {targets' : Targets ρ} {added : List JobEventRow} (stored : row ∈ db.jobs)
      (fit : fits row) (move : HandledMove service db.targets row targets' row')
      (logged : LogStep row.jobId (db.listForJob row.jobId).length row.state added row'.state) :
      Handled service fits db { storeJob db row' with events := db.events ++ added, targets := targets' }

theorem Handled.commit {service : Service ρ ν} {published : Option PublishedResult} {fits : JobRow → Prop}
    {db db' : Db ρ} (handled : Handled service fits db db') : Commit service published fits db db' := by
  cases handled with
  | unchanged => exact .unchanged
  | moved stored fit move logged => exact .moved stored fit move.move logged

@[simp] theorem claimedRow_jobId (leaseOwner : String) (nowUs leaseExpiresAtUs : Nat) (row : JobRow) :
    (claimedRow leaseOwner nowUs leaseExpiresAtUs row).jobId = row.jobId := rfl

@[simp] theorem renewedRow_jobId (nowUs leaseExpiresAtUs : Nat) (row : JobRow) :
    (renewedRow nowUs leaseExpiresAtUs row).jobId = row.jobId := rfl

@[simp] theorem cancelRequestedRow_jobId (nowUs : Nat) (row : JobRow) :
    (cancelRequestedRow nowUs row).jobId = row.jobId := rfl

@[simp] theorem droppedRow_jobId (state : JobState) (nowUs : Nat) (row : JobRow) :
    (droppedRow state nowUs row).jobId = row.jobId := rfl

@[simp] theorem releasedRow_jobId (state : JobState) (nowUs : Nat) (availableAtUs : Option Nat) (row : JobRow) :
    (releasedRow state nowUs availableAtUs row).jobId = row.jobId := rfl

@[simp] theorem cancelRequestedRow_state (nowUs : Nat) (row : JobRow) :
    (cancelRequestedRow nowUs row).state = row.state := rfl

@[simp] theorem droppedRow_state (state : JobState) (nowUs : Nat) (row : JobRow) :
    (droppedRow state nowUs row).state = state := rfl

@[simp] theorem releasedRow_state (state : JobState) (nowUs : Nat) (availableAtUs : Option Nat) (row : JobRow) :
    (releasedRow state nowUs availableAtUs row).state = state := rfl

theorem fenced_iff {jobId leaseOwner : String} {fencingToken : Nat} {row : JobRow} :
    fenced jobId leaseOwner fencingToken row = true ↔
      row.jobId = jobId ∧ row.state = .running ∧ row.leaseOwner = some leaseOwner ∧
        row.fencingToken = fencingToken := by
  simp [fenced, and_assoc]

/-- A successful job update stores one row that met its condition. -/
theorem updateJob_some {db db' : Db ρ} (keyed : Table.Keyed JobRow.jobId db.jobs) {condition : JobRow → Bool}
    {set : JobRow → JobRow} {jobId : String} {job : JobRow}
    (updated : updateJob db condition set = (some job, db'))
    (targeted : ∀ row, condition row = true → row.jobId = jobId) (keeps : ∀ row, (set row).jobId = row.jobId) :
    ∃ row ∈ db.jobs, condition row = true ∧ job = set row ∧ db' = storeJob db (set row) := by
  rcases updateJob_cases keyed targeted keeps with unchanged | ⟨row, stored, _, holds, changed⟩
  · rw [unchanged] at updated
    cases updated
  · rw [changed] at updated
    cases updated
    exact ⟨row, stored, holds, rfl, rfl⟩

theorem updateJob_none {db db' : Db ρ} (keyed : Table.Keyed JobRow.jobId db.jobs) {condition : JobRow → Bool}
    {set : JobRow → JobRow} {jobId : String} (updated : updateJob db condition set = (none, db'))
    (targeted : ∀ row, condition row = true → row.jobId = jobId) (keeps : ∀ row, (set row).jobId = row.jobId) :
    db' = db := by
  rcases updateJob_cases keyed targeted keeps with unchanged | ⟨row, stored, _, holds, changed⟩
  · rw [unchanged] at updated
    cases updated
    rfl
  · rw [changed] at updated
    cases updated

/-- One event after a move. -/
theorem logStep_one {jobId : String} {count : Nat} {source target : JobState} {event : JobEventRow}
    (owner : event.jobId = jobId) (number : event.sequence = count + 1) (leaves : event.sourceState = some source)
    (reaches : event.targetState = some target) : LogStep jobId count source [event] target := by
  refine ⟨?_, History.numbered_one (number.trans (Nat.add_comm count 1)), History.follows_one leaves reaches⟩
  intro other member
  rw [List.mem_singleton.mp member]
  exact owner

theorem logStep_append {jobId : String} {count : Nat} {source middle target : JobState} {first second : List JobEventRow}
    (before : LogStep jobId count source first middle) (after : LogStep jobId (count + first.length) middle second target) :
    LogStep jobId count source (first ++ second) target := by
  refine ⟨?_, before.numbered.append rfl (by simpa [Nat.add_assoc] using after.numbered),
    History.follows_append.mpr ⟨_, before.follows, after.follows⟩⟩
  intro event member
  rcases List.mem_append.mp member with early | late
  · exact before.owner event early
  · exact after.owner event late

theorem requireJob_ok {db : Db ρ} {jobId : String} {row : JobRow} (read : requireJob db jobId = .ok row) :
    row ∈ db.jobs ∧ row.jobId = jobId :=
  Table.lookup_some (orRaise_eq_ok.mp read)

end Jiejian.Jobs.Moves
