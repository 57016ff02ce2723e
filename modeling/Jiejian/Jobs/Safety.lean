import Jiejian.Jobs.Inversion
import Jiejian.Library.Lease

namespace Jiejian.Jobs.Safety
open Jiejian.Errors Jiejian.Library Jiejian.Library.Outcome
open Jiejian.Jobs.Records Jiejian.Jobs.Control Jiejian.Jobs.Targets Jiejian.Jobs.Queue Jiejian.Jobs.System
open Jiejian.Jobs.Moves Jiejian.Jobs.Inversion

variable {ρ ν : Type} {service : Service ρ ν} {published : Option PublishedResult}

theorem move_sound {targets targets' : Targets ρ} {row row' : JobRow} (sound : RowSound row)
    (move : JobMove service published targets row targets' row') : RowSound row' := by
  obtain ⟨token, budget, limit, owner, expiry, uncancelled, unclaimed, claimed, created, requested, operation⟩ := sound
  have unowned (waiting : row.state.isWaiting = true) : row.leaseOwner = none ∧ row.leaseExpiresAtUs = none := by
    have stopped : row.state ≠ .running := by
      intro running
      simp [running, JobState.isWaiting] at waiting
    simp only [stopped, iff_false, Bool.not_eq_true, Option.isSome_eq_false_iff, Option.isNone_iff_eq_none]
      at owner expiry
    exact ⟨owner, expiry⟩
  cases move with
  | claimed waiting _ room clock _ =>
    have cleared := uncancelled waiting
    constructor <;> simp [claimedRow, token, limit, cleared, operation, JobState.isWaiting] <;> omega
  | renewed running clock owned =>
    have owning := owner.mpr running
    have attempted := claimed (.inl running)
    constructor <;> simp [renewedRow, token, budget, limit, running, owning, attempted, operation, JobState.isWaiting]
    · omega
    · exact requested
  | cancelRequested running clock =>
    have owning := owner.mpr running
    have leased := expiry.mpr running
    have attempted := claimed (.inl running)
    constructor <;> simp [cancelRequestedRow, token, budget, limit, running, owning, leased, attempted, operation,
      JobState.isWaiting] <;> omega
  | dropped outcome waiting clock marking _ =>
    obtain ⟨noOwner, noExpiry⟩ := unowned waiting
    rcases marking with rfl | rfl <;> cases outcome <;> constructor <;>
      simp [droppedRow, cancelRequestedRow, outcomeState, token, budget, limit, noOwner, noExpiry, operation,
        JobState.isWaiting]
    all_goals omega
  | requeued running clock cleared =>
    have attempted := claimed (.inl running)
    constructor <;> simp [releasedRow, token, budget, limit, cleared, attempted, operation, JobState.isWaiting]
    omega
  | ended outcome running clock _ =>
    cases outcome <;> constructor <;>
      simp [releasedRow, outcomeState, token, budget, limit, operation, JobState.isWaiting]
    all_goals omega
  | published _ _ running clock _ _ _ _ =>
    constructor <;> simp [releasedRow, token, budget, limit, operation, JobState.isWaiting]
    · omega
    · exact requested
  | completed running clock _ =>
    constructor <;> simp [releasedRow, token, budget, limit, operation, JobState.isWaiting]
    · omega
    · exact requested

/-- A sound row passes the record's own validation, so the column checks never refuse a write of it. -/
theorem RowSound.valid {row : JobRow} (sound : RowSound row) : validateJobFields row = true := by
  obtain ⟨token, budget, limit, owner, expiry, _, _, claimed, created, requested, operation⟩ := sound
  simp only [validateJobFields, operation, limit, budget, created, decide_true, Bool.true_and, Bool.and_true,
    Bool.and_eq_true, token]
  refine ⟨⟨⟨⟨?_, ?_⟩, ?_⟩, ?_⟩, ?_⟩
  · by_cases running : row.state = .running
    · have attempted := claimed (.inl running)
      have counted : row.attempt ≠ 0 := by omega
      simp [counted]
    · by_cases counted : row.attempt = 0 <;> simp_all
  · by_cases counted : row.attempt = 0
    · simp [counted]
    · simp [counted, Nat.pos_of_ne_zero counted]
  · cases hasOwner : row.leaseOwner with
    | none =>
      have unleased : row.leaseExpiresAtUs.isSome ≠ true := by
        intro leased
        have owned := owner.mpr (expiry.mp leased)
        simp [hasOwner] at owned
      simpa using unleased
    | some leaseOwner =>
      have leased := expiry.mpr (owner.mp (by simp [hasOwner]))
      obtain ⟨time, same⟩ := Option.isSome_iff_exists.mp leased
      simp [same]
  · by_cases running : row.state = .running
    · have attempted : 0 < row.attempt := claimed (.inl running)
      simp [owner.mpr running, expiry.mpr running, attempted]
    · simp [running]
  · cases requestedAt : row.cancelRequestedAtUs with
    | none => rfl
    | some time =>
      have bound := requested time (by simp [requestedAt])
      simpa using bound

theorem fresh_sound {job : JobRow} (fresh : Fresh job) (valid : validateJobFields job = true) : RowSound job := by
  obtain ⟨state, attempt, token, owner, expiry, cancel, created⟩ := fresh
  simp only [validateJobFields, Bool.and_eq_true] at valid
  have operation := valid.1.1.1.1.1.1.1.1
  have limit : 1 ≤ job.maxAttempts := of_decide_eq_true valid.1.1.1.1.1.1.1.2
  constructor <;> simp [state, attempt, token, owner, expiry, cancel, created, operation, limit]

/-- Every committed transaction keeps the job table sound. -/
theorem commit_rows {fits : JobRow → Prop} {db db' : Db ρ} (sound : RowsSound db)
    (commit : Commit service published fits db db') : RowsSound db' := by
  cases commit with
  | unchanged => exact sound
  | @enqueued job event targets' _ fresh unique _ valid _ _ _ _ _ =>
    refine ⟨?_, ?_⟩
    · have absent := Table.lookup_none.mp unique
      simp only [Table.Keyed, List.map_append, List.map_cons, List.map_nil]
      refine List.nodup_append.mpr ⟨sound.keyed, List.nodup_singleton _, ?_⟩
      rintro _ present _ added rfl
      obtain ⟨row, stored, same⟩ := List.mem_map.mp present
      exact absent row stored (same.trans (List.mem_singleton.mp added))
    · intro row member
      rcases List.mem_append.mp member with old | new
      · exact sound.sound row old
      · rw [List.mem_singleton.mp new]
        exact fresh_sound fresh valid
  | @moved row row' targets' added stored _ move _ =>
    refine ⟨sound.keyed.replace _, ?_⟩
    intro other member
    obtain ⟨old, present, rfl⟩ := List.mem_map.mp member
    by_cases same : old.jobId = row'.jobId
    · rw [if_pos same]
      exact move_sound (sound.sound row stored) move
    · rw [if_neg same]
      exact sound.sound old present

theorem step_rows {db : Db ρ} (sound : RowsSound db) (action : Action ρ) : RowsSound (step service db action) :=
  commit_rows sound (step_commit sound action)

theorem emptyDb_rows (projects : List String) (other : ρ) : RowsSound (emptyDb projects other) := by
  refine ⟨List.nodup_nil, ?_⟩
  intro row member
  cases member

theorem run_rows (projects : List String) (other : ρ) (actions : List (Action ρ)) :
    RowsSound (run service (emptyDb projects other) actions) :=
  Transition.run_invariant (fun (db : Db ρ) (action : Action ρ) (sound : RowsSound db) => step_rows sound action)
    (emptyDb_rows projects other) actions

/-- The lease a job row stands for: its states are the phases, its fencing token is the token. -/
def leaseOf (row : JobRow) : Lease.State where
  phase := if row.state = .running then .held else if row.state.isTerminal then .closed else .idle
  token := row.fencingToken

theorem move_jobId {targets targets' : Targets ρ} {row row' : JobRow}
    (move : JobMove service published targets row targets' row') : row'.jobId = row.jobId := by
  cases move with
  | dropped outcome waiting clock marking _ => rcases marking with rfl | rfl <;> rfl
  | _ => rfl

theorem move_target {targets targets' : Targets ρ} {row row' : JobRow}
    (move : JobMove service published targets row targets' row') : row'.target = row.target := by
  cases move with
  | dropped outcome waiting clock marking _ => rcases marking with rfl | rfl <;> rfl
  | _ => rfl

theorem move_open {targets targets' : Targets ρ} {row row' : JobRow}
    (move : JobMove service published targets row targets' row') : row.state.isTerminal = false := by
  have waits {state : JobState} (waiting : state.isWaiting = true) : state.isTerminal = false := by
    cases state <;> simp [JobState.isWaiting] at waiting <;> rfl
  cases move with
  | claimed waiting => exact waits waiting
  | dropped outcome waiting => exact waits waiting
  | renewed running => simp [running, JobState.isTerminal]
  | cancelRequested running => simp [running, JobState.isTerminal]
  | requeued running => simp [running, JobState.isTerminal]
  | ended outcome running => simp [running, JobState.isTerminal]
  | published _ _ running => simp [running, JobState.isTerminal]
  | completed running => simp [running, JobState.isTerminal]

theorem move_clock {targets targets' : Targets ρ} {row row' : JobRow}
    (move : JobMove service published targets row targets' row') : row.updatedAtUs ≤ row'.updatedAtUs := by
  cases move with
  | dropped outcome waiting clock marking _ => exact clock
  | claimed _ _ _ clock _ => exact clock
  | renewed _ clock _ => exact clock
  | cancelRequested _ clock => exact clock
  | requeued _ clock _ => exact clock
  | ended _ _ clock _ => exact clock
  | published _ _ _ clock _ _ _ _ => exact clock
  | completed _ clock _ => exact clock

/-- Every move of a job row is a step of its lease. -/
theorem move_lease {targets targets' : Targets ρ} {row row' : JobRow}
    (move : JobMove service published targets row targets' row') : Lease.Step (leaseOf row) (leaseOf row') := by
  have unended := move_open move
  have idle (waiting : row.state.isWaiting = true) : leaseOf row = ⟨.idle, row.fencingToken⟩ := by
    have stopped : row.state ≠ .running := by
      intro running
      simp [running, JobState.isWaiting] at waiting
    simp [leaseOf, stopped, unended]
  have held (running : row.state = .running) : leaseOf row = ⟨.held, row.fencingToken⟩ := by
    simp [leaseOf, running]
  cases move with
  | claimed waiting =>
    rw [idle waiting]
    exact .acquire row.fencingToken
  | renewed running =>
    rw [held running]
    simpa [leaseOf, renewedRow, running] using Lease.Step.keep (⟨.held, row.fencingToken⟩ : Lease.State)
  | cancelRequested running =>
    rw [held running]
    simpa [leaseOf, cancelRequestedRow, running] using Lease.Step.keep (⟨.held, row.fencingToken⟩ : Lease.State)
  | dropped outcome waiting clock marking _ =>
    rw [idle waiting]
    rcases marking with rfl | rfl <;> cases outcome <;> exact .close (by simp) _
  | requeued running =>
    rw [held running]
    exact .release row.fencingToken
  | ended outcome running =>
    rw [held running]
    cases outcome <;> exact .close (by simp) row.fencingToken
  | published _ _ running =>
    rw [held running]
    exact .close (by simp) row.fencingToken
  | completed running =>
    rw [held running]
    exact .close (by simp) row.fencingToken

/-- What a later row of the same job keeps of an earlier one. -/
structure Later (row row' : JobRow) : Prop where
  jobId : row'.jobId = row.jobId
  target : row'.target = row.target
  lease : Relation.ReflTransGen Lease.Step (leaseOf row) (leaseOf row')
  clock : row.updatedAtUs ≤ row'.updatedAtUs
  final : row.state.isTerminal = true → row' = row

theorem Later.refl (row : JobRow) : Later row row := ⟨rfl, rfl, .refl, Nat.le_refl _, fun _ => rfl⟩

theorem Later.trans {a b c : JobRow} (first : Later a b) (second : Later b c) : Later a c := by
  refine ⟨second.jobId.trans first.jobId, second.target.trans first.target, first.lease.trans second.lease,
    Nat.le_trans first.clock second.clock, ?_⟩
  intro terminal
  have same := first.final terminal
  subst same
  exact second.final terminal

/-- Every job of the earlier database has a later row in the later one. -/
def Succeeds (db db' : Db ρ) : Prop := ∀ row ∈ db.jobs, ∃ row' ∈ db'.jobs, Later row row'

theorem commit_succeeds {fits : JobRow → Prop} {db db' : Db ρ} (sound : RowsSound db)
    (commit : Commit service published fits db db') :
    Succeeds db db' := by
  intro row member
  cases commit with
  | unchanged => exact ⟨row, member, .refl row⟩
  | enqueued => exact ⟨row, List.mem_append_left _ member, .refl row⟩
  | @moved moving row' targets' added stored _ move _ =>
    by_cases same : row.jobId = row'.jobId
    · have identical := sound.keyed.eq_of_mem member stored (same.trans (move_jobId move))
      subst identical
      have later : Later row row' := by
        refine ⟨move_jobId move, move_target move, .single (move_lease move), move_clock move, ?_⟩
        intro terminal
        rw [move_open move] at terminal
        cases terminal
      exact ⟨row', List.mem_map.mpr ⟨row, member, if_pos same⟩, later⟩
    · refine ⟨row, ?_, .refl row⟩
      exact List.mem_map.mpr ⟨row, member, if_neg same⟩

/-- Jobs are never lost, and each only moves on, over runs of any length. -/
theorem run_succeeds {db : Db ρ} (sound : RowsSound db) (actions : List (Action ρ)) :
    Succeeds db (run service db actions) := by
  refine Transition.run_relation (fun (db : Db ρ) (action : Action ρ) (sound : RowsSound db) => step_rows sound action)
    ?_ ?_ ?_ sound actions
  · exact fun db action sound => commit_succeeds sound (step_commit sound action)
  · exact fun db row member => ⟨row, member, .refl row⟩
  · intro a b c first second row member
    obtain ⟨row₁, member₁, later₁⟩ := first row member
    obtain ⟨row₂, member₂, later₂⟩ := second row₁ member₁
    exact ⟨row₂, member₂, later₁.trans later₂⟩

/-- A mutation that names another owner or token than the stored ones leaves the database alone. -/
theorem stale_unchanged {db : Db ρ} (sound : RowsSound db) {action : Action ρ} {jobId leaseOwner : String}
    {fencingToken : Nat} (named : action.fence = some (jobId, leaseOwner, fencingToken))
    (stale : ∀ row ∈ db.jobs, row.jobId = jobId →
      row.leaseOwner ≠ some leaseOwner ∨ row.fencingToken ≠ fencingToken) : step service db action = db := by
  generalize moved : step service db action = db'
  have commit : Commit service action.publication (Fits action) db (step service db action) := step_commit sound action
  rw [moved] at commit
  cases commit with
  | unchanged => rfl
  | enqueued fit fresh =>
    have running := (fenced_iff.mp (fit _ _ _ named)).2.1
    rw [fresh.state] at running
    cases running
  | moved stored fit move _ =>
    obtain ⟨same, _, owned, token⟩ := fenced_iff.mp (fit _ _ _ named)
    rcases stale _ stored same with other | other
    · exact absurd owned other
    · exact absurd token other

end Jiejian.Jobs.Safety
