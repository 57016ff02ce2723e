import Jiejian.Jobs.Moves

namespace Jiejian.Jobs.Commits
open Jiejian.Errors Jiejian.Library Jiejian.Library.Outcome
open Jiejian.Jobs.Records Jiejian.Jobs.Models Jiejian.Jobs.Repository Jiejian.Jobs.Control Jiejian.Jobs.Targets
open Jiejian.Jobs.Queue Jiejian.Jobs.Attempts Jiejian.Jobs.Completion Jiejian.Jobs.System Jiejian.Jobs.Moves

variable {ρ ν : Type} {service : Service ρ ν} {published : Option PublishedResult} {db db' : Db ρ}

theorem commit_mono {fits fits' : JobRow → Prop} (weaker : ∀ row, fits row → fits' row)
    (commit : Commit service published fits db db') : Commit service published fits' db db' := by
  cases commit with
  | unchanged => exact .unchanged
  | enqueued fit fresh unique distinct valid enlisted owner number leaves reaches =>
    exact .enqueued (weaker _ fit) fresh unique distinct valid enlisted owner number leaves reaches
  | moved stored fit move logged => exact .moved stored (weaker _ fit) move logged

/-- A committed claim took the chosen row and met every condition of the claim. -/
theorem claim_some {recordingStartable : ρ → String → Bool} {jobId : Option String} {leaseOwner : String}
    {nowUs leaseExpiresAtUs : Nat} {targetTypes : List JobTargetType} {job : JobRow}
    (keyed : Table.Keyed JobRow.jobId db.jobs)
    (claimed : claim db recordingStartable jobId leaseOwner nowUs leaseExpiresAtUs targetTypes = (some job, db')) :
    ∃ row ∈ db.jobs, claimable db.targets recordingStartable targetTypes nowUs row = true ∧
      (∀ wanted ∈ jobId, row.jobId = wanted) ∧ job = claimedRow leaseOwner nowUs leaseExpiresAtUs row ∧
      db' = storeJob db (claimedRow leaseOwner nowUs leaseExpiresAtUs row) := by
  unfold claim at claimed
  cases found : Table.first claimBefore (db.jobs.filter fun row =>
      claimable db.targets recordingStartable targetTypes nowUs row && jobId.all fun wanted => row.jobId = wanted) with
  | none => simp [found] at claimed
  | some chosen =>
    simp only [found] at claimed
    have eligible := Table.first_mem found
    simp only [List.mem_filter, Bool.and_eq_true] at eligible
    obtain ⟨row, stored, same, rowed, changed⟩ := updateJob_some keyed claimed
      (by intro row holds; exact of_decide_eq_true holds) (fun _ => rfl)
    have identical := keyed.eq_of_mem stored eligible.1 (by simpa using same)
    subst identical
    refine ⟨row, stored, eligible.2.1, ?_, rowed, changed⟩
    intro wanted member
    have named := eligible.2.2
    simp only [Option.mem_def] at member
    simpa [member] using named

theorem claimInWork_handled (sound : RowsSound db) {knownSecrets : List String} {request : ClaimJob}
    {reply : Option (JobMutationResult ν)} (performed : claimInWork service knownSecrets db request = .ok (reply, db')) :
    Handled service (fun _ => True) db db' := by
  simp only [claimInWork, bind_eq_ok] at performed
  obtain ⟨_, _, leaseExpiresAtUs, _, performed⟩ := performed
  cases taken : claim db service.recordingStartable request.jobId request.leaseOwner request.nowUs leaseExpiresAtUs
      service.targets.targetTypes with
  | mk found db₁ =>
    cases found with
    | none =>
      simp only [taken] at performed
      cases named : request.jobId with
      | none =>
        simp only [named] at performed
        cases performed
        exact .unchanged
      | some jobId =>
        simp only [named] at performed
        cases performed
    | some job =>
      simp only [taken, bind_eq_ok, require_eq_ok] at performed
      obtain ⟨row, stored, eligible, _, rfl, rfl⟩ := claim_some sound.keyed taken
      obtain ⟨⟨view, targets'⟩, advanced, db₂, appended, _, _, done⟩ := performed
      cases done
      have logged := appendJobEvent_ok appended
      subst logged
      simp only [claimable, Bool.and_eq_true, decide_eq_true_eq, Option.isNone_iff_eq_none] at eligible
      obtain ⟨⟨⟨⟨⟨⟨⟨waiting, _⟩, uncancelled⟩, budget⟩, _⟩, _⟩, clock⟩, _⟩ := eligible
      have rowSound := sound.sound row stored
      refine .moved stored trivial (.claimed waiting uncancelled budget clock advanced) (logStep_one rfl rfl ?_ rfl)
      -- the counter tells a first claim from a retry
      cases state : row.state with
      | pending =>
        have unclaimed := rowSound.unclaimed state
        simp [claimedRow, unclaimed]
      | retryWait =>
        have attempted := rowSound.claimed (.inr state)
        have later : row.attempt ≠ 0 := by omega
        simp [claimedRow, later]
      | running => simp [state, JobState.isWaiting] at waiting
      | succeeded => simp [state, JobState.isWaiting] at waiting
      | failed => simp [state, JobState.isWaiting] at waiting
      | cancelled => simp [state, JobState.isWaiting] at waiting

theorem renewLease_handled (sound : RowsSound db) {knownSecrets : List String} {request : RenewLease}
    {reply : JobMutationResult ν} (performed : Attempts.renewLease service knownSecrets db request = .ok (reply, db')) :
    Handled service (fun row => fenced request.jobId request.leaseOwner request.fencingToken row = true)
      db db' := by
  simp only [Attempts.renewLease, bind_eq_ok] at performed
  obtain ⟨_, _, performed⟩ := performed
  cases taken : Control.renewLease db request.jobId request.leaseOwner request.fencingToken request.nowUs
      request.leaseExpiresAtUs with
  | mk found db₁ =>
    cases found with
    | none =>
      simp only [taken] at performed
      cases performed
    | some job =>
      simp only [taken, bind_eq_ok] at performed
      unfold Control.renewLease at taken
      obtain ⟨row, stored, holds, rfl, rfl⟩ := updateJob_some sound.keyed taken
        (by intro row holds; simp only [Bool.and_eq_true] at holds; exact (fenced_iff.mp holds.1.1.1).1)
        (fun _ => rfl)
      obtain ⟨view, _, db₂, appended, done⟩ := performed
      cases done
      have logged := appendJobEvent_ok appended
      subst logged
      simp only [Bool.and_eq_true, decide_eq_true_eq] at holds
      obtain ⟨⟨⟨fence, _⟩, _⟩, clock⟩ := holds
      obtain ⟨_, running, owned, _⟩ := fenced_iff.mp fence
      refine .moved stored fence (.renewed running clock (by simp [owned])) (logStep_one rfl rfl ?_ ?_)
      · simp [running]
      · simp [renewedRow, running]

/-- A successful release of a fenced running job. -/
theorem finishRunningJob_some {jobId leaseOwner : String} {fencingToken nowUs : Nat} {targetState : JobState}
    {availableAtUs : Option Nat} {requireCancel requireExpired : Bool} {job : JobRow}
    (keyed : Table.Keyed JobRow.jobId db.jobs)
    (finished : finishRunningJob db jobId leaseOwner fencingToken nowUs targetState availableAtUs requireCancel
      requireExpired = (some job, db')) :
    ∃ row ∈ db.jobs, fenced jobId leaseOwner fencingToken row = true ∧ row.updatedAtUs ≤ nowUs ∧
      (requireCancel = true → row.cancelRequestedAtUs.isSome = true) ∧
      job = releasedRow targetState nowUs availableAtUs row ∧
      db' = storeJob db (releasedRow targetState nowUs availableAtUs row) := by
  unfold finishRunningJob at finished
  obtain ⟨row, stored, holds, rfl, rfl⟩ := updateJob_some keyed finished
    (by intro row holds; simp only [Bool.and_eq_true] at holds; exact (fenced_iff.mp holds.1.1.1).1)
    (fun _ => rfl)
  simp only [Bool.and_eq_true, decide_eq_true_eq, Bool.or_eq_true, Bool.not_eq_true'] at holds
  obtain ⟨⟨⟨fence, clock⟩, _⟩, cancel⟩ := holds
  refine ⟨row, stored, fence, clock, ?_, rfl, rfl⟩
  intro needed
  rcases cancel with unneeded | present
  · rw [needed] at unneeded
    cases unneeded
  · exact present

/-- The row read for the fence check is the row the update changes. -/
theorem requireCurrentFence_ok {request : FencedJobMutation} {current : JobRow}
    (read : requireCurrentFence db request = .ok current) : current ∈ db.jobs ∧ current.jobId = request.jobId := by
  simp only [requireCurrentFence, bind_eq_ok] at read
  obtain ⟨row, found, _, _, _, _, _, _, _, _, done⟩ := read
  cases done
  exact requireJob_ok found

theorem requireRecoveryFence_ok {request : FencedJobMutation} {current : JobRow}
    (read : requireRecoveryFence db request = .ok current) : current ∈ db.jobs ∧ current.jobId = request.jobId := by
  simp only [requireRecoveryFence, bind_eq_ok] at read
  obtain ⟨row, found, _, _, _, _, _, _, _, _, done⟩ := read
  cases done
  exact requireJob_ok found

theorem completeCancellation_handled (sound : RowsSound db) {knownSecrets : List String}
    {request : CompleteCancellation} {reply : CancellationResult ν}
    (performed : completeCancellation service knownSecrets db request = .ok (reply, db')) :
    Handled service (fun row => fenced request.jobId request.leaseOwner request.fencingToken row = true)
      db db' := by
  simp only [completeCancellation, bind_eq_ok] at performed
  obtain ⟨_, _, current, _, _, _, performed⟩ := performed
  cases taken : completeRunningCancellation db request.jobId request.leaseOwner request.fencingToken request.nowUs with
  | mk found db₁ =>
    cases found with
    | none =>
      simp only [taken] at performed
      cases performed
    | some job =>
      simp only [taken, bind_eq_ok] at performed
      obtain ⟨row, stored, fence, clock, _, rfl, rfl⟩ := finishRunningJob_some sound.keyed taken
      obtain ⟨⟨view, targets'⟩, finished, db₂, appended, _, _, done⟩ := performed
      cases done
      have logged := appendJobEvent_ok appended
      subst logged
      obtain ⟨_, running, _, _⟩ := fenced_iff.mp fence
      refine .moved stored fence (.ended .cancelled running clock finished) (logStep_one rfl rfl ?_ rfl)
      simp [running]

/-- What settling a released row does: a waiting row only reads its target, a final one finishes it. -/
theorem released_move {row : JobRow} {targets targets' : Targets ρ} {state : JobState} {nowUs : Nat}
    {availableAtUs : Option Nat} {view : TargetView ν}
    (running : row.state = .running) (clock : row.updatedAtUs ≤ nowUs)
    (choice : (state = .retryWait ∧ availableAtUs.isSome = true ∧ row.cancelRequestedAtUs = none) ∨
      ((state = .failed ∨ state = .cancelled) ∧ availableAtUs = none))
    (settled : settleTarget service targets (releasedRow state nowUs availableAtUs row) nowUs = .ok (view, targets')) :
    HandledMove service targets row targets' (releasedRow state nowUs availableAtUs row) := by
  rcases choice with ⟨rfl, present, uncancelled⟩ | ⟨rfl | rfl, rfl⟩
  · obtain ⟨available, rfl⟩ := Option.isSome_iff_exists.mp present
    simp only [settleTarget, releasedRow_state, bind_eq_ok] at settled
    obtain ⟨_, _, done⟩ := settled
    cases done
    exact .requeued running clock uncancelled
  · exact .ended .failed running clock settled
  · exact .ended .cancelled running clock settled

theorem persistFailure_handled (sound : RowsSound db) {payloadSafe : Payload → Bool} {request : FencedJobMutation}
    {report : FailureReport} {target : JobState} {availableAtUs : Option Nat} {reply : JobMutationResult ν}
    (choice : (target = .retryWait ∧ availableAtUs.isSome = true ∧
        ∃ current ∈ db.jobs, current.jobId = request.jobId ∧ current.cancelRequestedAtUs = none) ∨
      (target = .failed ∧ availableAtUs = none))
    (performed : persistFailure service payloadSafe db request report target availableAtUs = .ok (reply, db')) :
    Handled service (fun row => fenced request.jobId request.leaseOwner request.fencingToken row = true)
      db db' := by
  simp only [persistFailure, recordRunningFailure, bind_eq_ok] at performed
  obtain ⟨recorded, ⟨_, _, finished⟩, performed⟩ := performed
  have taken := Except.ok.inj finished
  obtain ⟨found, db₁⟩ := recorded
  cases found with
  | none => cases performed
  | some job =>
    simp only [bind_eq_ok] at performed
    obtain ⟨row, stored, fence, clock, _, rfl, rfl⟩ := finishRunningJob_some sound.keyed taken
    obtain ⟨⟨view, targets'⟩, settled, db₂, appended, done⟩ := performed
    cases done
    have logged := appendJobEvent_ok appended
    subst logged
    obtain ⟨same, running, _, _⟩ := fenced_iff.mp fence
    refine .moved stored fence (released_move running clock ?_ settled) (logStep_one rfl rfl ?_ rfl)
    · rcases choice with ⟨waits, present, current, read, sameJob, uncancelled⟩ | ⟨fails, absent⟩
      · have identical := sound.keyed.eq_of_mem stored read (same.trans sameJob.symm)
        subst identical
        exact .inl ⟨waits, present, uncancelled⟩
      · exact .inr ⟨.inl fails, absent⟩
    · simp [running]

theorem recordRetryableFailure_handled (sound : RowsSound db) {knownSecrets : List String}
    {jitterSource : Nat → Option Int} {request : RetryableFailure} {reply : JobMutationResult ν}
    (performed : recordRetryableFailure service knownSecrets jitterSource db request = .ok (reply, db')) :
    Handled service (fun row => fenced request.jobId request.leaseOwner request.fencingToken row = true)
      db db' := by
  simp only [recordRetryableFailure, bind_eq_ok, require_eq_ok] at performed
  obtain ⟨_, _, current, read, _, uncancelled, performed⟩ := performed
  obtain ⟨member, same⟩ := requireCurrentFence_ok read
  by_cases exhausted : current.attempt ≥ current.maxAttempts
  · rw [if_pos exhausted] at performed
    exact persistFailure_handled sound (.inr ⟨rfl, rfl⟩) performed
  · rw [if_neg exhausted] at performed
    simp only [bind_eq_ok] at performed
    obtain ⟨available, _, performed⟩ := performed
    exact persistFailure_handled sound (.inl ⟨rfl, rfl, current, member, same, uncancelled⟩) performed

theorem recordFatalFailure_handled (sound : RowsSound db) {knownSecrets : List String} {request : FatalFailure}
    {reply : JobMutationResult ν} (performed : recordFatalFailure service knownSecrets db request = .ok (reply, db')) :
    Handled service (fun row => fenced request.jobId request.leaseOwner request.fencingToken row = true)
      db db' := by
  simp only [recordFatalFailure, bind_eq_ok] at performed
  obtain ⟨_, _, _, _, performed⟩ := performed
  exact persistFailure_handled sound (.inr ⟨rfl, rfl⟩) performed

/-- A recovered attempt is retried with a start time and without a cancellation, or it ends. -/
theorem recoverySchedule_ok {jitterSource : Nat → Option Int} {nowUs : Nat} {current : JobRow}
    {availableAtUs : Option Nat}
    (scheduled : recoverySchedule service jitterSource nowUs current = .ok availableAtUs) :
    (recoveryTarget current = .retryWait ∧ availableAtUs.isSome = true ∧ current.cancelRequestedAtUs = none) ∨
      ((recoveryTarget current = .failed ∨ recoveryTarget current = .cancelled) ∧ availableAtUs = none) := by
  by_cases cancel : current.cancelRequestedAtUs.isSome = true
  · have target : recoveryTarget current = .cancelled := if_pos cancel
    simp only [recoverySchedule, target] at scheduled
    exact .inr ⟨.inr target, (Except.ok.inj scheduled).symm⟩
  · by_cases exhausted : current.attempt ≥ current.maxAttempts
    · have target : recoveryTarget current = .failed := by simp [recoveryTarget, cancel, exhausted]
      simp only [recoverySchedule, target] at scheduled
      exact .inr ⟨.inl target, (Except.ok.inj scheduled).symm⟩
    · have target : recoveryTarget current = .retryWait := by simp [recoveryTarget, cancel, exhausted]
      simp only [recoverySchedule, target, bind_eq_ok] at scheduled
      obtain ⟨available, _, done⟩ := scheduled
      refine .inl ⟨target, ?_, by simpa using cancel⟩
      simp [← Except.ok.inj done]

theorem confirmRecovery_handled (sound : RowsSound db) {knownSecrets : List String} {jitterSource : Nat → Option Int}
    {request : ConfirmRecovery} {reply : JobMutationResult ν}
    (performed : Attempts.confirmRecovery service knownSecrets jitterSource db request = .ok (reply, db')) :
    Handled service (fun row => fenced request.jobId request.leaseOwner request.fencingToken row = true)
      db db' := by
  simp only [Attempts.confirmRecovery, Control.confirmRecovery, bind_eq_ok] at performed
  obtain ⟨_, _, current, read, _, _, availableAtUs, scheduled, recorded, ⟨_, _, finished⟩, performed⟩ := performed
  obtain ⟨member, sameJob⟩ := requireRecoveryFence_ok read
  have taken := Except.ok.inj finished
  obtain ⟨found, db₁⟩ := recorded
  cases found with
  | none => cases performed
  | some job =>
    simp only [bind_eq_ok] at performed
    obtain ⟨row, stored, fence, clock, _, rfl, rfl⟩ := finishRunningJob_some sound.keyed taken
    obtain ⟨⟨view, targets'⟩, settled, db₂, appended, done⟩ := performed
    cases done
    have logged := appendJobEvent_ok appended
    subst logged
    obtain ⟨same, running, _, _⟩ := fenced_iff.mp fence
    have identical := sound.keyed.eq_of_mem member stored (sameJob.trans same.symm)
    subst identical
    refine .moved stored fence (released_move running clock ?_ settled) (logStep_one rfl rfl ?_ rfl)
    · exact recoverySchedule_ok scheduled
    · simp [running]

theorem recordWaitingFatalFailure_handled (sound : RowsSound db) {knownSecrets : List String}
    {request : WaitingFatalFailure} {reply : Option (JobMutationResult ν)}
    (performed : recordWaitingFatalFailure service knownSecrets db request = .ok (reply, db')) :
    Handled service (fun _ => True) db db' := by
  simp only [recordWaitingFatalFailure, bind_eq_ok] at performed
  obtain ⟨_, _, performed⟩ := performed
  cases taken : recordWaitingFailure db request.jobId request.nowUs with
  | mk found db₁ =>
    cases found with
    | none =>
      simp only [taken] at performed
      cases performed
      exact .unchanged
    | some job =>
      simp only [taken, bind_eq_ok, orRaise_eq_ok, Option.filter_eq_some_iff] at performed
      unfold recordWaitingFailure at taken
      obtain ⟨row, stored, holds, rfl, rfl⟩ := updateJob_some sound.keyed taken
        (by intro row holds; simp only [Bool.and_eq_true] at holds; exact of_decide_eq_true holds.1.1.1.1.1)
        (fun _ => rfl)
      simp only [Bool.and_eq_true, decide_eq_true_eq] at holds
      obtain ⟨⟨⟨⟨⟨same, waiting⟩, _⟩, _⟩, _⟩, clock⟩ := holds
      obtain ⟨source, ⟨read, _⟩, ⟨view, targets'⟩, finished, db₂, appended, done⟩ := performed
      cases done
      have logged := appendJobEvent_ok appended
      subst logged
      -- the row read before the update is the row it changed
      obtain ⟨member, sameJob⟩ := Table.lookup_some read
      have identical := sound.keyed.eq_of_mem member stored (sameJob.trans same.symm)
      subst identical
      exact .moved stored trivial (.dropped .failed waiting clock (.inl rfl) finished)
        (logStep_one rfl rfl rfl rfl)

theorem setCancelRequested_first {jobId : String} {nowUs : Nat} {job : Option JobRow}
    (keyed : Table.Keyed JobRow.jobId db.jobs)
    (requested : setCancelRequestedAtIfAbsent db jobId nowUs = ((job, true), db')) :
    ∃ row ∈ db.jobs, row.updatedAtUs ≤ nowUs ∧ row.state ≠ .cancelled ∧ job = some (cancelRequestedRow nowUs row) ∧
      db' = storeJob db (cancelRequestedRow nowUs row) := by
  unfold setCancelRequestedAtIfAbsent at requested
  cases updated : updateJob db (fun row => row.jobId = jobId && (row.state.isWaiting || row.state = .running)
      && row.cancelRequestedAtUs.isNone && row.updatedAtUs ≤ nowUs) (cancelRequestedRow nowUs) with
  | mk found db₁ =>
    rw [updated] at requested
    cases found with
    | none => simp at requested
    | some changed =>
      obtain ⟨row, stored, holds, rfl, rfl⟩ := updateJob_some keyed updated
        (by intro row holds; simp only [Bool.and_eq_true] at holds; exact of_decide_eq_true holds.1.1.1)
        (fun _ => rfl)
      simp only [Bool.and_eq_true, decide_eq_true_eq] at holds
      cases requested
      refine ⟨row, stored, holds.2, ?_, rfl, rfl⟩
      intro cancelled
      simp [cancelled, JobState.isWaiting] at holds

theorem setCancelRequested_again {jobId : String} {nowUs : Nat} {job : Option JobRow}
    (keyed : Table.Keyed JobRow.jobId db.jobs)
    (requested : setCancelRequestedAtIfAbsent db jobId nowUs = ((job, false), db')) :
    job = db.job jobId ∧ db' = db := by
  unfold setCancelRequestedAtIfAbsent at requested
  cases updated : updateJob db (fun row => row.jobId = jobId && (row.state.isWaiting || row.state = .running)
      && row.cancelRequestedAtUs.isNone && row.updatedAtUs ≤ nowUs) (cancelRequestedRow nowUs) with
  | mk found db₁ =>
    rw [updated] at requested
    cases found with
    | some changed => simp at requested
    | none =>
      have unchanged := updateJob_none keyed updated
        (by intro row holds; simp only [Bool.and_eq_true] at holds; exact of_decide_eq_true holds.1.1.1)
        (fun _ => rfl)
      subst unchanged
      cases requested
      exact ⟨rfl, rfl⟩

/-- Cancelling a waiting job ends the row it was called with and appends one event. -/
theorem cancelWaitingJob_ok (keyed : Table.Keyed JobRow.jobId db.jobs) {payloadSafe : Payload → Bool} {job : JobRow}
    {nowUs : Nat} {reply : JobMutationResult ν} (member : job ∈ db.jobs)
    (performed : cancelWaitingJob service payloadSafe db job nowUs = .ok (reply, db')) :
    ∃ view targets' event, job.state.isWaiting = true ∧ job.updatedAtUs ≤ nowUs ∧
      service.targets.finish db.targets (droppedRow .cancelled nowUs job) nowUs .cancelled = .ok (view, targets') ∧
      event.jobId = job.jobId ∧ event.sequence = (db.listForJob job.jobId).length + 1 ∧
      event.sourceState = some job.state ∧ event.targetState = some .cancelled ∧
      db' = { storeJob db (droppedRow .cancelled nowUs job) with
        events := db.events ++ [event], targets := targets' } := by
  unfold cancelWaitingJob at performed
  cases taken : cancelWaiting db job.jobId nowUs with
  | mk found db₁ =>
    cases found with
    | none =>
      simp only [taken] at performed
      cases performed
    | some cancelled =>
      simp only [taken, bind_eq_ok] at performed
      unfold cancelWaiting at taken
      obtain ⟨row, stored, holds, rfl, rfl⟩ := updateJob_some keyed taken
        (by intro row holds; simp only [Bool.and_eq_true] at holds; exact of_decide_eq_true holds.1.1.1)
        (fun _ => rfl)
      simp only [Bool.and_eq_true, decide_eq_true_eq] at holds
      obtain ⟨⟨⟨same, waiting⟩, _⟩, clock⟩ := holds
      have identical := keyed.eq_of_mem stored member same
      subst identical
      obtain ⟨⟨view, targets'⟩, finished, db₂, appended, done⟩ := performed
      cases done
      exact ⟨view, targets', _, waiting, clock, finished, rfl, rfl, rfl, rfl, appendJobEvent_ok appended⟩

/-- After the first request the marked row ends at once, or keeps running with the request on it. -/
theorem settleCancellation_first (keyed : Table.Keyed JobRow.jobId db.jobs) {payloadSafe : Payload → Bool}
    {row : JobRow} {nowUs : Nat} {reply : CancellationResult ν} (stored : row ∈ db.jobs) (clock : row.updatedAtUs ≤ nowUs)
    (performed : settleCancellation service payloadSafe (storeJob db (cancelRequestedRow nowUs row))
      (cancelRequestedRow nowUs row) nowUs true = .ok (reply, db')) (live : row.state ≠ .cancelled) :
    Handled service (fun _ => True) db db' := by
  unfold settleCancellation at performed
  rw [if_neg (by simp [live])] at performed
  simp only [recordFirstRequest, if_true, bind_eq_ok] at performed
  obtain ⟨db₁, appended, performed⟩ := performed
  obtain ⟨mark, markOwner, markNumber, markLeaves, markReaches, logged⟩ := appendJobEvent_event appended
  by_cases waiting : row.state.isWaiting = true
  · simp only [cancelRequestedRow_state, waiting, if_true, bind_eq_ok] at performed
    obtain ⟨⟨cancelled, db₂⟩, ended, _, _, done⟩ := performed
    cases done
    have present : (cancelRequestedRow nowUs row).jobId ∈ db.jobs.map JobRow.jobId :=
      List.mem_map.mpr ⟨row, stored, rfl⟩
    have keyed₁ : Table.Keyed JobRow.jobId db₁.jobs := by
      subst logged
      exact keyed.replace _
    have member : cancelRequestedRow nowUs row ∈ db₁.jobs := by
      subst logged
      exact (Table.mem_replace present).mpr (.inl rfl)
    obtain ⟨view, targets', event, _, _, finished, owner, number, leaves, reaches, rfl⟩ :=
      cancelWaitingJob_ok keyed₁ member ended
    subst logged
    have later : event.sequence = (db.listForJob row.jobId).length + 1 + 1 :=
      number.trans (congrArg (· + 1) (eventsOf_length_snoc markOwner))
    have twice : Table.replace JobRow.jobId (Table.replace JobRow.jobId db.jobs (cancelRequestedRow nowUs row))
        (droppedRow .cancelled nowUs (cancelRequestedRow nowUs row))
        = Table.replace JobRow.jobId db.jobs (droppedRow .cancelled nowUs (cancelRequestedRow nowUs row)) :=
      Table.replace_replace _ _ rfl
    have handled : Handled service (fun _ => True) db
        { storeJob db (droppedRow .cancelled nowUs (cancelRequestedRow nowUs row)) with
          events := db.events ++ [mark, event], targets := targets' } :=
      .moved stored trivial (.dropped .cancelled waiting clock (.inr rfl) finished)
        (logStep_append (logStep_one markOwner markNumber markLeaves markReaches) (logStep_one owner later leaves reaches))
    simpa [storeJob, twice] using handled
  · simp only [cancelRequestedRow_state, waiting] at performed
    simp only [Bool.false_eq_true, if_false, bind_eq_ok] at performed
    obtain ⟨_, running, _, _, _, _, done⟩ := performed
    cases done
    subst logged
    exact .moved stored trivial (.cancelRequested (require_eq_ok.mp running) clock)
      (logStep_one markOwner markNumber markLeaves markReaches)

/-- A repeated request changes nothing unless the job still waits. -/
theorem settleCancellation_again (keyed : Table.Keyed JobRow.jobId db.jobs) {payloadSafe : Payload → Bool}
    {row : JobRow} {nowUs : Nat} {reply : CancellationResult ν} (stored : row ∈ db.jobs)
    (performed : settleCancellation service payloadSafe db row nowUs false = .ok (reply, db')) :
    Handled service (fun _ => True) db db' := by
  unfold settleCancellation at performed
  by_cases cancelled : row.state = .cancelled ∧ row.cancelRequestedAtUs.isSome = true
  · rw [if_pos cancelled] at performed
    simp only [bind_eq_ok] at performed
    obtain ⟨_, _, _, _, done⟩ := performed
    cases done
    exact .unchanged
  · rw [if_neg cancelled] at performed
    simp only [recordFirstRequest, Bool.false_eq_true, if_false, bind_eq_ok] at performed
    obtain ⟨db₁, same, performed⟩ := performed
    cases same
    by_cases waiting : row.state.isWaiting = true
    · simp only [waiting, if_true, bind_eq_ok] at performed
      obtain ⟨⟨ended, db₂⟩, dropped, _, _, done⟩ := performed
      cases done
      obtain ⟨view, targets', event, _, clock, finished, owner, number, leaves, reaches, rfl⟩ :=
        cancelWaitingJob_ok keyed stored dropped
      exact .moved stored trivial (.dropped .cancelled waiting clock (.inl rfl) finished)
        (logStep_one owner number leaves reaches)
    · simp only [waiting] at performed
      simp only [Bool.false_eq_true, if_false, bind_eq_ok] at performed
      obtain ⟨_, _, _, _, _, _, done⟩ := performed
      cases done
      exact .unchanged

theorem requestCancellation_handled (sound : RowsSound db) {knownSecrets : List String} {request : RequestCancellation}
    {reply : CancellationResult ν}
    (performed : requestCancellation service knownSecrets db request = .ok (reply, db')) :
    Handled service (fun _ => True) db db' := by
  simp only [requestCancellation, bind_eq_ok] at performed
  obtain ⟨_, _, initial, _, _, _, performed⟩ := performed
  by_cases terminal : initial.state.isTerminal = true
  · simp only [terminal, if_true, bind_eq_ok] at performed
    obtain ⟨_, _, _, _, _, _, done⟩ := performed
    cases done
    exact .unchanged
  · simp only [terminal] at performed
    cases requested : setCancelRequestedAtIfAbsent db request.jobId request.nowUs with
    | mk answer db₁ =>
      obtain ⟨found, firstRequest⟩ := answer
      cases found with
      | none =>
        simp only [requested] at performed
        cases performed
      | some job =>
        simp only [requested] at performed
        cases firstRequest with
        | true =>
          obtain ⟨row, stored, clock, live, same, rfl⟩ := setCancelRequested_first sound.keyed requested
          cases same
          exact settleCancellation_first sound.keyed stored clock performed live
        | false =>
          obtain ⟨read, rfl⟩ := setCancelRequested_again sound.keyed requested
          exact settleCancellation_again sound.keyed (Table.lookup_some read.symm).1 performed

end Jiejian.Jobs.Commits
