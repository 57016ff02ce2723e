import Jiejian.Jobs.Commits

namespace Jiejian.Jobs.Inversion
open Jiejian.Errors Jiejian.Library Jiejian.Library.Outcome
open Jiejian.Jobs.Records Jiejian.Jobs.Models Jiejian.Jobs.Repository Jiejian.Jobs.Control Jiejian.Jobs.Targets
open Jiejian.Jobs.Queue Jiejian.Jobs.Attempts Jiejian.Jobs.Completion Jiejian.Jobs.System Jiejian.Jobs.Moves
open Jiejian.Jobs.Commits

variable {ρ ν : Type} {service : Service ρ ν} {published : Option PublishedResult} {db db' : Db ρ}

theorem createSubmission_commit {payloadSafe : Payload → Bool} {request : SubmitJob} {hooks : SubmissionHooks ρ}
    {runId jobId : String} {reply : JobSubmissionResult}
    (performed : createSubmission service payloadSafe db request hooks runId jobId = .ok (reply, db')) :
    Commit service published (fun _ => True) db db' := by
  simp only [createSubmission, bind_eq_ok] at performed
  obtain ⟨_, _, checked, _, _, _, _, _, db₁, ranked, db₂, added, written, _, db₃, appended, done⟩ := performed
  cases done
  obtain ⟨unused, rfl⟩ := addRun_ok ranked
  obtain ⟨accepted, rfl⟩ := addJob_ok added
  obtain ⟨event, owner, number, leaves, reaches, rfl⟩ := appendJobEvent_event appended
  obtain ⟨unique, distinct, valid⟩ := jobConstraints_facts accepted
  have enlisted : Enlisted (submittedJob request runId jobId) db.targets.runs
      (db.targets.runs ++ [submittedRun request runId]) :=
    .inl ⟨submittedRun request runId, rfl, unused, rfl, rfl, rfl, rfl⟩
  exact .enqueued trivial ⟨rfl, rfl, rfl, rfl, rfl, rfl, rfl⟩ unique distinct valid enlisted owner number leaves reaches

theorem submit_commit {knownSecrets : List String} {request : SubmitJob} {hooks : SubmissionHooks ρ}
    {generated : GeneratedIds} {reply : JobSubmissionResult}
    (performed : submit service knownSecrets db request hooks generated = .ok (reply, db')) :
    Commit service published (fun _ => True) db db' := by
  simp only [submit, bind_eq_ok] at performed
  obtain ⟨_, _, performed⟩ := performed
  cases existing : getByIdempotency db request.projectId request.operationType request.idempotencyKey with
  | some job =>
    simp only [existing, bind_eq_ok] at performed
    obtain ⟨_, _, done⟩ := performed
    cases done
    exact .unchanged
  | none =>
    simp only [existing] at performed
    cases created : createSubmission service (service.payloadSafe knownSecrets) db request hooks
        (request.runId.getD generated.runId) (request.jobId.getD generated.jobId) with
    | ok result =>
      simp only [created] at performed
      cases performed
      exact createSubmission_commit created
    | error error =>
      simp only [created] at performed
      by_cases constraint : error.code = .STORAGE_CONSTRAINT
      · simp only [constraint, if_true, bind_eq_ok] at performed
        obtain ⟨_, _, done⟩ := performed
        cases done
        exact .unchanged
      · simp only [constraint, if_false] at performed
        cases performed

theorem enqueueTarget_commit {knownSecrets : List String} {submission : TargetSubmission}
    {store : Db ρ → Except JiejianError ρ} {reply : JobRow}
    (performed : enqueueTarget service knownSecrets db submission store = .ok (reply, db')) :
    Commit service published (fun _ => True) db db' := by
  simp only [enqueueTarget, bind_eq_ok] at performed
  obtain ⟨stored, _, db₁, added, db₂, appended, done⟩ := performed
  cases done
  obtain ⟨accepted, rfl⟩ := addJob_ok added
  obtain ⟨event, owner, number, leaves, reaches, rfl⟩ := appendJobEvent_event appended
  obtain ⟨unique, distinct, valid⟩ := jobConstraints_facts accepted
  exact .enqueued trivial ⟨rfl, rfl, rfl, rfl, rfl, rfl, rfl⟩ unique distinct valid (.inr ⟨submission.notRun, rfl⟩)
    owner number leaves reaches

/-- A published result is fenced, matches its run and passes the verdict matrix. -/
theorem completePublishedResult_some {result : PublishedResult} {job : JobRow} {run : RunRow}
    (keyed : Table.Keyed JobRow.jobId db.jobs)
    (completed : completePublishedResult db result = .ok (some (job, run), db')) :
    ∃ row ∈ db.jobs, ∃ runTargets, publishable result row = true ∧
      job = releasedRow .succeeded result.completedAtUs none row ∧
      (result.lifecycle = .completed ∨ result.lifecycle = .safetyStopped) ∧
      runMatrix result.lifecycle result.verdict = true ∧
      finishRun db.targets result.runId result.lifecycle result.verdict result.completedAtUs
        = (some run, runTargets) ∧
      db' = { storeJob db job with targets := runTargets } := by
  simp only [completePublishedResult, bind_eq_ok, require_eq_ok] at completed
  obtain ⟨_, lifecycle, _, matrix, _, _, _, _, completed⟩ := completed
  cases updated : updateJob db (publishable result) (releasedRow .succeeded result.completedAtUs none) with
  | mk found db₁ =>
    rw [updated] at completed
    cases found with
    | none => cases completed
    | some stored =>
      obtain ⟨row, member, holds, rfl, rfl⟩ := updateJob_some keyed updated
        (by intro row holds; simp only [publishable, Bool.and_eq_true] at holds
            exact (fenced_iff.mp holds.1.1.1.1.1.1).1)
        (fun _ => rfl)
      cases finished : finishRun db.targets result.runId result.lifecycle result.verdict result.completedAtUs with
      | mk ended runTargets =>
        simp only [storeJob, finished] at completed
        cases ended with
        | none => cases completed
        | some run =>
          cases completed
          refine ⟨row, member, runTargets, holds, rfl, lifecycle, ?_, rfl, rfl⟩
          rcases lifecycle with done | stopped
          · simp only [done, true_and, not_or] at matrix
            simp only [runMatrix, done]
            exact Option.isSome_iff_ne_none.mpr matrix.1
          · simp only [stopped, true_and, not_or] at matrix
            simp [runMatrix, stopped, matrix.2]

theorem publishable_facts {result : PublishedResult} {row : JobRow} (holds : publishable result row = true) :
    fenced result.jobId result.leaseOwner result.fencingToken row = true ∧ row.target = .run result.runId ∧
      row.updatedAtUs ≤ result.completedAtUs := by
  simp only [publishable, Bool.and_eq_true, decide_eq_true_eq] at holds
  exact ⟨holds.1.1.1.1.1.1, holds.1.1.1.1.1.2, holds.1.1.1.2⟩

theorem completePublication_commit (sound : RowsSound db) {knownSecrets : List String} {result : PublishedResult}
    {record : Db ρ → Except JiejianError ρ} {reply : JobRow × RunRow}
    (performed : completePublication service knownSecrets db result record = .ok (reply, db')) :
    Commit service (some result) (fun row => fenced result.jobId result.leaseOwner result.fencingToken row = true)
      db db' := by
  simp only [completePublication, bind_eq_ok] at performed
  obtain ⟨⟨changed, db₁⟩, completed, performed⟩ := performed
  cases changed with
  | none => cases performed
  | some pair =>
    obtain ⟨job, run⟩ := pair
    simp only [bind_eq_ok] at performed
    obtain ⟨row, stored, runTargets, holds, rfl, lifecycle, matrix, finished, rfl⟩ :=
      completePublishedResult_some sound.keyed completed
    obtain ⟨recorded, _, db₂, appended, done⟩ := performed
    cases done
    obtain ⟨event, owner, number, leaves, reaches, rfl⟩ := appendJobEvent_event appended
    obtain ⟨fence, target, clock⟩ := publishable_facts holds
    obtain ⟨named, running, _, _⟩ := fenced_iff.mp fence
    refine .moved stored fence (.published rfl named.symm running clock target lifecycle matrix finished)
      (logStep_one owner number ?_ reaches)
    rw [running]
    exact leaves

/-- A completed target job was running for that target under the named lease. -/
theorem completeTarget_some {completion : TargetCompletion} {job : JobRow} (keyed : Table.Keyed JobRow.jobId db.jobs)
    (completed : completeTarget db completion = (some job, db')) :
    ∃ row ∈ db.jobs, fenced completion.jobId completion.leaseOwner completion.fencingToken row = true ∧
      row.target = completion.target ∧ row.updatedAtUs ≤ completion.nowUs ∧
      job = releasedRow .succeeded completion.nowUs none row ∧ db' = storeJob db job := by
  unfold completeTarget at completed
  obtain ⟨row, stored, holds, rfl, rfl⟩ := updateJob_some keyed completed
    (by intro row holds; simp only [completable, Bool.and_eq_true] at holds
        exact (fenced_iff.mp holds.1.1.1.1.1.1.1).1)
    (fun _ => rfl)
  simp only [completable, Bool.and_eq_true, decide_eq_true_eq] at holds
  obtain ⟨⟨⟨⟨⟨⟨⟨fence, target⟩, _⟩, _⟩, _⟩, _⟩, clock⟩, _⟩ := holds
  exact ⟨row, stored, fence, target, clock, rfl, rfl⟩

theorem publishTarget_commit (sound : RowsSound db) {knownSecrets : List String} {completion : TargetCompletion}
    {record : Db ρ → Except JiejianError ρ} {metadata : EventMetadata} {reply : JobRow}
    (performed : publishTarget service knownSecrets db completion record metadata = .ok (reply, db')) :
    Commit service published
      (fun row => fenced completion.jobId completion.leaseOwner completion.fencingToken row = true) db db' := by
  unfold publishTarget at performed
  cases taken : completeTarget db completion with
  | mk found db₁ =>
    cases found with
    | none =>
      simp only [taken] at performed
      cases performed
    | some job =>
      simp only [taken, bind_eq_ok] at performed
      obtain ⟨row, stored, fence, target, clock, rfl, rfl⟩ := completeTarget_some sound.keyed taken
      obtain ⟨recorded, _, db₂, appended, done⟩ := performed
      cases done
      obtain ⟨event, owner, number, leaves, reaches, rfl⟩ := appendJobEvent_event appended
      obtain ⟨_, running, _, _⟩ := fenced_iff.mp fence
      refine .moved stored fence (.completed running clock ?_) (logStep_one owner number ?_ reaches)
      · rw [target]
        exact completion.notRun
      · rw [running]
        exact leaves

/-- The row an action may change: the one it names, when it names an owner and a token. -/
def Fits (action : Action ρ) (row : JobRow) : Prop :=
  ∀ jobId leaseOwner fencingToken, action.fence = some (jobId, leaseOwner, fencingToken) →
    fenced jobId leaseOwner fencingToken row = true

private theorem fits_fence {action : Action ρ} {jobId leaseOwner : String} {fencingToken : Nat}
    (named : action.fence = some (jobId, leaseOwner, fencingToken)) (row : JobRow)
    (fence : fenced jobId leaseOwner fencingToken row = true) : Fits action row := by
  intro otherJob otherOwner otherToken same
  rw [named] at same
  cases same
  exact fence

private theorem fits_unfenced {action : Action ρ} (named : action.fence = none) (row : JobRow) (_ : True) :
    Fits action row := by
  intro otherJob otherOwner otherToken same
  rw [named] at same
  cases same

private theorem map_snd_ok {α β : Type} {result : Except JiejianError (α × β)} {state : β}
    (mapped : result.map Prod.snd = .ok state) : ∃ reply, result = .ok (reply, state) := by
  cases result with
  | error error => cases mapped
  | ok pair =>
    cases mapped
    exact ⟨pair.1, rfl⟩

/-- What any committed transaction does, whichever action performed it. -/
theorem perform_commit (sound : RowsSound db) {action : Action ρ} (performed : perform service db action = .ok db') :
    Commit service action.publication (Fits action) db db' := by
  cases action with
  | submit knownSecrets request hooks generated =>
    obtain ⟨reply, performed⟩ := map_snd_ok performed
    exact commit_mono (fits_unfenced rfl) (submit_commit performed)
  | enqueueTarget knownSecrets submission store =>
    obtain ⟨reply, performed⟩ := map_snd_ok performed
    exact commit_mono (fits_unfenced rfl) (enqueueTarget_commit performed)
  | claim knownSecrets request =>
    obtain ⟨reply, performed⟩ := map_snd_ok performed
    exact commit_mono (fits_unfenced rfl) (claimInWork_handled sound performed).commit
  | renewLease knownSecrets request =>
    obtain ⟨reply, performed⟩ := map_snd_ok performed
    exact commit_mono (fits_fence rfl) (renewLease_handled sound performed).commit
  | requestCancellation knownSecrets request =>
    obtain ⟨reply, performed⟩ := map_snd_ok performed
    exact commit_mono (fits_unfenced rfl) (requestCancellation_handled sound performed).commit
  | completeCancellation knownSecrets request =>
    obtain ⟨reply, performed⟩ := map_snd_ok performed
    exact commit_mono (fits_fence rfl) (completeCancellation_handled sound performed).commit
  | recordRetryableFailure knownSecrets jitterSource request =>
    obtain ⟨reply, performed⟩ := map_snd_ok performed
    exact commit_mono (fits_fence rfl) (recordRetryableFailure_handled sound performed).commit
  | recordFatalFailure knownSecrets request =>
    obtain ⟨reply, performed⟩ := map_snd_ok performed
    exact commit_mono (fits_fence rfl) (recordFatalFailure_handled sound performed).commit
  | recordWaitingFatalFailure knownSecrets request =>
    obtain ⟨reply, performed⟩ := map_snd_ok performed
    exact commit_mono (fits_unfenced rfl) (recordWaitingFatalFailure_handled sound performed).commit
  | confirmRecovery knownSecrets jitterSource request =>
    obtain ⟨reply, performed⟩ := map_snd_ok performed
    exact commit_mono (fits_fence rfl) (confirmRecovery_handled sound performed).commit
  | completePublication knownSecrets result record =>
    obtain ⟨reply, performed⟩ := map_snd_ok performed
    exact commit_mono (fits_fence rfl) (completePublication_commit sound performed)
  | publishTarget knownSecrets completion record metadata =>
    obtain ⟨reply, performed⟩ := map_snd_ok performed
    exact commit_mono (fits_fence rfl) (publishTarget_commit sound performed)

/-- A step is a committed transaction or nothing. -/
theorem step_commit (sound : RowsSound db) (action : Action ρ) :
    Commit service action.publication (Fits action) db (step service db action) := by
  cases performed : perform service db action with
  | ok db' =>
    rw [step_ok performed]
    exact perform_commit sound performed
  | error error =>
    rw [step_error performed]
    exact .unchanged

end Jiejian.Jobs.Inversion
