import Jiejian.Jobs.Safety
import Jiejian.Recordings.Agreement

namespace Jiejian.Recordings.Handling

open Errors Library Library.Outcome Models Captures Repository Targets Recordings.System Agreement
open Jobs.Records Jobs.Models Jobs.Repository Jobs.Control Jobs.Targets Jobs.Queue Jobs.Moves Jobs.Commits

variable {γ : Type} {wiring : Wiring γ} {db db' : Db (RecordingTables γ)}

theorem handled_any {service : Service (RecordingTables γ) RecordingRecord} {fits : JobRow → Prop}
    (handled : Handled service fits db db') : Handled service (fun _ => True) db db' := by
  cases handled with
  | unchanged => exact .unchanged
  | moved stored _ move logged => exact .moved stored trivial move logged

theorem map_snd_ok {α β : Type} {computation : Except JiejianError (α × β)} {state : β}
    (mapped : computation.map Prod.snd = .ok state) : ∃ reply, computation = .ok (reply, state) := by
  obtain ⟨⟨reply, reached⟩, computed, rfl⟩ := map_eq_ok.mp mapped
  exact ⟨reply, computed⟩

/-- Whatever the job control commits goes through the handlers of the targets. -/
theorem control_handled (sound : RowsSound db) {action : Jobs.System.Action (RecordingTables γ)}
    (controlled : controls action = true) (performed : Jobs.System.perform wiring.service db action = .ok db') :
    Handled wiring.service (fun _ => True) db db' := by
  cases action with
  | submit knownSecrets request hooks generated => cases controlled
  | enqueueTarget knownSecrets submission store => cases controlled
  | completePublication knownSecrets result record => cases controlled
  | publishTarget knownSecrets completion record metadata => cases controlled
  | claim knownSecrets request =>
    obtain ⟨reply, claimed⟩ := map_snd_ok performed
    exact claimInWork_handled sound claimed
  | renewLease knownSecrets request =>
    obtain ⟨reply, renewed⟩ := map_snd_ok performed
    exact handled_any (renewLease_handled sound renewed)
  | requestCancellation knownSecrets request =>
    obtain ⟨reply, requested⟩ := map_snd_ok performed
    exact requestCancellation_handled sound requested
  | completeCancellation knownSecrets request =>
    obtain ⟨reply, completed⟩ := map_snd_ok performed
    exact handled_any (completeCancellation_handled sound completed)
  | recordRetryableFailure knownSecrets jitterSource request =>
    obtain ⟨reply, recorded⟩ := map_snd_ok performed
    exact handled_any (recordRetryableFailure_handled sound recorded)
  | recordFatalFailure knownSecrets request =>
    obtain ⟨reply, recorded⟩ := map_snd_ok performed
    exact handled_any (recordFatalFailure_handled sound recorded)
  | recordWaitingFatalFailure knownSecrets request =>
    obtain ⟨reply, recorded⟩ := map_snd_ok performed
    exact recordWaitingFatalFailure_handled sound recorded
  | confirmRecovery knownSecrets jitterSource request =>
    obtain ⟨reply, confirmed⟩ := map_snd_ok performed
    exact handled_any (confirmRecovery_handled sound confirmed)

/-- The claim of a recording job runs the handler of the recordings. -/
theorem advance_recording {targets targets' : Targets (RecordingTables γ)} {job : JobRow} {nowUs : Nat}
    {view : TargetView RecordingRecord} {recordingId : String} (target : job.target = .recording recordingId)
    (advanced : wiring.service.targets.advanceAfterClaim targets job nowUs = .ok (view, targets')) :
    ∃ record tables', startRecording wiring.scans targets.other job nowUs = .ok (record, tables') ∧
      targets' = { targets with other := tables' } := by
  unfold JobTargetRegistry.advanceAfterClaim at advanced
  obtain ⟨handler, resolved, advanced⟩ := bind_eq_ok.mp advanced
  rw [resolve_recording target] at resolved
  cases resolved
  obtain ⟨⟨shown, tables'⟩, lifted, returned⟩ := bind_eq_ok.mp advanced
  cases Except.ok.inj returned
  obtain ⟨⟨record, written⟩, started, paired⟩ := bind_eq_ok.mp lifted
  cases Except.ok.inj paired
  exact ⟨record, written, started, rfl⟩

/-- So does the end of a recording job. -/
theorem finish_recording {targets targets' : Targets (RecordingTables γ)} {job : JobRow} {nowUs : Nat}
    {outcome : JobTargetOutcome} {view : TargetView RecordingRecord} {recordingId : String}
    (target : job.target = .recording recordingId)
    (finished : wiring.service.targets.finish targets job nowUs outcome = .ok (view, targets')) :
    ∃ record tables', finishRecording wiring.scans targets.other job nowUs outcome = .ok (record, tables') ∧
      targets' = { targets with other := tables' } := by
  unfold JobTargetRegistry.finish at finished
  obtain ⟨handler, resolved, finished⟩ := bind_eq_ok.mp finished
  rw [resolve_recording target] at resolved
  cases resolved
  obtain ⟨⟨shown, tables'⟩, lifted, returned⟩ := bind_eq_ok.mp finished
  cases Except.ok.inj returned
  obtain ⟨⟨record, written⟩, ended, paired⟩ := bind_eq_ok.mp lifted
  cases Except.ok.inj paired
  exact ⟨record, written, ended, rfl⟩

variable {law : Prop} {row row' : JobRow}

/-- A recording that ends with its job keeps its log lawful and is handed to no review. -/
theorem endRecording_continues {recording ended : Recording} {nowUs : Nat} {outcome : JobTargetOutcome}
    (performed : endRecording recording nowUs outcome = .ok ended) :
    Continues recording ended ∧ ended.state = (outcomeTerminal outcome).state ∧
      (Reviewed ended → Reviewed recording) := by
  have final : (outcomeTerminal outcome).state ≠ .PENDING_REVIEW := by
    cases outcome <;> decide
  rcases endRecording_ok performed with direct | ⟨cleaning, first, second⟩
  · refine ⟨moved_continues direct, direct.state, ?_⟩
    intro reviewed
    exact ((moved_reviewed direct).mp reviewed).resolve_right final
  · refine ⟨(moved_continues first).trans (moved_continues second), second.state, ?_⟩
    intro reviewed
    have before := ((moved_reviewed second).mp reviewed).resolve_right final
    exact ((moved_reviewed first).mp before).resolve_right (by decide)

theorem agrees_outcome {outcome : JobTargetOutcome} {recording : Recording}
    (ended : recording.state = (outcomeTerminal outcome).state) : Agrees (outcomeState outcome) recording := by
  cases outcome with
  | cancelled => exact ended
  | failed => exact ended

theorem waiting_live {state : JobState} (waiting : state.isWaiting = true) : state ≠ .succeeded := by
  rintro rfl
  cases waiting

/-- A job and its recording end together. -/
theorem finish_agreed (sound : RowsSound db) (agreed : Agreed law db.jobs db.targets.other) (stored : row ∈ db.jobs)
    (live : row.state ≠ .succeeded) {outcome : JobTargetOutcome} {nowUs : Nat} {view : TargetView RecordingRecord}
    {targets' : Targets (RecordingTables γ)}
    (finished : wiring.service.targets.finish db.targets row' nowUs outcome = .ok (view, targets'))
    (sameJob : row'.jobId = row.jobId) (sameTarget : row'.target = row.target)
    (ends : row'.state = outcomeState outcome) :
    Agreed law (Table.replace JobRow.jobId db.jobs row') targets'.other := by
  obtain ⟨record, present, target, -, settled⟩ := agreed.linked row stored
  obtain ⟨record', tables', written, rfl⟩ := finish_recording (sameTarget.trans target) finished
  obtain ⟨before, member, named, performed, rfl⟩ := finishRecording_ok written
  have same : record = before := agreed.record_eq present member target (sameTarget.symm.trans named)
  subst same
  obtain ⟨continues, reached, unreviewed⟩ := endRecording_continues performed
  have sameId : record'.recordingId = record.recordingId := congrArg RecordingSource.recordingId continues.source
  apply agreed.update sound.keyed stored present target sameJob sameTarget sameId
  · rw [ends]
    exact agrees_outcome reached
  · exact continues.traced law (agreed.traced record present)
  · intro reviewed
    exact absurd (settled (unreviewed reviewed)) live
  · exact continues.keeps

/-- A claimed job starts its recording, or finds it started. -/
theorem claim_agreed (sound : RowsSound db) (agreed : Agreed law db.jobs db.targets.other) (stored : row ∈ db.jobs)
    (waiting : row.state.isWaiting = true) {nowUs : Nat} {view : TargetView RecordingRecord}
    {targets' : Targets (RecordingTables γ)}
    (advanced : wiring.service.targets.advanceAfterClaim db.targets row' nowUs = .ok (view, targets'))
    (sameJob : row'.jobId = row.jobId) (sameTarget : row'.target = row.target) (running : row'.state = .running) :
    Agreed law (Table.replace JobRow.jobId db.jobs row') targets'.other := by
  obtain ⟨record, present, target, -, settled⟩ := agreed.linked row stored
  have unreviewed : ¬ Reviewed record.toRecording := by
    intro reviewed
    rw [settled reviewed] at waiting
    cases waiting
  obtain ⟨record', tables', started, rfl⟩ := advance_recording (sameTarget.trans target) advanced
  obtain ⟨before, member, named, moves⟩ := startRecording_ok started
  have same : record = before := agreed.record_eq present member target (sameTarget.symm.trans named)
  subst same
  rcases moves with ⟨-, moved, rfl⟩ | ⟨starting, rfl⟩
  · have sameId : record'.recordingId = record.recordingId := congrArg RecordingSource.recordingId moved.source
    apply agreed.update sound.keyed stored present target sameJob sameTarget sameId
    · rw [running]
      exact moved.state
    · exact (moved_continues moved).traced law (agreed.traced record present)
    · intro reviewed
      exact absurd (((moved_reviewed moved).mp reviewed).resolve_right (by decide)) unreviewed
    · exact (moved_continues moved).keeps
  · apply agreed.updateJob sound.keyed stored present target sameJob sameTarget
    · rw [running]
      exact starting
    · intro reviewed
      exact absurd reviewed unreviewed

/-- A running job that stays unended keeps its started recording. -/
theorem rest_agreed (sound : RowsSound db) (agreed : Agreed law db.jobs db.targets.other) (stored : row ∈ db.jobs)
    (running : row.state = .running) (sameJob : row'.jobId = row.jobId) (sameTarget : row'.target = row.target)
    (rests : row'.state = .running ∨ row'.state = .retryWait) :
    Agreed law (Table.replace JobRow.jobId db.jobs row') db.targets.other := by
  obtain ⟨record, present, target, agrees, settled⟩ := agreed.linked row stored
  rw [running] at agrees settled
  apply agreed.updateJob sound.keyed stored present target sameJob sameTarget
  · rcases rests with going | waiting
    · rw [going]
      exact agrees
    · rw [waiting]
      exact agrees
  · intro reviewed
    cases settled reviewed

/-- The job control keeps the jobs and the recordings in agreement. -/
theorem handled_agreed (sound : RowsSound db) (agreed : Agreed law db.jobs db.targets.other)
    (handled : Handled wiring.service (fun _ => True) db db') : Agreed law db'.jobs db'.targets.other := by
  cases handled with
  | unchanged => exact agreed
  | moved stored _ move _ =>
    cases move with
    | claimed waiting _ _ _ advanced => exact claim_agreed sound agreed stored waiting advanced rfl rfl rfl
    | renewed running _ _ => exact rest_agreed sound agreed stored running rfl rfl (.inl running)
    | cancelRequested running _ => exact rest_agreed sound agreed stored running rfl rfl (.inl running)
    | requeued running _ _ => exact rest_agreed sound agreed stored running rfl rfl (.inr rfl)
    | ended outcome running _ finished =>
      exact finish_agreed sound agreed stored (by rw [running]; decide) finished rfl rfl rfl
    | dropped outcome waiting _ marking finished =>
      rcases marking with rfl | rfl
      · exact finish_agreed sound agreed stored (waiting_live waiting) finished rfl rfl rfl
      · exact finish_agreed sound agreed stored (waiting_live waiting) finished rfl rfl rfl

end Jiejian.Recordings.Handling
