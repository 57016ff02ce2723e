import Jiejian.Recordings.Handling

namespace Jiejian.Recordings.Safety

open Errors Library Library.Outcome Models Captures Repository Targets Submission Lifecycle Recordings.System
open Agreement Handling
open Jobs.Records Jobs.Models Jobs.Repository Jobs.Control Jobs.Targets Jobs.Queue Jobs.Completion Jobs.Moves

variable {γ : Type} {wiring : Wiring γ} {db db' : Db (RecordingTables γ)}

section Submission

variable {law : Prop} {knownSecrets : List String}

theorem storeSubmission_ok {scans : Scans γ} {command : SubmitRecording} {record : RecordingRecord}
    {tables tables' : RecordingTables γ} (stored : storeSubmission scans command record tables = .ok tables') :
    (∀ other ∈ tables.recordings, other.recordingId ≠ record.recordingId) ∧
      ∃ candidates, tables' = { tables with
        recordings := tables.recordings ++ [record]
        candidates := candidates } := by
  unfold storeSubmission at stored
  obtain ⟨added, inserted, rest⟩ := bind_eq_ok.mp stored
  obtain ⟨fresh, rfl⟩ := addRecording_ok inserted
  refine ⟨fresh, ?_⟩
  by_cases candidate : command.materialCandidate = true
  · rw [if_pos candidate] at rest
    exact ⟨_, (Except.ok.inj rest).symm⟩
  · rw [if_neg candidate] at rest
    exact ⟨_, (Except.ok.inj rest).symm⟩

/-- A submission adds the pending job of a target nothing else has. -/
theorem enqueueTarget_ok {service : Service (RecordingTables γ) RecordingRecord} {submission : TargetSubmission}
    {store : Db (RecordingTables γ) → Except JiejianError (RecordingTables γ)} {reply : JobRow}
    (performed : enqueueTarget service knownSecrets db submission store = .ok (reply, db')) :
    (∀ row ∈ db.jobs, row.target ≠ (enqueuedJob submission).target) ∧
      store db = .ok db'.targets.other ∧ db'.jobs = db.jobs ++ [enqueuedJob submission] := by
  unfold enqueueTarget at performed
  obtain ⟨stored, written, rest⟩ := bind_eq_ok.mp performed
  obtain ⟨db₁, added, rest⟩ := bind_eq_ok.mp rest
  obtain ⟨db₂, appended, returned⟩ := bind_eq_ok.mp rest
  obtain ⟨accepted, rfl⟩ := addJob_ok added
  obtain ⟨event, _, _, _, _, rfl⟩ := appendJobEvent_event appended
  obtain ⟨_, distinct, _⟩ := jobConstraints_facts accepted
  cases Except.ok.inj returned
  exact ⟨distinct, written, rfl⟩

theorem submit_agreed (sound : RowsSound db) (agreed : Agreed law db.jobs db.targets.other) {command : SubmitRecording}
    {jobId requestHash : String} {sourceAccepted : Db (RecordingTables γ) → Except JiejianError Unit}
    {reply : RecordingSubmissionResult}
    (performed : Submission.submit wiring knownSecrets db command jobId requestHash sourceAccepted = .ok (reply, db')) :
    RowsSound db' ∧ Agreed law db'.jobs db'.targets.other := by
  unfold Submission.submit at performed
  obtain ⟨_, _, performed⟩ := bind_eq_ok.mp performed
  unfold submitInWork at performed
  cases known : getByIdempotency db command.request.projectId "BROWSER_RECORDING" command.idempotencyKey with
  | some existing =>
    rw [known] at performed
    obtain ⟨_, _, rest⟩ := bind_eq_ok.mp performed
    obtain ⟨accepted, _, returned⟩ := bind_eq_ok.mp rest
    cases Except.ok.inj returned
    exact ⟨sound, agreed⟩
  | none =>
    rw [known] at performed
    obtain ⟨_, _, rest⟩ := bind_eq_ok.mp performed
    obtain ⟨_, _, rest⟩ := bind_eq_ok.mp rest
    obtain ⟨_, _, rest⟩ := bind_eq_ok.mp rest
    obtain ⟨record, made, rest⟩ := bind_eq_ok.mp rest
    obtain ⟨⟨job, written⟩, enqueued, returned⟩ := bind_eq_ok.mp rest
    cases Except.ok.inj returned
    obtain ⟨same, -⟩ := fromDomain_ok made
    obtain ⟨distinct, stored, jobs⟩ := enqueueTarget_ok enqueued
    obtain ⟨fresh, candidates, tables⟩ := storeSubmission_ok stored
    have committed : Commit wiring.service none (fun _ => True) db written :=
      Jobs.Inversion.enqueueTarget_commit enqueued
    refine ⟨Jobs.Safety.commit_rows sound committed, ?_⟩
    rw [jobs, tables]
    have target : (enqueuedJob (jobOf command jobId requestHash)).target =
        .recording record.recordingId := by
      rw [same]
      rfl
    apply agreed.enlist fresh distinct target rfl
    · rw [same]
      rfl
    · rw [same]
      rfl

end Submission

section Results

variable {law : Prop} {knownSecrets : List String} {processing : Processing γ} {fence : FencedJobMutation}
  {result : RecordingRunnerResult}

/-- What is stored beside the merged recording: a capture brings its first draft and the review. -/
inductive Drafting (result : RecordingRunnerResult) (tables : RecordingTables γ) (persisted : RecordingRecord) :
    RecordingRecord → RecordingTables γ → Prop
  | captured {record : RecordingRecord} {draft : FlowDraftRevisionRecord γ} (type : result.resultType = .CAPTURED)
      (moved : Moved persisted.toRecording record.toRecording .PENDING_REVIEW) (valid : draft.valid = true)
      (owner : draft.recordingId = result.recordingId) (first : draft.revision = 1) :
      Drafting result tables persisted record { tables with drafts := tables.drafts ++ [draft] }
  | plain (type : result.resultType ≠ .CAPTURED) : Drafting result tables persisted persisted tables

theorem draftResult_drafting {scans : Scans γ} {tables tables' : RecordingTables γ} {job : JobRow}
    {existing persisted record : RecordingRecord} {nowUs : Nat}
    (drafted : draftResult scans processing tables job existing persisted result nowUs = .ok (record, tables')) :
    Drafting result tables persisted record tables' := by
  unfold draftResult at drafted
  by_cases captured : result.resultType = .CAPTURED
  swap
  · rw [if_neg captured] at drafted
    cases Except.ok.inj drafted
    exact .plain captured
  rw [if_pos captured] at drafted
  unfold draftCapture at drafted
  obtain ⟨request, _, rest⟩ := bind_eq_ok.mp drafted
  obtain ⟨_, _, rest⟩ := bind_eq_ok.mp rest
  obtain ⟨content, _, rest⟩ := bind_eq_ok.mp rest
  obtain ⟨pending, transitioned, rest⟩ := bind_eq_ok.mp rest
  obtain ⟨made, built, rest⟩ := bind_eq_ok.mp rest
  obtain ⟨written, added, returned⟩ := bind_eq_ok.mp rest
  cases Except.ok.inj returned
  obtain ⟨same, -⟩ := fromDomain_ok built
  obtain ⟨valid, rfl⟩ := addDraft_ok added
  rw [← same] at transitioned
  exact .captured captured (transition_moved transitioned) valid rfl rfl

/-- A kept result comes under a lease of the job it is for. -/
theorem persistSuccess_leased {reply : RecordingRecord}
    (performed : persistSuccess wiring knownSecrets processing db fence result = .ok (reply, db')) :
    (db.job fence.jobId).any (leasedFor result fence) = true := by
  unfold persistSuccess at performed
  obtain ⟨job, leased, _⟩ := bind_eq_ok.mp performed
  obtain ⟨found, holds⟩ := Option.filter_eq_some_iff.mp (orRaise_eq_ok.mp leased)
  rw [found]
  exact holds

/-- Everything a kept result changes: the recording it names, its drafts and the running job of it. -/
theorem persistSuccess_ok (sound : RowsSound db) {reply : RecordingRecord}
    (performed : persistSuccess wiring knownSecrets processing db fence result = .ok (reply, db')) :
    ∃ existing persisted drafted row, existing ∈ db.targets.other.recordings ∧
      existing.recordingId = result.recordingId ∧ recordFromResult existing result = .ok persisted ∧
      Drafting result db.targets.other persisted reply drafted ∧ row ∈ db.jobs ∧ row.state = .running ∧
      row.target = .recording reply.recordingId ∧
      db'.jobs = Table.replace JobRow.jobId db.jobs (releasedRow .succeeded fence.nowUs none row) ∧
      db'.targets.other = { drafted with recordings := Table.replace recordingKey drafted.recordings reply } ∧
      Commit wiring.service none (fun _ => True) db db' := by
  unfold persistSuccess at performed
  obtain ⟨job, _, rest⟩ := bind_eq_ok.mp performed
  obtain ⟨existing, found, rest⟩ := bind_eq_ok.mp rest
  obtain ⟨persisted, merged, rest⟩ := bind_eq_ok.mp rest
  obtain ⟨⟨record, drafted⟩, drafting, rest⟩ := bind_eq_ok.mp rest
  obtain ⟨tables, replaced, rest⟩ := bind_eq_ok.mp rest
  obtain ⟨member, named⟩ := get_some (orRaise_eq_ok.mp found)
  have written := replaceRecording_ok replaced
  have shape := draftResult_drafting drafting
  cases taken : completeTarget { db with targets := { db.targets with other := tables } }
      (completeRecordingResult job.jobId record.recordingId job.attempt fence.leaseOwner fence.fencingToken
        fence.nowUs) with
  | mk completed db₁ =>
    cases completed with
    | none =>
      rw [taken] at rest
      cases rest
    | some completed =>
      rw [taken] at rest
      obtain ⟨db₂, appended, returned⟩ := bind_eq_ok.mp rest
      obtain ⟨row, stored, fenced, target, clock, rfl, rfl⟩ :=
        Jobs.Inversion.completeTarget_some (by exact sound.keyed) taken
      obtain ⟨event, owner, number, leaves, reaches, rfl⟩ := appendJobEvent_event appended
      cases Except.ok.inj returned
      obtain ⟨_, running, _, _⟩ := fenced_iff.mp fenced
      refine ⟨existing, persisted, drafted, row, member, named, merged, shape, stored, running, target, rfl, written,
        ?_⟩
      refine .moved stored trivial (.completed running clock ?_) (logStep_one owner number ?_ reaches)
      · rw [target]
        intro runId other
        cases other
      · rw [running]
        exact leaves

theorem Drafting.source {tables tables' : RecordingTables γ} {persisted record : RecordingRecord}
    (drafting : Drafting result tables persisted record tables') :
    record.toRecordingSource = persisted.toRecordingSource := by
  cases drafting with
  | captured _ moved _ _ _ => exact moved.source
  | plain _ => rfl

theorem valid_matrix (valid : result.valid = true) : resultMatrix result = true := by
  simp only [RecordingRunnerResult.valid, Bool.and_eq_true] at valid
  exact valid.2

/-- A safety stop that the protocol accepts reports that state. -/
theorem safetyStopped_state (valid : result.valid = true) (stopped : result.resultType = .SAFETY_STOPPED) :
    result.recordingState = .SAFETY_STOPPED := by
  have matrix := valid_matrix valid
  simp only [resultMatrix, stopped, Bool.and_eq_true, decide_eq_true_eq] at matrix
  exact matrix.1.1.1

/-- A kept result ends the job and its recording together, and brings the first draft of a capture. -/
theorem persistSuccess_agreed (sound : RowsSound db) (agreed : Agreed law db.jobs db.targets.other)
    (valid : result.valid = true) (kept : result.resultType = .CAPTURED ∨ result.resultType = .SAFETY_STOPPED)
    (lawful : law → Lawful result.stateEvents) {reply : RecordingRecord}
    (performed : persistSuccess wiring knownSecrets processing db fence result = .ok (reply, db')) :
    RowsSound db' ∧ Agreed law db'.jobs db'.targets.other := by
  obtain ⟨existing, persisted, drafted, row, member, named, merged, drafting, stored, running, target, jobs, tables,
    committed⟩ := persistSuccess_ok sound performed
  refine ⟨Jobs.Safety.commit_rows sound committed, ?_⟩
  rw [jobs, tables]
  have built := recordFromResult_built merged
  have sameId : reply.recordingId = existing.recordingId :=
    congrArg RecordingSource.recordingId (drafting.source.trans built.source)
  rw [sameId] at target
  have unreviewed : ¬ Reviewed existing.toRecording := by
    obtain ⟨linked, there, link, -, settled⟩ := agreed.linked row stored
    rw [agreed.record_eq member there target link]
    intro reviewed
    rw [settled reviewed] at running
    cases running
  have traced : Traced law persisted.toRecording := by
    obtain ⟨path, table⟩ := agreed.traced existing member
    exact ⟨built.path _ path, fun strict => built.lawful.mpr ⟨table strict, lawful strict⟩⟩
  cases drafting with
  | @captured _ draft _ moved valid owner first =>
    have updated := agreed.update sound.keyed stored member target (releasedRow_jobId .succeeded fence.nowUs none row)
      rfl sameId (.inl moved.state) ((moved_continues moved).traced law traced) (fun _ => rfl)
      (fun reviewed => absurd reviewed unreviewed)
    apply updated.addDraft
    · exact (Table.mem_replace (List.mem_map.mpr ⟨existing, member, sameId.symm⟩)).mpr (.inl rfl)
    · exact (moved_reviewed moved).mpr (.inr rfl)
    · exact valid
    · rw [owner, sameId, named]
    · obtain ⟨count, numbered, before⟩ := agreed.drafted existing member
      have none : count = 0 := by
        by_contra some
        exact unreviewed (before (Nat.pos_of_ne_zero some))
      rw [first, sameId]
      rw [none] at numbered
      exact numbered
  | plain type =>
    have stopped : reply.state = .SAFETY_STOPPED :=
      built.state.trans (safetyStopped_state valid (kept.resolve_left type))
    exact agreed.update sound.keyed stored member target (releasedRow_jobId .succeeded fence.nowUs none row)
      rfl sameId (.inr (.inr (.inl stopped))) traced (fun _ => rfl) (fun reviewed => absurd reviewed unreviewed)

theorem Drafting.recordings {tables tables' : RecordingTables γ} {persisted record : RecordingRecord}
    (drafting : Drafting result tables persisted record tables') : tables'.recordings = tables.recordings := by
  cases drafting with
  | captured _ _ _ _ _ => rfl
  | plain _ => rfl

theorem Drafting.lawful {tables tables' : RecordingTables γ} {persisted record : RecordingRecord}
    (drafting : Drafting result tables persisted record tables') : Lawful record.events ↔ Lawful persisted.events := by
  cases drafting with
  | captured _ moved _ _ _ =>
    constructor
    · intro whole event member
      obtain ⟨last, -, -, -, appended⟩ := moved.appended
      apply whole event
      rw [appended]
      exact List.mem_append_left _ member
    · exact moved.lawful
  | plain _ => exact Iff.rfl

/-- Where all logs keep to the table, storing a result leaves it so exactly if its own events do. -/
theorem persistSuccess_lawful (sound : RowsSound db) (agreed : Agreed True db.jobs db.targets.other)
    {reply : RecordingRecord}
    (performed : persistSuccess wiring knownSecrets processing db fence result = .ok (reply, db')) :
    (∀ record ∈ db'.targets.other.recordings, Lawful record.events) ↔ Lawful result.stateEvents := by
  obtain ⟨existing, persisted, drafted, row, member, named, merged, drafting, -, -, -, -, tables, -⟩ :=
    persistSuccess_ok sound performed
  have built := recordFromResult_built merged
  have sameId : reply.recordingId = existing.recordingId :=
    congrArg RecordingSource.recordingId (drafting.source.trans built.source)
  have there : recordingKey reply ∈ db.targets.other.recordings.map recordingKey :=
    List.mem_map.mpr ⟨existing, member, sameId.symm⟩
  have own : Lawful reply.events ↔ Lawful result.stateEvents := by
    rw [drafting.lawful, built.lawful]
    exact and_iff_right ((agreed.traced existing member).2 trivial)
  rw [tables, drafting.recordings, ← own]
  constructor
  · intro all
    exact all reply ((Table.mem_replace there).mpr (.inl rfl))
  · intro lawful record present
    rcases (Table.mem_replace there).mp present with rfl | ⟨before, -⟩
    · exact lawful
    · exact (agreed.traced record before).2 trivial

/-- A cancellation and a failure only end the job; a kept result is stored with it. -/
theorem consumeResult_agreed (sound : RowsSound db) (agreed : Agreed law db.jobs db.targets.other)
    {jitterSource : Nat → Option Int} {result : AcceptedResult}
    (lawful : law → result.val.resultType = .CAPTURED ∨ result.val.resultType = .SAFETY_STOPPED →
      (db.job fence.jobId).any (leasedFor result.val fence) = true → Lawful result.val.stateEvents)
    (performed : consumeResult wiring knownSecrets jitterSource processing db fence result = .ok db') :
    RowsSound db' ∧ Agreed law db'.jobs db'.targets.other := by
  have settled : Handled wiring.service (fun _ => True) db db' →
      RowsSound db' ∧ Agreed law db'.jobs db'.targets.other := by
    intro handled
    have committed : Commit wiring.service none (fun _ => True) db db' := handled.commit
    exact ⟨Jobs.Safety.commit_rows sound committed, handled_agreed sound agreed handled⟩
  unfold consumeResult at performed
  obtain ⟨_, _, performed⟩ := bind_eq_ok.mp performed
  cases type : result.val.resultType with
  | CAPTURED =>
    simp only [type] at performed
    obtain ⟨reply, persisted⟩ := map_snd_ok performed
    exact persistSuccess_agreed sound agreed result.property (.inl type)
      (fun strict => lawful strict (.inl type) (persistSuccess_leased persisted)) persisted
  | SAFETY_STOPPED =>
    simp only [type] at performed
    obtain ⟨reply, persisted⟩ := map_snd_ok performed
    exact persistSuccess_agreed sound agreed result.property (.inr type)
      (fun strict => lawful strict (.inr type) (persistSuccess_leased persisted)) persisted
  | CANCELLED =>
    simp only [type] at performed
    obtain ⟨reply, completed⟩ := map_snd_ok performed
    exact settled (handled_any (Jobs.Commits.completeCancellation_handled sound completed))
  | FAILED =>
    simp only [type] at performed
    split at performed
    · obtain ⟨reply, recorded⟩ := map_snd_ok performed
      exact settled (handled_any (Jobs.Commits.recordRetryableFailure_handled sound recorded))
    · obtain ⟨reply, recorded⟩ := map_snd_ok performed
      exact settled (handled_any (Jobs.Commits.recordFatalFailure_handled sound recorded))

end Results

section Reviews

variable {law : Prop}

/-- A recording whose job has succeeded may move to another state that goes with it. -/
theorem recordMove_agreed (sound : RowsSound db) (agreed : Agreed law db.jobs db.targets.other)
    {record record' : RecordingRecord} {target : RecordingState} (present : record ∈ db.targets.other.recordings)
    (pending : record.state = .PENDING_REVIEW) (moved : Moved record.toRecording record'.toRecording target)
    (settles : target = .COMPLETED ∨ target = .CANCELLED) :
    Agreed law db.jobs { db.targets.other with
      recordings := Table.replace recordingKey db.targets.other.recordings record' } := by
  obtain ⟨row, stored, named⟩ := agreed.owned record present
  obtain ⟨linked, there, link, -, settled⟩ := agreed.linked row stored
  have same := agreed.record_eq present there named link
  subst same
  have reviewed := (agreed.traced record present).reviewed pending
  have succeeded := settled reviewed
  have continues := moved_continues moved
  apply agreed.updateRecord sound.keyed stored present named (congrArg RecordingSource.recordingId moved.source)
  · rw [succeeded]
    rcases settles with completed | cancelled
    · exact .inr (.inl (moved.state.trans completed))
    · exact .inr (.inr (.inr ⟨moved.state.trans cancelled, continues.keeps reviewed⟩))
  · exact continues.traced law (agreed.traced record present)
  · exact fun _ => succeeded
  · exact continues.keeps

theorem discardReview_agreed (sound : RowsSound db) (agreed : Agreed law db.jobs db.targets.other)
    {recordingId : String} {nowUs : Nat} (performed : discardReview wiring.scans db recordingId nowUs = .ok db') :
    RowsSound db' ∧ Agreed law db'.jobs db'.targets.other := by
  unfold discardReview at performed
  obtain ⟨record, found, performed⟩ := bind_eq_ok.mp performed
  obtain ⟨present, -⟩ := get_some (orRaise_eq_ok.mp found)
  by_cases cancelled : record.state = .CANCELLED
  · rw [if_pos cancelled] at performed
    cases Except.ok.inj performed
    exact ⟨sound, agreed⟩
  · rw [if_neg cancelled] at performed
    obtain ⟨_, allowed, rest⟩ := bind_eq_ok.mp performed
    obtain ⟨ended, transitioned, rest⟩ := bind_eq_ok.mp rest
    obtain ⟨⟨record', tables⟩, stored, returned⟩ := bind_eq_ok.mp rest
    cases Except.ok.inj returned
    obtain ⟨pending, -⟩ := require_eq_ok.mp allowed
    obtain ⟨same, rfl⟩ := storeRecording_ok stored
    rw [← same] at transitioned
    have moved := transition_moved transitioned
    exact ⟨⟨sound.keyed, sound.sound⟩, recordMove_agreed sound agreed present pending moved (.inr rfl)⟩

theorem finalize_agreed (sound : RowsSound db) (agreed : Agreed law db.jobs db.targets.other)
    {recordingId : String} {nowUs : Nat} {accept : RecordingRecord → FlowDraftRevisionRecord γ → Except JiejianError Unit}
    (performed : finalize wiring.scans db recordingId nowUs accept = .ok db') :
    RowsSound db' ∧ Agreed law db'.jobs db'.targets.other := by
  unfold finalize at performed
  obtain ⟨record, found, performed⟩ := bind_eq_ok.mp performed
  obtain ⟨latest, _, performed⟩ := bind_eq_ok.mp performed
  obtain ⟨_, allowed, performed⟩ := bind_eq_ok.mp performed
  obtain ⟨present, -⟩ := get_some (orRaise_eq_ok.mp found)
  by_cases completed : record.state = .COMPLETED
  · rw [if_pos completed] at performed
    cases Except.ok.inj performed
    exact ⟨sound, agreed⟩
  · rw [if_neg completed] at performed
    obtain ⟨_, _, rest⟩ := bind_eq_ok.mp performed
    obtain ⟨ended, transitioned, rest⟩ := bind_eq_ok.mp rest
    obtain ⟨⟨record', tables⟩, stored, returned⟩ := bind_eq_ok.mp rest
    cases Except.ok.inj returned
    have pending := (require_eq_ok.mp allowed).resolve_right completed
    obtain ⟨same, rfl⟩ := storeRecording_ok stored
    rw [← same] at transitioned
    have moved := transition_moved transitioned
    exact ⟨⟨sound.keyed, sound.sound⟩, recordMove_agreed sound agreed present pending moved (.inl rfl)⟩

/-- The latest draft carries the number of the drafts. -/
theorem latest_revision {tables : RecordingTables γ} {record : RecordingRecord} {latest : FlowDraftRevisionRecord γ}
    (drafted : Drafted tables record) (found : tables.latest record.recordingId = some latest) :
    latest ∈ tables.drafts ∧ latest.recordingId = record.recordingId ∧
      (tables.draftsOf record.recordingId).map (·.revision) = List.range' 1 latest.revision := by
  obtain ⟨count, numbered, -⟩ := drafted
  have greatest := Table.first_greatest found
  have member := List.mem_filter.mp (Table.first_mem found)
  refine ⟨member.1, by simpa using member.2, ?_⟩
  have inside : latest.revision ∈ List.range' 1 count := by
    rw [← numbered]
    exact List.mem_map.mpr ⟨latest, Table.first_mem found, rfl⟩
  have bounds := List.mem_range'_1.mp inside
  have last : count ∈ (tables.draftsOf record.recordingId).map (·.revision) := by
    rw [numbered]
    exact List.mem_range'_1.mpr ⟨by omega, by omega⟩
  obtain ⟨draft, stored, number⟩ := List.mem_map.mp last
  have above := greatest draft stored
  have whole : count = latest.revision := by omega
  rw [numbered, whole]

theorem review_agreed (sound : RowsSound db) (agreed : Agreed law db.jobs db.targets.other) {recordingId : String}
    {expectedRevision : Option Nat} {edit : RecordingRecord → FlowDraft γ → Except JiejianError γ}
    (performed : review wiring.scans db recordingId expectedRevision edit = .ok db') :
    RowsSound db' ∧ Agreed law db'.jobs db'.targets.other := by
  unfold review at performed
  obtain ⟨record, found, performed⟩ := bind_eq_ok.mp performed
  obtain ⟨_, allowed, performed⟩ := bind_eq_ok.mp performed
  obtain ⟨latest, newest, performed⟩ := bind_eq_ok.mp performed
  obtain ⟨_, _, performed⟩ := bind_eq_ok.mp performed
  obtain ⟨content, _, performed⟩ := bind_eq_ok.mp performed
  obtain ⟨tables, added, returned⟩ := bind_eq_ok.mp performed
  cases Except.ok.inj returned
  obtain ⟨present, named⟩ := get_some (orRaise_eq_ok.mp found)
  have latestFound := orRaise_eq_ok.mp newest
  rw [← named] at latestFound
  obtain ⟨stored, owner, numbered⟩ := latest_revision (agreed.drafted record present) latestFound
  obtain ⟨valid, rfl⟩ := addDraft_ok added
  have identity := (agreed.stored latest stored).1
  simp only [FlowDraftRevisionRecord.valid, Bool.and_eq_true, decide_eq_true_eq] at identity
  refine ⟨⟨sound.keyed, sound.sound⟩, ?_⟩
  apply agreed.addDraft present ((agreed.traced record present).reviewed (require_eq_ok.mp allowed)) valid
  · exact identity.1.1.2.trans owner
  · have next : latest.draft.revision + 1 - 1 = latest.revision := by
      rw [identity.1.2]
      rfl
    rw [next]
    exact numbered

end Reviews

end Jiejian.Recordings.Safety
