import Jiejian.Recordings.System

namespace Jiejian.Recordings.Agreement

open Errors Library Library.Outcome Models Captures Repository Targets
open Jobs.Records

variable {γ : Type}

/-- The recording has been handed to a review. -/
def Reviewed (recording : Recording) : Prop := ∃ event ∈ recording.events, event.target = .PENDING_REVIEW

/-- The state of a recording that goes with a state of its job. -/
def Agrees (state : JobState) (recording : Recording) : Prop :=
  match state with
  | .pending => recording.state = .CREATED
  | .running | .retryWait => recording.state = .STARTING
  | .failed => recording.state = .FAILED
  | .cancelled => recording.state = .CANCELLED
  | .succeeded => recording.state = .PENDING_REVIEW ∨ recording.state = .COMPLETED ∨
      recording.state = .SAFETY_STOPPED ∨ (recording.state = .CANCELLED ∧ Reviewed recording)

/-- The drafts of a recording are numbered from one on, and there are none before a review. -/
def Drafted (tables : RecordingTables γ) (record : RecordingRecord) : Prop :=
  ∃ count, (tables.draftsOf record.recordingId).map (·.revision) = List.range' 1 count ∧
    (0 < count → Reviewed record.toRecording)

/-- The stored log of a recording leads from the first state to its own; `law` says whether it must also
keep to the transition table. -/
def Traced (law : Prop) (recording : Recording) : Prop :=
  Path .CREATED recording.events recording.state ∧ (law → Lawful recording.events)

/-- The jobs and the recordings agree. -/
structure Agreed (law : Prop) (jobs : List JobRow) (tables : RecordingTables γ) : Prop where
  keyed : Table.Keyed recordingKey tables.recordings
  distinct : ∀ row ∈ jobs, ∀ row' ∈ jobs, row.target = row'.target → row = row'
  linked : ∀ row ∈ jobs, ∃ record ∈ tables.recordings, row.target = .recording record.recordingId ∧
    Agrees row.state record.toRecording ∧ (Reviewed record.toRecording → row.state = .succeeded)
  owned : ∀ record ∈ tables.recordings, ∃ row ∈ jobs, row.target = .recording record.recordingId
  traced : ∀ record ∈ tables.recordings, Traced law record.toRecording
  drafted : ∀ record ∈ tables.recordings, Drafted tables record
  stored : ∀ draft ∈ tables.drafts, draft.valid = true ∧
    ∃ record ∈ tables.recordings, record.recordingId = draft.recordingId

theorem moved_reviewed {recording moved : Recording} {target : RecordingState} (moves : Moved recording moved target) :
    Reviewed moved ↔ Reviewed recording ∨ target = .PENDING_REVIEW := by
  obtain ⟨event, -, -, reaches, appended⟩ := moves.appended
  simp only [Reviewed, appended, List.mem_append, List.mem_singleton, or_and_right, exists_or, exists_eq_left, reaches]

/-- What later transitions of a recording keep of it. -/
structure Continues (recording moved : Recording) : Prop where
  source : moved.toRecordingSource = recording.toRecordingSource
  traced : ∀ law, Traced law recording → Traced law moved
  keeps : Reviewed recording → Reviewed moved

theorem moved_continues {recording moved : Recording} {target : RecordingState} (moves : Moved recording moved target) :
    Continues recording moved := by
  refine ⟨moves.source, ?_, ?_⟩
  · intro law traced
    exact ⟨moves.path traced.1, fun strict => moves.lawful (traced.2 strict)⟩
  · intro reviewed
    exact (moved_reviewed moves).mpr (.inl reviewed)

theorem Continues.trans {first second third : Recording} (before : Continues first second)
    (after : Continues second third) : Continues first third :=
  ⟨after.source.trans before.source, fun law traced => after.traced law (before.traced law traced),
    fun reviewed => after.keeps (before.keeps reviewed)⟩

/-- A recording that waits for its review has been handed to it. -/
theorem Traced.reviewed {law : Prop} {recording : Recording} (traced : Traced law recording)
    (pending : recording.state = .PENDING_REVIEW) : Reviewed recording := by
  have follows := traced.1.follows
  rw [pending] at follows
  have present : recording.events ≠ [] := by
    intro empty
    rw [empty] at follows
    cases follows
  have last := follows.last present
  obtain ⟨event, found, reaches⟩ := Option.map_eq_some_iff.mp last
  exact ⟨event, List.mem_of_getLast? found, reaches⟩

theorem agreed_empty (law : Prop) : Agreed law [] (System.emptyTables : RecordingTables γ) := by
  refine ⟨List.nodup_nil, ?_, ?_, ?_, ?_, ?_, ?_⟩
  · intro row member
    cases member
  · intro row member
    cases member
  · intro record member
    cases member
  · intro record member
    cases member
  · intro record member
    cases member
  · intro draft member
    cases member

section Updates

variable {law : Prop} {jobs : List JobRow} {tables : RecordingTables γ} {row row' : JobRow} {record record' : RecordingRecord}

/-- The recording of a job, found by its target. -/
theorem Agreed.record_eq (agreed : Agreed law jobs tables) {other : RecordingRecord} (present : record ∈ tables.recordings)
    (member : other ∈ tables.recordings) (target : row.target = .recording record.recordingId)
    (same : row.target = .recording other.recordingId) : record = other := by
  have ids : record.recordingId = other.recordingId := JobTarget.recording.inj (target.symm.trans same)
  exact agreed.keyed.eq_of_mem present member ids

/-- One job and its recording move together; every other pair stays as it was. -/
theorem Agreed.update (agreed : Agreed law jobs tables) (keyed : Table.Keyed JobRow.jobId jobs) (stored : row ∈ jobs)
    (present : record ∈ tables.recordings) (target : row.target = .recording record.recordingId)
    (sameJob : row'.jobId = row.jobId) (sameTarget : row'.target = row.target)
    (sameId : record'.recordingId = record.recordingId) (agrees : Agrees row'.state record'.toRecording)
    (traced : Traced law record'.toRecording)
    (settled : Reviewed record'.toRecording → row'.state = .succeeded)
    (keeps : Reviewed record.toRecording → Reviewed record'.toRecording) :
    Agreed law (Table.replace JobRow.jobId jobs row')
      { tables with recordings := Table.replace recordingKey tables.recordings record' } := by
  have jobThere : row'.jobId ∈ jobs.map JobRow.jobId := List.mem_map.mpr ⟨row, stored, sameJob.symm⟩
  have recordThere : recordingKey record' ∈ tables.recordings.map recordingKey :=
    List.mem_map.mpr ⟨record, present, sameId.symm⟩
  have jobCases : ∀ other ∈ Table.replace JobRow.jobId jobs row', other = row' ∨ (other ∈ jobs ∧ other ≠ row) := by
    intro other member
    rcases (Table.mem_replace jobThere).mp member with same | ⟨before, apart⟩
    · exact .inl same
    · refine .inr ⟨before, ?_⟩
      rintro rfl
      exact apart sameJob.symm
  have recordCases : ∀ other ∈ Table.replace recordingKey tables.recordings record',
      other = record' ∨ (other ∈ tables.recordings ∧ other ≠ record) := by
    intro other member
    rcases (Table.mem_replace recordThere).mp member with same | ⟨before, apart⟩
    · exact .inl same
    · refine .inr ⟨before, ?_⟩
      rintro rfl
      exact apart sameId.symm
  have newRecord : record' ∈ Table.replace recordingKey tables.recordings record' :=
    (Table.mem_replace recordThere).mpr (.inl rfl)
  have keptRecord : ∀ other ∈ tables.recordings, other.recordingId ≠ record.recordingId →
      other ∈ Table.replace recordingKey tables.recordings record' := by
    intro other before apart
    exact (Table.mem_replace recordThere).mpr (.inr ⟨before, fun same => apart (same.trans sameId)⟩)
  refine ⟨agreed.keyed.replace _, ?_, ?_, ?_, ?_, ?_, ?_⟩
  · intro one first two second same
    rcases jobCases one first with rfl | ⟨oneBefore, oneApart⟩
    · rcases jobCases two second with rfl | ⟨twoBefore, twoApart⟩
      · rfl
      · exact absurd (agreed.distinct _ twoBefore _ stored (same.symm.trans sameTarget)) twoApart
    · rcases jobCases two second with rfl | ⟨twoBefore, twoApart⟩
      · exact absurd (agreed.distinct _ oneBefore _ stored (same.trans sameTarget)) oneApart
      · exact agreed.distinct one oneBefore two twoBefore same
  · intro other member
    rcases jobCases other member with rfl | ⟨before, apart⟩
    · exact ⟨record', newRecord, sameTarget.trans (by rw [target, sameId]), agrees, settled⟩
    · obtain ⟨linked, there, link, rest⟩ := agreed.linked other before
      refine ⟨linked, keptRecord linked there ?_, link, rest⟩
      intro same
      apply apart
      apply agreed.distinct _ before _ stored
      rw [link, target, same]
  · intro other member
    rcases recordCases other member with rfl | ⟨before, apart⟩
    · refine ⟨row', (Table.mem_replace jobThere).mpr (.inl rfl), ?_⟩
      rw [sameTarget, target, sameId]
    · obtain ⟨owner, there, link⟩ := agreed.owned other before
      refine ⟨owner, (Table.mem_replace jobThere).mpr (.inr ⟨there, ?_⟩), link⟩
      intro same
      have identical : owner = row := keyed.eq_of_mem there stored (same.trans sameJob)
      rw [identical] at link
      exact apart (agreed.record_eq before present link target)
  · intro other member
    rcases recordCases other member with rfl | ⟨before, -⟩
    · exact traced
    · exact agreed.traced other before
  · intro other member
    rcases recordCases other member with rfl | ⟨before, -⟩
    · obtain ⟨count, numbered, reviewed⟩ := agreed.drafted record present
      refine ⟨count, ?_, fun some => keeps (reviewed some)⟩
      rw [sameId]
      exact numbered
    · exact agreed.drafted other before
  · intro draft member
    obtain ⟨valid, owner, there, same⟩ := agreed.stored draft member
    refine ⟨valid, ?_⟩
    by_cases mine : owner.recordingId = record.recordingId
    · exact ⟨record', newRecord, sameId.trans (mine.symm.trans same)⟩
    · exact ⟨owner, keptRecord owner there mine, same⟩

/-- A recording moves alone when its job has ended. -/
theorem Agreed.updateRecord (agreed : Agreed law jobs tables) (keyed : Table.Keyed JobRow.jobId jobs) (stored : row ∈ jobs)
    (present : record ∈ tables.recordings) (target : row.target = .recording record.recordingId)
    (sameId : record'.recordingId = record.recordingId) (agrees : Agrees row.state record'.toRecording)
    (traced : Traced law record'.toRecording)
    (settled : Reviewed record'.toRecording → row.state = .succeeded)
    (keeps : Reviewed record.toRecording → Reviewed record'.toRecording) :
    Agreed law jobs { tables with recordings := Table.replace recordingKey tables.recordings record' } := by
  have updated := agreed.update keyed stored present target rfl rfl sameId agrees traced settled keeps
  rwa [keyed.replace_self stored] at updated

/-- A job moves alone where its recording already is in the right state. -/
theorem Agreed.updateJob (agreed : Agreed law jobs tables) (keyed : Table.Keyed JobRow.jobId jobs) (stored : row ∈ jobs)
    (present : record ∈ tables.recordings) (target : row.target = .recording record.recordingId)
    (sameJob : row'.jobId = row.jobId) (sameTarget : row'.target = row.target)
    (agrees : Agrees row'.state record.toRecording)
    (settled : Reviewed record.toRecording → row'.state = .succeeded) :
    Agreed law (Table.replace JobRow.jobId jobs row') tables := by
  have traced := agreed.traced record present
  have updated := agreed.update keyed stored present target sameJob sameTarget rfl agrees traced settled id
  rwa [agreed.keyed.replace_self present] at updated

/-- The next draft of a recording under review. -/
theorem Agreed.addDraft (agreed : Agreed law jobs tables) (present : record ∈ tables.recordings)
    (reviewed : Reviewed record.toRecording) {draft : FlowDraftRevisionRecord γ} (valid : draft.valid = true)
    (owner : draft.recordingId = record.recordingId)
    (next : (tables.draftsOf record.recordingId).map (·.revision) = List.range' 1 (draft.revision - 1)) :
    Agreed law jobs { tables with drafts := tables.drafts ++ [draft] } := by
  refine ⟨agreed.keyed, agreed.distinct, agreed.linked, agreed.owned, agreed.traced, ?_, ?_⟩
  · intro other member
    by_cases mine : other.recordingId = record.recordingId
    · have same : other = record := agreed.keyed.eq_of_mem member present mine
      rw [same]
      refine ⟨draft.revision, ?_, fun _ => reviewed⟩
      have positive : 1 ≤ draft.revision := by
        simp only [FlowDraftRevisionRecord.valid, Bool.and_eq_true, decide_eq_true_eq] at valid
        exact valid.1.1.1
      have appended : ({ tables with drafts := tables.drafts ++ [draft] } : RecordingTables γ).draftsOf
          record.recordingId = tables.draftsOf record.recordingId ++ [draft] := by
        simp [RecordingTables.draftsOf, List.filter_append, owner]
      have last : List.range' 1 draft.revision = List.range' 1 (draft.revision - 1) ++ [draft.revision] := by
        have split := @List.range'_concat 1 1 (draft.revision - 1)
        have whole : draft.revision - 1 + 1 = draft.revision := by omega
        have end' : 1 + 1 * (draft.revision - 1) = draft.revision := by omega
        rwa [whole, end'] at split
      rw [appended, List.map_append, next, last]
      rfl
    · obtain ⟨count, numbered, before⟩ := agreed.drafted other member
      refine ⟨count, ?_, before⟩
      have skipped : ({ tables with drafts := tables.drafts ++ [draft] } : RecordingTables γ).draftsOf
          other.recordingId = tables.draftsOf other.recordingId := by
        have apart : draft.recordingId ≠ other.recordingId := fun same => mine (same.symm.trans owner)
        simp [RecordingTables.draftsOf, List.filter_append, apart]
      rw [skipped]
      exact numbered
  · intro other member
    rcases List.mem_append.mp member with before | last
    · exact agreed.stored other before
    · rw [List.mem_singleton.mp last]
      exact ⟨valid, record, present, owner.symm⟩

/-- A new recording comes with its pending job. -/
theorem Agreed.enlist (agreed : Agreed law jobs tables) (fresh : ∀ other ∈ tables.recordings, other.recordingId ≠ record.recordingId)
    (unused : ∀ other ∈ jobs, other.target ≠ row.target) (target : row.target = .recording record.recordingId)
    (pending : row.state = .pending) (created : record.state = .CREATED) (quiet : record.events = [])
    {candidates : List String} :
    Agreed law (jobs ++ [row])
      { tables with
        recordings := tables.recordings ++ [record]
        candidates := candidates } := by
  have unreviewed : ¬ Reviewed record.toRecording := by
    rintro ⟨event, member, -⟩
    rw [quiet] at member
    cases member
  have undrafted : tables.draftsOf record.recordingId = [] := by
    apply List.filter_eq_nil_iff.mpr
    intro draft member mine
    obtain ⟨-, owner, there, same⟩ := agreed.stored draft member
    exact fresh owner there (same.trans (by simpa using mine))
  refine ⟨Table.insert_keyed agreed.keyed fresh, ?_, ?_, ?_, ?_, ?_, ?_⟩
  · intro one first two second same
    rcases List.mem_append.mp first with before | last
    · rcases List.mem_append.mp second with before' | last'
      · exact agreed.distinct one before two before' same
      · rw [List.mem_singleton.mp last'] at same
        exact absurd same (unused one before)
    · rcases List.mem_append.mp second with before' | last'
      · rw [List.mem_singleton.mp last] at same
        exact absurd same.symm (unused two before')
      · rw [List.mem_singleton.mp last, List.mem_singleton.mp last']
  · intro other member
    rcases List.mem_append.mp member with before | last
    · obtain ⟨linked, there, rest⟩ := agreed.linked other before
      exact ⟨linked, List.mem_append_left _ there, rest⟩
    · rw [List.mem_singleton.mp last]
      refine ⟨record, List.mem_append_right _ (List.mem_singleton_self _), target, ?_, fun done => absurd done unreviewed⟩
      rw [pending]
      exact created
  · intro other member
    rcases List.mem_append.mp member with before | last
    · obtain ⟨owner, there, link⟩ := agreed.owned other before
      exact ⟨owner, List.mem_append_left _ there, link⟩
    · rw [List.mem_singleton.mp last]
      exact ⟨row, List.mem_append_right _ (List.mem_singleton_self _), target⟩
  · intro other member
    rcases List.mem_append.mp member with before | last
    · exact agreed.traced other before
    · rw [List.mem_singleton.mp last, Traced, quiet, created]
      exact ⟨path_nil _, fun _ event none => nomatch none⟩
  · intro other member
    rcases List.mem_append.mp member with before | last
    · exact agreed.drafted other before
    · rw [List.mem_singleton.mp last]
      refine ⟨0, ?_, fun some => absurd some (Nat.lt_irrefl 0)⟩
      have none : (tables.draftsOf record.recordingId).map (·.revision) = [] := by
        rw [undrafted]
        rfl
      exact none
  · intro draft member
    obtain ⟨valid, owner, there, same⟩ := agreed.stored draft member
    exact ⟨valid, owner, List.mem_append_left _ there, same⟩

end Updates

end Jiejian.Recordings.Agreement
