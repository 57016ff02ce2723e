import Jiejian.Recordings.Safety

namespace Jiejian.Recordings.Consistency

open Errors Library Library.Outcome Models Captures Repository Targets Submission Lifecycle Recordings.System
open Agreement Handling Safety
open Jobs.Records Jobs.Models Jobs.Repository Jobs.Targets Jobs.Moves

variable {γ : Type} {wiring : Wiring γ} {db db' : Db (RecordingTables γ)}

/-- The results that are stored with their recording. -/
def Kept (result : RecordingRunnerResult) : Prop :=
  result.resultType = .CAPTURED ∨ result.resultType = .SAFETY_STOPPED

/-- A result that this transaction can store reports transitions of the table only. -/
def Regular (db : Db (RecordingTables γ)) (action : Action γ) : Prop :=
  ∀ fence result, action.consumed = some (fence, result) → Kept result →
    (db.job fence.jobId).any (leasedFor result fence) = true → Lawful result.stateEvents

/-- Jobs and recordings agree, whether or not the logs are kept to the table. -/
def Sound (law : Prop) (db : Db (RecordingTables γ)) : Prop :=
  RowsSound db ∧ Agreed law db.jobs db.targets.other

theorem perform_sound {law : Prop} {action : Action γ} (regular : law → Regular db action) (sound : Sound law db)
    (performed : perform wiring db action = .ok db') : Sound law db' := by
  obtain ⟨rows, agreed⟩ := sound
  cases action with
  | submit knownSecrets command jobId requestHash sourceAccepted =>
    obtain ⟨reply, submitted⟩ := map_snd_ok performed
    exact submit_agreed rows agreed submitted
  | control action controlled =>
    have handled := control_handled rows controlled performed
    have committed : Commit wiring.service none (fun _ => True) db db' := handled.commit
    exact ⟨Jobs.Safety.commit_rows rows committed, handled_agreed rows agreed handled⟩
  | consumeResult knownSecrets jitterSource processing fence result =>
    exact consumeResult_agreed rows agreed (fun strict => regular strict fence result.val rfl) performed
  | review recordingId expectedRevision edit => exact review_agreed rows agreed performed
  | discard recordingId nowUs => exact discardReview_agreed rows agreed performed
  | finalize recordingId nowUs accept => exact finalize_agreed rows agreed performed

theorem step_sound {law : Prop} {action : Action γ} (regular : law → Regular db action) (sound : Sound law db) :
    Sound law (step wiring db action) := by
  unfold step
  cases performed : perform wiring db action with
  | ok db' => exact perform_sound regular sound performed
  | error error => exact sound

theorem empty_sound (law : Prop) (projects : List String) : Sound law (emptyDb projects : Db (RecordingTables γ)) :=
  ⟨Jobs.Safety.emptyDb_rows projects emptyTables, agreed_empty law⟩

/-- Whatever the results contain, jobs, recordings, logs and drafts stay in agreement. -/
theorem run_sound (wiring : Wiring γ) (projects : List String) (actions : List (Action γ)) :
    Sound False (run wiring (emptyDb projects) actions) := by
  apply Transition.run_invariant
  · intro db action sound
    exact step_sound False.elim sound
  · exact empty_sound False projects

/-- The states of a recording from its review on. -/
def reviewStates : List RecordingState := [.PENDING_REVIEW, .COMPLETED, .CANCELLED]

/-- The table never leads out of the review. -/
theorem reviewStates_closed {state target : RecordingState} (inside : state ∈ reviewStates)
    (allowed : target ∈ transitions state) : target ∈ reviewStates := by
  cases state <;> simp_all [reviewStates, transitions]

theorem follows_review {start finish : RecordingState} {events : List RecordingStateEvent}
    (follows : History.Follows (·.source) (·.target) start events finish) (lawful : Lawful events)
    (inside : start ∈ reviewStates) : finish ∈ reviewStates := by
  induction events generalizing start with
  | nil =>
    cases follows
    exact inside
  | cons event rest ih =>
    apply ih follows.2
    · exact fun other member => lawful other (List.mem_cons_of_mem _ member)
    · apply reviewStates_closed inside
      rw [← follows.1]
      exact lawful event List.mem_cons_self

/-- A lawful log that once reached the review ends in it, completed or cancelled. -/
theorem reviewed_state {recording : Recording} (traced : Traced True recording) (reviewed : Reviewed recording) :
    recording.state ∈ reviewStates := by
  obtain ⟨path, table⟩ := traced
  obtain ⟨event, member, reaches⟩ := reviewed
  obtain ⟨before, after, split⟩ := List.append_of_mem member
  have follows := path.follows
  rw [split] at follows
  obtain ⟨middle, -, last⟩ := History.follows_append.mp follows
  apply follows_review last.2
  · intro other inside
    apply table trivial other
    rw [split]
    exact List.mem_append_right _ (List.mem_cons_of_mem _ inside)
  · have review : event.target ∈ reviewStates := by
      rw [reaches]
      decide
    exact review

/-- Recordings, their jobs, their logs and their drafts in one state of the store. -/
structure Consistent (db : Db (RecordingTables γ)) : Prop where
  keyed : Table.Keyed recordingKey db.targets.other.recordings
  single : ∀ row ∈ db.jobs, ∀ row' ∈ db.jobs, row.target = row'.target → row = row'
  owned : ∀ record ∈ db.targets.other.recordings, ∃ row ∈ db.jobs, row.target = .recording record.recordingId
  paired : ∀ row ∈ db.jobs, ∃ record ∈ db.targets.other.recordings, row.target = .recording record.recordingId ∧
    Agrees row.state record.toRecording
  logged : ∀ record ∈ db.targets.other.recordings, Path .CREATED record.events record.state ∧ Lawful record.events
  drafted : ∀ record ∈ db.targets.other.recordings, ∃ count,
    (db.targets.other.draftsOf record.recordingId).map (·.revision) = List.range' 1 count ∧
      (0 < count → record.state ∈ reviewStates ∧ Reviewed record.toRecording)
  stored : ∀ draft ∈ db.targets.other.drafts, ∃ record ∈ db.targets.other.recordings,
    record.recordingId = draft.recordingId

theorem Sound.consistent (sound : Sound True db) : Consistent db := by
  obtain ⟨-, agreed⟩ := sound
  refine ⟨agreed.keyed, agreed.distinct, agreed.owned, ?_, ?_, ?_, ?_⟩
  · intro row stored
    obtain ⟨record, present, target, agrees, -⟩ := agreed.linked row stored
    exact ⟨record, present, target, agrees⟩
  · intro record present
    obtain ⟨path, table⟩ := agreed.traced record present
    exact ⟨path, table trivial⟩
  · intro record present
    obtain ⟨count, numbered, before⟩ := agreed.drafted record present
    refine ⟨count, numbered, ?_⟩
    intro some
    exact ⟨reviewed_state (agreed.traced record present) (before some), before some⟩
  · intro draft member
    exact (agreed.stored draft member).2

/-- A run that stores regular results only is consistent in every state it reaches. -/
theorem recordings_agree_with_jobs (wiring : Wiring γ) (projects : List String) (actions : List (Action γ))
    (regular : Transition.Along (step wiring) Regular (emptyDb projects) actions) :
    Consistent (run wiring (emptyDb projects) actions) := by
  apply Sound.consistent
  apply Transition.run_invariant_along _ regular (empty_sound True projects)
  intro db action keeps sound
  exact step_sound (fun _ => keeps) sound

/-- A handler of the other targets, which no recording job calls. -/
def passiveHandler : JobTargetHandler (RecordingTables Unit) RecordingRecord where
  load _ _ := .ok ⟨none, none⟩
  advanceAfterClaim tables _ _ := .ok (⟨none, none⟩, tables)
  finish tables _ _ _ := .ok (⟨none, none⟩, tables)

def sampleWiring : Wiring Unit where
  payloadSafe _ _ := true
  scans := ⟨fun _ => true, fun _ => true, fun _ => true⟩
  retryPolicy := {}
  flowTrial := passiveHandler
  preflight := passiveHandler
  capture := passiveHandler
  preparation := passiveHandler

def sampleSource : RecordingSource where
  recordingId := "r"
  projectId := "p"
  businessActionId := "a"
  actionRevision := 1
  subjectTestIdentityId := "i"
  resourceOwnerTestIdentityId := "i"
  preparationSourceFingerprint := "f"

def sampleSubmission : SubmitRecording where
  request := sampleSource
  requestCreatedAtUs := 5
  flowId := "w"
  idempotencyKey := "k"
  availableAtUs := 5
  nowUs := 5

/-- The event of the runner between two states at a time. -/
def reported (sequence : Nat) (source target : RecordingState) (occurredAtUs : Nat) : RecordingStateEvent :=
  { sequence, source, target, operator := "RECORDING_RUNNER", occurredAtUs }

def capturedResult (stateEvents : List RecordingStateEvent) : RecordingRunnerResult where
  recordingId := "r"
  projectId := "p"
  finishedAtUs := 9
  resultType := .CAPTURED
  recordingState := .PROCESSING
  cleanupStatus := .SUCCEEDED
  stateEvents := stateEvents

/-- What the runner reports of a capture that went through every state. -/
def wholeCapture : AcceptedResult :=
  ⟨capturedResult [reported 1 .CREATED .STARTING 6, reported 2 .STARTING .RECORDING 7, reported 3 .RECORDING .CLEANING 8,
    reported 4 .CLEANING .PROCESSING 9], by decide⟩

/-- A result that the protocol accepts although its recording never ran nor was cleaned up. -/
def skippedCapture : AcceptedResult :=
  ⟨capturedResult [reported 1 .CREATED .STARTING 6, reported 2 .STARTING .PROCESSING 9], by decide⟩

def sampleFence : FencedJobMutation := ⟨"j", "w", 1, 9, by decide⟩

def sampleClaim : ClaimJob where
  leaseOwner := "w"
  nowUs := 6
  leaseDurationUs := 10
  jobId := none
  duration_pos := Nat.le_of_ble_eq_true rfl
  duration_le := Nat.le_of_ble_eq_true rfl

def sampleProcessing : Processing Unit where
  loaded _ := .ok sampleSource
  build _ _ := .ok ()

/-- A recording submitted, claimed and finished with a result. -/
def captureWith (result : AcceptedResult) : List (Action Unit) :=
  [.submit [] sampleSubmission "j" "h" fun _ => .ok (),
    .control (.claim [] sampleClaim) rfl,
    .consumeResult [] (fun _ => none) sampleProcessing sampleFence result]

theorem lawful_of_all {events : List RecordingStateEvent}
    (checked : events.all (fun event => event.target ∈ transitions event.source) = true) : Lawful events := by
  intro event member
  have allowed := List.all_eq_true.mp checked event member
  exact of_decide_eq_true allowed

theorem quiet_regular {db : Db (RecordingTables Unit)} {action : Action Unit} (quiet : action.consumed = none) :
    Regular db action := by
  intro fence result consumed
  rw [quiet] at consumed
  cases consumed

/-- The whole capture is reviewed once and completed. -/
def completedRecording : List (Action Unit) :=
  captureWith wholeCapture ++
    [.review "r" (some 1) fun _ _ => .ok (), .finalize "r" 12 fun _ _ => .ok ()]

theorem wholeCapture_regular (db : Db (RecordingTables Unit)) (processing : Processing Unit) :
    Regular db (.consumeResult [] (fun _ => none) processing sampleFence wholeCapture) := by
  intro fence result consumed _ _
  cases consumed
  exact lawful_of_all (by decide)

theorem completedRecording_agrees :
    Consistent (run sampleWiring (emptyDb ["p"]) completedRecording) := by
  apply recordings_agree_with_jobs
  exact ⟨quiet_regular rfl, quiet_regular rfl, wholeCapture_regular _ _, quiet_regular rfl, quiet_regular rfl, trivial⟩

/-- The stored log of the skipped capture has a step that the table does not have. -/
theorem skippedCapture_disagrees : ¬ ∀ (wiring : Wiring Unit) (projects : List String) (actions : List (Action Unit)),
    Consistent (run wiring (emptyDb projects) actions) := by
  intro always
  have consistent := always sampleWiring ["p"] (captureWith skippedCapture)
  have stored : (run sampleWiring (emptyDb ["p"]) (captureWith skippedCapture)).targets.other.recordings.any
      (fun record => record.events.any fun event => event.target ∉ transitions event.source) = true := by decide
  obtain ⟨record, present, skips⟩ := List.any_eq_true.mp stored
  obtain ⟨event, member, missing⟩ := List.any_eq_true.mp skips
  exact of_decide_eq_true missing ((consistent.logged record present).2 event member)

end Jiejian.Recordings.Consistency
