import Jiejian.Jobs.Commits

namespace Jiejian.Jobs.Cancellation
open Jiejian.Errors Jiejian.Library Jiejian.Library.Outcome
open Jiejian.Jobs.Records Jiejian.Jobs.Models Jiejian.Jobs.Repository Jiejian.Jobs.Control Jiejian.Jobs.Targets
open Jiejian.Jobs.Queue Jiejian.Jobs.System Jiejian.Jobs.Moves

variable {ρ ν : Type}

/-- The error has a stable code; a rejected record constructor has none. -/
def Typed (error : JiejianError) : Prop := error.code ≠ .VALIDATION_ERROR

instance : DecidablePred Typed := fun error => inferInstanceAs (Decidable (error.code ≠ .VALIDATION_ERROR))

/-- `JobMutationResult.validate_target`: the run, the recording and the job's other targets are one together. -/
def exposesOneTarget (job : JobRow) (view : TargetView ν) : Bool :=
  view.run.isSome.toNat + view.recording.isSome.toNat +
    (match job.target with
      | .run _ | .recording _ => 0
      | _ => 1) = 1

/-- A handler raises typed errors only, and hands back what the target of the job is. -/
structure HandlerAnswers {τ : Type} (handler : JobTargetHandler τ ν) (tables : τ) : Prop where
  load : ∀ job, RaisesOnly Typed (handler.load tables job)
  finish : ∀ job nowUs outcome, RaisesOnly Typed (handler.finish tables job nowUs outcome)
  loaded : ∀ job view, handler.load tables job = .ok view → exposesOneTarget job view = true
  finished : ∀ job nowUs outcome reply, handler.finish tables job nowUs outcome = .ok reply →
    exposesOneTarget job reply.1 = true

def TargetsAnswer {τ : Type} (registry : JobTargetRegistry τ ν) (tables : τ) : Prop :=
  ∀ entry ∈ registry.handlers, HandlerAnswers entry.2 tables

section Handlers

variable {τ : Type} {registry : JobTargetRegistry τ ν} {tables : τ} {job : JobRow}

theorem resolve_typed : RaisesOnly Typed (registry.resolve job) :=
  raisesOnly_orRaise fun _ => by decide

theorem resolve_answers (answers : TargetsAnswer registry tables) {handler : JobTargetHandler τ ν}
    (resolved : registry.resolve job = .ok handler) : HandlerAnswers handler tables := by
  obtain ⟨entry, found, same⟩ := Option.map_eq_some_iff.mp (orRaise_eq_ok.mp resolved)
  exact same ▸ answers entry (List.mem_of_find?_eq_some found)

theorem load_typed (answers : TargetsAnswer registry tables) : RaisesOnly Typed (registry.load tables job) := by
  apply raisesOnly_bind resolve_typed
  intro handler resolved
  exact (resolve_answers answers resolved).load job

theorem finish_typed (answers : TargetsAnswer registry tables) {nowUs : Nat} {outcome : JobTargetOutcome} :
    RaisesOnly Typed (registry.finish tables job nowUs outcome) := by
  apply raisesOnly_bind resolve_typed
  intro handler resolved
  exact (resolve_answers answers resolved).finish job nowUs outcome

theorem load_exposes (answers : TargetsAnswer registry tables) {view : TargetView ν}
    (loaded : registry.load tables job = .ok view) : exposesOneTarget job view = true := by
  obtain ⟨handler, resolved, loaded⟩ := bind_eq_ok.mp loaded
  exact (resolve_answers answers resolved).loaded job view loaded

theorem finish_exposes (answers : TargetsAnswer registry tables) {nowUs : Nat} {outcome : JobTargetOutcome}
    {reply : TargetView ν × τ} (finished : registry.finish tables job nowUs outcome = .ok reply) :
    exposesOneTarget job reply.1 = true := by
  obtain ⟨handler, resolved, finished⟩ := bind_eq_ok.mp finished
  exact (resolve_answers answers resolved).finished job nowUs outcome reply finished

end Handlers

section Current

variable {targets : Targets ρ} {job : JobRow}

theorem checkLoad_typed : RaisesOnly Typed (checkLoad targets job : Except JiejianError (TargetView ν)) := by
  apply raisesOnly_bind
  · simp only [runJobTargetHandler]
    cases target : job.target with
    | run runId =>
      refine raisesOnly_bind (raisesOnly_orRaise fun _ => ?_) fun _ _ => raisesOnly_ok
      decide
    | _ =>
      refine raisesOnly_error.mpr ?_
      decide
  · intro view _
    refine raisesOnly_bind (raisesOnly_require ?_) fun _ _ => raisesOnly_ok
    decide

theorem checkLoad_exposes {view : TargetView ν} (loaded : checkLoad targets job = .ok view) :
    exposesOneTarget job view = true ∧ ∃ runId, job.target = .run runId := by
  obtain ⟨found, read, rest⟩ := bind_eq_ok.mp loaded
  obtain ⟨_, _, same⟩ := bind_eq_ok.mp rest
  cases same
  unfold runJobTargetHandler at read
  cases target : job.target with
  | run runId =>
    simp only [target] at read
    obtain ⟨run, _, same⟩ := bind_eq_ok.mp read
    cases same
    simp [exposesOneTarget, target]
  | _ =>
    simp only [target] at read
    cases read

theorem checkJobTargetHandler_answers :
    HandlerAnswers (checkJobTargetHandler : JobTargetHandler (Targets ρ) ν) targets where
  load _ := checkLoad_typed
  finish job nowUs outcome := by
    apply raisesOnly_bind checkLoad_typed
    intro view loaded
    obtain ⟨_, runId, target⟩ := checkLoad_exposes loaded
    unfold runJobTargetHandler
    simp only [target]
    apply raisesOnly_bind
    · refine raisesOnly_bind (raisesOnly_require ?_) fun _ _ => raisesOnly_ok
      decide
    · intro _ _
      refine raisesOnly_bind (raisesOnly_orRaise fun _ => ?_) fun _ _ => raisesOnly_ok
      decide
  loaded _ _ read := (checkLoad_exposes read).1
  finished job nowUs outcome reply finished := by
    obtain ⟨view, loaded, rest⟩ := bind_eq_ok.mp finished
    obtain ⟨_, runId, target⟩ := checkLoad_exposes loaded
    unfold runJobTargetHandler at rest
    simp only [target] at rest
    obtain ⟨_, _, rest⟩ := bind_eq_ok.mp rest
    obtain ⟨run, _, same⟩ := bind_eq_ok.mp rest
    cases same
    simp [exposesOneTarget, target]

theorem onOther_answers {handler : JobTargetHandler ρ ν} (answers : HandlerAnswers handler targets.other) :
    HandlerAnswers handler.onOther targets where
  load := answers.load
  finish job nowUs outcome := raisesOnly_bind (answers.finish job nowUs outcome) fun _ _ => raisesOnly_ok
  loaded := answers.loaded
  finished job nowUs outcome reply finished := by
    obtain ⟨ended, ends, same⟩ := bind_eq_ok.mp finished
    cases same
    exact answers.finished job nowUs outcome ended ends

/-- The registry of the worker answers when the handlers of the targets that are not runs do. -/
theorem currentTargets_answer {flowTrial recording preflight capture preparation : JobTargetHandler ρ ν}
    (other : ∀ handler ∈ [flowTrial, recording, preflight, capture, preparation], HandlerAnswers handler targets.other) :
    TargetsAnswer (currentCheckAndRecordingTargets flowTrial recording preflight capture preparation) targets := by
  intro entry member
  simp only [currentCheckAndRecordingTargets, List.mem_cons, List.not_mem_nil, or_false] at member
  simp only [List.forall_mem_cons] at other
  rcases member with same | same | same | same | same | same <;> rw [same]
  · exact onOther_answers other.1
  · exact checkJobTargetHandler_answers
  · exact onOther_answers other.2.1
  · exact onOther_answers other.2.2.1
  · exact onOther_answers other.2.2.2.1
  · exact onOther_answers other.2.2.2.2.1

end Current

section Updates

variable {db : Db ρ} {row : JobRow} {nowUs : Nat}

/-- A conditional update of one stored row looks at that row alone. -/
theorem updateJob_stored (keyed : Table.Keyed JobRow.jobId db.jobs) (stored : row ∈ db.jobs) {condition : JobRow → Bool}
    {set : JobRow → JobRow} (targeted : ∀ other, condition other = true → other.jobId = row.jobId)
    (keeps : ∀ other, (set other).jobId = other.jobId) :
    updateJob db condition set = if condition row = true then (some (set row), storeJob db (set row)) else (none, db) := by
  cases updateJob_cases keyed targeted keeps with
  | inr changed =>
    obtain ⟨other, member, same, holds, changed⟩ := changed
    have identical := keyed.eq_of_mem member stored same
    subst identical
    rw [if_pos holds, changed]
  | inl unchanged =>
    by_cases holds : condition row = true
    · have missed := congrArg Prod.fst unchanged
      have present : (db.jobs.find? condition).isSome = true := List.find?_isSome.mpr ⟨row, stored, holds⟩
      obtain ⟨first, found⟩ := Option.isSome_iff_exists.mp present
      have same : first = row := keyed.eq_of_mem (List.mem_of_find?_eq_some found) stored
        (targeted first (List.find?_some found))
      subst same
      cases Table.updateReturning_cases keyed targeted keeps with
      | inl skipped =>
        have nothing := congrArg Prod.fst skipped
        simp only [Table.updateReturning, found, Option.map_some, reduceCtorEq] at nothing
      | inr replaced =>
        obtain ⟨other, member, holds', replaced⟩ := replaced
        have identical : other = first := keyed.eq_of_mem member stored (targeted other holds')
        subst identical
        have kept : (set other).jobId ∈ db.jobs.map JobRow.jobId := by
          rw [keeps]
          exact List.mem_map_of_mem stored
        have read := Table.lookup_replace_self keyed kept
        rw [keeps] at read
        simp only [updateJob, replaced, Option.bind_some, Db.job, read] at missed
        cases missed
    · rw [if_neg holds, unchanged]

theorem setCancelRequested_stored (keyed : Table.Keyed JobRow.jobId db.jobs) (stored : row ∈ db.jobs)
    (live : row.state.isTerminal = false) :
    setCancelRequestedAtIfAbsent db row.jobId nowUs =
      if row.cancelRequestedAtUs = none ∧ row.updatedAtUs ≤ nowUs then
        ((some (cancelRequestedRow nowUs row), true), storeJob db (cancelRequestedRow nowUs row))
      else ((some row, false), db) := by
  have active : (row.state.isWaiting || decide (row.state = .running)) = true := by
    cases state : row.state <;> rw [state] at live <;> first | rfl | cases live
  unfold setCancelRequestedAtIfAbsent
  rw [updateJob_stored keyed stored]
  · simp only [decide_true, Bool.true_and, active, Bool.and_eq_true, Option.isNone_iff_eq_none, decide_eq_true_eq]
    by_cases fresh : row.cancelRequestedAtUs = none ∧ row.updatedAtUs ≤ nowUs
    · rw [if_pos fresh, if_pos fresh]
    · rw [if_neg fresh, if_neg fresh]
      simp only [Db.job, keyed.lookup_mem stored]
  · intro other holds
    simp only [Bool.and_eq_true] at holds
    exact of_decide_eq_true holds.1.1.1
  · exact fun _ => rfl

theorem cancelWaiting_stored (keyed : Table.Keyed JobRow.jobId db.jobs) (stored : row ∈ db.jobs) :
    cancelWaiting db row.jobId nowUs =
      if row.state.isWaiting = true ∧ row.cancelRequestedAtUs.isSome = true ∧ row.updatedAtUs ≤ nowUs then
        (some (droppedRow .cancelled nowUs row), storeJob db (droppedRow .cancelled nowUs row))
      else (none, db) := by
  unfold cancelWaiting
  rw [updateJob_stored keyed stored]
  · simp only [decide_true, Bool.true_and, Bool.and_eq_true, decide_eq_true_eq, and_assoc]
  · intro other holds
    simp only [Bool.and_eq_true] at holds
    exact of_decide_eq_true holds.1.1.1
  · exact fun _ => rfl

end Updates

/-- What an answered request leaves of a job that had not ended. -/
structure Recorded (service : Service ρ ν) (tables : Targets ρ) (row : JobRow) (nowUs : Nat)
    (reply : CancellationResult ν × Db ρ) : Prop where
  stored : reply.2.job row.jobId = some reply.1.job
  requested : reply.1.job.cancelRequestedAtUs = some reply.1.firstRequestedAtUs
  exposes : exposesOneTarget reply.1.job reply.1.view = true
  waiting : row.state.isWaiting = true → reply.1.job.state = .cancelled ∧ reply.1.completed = true ∧
    ∃ view, service.targets.finish tables reply.1.job nowUs .cancelled = .ok (view, reply.2.targets)
  running : row.state = .running → reply.1.job.state = .running ∧ reply.1.completed = false ∧ reply.2.targets = tables

section Settle

variable {service : Service ρ ν} {payloadSafe : Payload → Bool} {db db' : Db ρ} {row : JobRow} {nowUs : Nat}
  {first : Bool}

theorem appendJobEvent_typed {eventType : JobEventType} {source target : Option JobState} {metadata : EventMetadata} :
    RaisesOnly Typed (appendJobEvent payloadSafe db row eventType source target nowUs metadata) := by
  unfold appendJobEvent appendEvent ensureStoragePayloadSafe
  refine raisesOnly_bind (raisesOnly_require ?_) fun _ _ => raisesOnly_bind (raisesOnly_require ?_) fun _ _ =>
    raisesOnly_bind (raisesOnly_require ?_) fun _ _ => raisesOnly_ok <;> decide

theorem recordFirstRequest_typed : RaisesOnly Typed (recordFirstRequest payloadSafe db row nowUs first) := by
  unfold recordFirstRequest
  cases first with
  | true => exact appendJobEvent_typed
  | false => exact raisesOnly_ok

theorem recordFirstRequest_kept (recorded : recordFirstRequest payloadSafe db row nowUs first = .ok db') :
    db'.jobs = db.jobs ∧ db'.targets = db.targets := by
  unfold recordFirstRequest at recorded
  cases first with
  | true => rw [appendJobEvent_ok recorded]; exact ⟨rfl, rfl⟩
  | false => cases recorded; exact ⟨rfl, rfl⟩

theorem cancelWaitingJob_typed (keyed : Table.Keyed JobRow.jobId db.jobs) (stored : row ∈ db.jobs)
    (answers : TargetsAnswer service.targets db.targets) :
    RaisesOnly Typed (cancelWaitingJob service payloadSafe db row nowUs) := by
  unfold cancelWaitingJob
  rw [cancelWaiting_stored keyed stored]
  by_cases due : row.state.isWaiting = true ∧ row.cancelRequestedAtUs.isSome = true ∧ row.updatedAtUs ≤ nowUs
  · rw [if_pos due]
    exact raisesOnly_bind (finish_typed answers) fun _ _ =>
      raisesOnly_bind appendJobEvent_typed fun _ _ => raisesOnly_ok
  · rw [if_neg due]
    refine raisesOnly_error.mpr ?_
    decide

/-- A waiting job ends together with its target, and the request that ended it stays on it. -/
theorem cancelWaitingJob_ended (keyed : Table.Keyed JobRow.jobId db.jobs) (stored : row ∈ db.jobs)
    {reply : JobMutationResult ν × Db ρ} (ended : cancelWaitingJob service payloadSafe db row nowUs = .ok reply) :
    row.cancelRequestedAtUs.isSome = true ∧ reply.1.job = droppedRow .cancelled nowUs row ∧
      reply.2.job row.jobId = some reply.1.job ∧
      service.targets.finish db.targets reply.1.job nowUs .cancelled = .ok (reply.1.view, reply.2.targets) := by
  unfold cancelWaitingJob at ended
  rw [cancelWaiting_stored keyed stored] at ended
  by_cases due : row.state.isWaiting = true ∧ row.cancelRequestedAtUs.isSome = true ∧ row.updatedAtUs ≤ nowUs
  · rw [if_pos due] at ended
    obtain ⟨finished, finish, rest⟩ := bind_eq_ok.mp ended
    obtain ⟨logged, appended, same⟩ := bind_eq_ok.mp rest
    cases same
    have log := appendJobEvent_ok appended
    have present : (droppedRow .cancelled nowUs row).jobId ∈ db.jobs.map JobRow.jobId :=
      List.mem_map.mpr ⟨row, stored, rfl⟩
    refine ⟨due.2.1, rfl, ?_, ?_⟩
    · rw [log]
      exact Table.lookup_replace_self keyed present
    · rw [log]
      exact finish
  · rw [if_neg due] at ended
    cases ended

theorem settle_typed (keyed : Table.Keyed JobRow.jobId db.jobs) (stored : row ∈ db.jobs)
    (live : row.state.isTerminal = false) (answers : TargetsAnswer service.targets db.targets)
    (unloaded : row.state = .running → row.cancelRequestedAtUs = none → ∀ view, service.targets.load db.targets row ≠ .ok view) :
    RaisesOnly Typed (settleCancellation service payloadSafe db row nowUs first) := by
  unfold settleCancellation
  rw [if_neg fun ended => by rw [ended.1] at live; cases live]
  apply raisesOnly_bind recordFirstRequest_typed
  intro db₁ recorded
  obtain ⟨jobs, targets⟩ := recordFirstRequest_kept recorded
  have keyed₁ : Table.Keyed JobRow.jobId db₁.jobs := jobs ▸ keyed
  have stored₁ : row ∈ db₁.jobs := jobs ▸ stored
  have answers₁ : TargetsAnswer service.targets db₁.targets := targets ▸ answers
  by_cases waiting : row.state.isWaiting = true
  · rw [if_pos waiting]
    apply raisesOnly_bind (cancelWaitingJob_typed keyed₁ stored₁ answers₁)
    intro cancelled ended
    obtain ⟨marked, same, _, _⟩ := cancelWaitingJob_ended keyed₁ stored₁ ended
    refine raisesOnly_bind (raisesOnly_bind (raisesOnly_orRaise ?_) fun _ _ => raisesOnly_ok) fun _ _ => raisesOnly_ok
    intro missing
    rw [same] at missing
    exact absurd missing (Option.isSome_iff_ne_none.mp marked)
  · rw [if_neg waiting]
    apply raisesOnly_bind
    · refine raisesOnly_require ?_
      decide
    · intro _ running
      refine raisesOnly_bind (load_typed answers₁) fun view loaded => raisesOnly_bind (raisesOnly_bind
        (raisesOnly_orRaise ?_) fun _ _ => raisesOnly_ok) fun _ _ => raisesOnly_ok
      intro missing
      rw [targets] at loaded
      exact absurd loaded (unloaded (require_eq_ok.mp running) missing view)

theorem settle_recorded (keyed : Table.Keyed JobRow.jobId db.jobs) (stored : row ∈ db.jobs)
    (live : row.state.isTerminal = false) (answers : TargetsAnswer service.targets db.targets)
    {reply : CancellationResult ν × Db ρ}
    (settled : settleCancellation service payloadSafe db row nowUs first = .ok reply) :
    Recorded service db.targets row nowUs reply := by
  unfold settleCancellation at settled
  rw [if_neg fun ended => by rw [ended.1] at live; cases live] at settled
  obtain ⟨db₁, recorded, settled⟩ := bind_eq_ok.mp settled
  obtain ⟨jobs, targets⟩ := recordFirstRequest_kept recorded
  have keyed₁ : Table.Keyed JobRow.jobId db₁.jobs := jobs ▸ keyed
  have stored₁ : row ∈ db₁.jobs := jobs ▸ stored
  rw [← targets] at answers
  by_cases waiting : row.state.isWaiting = true
  · rw [if_pos waiting] at settled
    obtain ⟨cancelled, ended, settled⟩ := bind_eq_ok.mp settled
    obtain ⟨_, same, read, finish⟩ := cancelWaitingJob_ended keyed₁ stored₁ ended
    obtain ⟨result, built, done⟩ := bind_eq_ok.mp settled
    obtain ⟨asked, marked, built⟩ := bind_eq_ok.mp built
    cases built
    cases done
    refine ⟨read, orRaise_eq_ok.mp marked, finish_exposes answers finish, ?_, ?_⟩
    · intro _
      rw [← targets]
      exact ⟨congrArg JobRow.state same, rfl, _, finish⟩
    · intro running
      rw [running] at waiting
      cases waiting
  · rw [if_neg waiting] at settled
    obtain ⟨_, running, settled⟩ := bind_eq_ok.mp settled
    obtain ⟨view, loaded, settled⟩ := bind_eq_ok.mp settled
    obtain ⟨result, built, done⟩ := bind_eq_ok.mp settled
    obtain ⟨asked, marked, built⟩ := bind_eq_ok.mp built
    cases built
    cases done
    refine ⟨keyed₁.lookup_mem stored₁, orRaise_eq_ok.mp marked, load_exposes answers loaded, ?_, ?_⟩
    · exact fun waits => absurd waits waiting
    · exact fun _ => ⟨require_eq_ok.mp running, rfl, targets⟩

end Settle

/-- The request is recorded, or refused with nothing changed. -/
def Answered (service : Service ρ ν) (knownSecrets : List String) (db : Db ρ) (request : RequestCancellation)
    (row : JobRow) : Prop :=
  match requestCancellation service knownSecrets db request with
  | .ok reply => step service db (.requestCancellation knownSecrets request) = reply.2 ∧
      Recorded service db.targets row request.nowUs reply
  | .error error => step service db (.requestCancellation knownSecrets request) = db ∧ Typed error

/-- An accepted request whose clock is behind a running job that has none yet. -/
structure Behind (service : Service ρ ν) (knownSecrets : List String) (db : Db ρ) (request : RequestCancellation)
    (row : JobRow) : Prop where
  accepted : validateControlRequest (service.payloadSafe knownSecrets) (.requestCancellation request) = .ok ()
  running : row.state = .running
  unrequested : row.cancelRequestedAtUs = none
  clock : request.nowUs < row.updatedAtUs
  loads : ∃ view, service.targets.load db.targets row = .ok view

section Requests

variable {service : Service ρ ν} {knownSecrets : List String} {db : Db ρ} {request : RequestCancellation} {row : JobRow}

theorem validateControlRequest_typed {payloadSafe : Payload → Bool} {payload : Payload} :
    RaisesOnly Typed (validateControlRequest payloadSafe payload) := by
  unfold validateControlRequest
  refine raisesOnly_bind (raisesOnly_require ?_) fun _ _ => raisesOnly_require ?_ <;> decide

/-- The part of the request after the checks that refuse it. -/
def openRequest (service : Service ρ ν) (payloadSafe : Payload → Bool) (db : Db ρ) (row : JobRow) (nowUs : Nat) :
    Except JiejianError (CancellationResult ν × Db ρ) :=
  if row.cancelRequestedAtUs = none ∧ row.updatedAtUs ≤ nowUs then
    settleCancellation service payloadSafe (storeJob db (cancelRequestedRow nowUs row)) (cancelRequestedRow nowUs row)
      nowUs true
  else settleCancellation service payloadSafe db row nowUs false

theorem requestCancellation_open (keyed : Table.Keyed JobRow.jobId db.jobs) (stored : row ∈ db.jobs)
    (live : row.state.isTerminal = false) (asked : request.jobId = row.jobId) :
    requestCancellation service knownSecrets db request = (do
      validateControlRequest (service.payloadSafe knownSecrets) (.requestCancellation request)
      let _ ← service.targets.resolve row
      openRequest service (service.payloadSafe knownSecrets) db row request.nowUs) := by
  have found : requireJob db request.jobId = .ok row := by
    unfold requireJob Db.job
    rw [asked, keyed.lookup_mem stored]
    rfl
  have read : ∀ next : JobRow → Except JiejianError (CancellationResult ν × Db ρ),
      (Except.ok row >>= next) = next row := fun _ => rfl
  unfold requestCancellation openRequest
  rw [found]
  simp only [read, asked, setCancelRequested_stored keyed stored live, live, Bool.false_eq_true, if_false]
  by_cases fresh : row.cancelRequestedAtUs = none ∧ row.updatedAtUs ≤ request.nowUs
  · simp only [if_pos fresh]
  · simp only [if_neg fresh]

theorem marked_stored (keyed : Table.Keyed JobRow.jobId db.jobs) (stored : row ∈ db.jobs) (nowUs : Nat) :
    Table.Keyed JobRow.jobId (storeJob db (cancelRequestedRow nowUs row)).jobs ∧
      cancelRequestedRow nowUs row ∈ (storeJob db (cancelRequestedRow nowUs row)).jobs := by
  have present : (cancelRequestedRow nowUs row).jobId ∈ db.jobs.map JobRow.jobId :=
    List.mem_map.mpr ⟨row, stored, rfl⟩
  exact ⟨keyed.replace _, (Table.mem_replace present).mpr (.inl rfl)⟩

theorem openRequest_typed (keyed : Table.Keyed JobRow.jobId db.jobs) (stored : row ∈ db.jobs)
    (live : row.state.isTerminal = false) (answers : TargetsAnswer service.targets db.targets) {payloadSafe : Payload → Bool}
    {nowUs : Nat} (unloaded : row.state = .running → row.cancelRequestedAtUs = none → nowUs < row.updatedAtUs →
      ∀ view, service.targets.load db.targets row ≠ .ok view) :
    RaisesOnly Typed (openRequest service payloadSafe db row nowUs) := by
  unfold openRequest
  by_cases fresh : row.cancelRequestedAtUs = none ∧ row.updatedAtUs ≤ nowUs
  · rw [if_pos fresh]
    obtain ⟨keyed', stored'⟩ := marked_stored keyed stored nowUs
    exact settle_typed keyed' stored' live answers fun _ missing => by cases missing
  · rw [if_neg fresh]
    exact settle_typed keyed stored live answers fun running missing =>
      unloaded running missing (Nat.lt_of_not_le fun due => fresh ⟨missing, due⟩)

theorem openRequest_recorded (keyed : Table.Keyed JobRow.jobId db.jobs) (stored : row ∈ db.jobs)
    (live : row.state.isTerminal = false) (answers : TargetsAnswer service.targets db.targets) {payloadSafe : Payload → Bool}
    {nowUs : Nat} {reply : CancellationResult ν × Db ρ}
    (performed : openRequest service payloadSafe db row nowUs = .ok reply) :
    Recorded service db.targets row nowUs reply := by
  unfold openRequest at performed
  by_cases fresh : row.cancelRequestedAtUs = none ∧ row.updatedAtUs ≤ nowUs
  · rw [if_pos fresh] at performed
    obtain ⟨keyed', stored'⟩ := marked_stored keyed stored nowUs
    have recorded := settle_recorded keyed' stored' live answers performed
    exact ⟨recorded.stored, recorded.requested, recorded.exposes, recorded.waiting, recorded.running⟩
  · rw [if_neg fresh] at performed
    exact settle_recorded keyed stored live answers performed

/-- Nothing is written, and then the result is built without the time of a request. -/
theorem behind_invalid (keyed : Table.Keyed JobRow.jobId db.jobs) (stored : row ∈ db.jobs)
    (asked : request.jobId = row.jobId) (behind : Behind service knownSecrets db request row) :
    requestCancellation service knownSecrets db request = .error ⟨.VALIDATION_ERROR, "CancellationResult"⟩ := by
  have live : row.state.isTerminal = false := by
    rw [behind.running]
    rfl
  obtain ⟨view, loaded⟩ := behind.loads
  obtain ⟨handler, resolved, _⟩ := bind_eq_ok.mp loaded
  have late : ¬ row.updatedAtUs ≤ request.nowUs := Nat.not_le_of_lt behind.clock
  rw [requestCancellation_open keyed stored live asked, behind.accepted, resolved]
  simp only [bind, Except.bind, openRequest, late, and_false, settleCancellation, behind.running, behind.unrequested,
    recordFirstRequest, JobState.isWaiting, loaded, require, cancellationResult, orRaise, reduceCtorEq, false_and, if_false,
    Bool.false_eq_true, if_true]

end Requests

/-- A request on a job that has not ended is recorded, or refused with a typed error, exactly when its clock is not
behind a running job that no one has asked to cancel. -/
theorem cancellation_answered (service : Service ρ ν) (knownSecrets : List String) (db : Db ρ)
    (request : RequestCancellation) (row : JobRow) (keyed : Table.Keyed JobRow.jobId db.jobs)
    (stored : db.job request.jobId = some row) (live : row.state.isTerminal = false)
    (answers : TargetsAnswer service.targets db.targets) :
    Answered service knownSecrets db request row ↔ ¬ Behind service knownSecrets db request row := by
  obtain ⟨member, asked⟩ := Table.lookup_some stored
  constructor
  · intro answered behind
    unfold Answered at answered
    rw [behind_invalid keyed member asked.symm behind] at answered
    exact answered.2 rfl
  · intro inTime
    unfold Answered
    have opened := @requestCancellation_open ρ ν service knownSecrets db request row keyed member live asked.symm
    cases performed : requestCancellation service knownSecrets db request with
    | ok reply =>
      rw [performed] at opened
      obtain ⟨_, _, rest⟩ := bind_eq_ok.mp opened.symm
      obtain ⟨_, _, rest⟩ := bind_eq_ok.mp rest
      have committed : perform service db (.requestCancellation knownSecrets request) = .ok reply.2 := by
        rw [perform, performed]
        rfl
      exact ⟨step_ok committed, openRequest_recorded keyed member live answers rest⟩
    | error error =>
      have only : RaisesOnly Typed (requestCancellation service knownSecrets db request) := by
        rw [opened]
        apply raisesOnly_bind validateControlRequest_typed
        intro _ accepted
        apply raisesOnly_bind resolve_typed
        intro _ _
        apply openRequest_typed keyed member live answers
        intro running unrequested clock view loaded
        exact inTime ⟨accepted, running, unrequested, clock, view, loaded⟩
      have refused : perform service db (.requestCancellation knownSecrets request) = .error error := by
        rw [perform, performed]
        rfl
      exact ⟨step_error refused, only error performed⟩

section Sample

def sampleService : Service Unit Unit where
  payloadSafe _ _ := true
  recordingStartable _ _ := false
  targets := ⟨[(.RUN, checkJobTargetHandler)]⟩
  retryPolicy := {
    base_pos := Nat.le_of_ble_eq_true rfl
    max_le := Nat.le_of_ble_eq_true rfl
    base_le_max := Nat.le_of_ble_eq_true rfl
    jitter_le_max := Nat.le_of_ble_eq_true rfl }

def sampleRun : RunRow where
  runId := "run"
  projectId := "project"
  requestHash := "hash"
  planFingerprint := "plan"
  sourceFingerprint := none
  policyEpoch := 0
  engineVersion := "1"
  lifecycle := .running
  verdict := none
  createdAtUs := 10
  updatedAtUs := 10
  finishedAtUs := none

/-- A running job whose lease was renewed at 20. -/
def sampleJob : JobRow where
  jobId := "job"
  projectId := "project"
  target := .run "run"
  operationType := "CHECK"
  state := .running
  idempotencyKey := "key"
  requestHash := "hash"
  attempt := 1
  maxAttempts := 3
  availableAtUs := 10
  leaseOwner := some "worker"
  fencingToken := 1
  leaseExpiresAtUs := some 100
  cancelRequestedAtUs := none
  createdAtUs := 10
  updatedAtUs := 20

def sampleDb : Db Unit where
  projects := ["project"]
  jobs := [sampleJob]
  events := []
  targets := ⟨[sampleRun], ()⟩

theorem sample_targets : TargetsAnswer sampleService.targets sampleDb.targets := by
  intro entry member
  rw [List.mem_singleton.mp member]
  exact checkJobTargetHandler_answers

theorem sample_keyed : Table.Keyed JobRow.jobId sampleDb.jobs := List.nodup_singleton _

/-- The clock of the request was read just before the lease was renewed. -/
theorem sample_lost : ¬ Answered sampleService [] sampleDb ⟨"job", 19⟩ sampleJob := by
  have behind : Behind sampleService [] sampleDb ⟨"job", 19⟩ sampleJob :=
    ⟨rfl, rfl, rfl, by decide, ⟨some sampleRun, none⟩, rfl⟩
  intro answered
  unfold Answered at answered
  rw [behind_invalid sample_keyed (List.mem_singleton.mpr rfl) rfl behind] at answered
  exact answered.2 rfl

theorem sample_requested : Answered sampleService [] sampleDb ⟨"job", 20⟩ sampleJob :=
  (cancellation_answered sampleService [] sampleDb ⟨"job", 20⟩ sampleJob sample_keyed rfl rfl sample_targets).mpr
    fun behind => absurd behind.clock (by decide)

end Sample

end Jiejian.Jobs.Cancellation
