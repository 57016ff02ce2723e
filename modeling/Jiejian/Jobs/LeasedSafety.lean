import Jiejian.Jobs.Agreement
import Jiejian.Jobs.EventLog

namespace Jiejian.Jobs.LeasedSafety
open Jiejian.Errors Jiejian.Library
open Jiejian.Jobs.Records Jiejian.Jobs.Models Jiejian.Jobs.Control Jiejian.Jobs.Targets Jiejian.Jobs.Queue
open Jiejian.Jobs.System Jiejian.Jobs.Moves Jiejian.Jobs.Inversion Jiejian.Jobs.Safety Jiejian.Jobs.Agreement

variable {ρ ν : Type} {service : Service ρ ν}

/-- Some publication committed in the run of `actions` announced this result for the job. -/
def AnnouncedBy (service : Service ρ ν) (start : Db ρ) (actions : List (Action ρ)) (jobId : String)
    (lifecycle : RunLifecycle) (verdict : Option RunVerdict) : Prop :=
  ∃ before action after result db', actions = before ++ action :: after ∧ action.publication = some result ∧
    perform service (run service start before) action = .ok db' ∧ result.jobId = jobId ∧
    result.lifecycle = lifecycle ∧ result.verdict = verdict

theorem announcedBy_snoc {start : Db ρ} {actions : List (Action ρ)} (action : Action ρ) {jobId : String}
    {lifecycle : RunLifecycle} {verdict : Option RunVerdict}
    (announced : AnnouncedBy service start actions jobId lifecycle verdict) :
    AnnouncedBy service start (actions ++ [action]) jobId lifecycle verdict := by
  obtain ⟨before, publisher, after, result, db', same, rest⟩ := announced
  exact ⟨before, publisher, after ++ [action], result, db', by simp [same], rest⟩

theorem run_agree (guarded : RunsGuarded service.targets) (projects : List String) (other : ρ)
    (actions : List (Action ρ)) :
    RunsAgree (AnnouncedBy service (emptyDb projects other) actions)
      (run service (emptyDb projects other) actions) := by
  induction actions using List.reverseRecOn with
  | nil =>
    refine ⟨emptyDb_rows projects other, List.nodup_nil, ?_, ?_⟩
    · intro row member
      cases member
    · intro row member
      cases member
  | append_singleton actions action ih =>
    have wider := ih.mono (fun _ _ _ announced => announcedBy_snoc action announced)
    rw [run_snoc]
    cases performed : perform service (run service (emptyDb projects other) actions) action with
    | error error =>
      rw [step_error performed]
      exact wider
    | ok db' =>
      rw [step_ok performed]
      refine commit_agree guarded wider ?_ (perform_commit ih.rows performed)
      intro result told
      exact ⟨actions, action, [], result, db', rfl, told, performed, rfl, rfl, rfl⟩

/-- The claim of a lease under a token ended in this step: the job ran under it before and does not run after. -/
def EndsClaim (service : Service ρ ν) (db : Db ρ) (action : Action ρ) (jobId : String) (fencingToken : Nat) : Prop :=
  ∃ row ∈ db.jobs, ∃ row' ∈ (step service db action).jobs, row.jobId = jobId ∧ row'.jobId = jobId ∧
    row.fencingToken = fencingToken ∧ row.state = .running ∧ row'.state ≠ .running

/-- What holds of the leased jobs in the state a run of `actions` reaches, and across whatever follows it. -/
structure LeasedJobSafety (service : Service ρ ν) (start : Db ρ) (actions : List (Action ρ)) : Prop where
  fencing : ∀ row ∈ (run service start actions).jobs,
    row.fencingToken = row.attempt ∧ row.attempt ≤ row.maxAttempts
  lease : ∀ row ∈ (run service start actions).jobs,
    (row.leaseOwner.isSome = true ↔ row.state = .running) ∧ (row.leaseExpiresAtUs.isSome = true ↔ row.state = .running)
  final : ∀ row ∈ (run service start actions).jobs, row.state.isTerminal = true →
    ∀ later, row ∈ (run service start (actions ++ later)).jobs
  clock : ∀ row ∈ (run service start actions).jobs, ∀ later,
    ∃ row' ∈ (run service start (actions ++ later)).jobs, row'.jobId = row.jobId ∧ row.updatedAtUs ≤ row'.updatedAtUs
  stale : ∀ action jobId leaseOwner fencingToken, action.fence = some (jobId, leaseOwner, fencingToken) →
    (∀ row ∈ (run service start actions).jobs, row.jobId = jobId →
      row.leaseOwner ≠ some leaseOwner ∨ row.fencingToken ≠ fencingToken) →
    step service (run service start actions) action = run service start actions
  once : ∀ first between second jobId fencingToken,
    EndsClaim service (run service start actions) first jobId fencingToken →
    ¬ EndsClaim service (run service start (actions ++ first :: between)) second jobId fencingToken
  agrees : ∀ row ∈ (run service start actions).jobs, ∀ runId, row.target = .run runId →
    ∃ run₀, (run service start actions).targets.run runId = some run₀ ∧
      RunAgrees (AnnouncedBy service start actions row.jobId) row.state run₀

theorem ends_once {db : Db ρ} (sound : RowsSound db) {first second : Action ρ} {between : List (Action ρ)}
    {jobId : String} {fencingToken : Nat} (ended : EndsClaim service db first jobId fencingToken) :
    ¬ EndsClaim service (run service (step service db first) between) second jobId fencingToken := by
  rintro ⟨held, heldMember, _, _, heldJob, _, heldToken, heldRunning, _⟩
  obtain ⟨row, member, row', member', job, job', token, running, stopped⟩ := ended
  have sound₁ : RowsSound (step service db first) := step_rows sound first
  have sound₂ : RowsSound (run service (step service db first) between) :=
    Transition.run_invariant (fun (db : Db ρ) (action : Action ρ) (sound : RowsSound db) =>
      (step_rows sound action : RowsSound (step service db action))) sound₁ between
  -- the row after the first end is the row its step produced
  obtain ⟨next, nextMember, move⟩ := commit_succeeds sound (step_commit sound first : Commit service _ _ db _)
    row member
  have nextRow : next = row' := sound₁.keyed.eq_of_mem nextMember member' ((move.jobId.trans job).trans job'.symm)
  subst nextRow
  obtain ⟨last, lastMember, later⟩ := (run_succeeds sound₁ between : Succeeds _ (run service _ between))
    next nextMember
  have lastRow : last = held := sound₂.keyed.eq_of_mem lastMember heldMember ((later.jobId.trans job').trans heldJob.symm)
  subst lastRow
  have first : Lease.Ends (leaseOf row) (leaseOf next) := by
    refine ⟨by simp [leaseOf, running], ?_⟩
    by_cases terminal : next.state.isTerminal = true <;> simp [leaseOf, stopped, terminal]
  have again : (leaseOf last).phase = .held := by simp [leaseOf, heldRunning]
  have larger := Lease.ends_once move.lease first later.lease again
  simp only [leaseOf, token, heldToken] at larger
  exact Nat.lt_irrefl _ larger

/-- The wired services keep every leased job safe, whatever transactions run in whatever order. -/
theorem leasedJobs_safe (payloadSafe : List String → Payload → Bool) (recordingStartable : ρ → String → Bool)
    (retryPolicy : RetryPolicy) (flowTrial recording preflight capture preparation : JobTargetHandler ρ ν)
    (projects : List String) (other : ρ) (actions : List (Action ρ)) :
    LeasedJobSafety (currentService payloadSafe recordingStartable retryPolicy flowTrial recording preflight capture
      preparation) (emptyDb projects other) actions := by
  generalize wired : currentService payloadSafe recordingStartable retryPolicy flowTrial recording preflight capture
    preparation = service
  have guarded : RunsGuarded service.targets := by
    rw [← wired]
    exact currentTargets_guarded flowTrial recording preflight capture preparation
  have agree := run_agree guarded projects other actions
  have sound := agree.rows
  refine ⟨?_, ?_, ?_, ?_, ?_, ?_, ?_⟩
  · intro row member
    exact ⟨(sound.sound row member).token, (sound.sound row member).budget⟩
  · intro row member
    exact ⟨(sound.sound row member).owner, (sound.sound row member).expiry⟩
  · intro row member terminal later
    obtain ⟨row', member', moved⟩ := run_succeeds sound later row member
    rw [run_append, ← moved.final terminal]
    exact member'
  · intro row member later
    obtain ⟨row', member', moved⟩ := run_succeeds sound later row member
    rw [run_append]
    exact ⟨row', member', moved.jobId, moved.clock⟩
  · intro action jobId leaseOwner fencingToken named stale
    exact stale_unchanged sound named stale
  · intro first between second jobId fencingToken ended
    have follows : run service (emptyDb projects other) (actions ++ first :: between) =
        run service (step service (run service (emptyDb projects other) actions) first) between :=
      run_append service _ actions (first :: between)
    rw [follows]
    exact ends_once sound ended
  · intro row member runId target
    obtain ⟨found, stored, same, agrees, _⟩ := agree.linked row member runId target
    refine ⟨found, ?_, agrees⟩
    rw [← same]
    exact agree.keyed.lookup_mem stored

/-- A handler that accepts every job of a target without rows of its own. -/
def passiveHandler : JobTargetHandler Unit Unit where
  load _ _ := .ok ⟨none, none⟩
  advanceAfterClaim _ _ _ := .ok (⟨none, none⟩, ())
  finish _ _ _ _ := .ok (⟨none, none⟩, ())

def checkSubmission : SubmitJob where
  projectId := "p"
  operationType := "CHECK"
  idempotencyKey := "k"
  requestHash := "h"
  planFingerprint := "f"
  sourceFingerprint := none
  policyEpoch := 0
  engineVersion := "1"
  availableAtUs := 0
  nowUs := 5
  runId := none
  jobId := none
  attempts_pos := by decide
  attempts_le := by decide

/-- One check submitted, claimed, renewed by a stale token in vain, and published as passed. -/
def publishedCheck : List (Action Unit) :=
  [.submit [] checkSubmission ⟨fun _ => .ok (), fun _ _ => .ok ()⟩ ⟨"r", "j"⟩,
    .claim [] ⟨"w", 6, 10, none, by decide, by decide⟩,
    .renewLease [] ⟨"j", "w", 2, 7, 20, by decide, by decide, by decide⟩,
    .completePublication [] ⟨"j", "r", 1, "w", 1, .completed, some .pass, 8, true, some "h", none⟩ fun _ => .ok ()]

example : let db := run (currentService (fun _ _ => true) (fun _ _ => true) {} passiveHandler passiveHandler
      passiveHandler passiveHandler passiveHandler) (emptyDb ["p"] ()) publishedCheck
    db.jobs.map (fun row => (row.state, row.attempt)) = [(.succeeded, 1)] ∧
      db.targets.runs.map (fun run => (run.lifecycle, run.verdict)) = [(.completed, some .pass)] := by decide

end Jiejian.Jobs.LeasedSafety
