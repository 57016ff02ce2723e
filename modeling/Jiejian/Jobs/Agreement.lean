import Jiejian.Jobs.Safety

namespace Jiejian.Jobs.Agreement
open Jiejian.Errors Jiejian.Library Jiejian.Library.Outcome
open Jiejian.Jobs.Records Jiejian.Jobs.Models Jiejian.Jobs.Control Jiejian.Jobs.Targets Jiejian.Jobs.Queue
open Jiejian.Jobs.System Jiejian.Jobs.Moves Jiejian.Jobs.Inversion Jiejian.Jobs.Safety

variable {ρ ν : Type}

/-- The services as they are wired: checks run on runs, the other targets on their own tables. -/
def currentService (payloadSafe : List String → Payload → Bool) (recordingStartable : ρ → String → Bool)
    (retryPolicy : RetryPolicy) (flowTrial recording preflight capture preparation : JobTargetHandler ρ ν) :
    Service ρ ν where
  payloadSafe
  recordingStartable
  targets := currentCheckAndRecordingTargets flowTrial recording preflight capture preparation
  retryPolicy

/-- The handlers of a registry treat run tables as the check handler does and leave them alone otherwise. -/
structure RunsGuarded (registry : JobTargetRegistry (Targets ρ) ν) : Prop where
  check : ∀ job runId, job.target = .run runId → registry.resolve job = .ok checkJobTargetHandler
  others : ∀ job handler, (∀ runId, job.target ≠ .run runId) → registry.resolve job = .ok handler →
    ∃ own : JobTargetHandler ρ ν, handler = own.onOther

theorem currentTargets_guarded (flowTrial recording preflight capture preparation : JobTargetHandler ρ ν) :
    RunsGuarded (currentCheckAndRecordingTargets flowTrial recording preflight capture preparation) := by
  refine ⟨?_, ?_⟩
  · intro job runId target
    simp [JobTargetRegistry.resolve, currentCheckAndRecordingTargets, target, targetTypeOf, List.find?]
  · intro job handler notRun resolved
    simp only [JobTargetRegistry.resolve, currentCheckAndRecordingTargets, orRaise_eq_ok] at resolved
    cases target : job.target with
    | run runId => exact absurd target (notRun runId)
    | recording recordingId => exact ⟨recording, by simpa [target, targetTypeOf, List.find?] using resolved.symm⟩
    | runtimeLoad loadId => simp [target, targetTypeOf, List.find?] at resolved
    | preflight preflightId => exact ⟨preflight, by simpa [target, targetTypeOf, List.find?] using resolved.symm⟩
    | referenceCapture captureId => exact ⟨capture, by simpa [target, targetTypeOf, List.find?] using resolved.symm⟩
    | flowTrial trialId => exact ⟨flowTrial, by simpa [target, targetTypeOf, List.find?] using resolved.symm⟩
    | identityPreparation preparationId =>
      exact ⟨preparation, by simpa [target, targetTypeOf, List.find?] using resolved.symm⟩

/-- The state of a run that goes with a job state. `published` tells the results announced for the job. -/
def RunAgrees (published : RunLifecycle → Option RunVerdict → Prop) (state : JobState) (run : RunRow) : Prop :=
  match state with
  | .pending => run.lifecycle = .queued ∧ run.verdict = none
  | .running | .retryWait => run.lifecycle = .running ∧ run.verdict = none
  | .failed => run.lifecycle = .failed ∧ run.verdict = none
  | .cancelled => run.lifecycle = .cancelled ∧ run.verdict = none
  | .succeeded => (run.lifecycle = .completed ∨ run.lifecycle = .safetyStopped) ∧ published run.lifecycle run.verdict

theorem RunAgrees.mono {published published' : RunLifecycle → Option RunVerdict → Prop} {state : JobState} {run : RunRow}
    (wider : ∀ lifecycle verdict, published lifecycle verdict → published' lifecycle verdict)
    (agrees : RunAgrees published state run) : RunAgrees published' state run := by
  cases state with
  | succeeded => exact ⟨agrees.1, wider _ _ agrees.2⟩
  | _ => exact agrees

/-- One run table after a write to one run. -/
def RunsMove (targets targets' : Targets ρ) (runId : String) (run' : RunRow) : Prop :=
  run'.runId = runId ∧ targets'.runs = Table.replace RunRow.runId targets.runs run'

theorem finishRun_some {targets targets' : Targets ρ} {runId : String} {lifecycle : RunLifecycle}
    {verdict : Option RunVerdict} {nowUs : Nat} {run' : RunRow} (keyed : Table.Keyed RunRow.runId targets.runs)
    (finished : finishRun targets runId lifecycle verdict nowUs = (some run', targets')) :
    RunsMove targets targets' runId run' ∧ run'.lifecycle = lifecycle ∧ run'.verdict = verdict ∧
      run'.updatedAtUs = nowUs := by
  unfold finishRun at finished
  have targeted : ∀ run : RunRow, (decide (run.runId = runId) && run.lifecycle.isNonterminal && run.verdict.isNone
      && decide (run.updatedAtUs ≤ nowUs)) = true → run.runId = runId := by
    intro run holds
    simp only [Bool.and_eq_true, decide_eq_true_eq] at holds
    exact holds.1.1.1
  rcases updateRun_cases keyed targeted (fun run => (rfl : (finishedRun lifecycle verdict nowUs run).runId = run.runId))
    with unchanged | ⟨run, stored, same, holds, changed⟩
  · rw [unchanged] at finished
    cases finished
  · rw [changed] at finished
    cases finished
    exact ⟨⟨same, rfl⟩, rfl, rfl, rfl⟩

/-- The check handler ends exactly the job's run, at the time and with the outcome it was told. -/
theorem check_finish {targets targets' : Targets ρ} {job : JobRow} {runId : String} {nowUs : Nat}
    {outcome : JobTargetOutcome} {view : TargetView ν} (keyed : Table.Keyed RunRow.runId targets.runs)
    (target : job.target = .run runId)
    (finished : checkJobTargetHandler.finish targets job nowUs outcome = .ok (view, targets')) :
    ∃ run', RunsMove targets targets' runId run' ∧ run'.updatedAtUs = nowUs ∧
      ∀ published, RunAgrees published (outcomeState outcome) run' := by
  simp only [checkJobTargetHandler, bind_eq_ok] at finished
  obtain ⟨_, _, finished⟩ := finished
  simp only [runJobTargetHandler, target, transitionRunTerminal, bind_eq_ok, orRaise_eq_ok] at finished
  obtain ⟨⟨run?, ended⟩, ⟨_, _, written⟩, run', found, done⟩ := finished
  cases done
  have written := Except.ok.inj written
  rw [show run? = some run' from found] at written
  obtain ⟨moved, lifecycle, verdict, clock⟩ := finishRun_some keyed written
  refine ⟨run', moved, clock, ?_⟩
  intro published
  cases outcome <;> exact ⟨lifecycle, verdict⟩

/-- After a claim the job's run is running, whether this claim started it or an earlier one did. -/
theorem check_advance {targets targets' : Targets ρ} {job : JobRow} {run : RunRow} {nowUs : Nat} {view : TargetView ν}
    (keyed : Table.Keyed RunRow.runId targets.runs) (target : job.target = .run run.runId)
    (stored : run ∈ targets.runs) (unjudged : run.verdict = none) (clock : run.updatedAtUs ≤ nowUs)
    (advanced : checkJobTargetHandler.advanceAfterClaim targets job nowUs = .ok (view, targets')) :
    ∃ run', RunsMove targets targets' run.runId run' ∧ run'.lifecycle = .running ∧ run'.verdict = none ∧
      run'.updatedAtUs ≤ nowUs := by
  simp only [checkJobTargetHandler, bind_eq_ok] at advanced
  obtain ⟨_, _, advanced⟩ := advanced
  simp only [runJobTargetHandler, target, bind_eq_ok, orRaise_eq_ok] at advanced
  obtain ⟨current, found, done⟩ := advanced
  cases done
  simp only [advanceRunAfterClaim, Option.filter_eq_some_iff, decide_eq_true_eq] at found
  obtain ⟨read, running⟩ := found
  have targeted : ∀ other : RunRow, (decide (other.runId = run.runId) && decide (other.lifecycle = .queued)
      && other.verdict.isNone && decide (other.updatedAtUs ≤ nowUs)) = true → other.runId = run.runId := by
    intro other holds
    simp only [Bool.and_eq_true, decide_eq_true_eq] at holds
    exact holds.1.1.1
  rcases updateRun_cases keyed targeted (fun other => (rfl : (advancedRun nowUs other).runId = other.runId))
    with unchanged | ⟨old, member, same, _, changed⟩
  · -- the run was started by an earlier claim
    rw [unchanged] at read
    obtain ⟨member, same⟩ := Table.lookup_some read
    have identical := keyed.eq_of_mem member stored same
    subst identical
    refine ⟨current, ⟨rfl, ?_⟩, running, unjudged, clock⟩
    simp only [advanceRunAfterClaim, unchanged, keyed.replace_self stored]
  · have identical := keyed.eq_of_mem member stored same
    subst identical
    refine ⟨advancedRun nowUs old, ⟨rfl, ?_⟩, rfl, unjudged, Nat.le_refl _⟩
    simp only [advanceRunAfterClaim, changed]

theorem onOther_advance {own : JobTargetHandler ρ ν} {targets targets' : Targets ρ} {job : JobRow} {nowUs : Nat}
    {view : TargetView ν} (advanced : own.onOther.advanceAfterClaim targets job nowUs = .ok (view, targets')) :
    targets'.runs = targets.runs := by
  simp only [JobTargetHandler.onOther, bind_eq_ok] at advanced
  obtain ⟨_, _, done⟩ := advanced
  cases done
  rfl

theorem onOther_finish {own : JobTargetHandler ρ ν} {targets targets' : Targets ρ} {job : JobRow} {nowUs : Nat}
    {outcome : JobTargetOutcome} {view : TargetView ν}
    (finished : own.onOther.finish targets job nowUs outcome = .ok (view, targets')) :
    targets'.runs = targets.runs := by
  simp only [JobTargetHandler.onOther, bind_eq_ok] at finished
  obtain ⟨_, _, done⟩ := finished
  cases done
  rfl

theorem RunsMove.keep {targets targets' : Targets ρ} {run : RunRow} (keyed : Table.Keyed RunRow.runId targets.runs)
    (stored : run ∈ targets.runs) (same : targets'.runs = targets.runs) : RunsMove targets targets' run.runId run :=
  ⟨rfl, by rw [same, keyed.replace_self stored]⟩

variable {service : Service ρ ν} {announced : Option PublishedResult}

/-- A job whose target is not a run moves without touching the runs. -/
theorem move_other_runs (guarded : RunsGuarded service.targets) {targets targets' : Targets ρ} {row row' : JobRow}
    (move : JobMove service announced targets row targets' row') (notRun : ∀ runId, row.target ≠ .run runId) :
    targets'.runs = targets.runs := by
  have notRun' : ∀ runId, row'.target ≠ .run runId := by
    rw [move_target move]
    exact notRun
  cases move with
  | claimed _ _ _ _ advanced =>
    simp only [JobTargetRegistry.advanceAfterClaim, bind_eq_ok] at advanced
    obtain ⟨handler, resolved, advanced⟩ := advanced
    obtain ⟨own, rfl⟩ := guarded.others _ handler notRun' resolved
    exact onOther_advance advanced
  | dropped outcome _ _ _ finished =>
    simp only [JobTargetRegistry.finish, bind_eq_ok] at finished
    obtain ⟨handler, resolved, finished⟩ := finished
    obtain ⟨own, rfl⟩ := guarded.others _ handler notRun' resolved
    exact onOther_finish finished
  | ended outcome _ _ finished =>
    simp only [JobTargetRegistry.finish, bind_eq_ok] at finished
    obtain ⟨handler, resolved, finished⟩ := finished
    obtain ⟨own, rfl⟩ := guarded.others _ handler notRun' resolved
    exact onOther_finish finished
  | @published result run runTargets other _ _ _ _ target => exact absurd target (notRun result.runId)
  | renewed => rfl
  | cancelRequested => rfl
  | requeued => rfl
  | completed => rfl

/-- A job of a run moves together with its run and leaves every other run alone. -/
theorem move_own_run (guarded : RunsGuarded service.targets) {targets targets' : Targets ρ} {row row' : JobRow}
    {run : RunRow} {published published' : RunLifecycle → Option RunVerdict → Prop}
    (keyed : Table.Keyed RunRow.runId targets.runs)
    (move : JobMove service announced targets row targets' row') (target : row.target = .run run.runId)
    (stored : run ∈ targets.runs) (agrees : RunAgrees published row.state run) (clock : run.updatedAtUs ≤ row.updatedAtUs)
    (recorded : ∀ result, announced = some result → result.jobId = row.jobId →
      published' result.lifecycle result.verdict) :
    ∃ run', RunsMove targets targets' run.runId run' ∧ RunAgrees published' row'.state run' ∧
      run'.updatedAtUs ≤ row'.updatedAtUs := by
  have target' : row'.target = .run run.runId := (move_target move).trans target
  have later := move_clock move
  cases move with
  | claimed waiting _ _ started advanced =>
    simp only [JobTargetRegistry.advanceAfterClaim, bind_eq_ok] at advanced
    obtain ⟨handler, resolved, advanced⟩ := advanced
    rw [guarded.check _ _ target'] at resolved
    cases resolved
    have unjudged : run.verdict = none := by
      cases state : row.state with
      | pending =>
        rw [state] at agrees
        exact agrees.2
      | retryWait =>
        rw [state] at agrees
        exact agrees.2
      | running => simp [state, JobState.isWaiting] at waiting
      | succeeded => simp [state, JobState.isWaiting] at waiting
      | failed => simp [state, JobState.isWaiting] at waiting
      | cancelled => simp [state, JobState.isWaiting] at waiting
    obtain ⟨run', moved, lifecycle, verdict, bound⟩ :=
      check_advance keyed target' stored unjudged (Nat.le_trans clock started) advanced
    exact ⟨run', moved, ⟨lifecycle, verdict⟩, bound⟩
  | renewed running _ _ =>
    refine ⟨run, .keep keyed stored rfl, ?_, Nat.le_trans clock later⟩
    show RunAgrees published' row.state run
    rw [running] at agrees ⊢
    exact agrees
  | cancelRequested running _ =>
    refine ⟨run, .keep keyed stored rfl, ?_, Nat.le_trans clock later⟩
    show RunAgrees published' row.state run
    rw [running] at agrees ⊢
    exact agrees
  | requeued running _ _ =>
    refine ⟨run, .keep keyed stored rfl, ?_, Nat.le_trans clock later⟩
    rw [running] at agrees
    exact agrees
  | dropped outcome _ _ _ finished =>
    simp only [JobTargetRegistry.finish, bind_eq_ok] at finished
    obtain ⟨handler, resolved, finished⟩ := finished
    rw [guarded.check _ _ target'] at resolved
    cases resolved
    obtain ⟨run', moved, bound, judged⟩ := check_finish keyed target' finished
    exact ⟨run', moved, judged published', Nat.le_of_eq bound⟩
  | ended outcome _ _ finished =>
    simp only [JobTargetRegistry.finish, bind_eq_ok] at finished
    obtain ⟨handler, resolved, finished⟩ := finished
    rw [guarded.check _ _ target'] at resolved
    cases resolved
    obtain ⟨run', moved, bound, judged⟩ := check_finish keyed target' finished
    exact ⟨run', moved, judged published', Nat.le_of_eq bound⟩
  | @published result ended runTargets other told named _ _ own lifecycle _ finished =>
    obtain ⟨moved, same, verdict, bound⟩ := finishRun_some keyed finished
    have runId : result.runId = run.runId := by
      rw [target] at own
      exact (JobTarget.run.inj own).symm
    refine ⟨ended, ⟨moved.1.trans runId, moved.2⟩, ⟨?_, ?_⟩, Nat.le_of_eq bound⟩
    · rw [same]
      exact lifecycle
    · rw [same, verdict]
      exact recorded result told named
  | completed _ _ notRun => exact absurd target (notRun run.runId)

/-- Jobs and runs agree; `published` tells the results announced for each job. -/
structure RunsAgree (published : String → RunLifecycle → Option RunVerdict → Prop) (db : Db ρ) : Prop where
  rows : RowsSound db
  keyed : Table.Keyed RunRow.runId db.targets.runs
  distinct : ∀ a ∈ db.jobs, ∀ b ∈ db.jobs, a.target = b.target → a = b
  linked : ∀ row ∈ db.jobs, ∀ runId, row.target = .run runId → ∃ run ∈ db.targets.runs, run.runId = runId ∧
    RunAgrees (published row.jobId) row.state run ∧ run.updatedAtUs ≤ row.updatedAtUs

theorem RunsAgree.mono {published published' : String → RunLifecycle → Option RunVerdict → Prop} {db : Db ρ}
    (wider : ∀ jobId lifecycle verdict, published jobId lifecycle verdict → published' jobId lifecycle verdict)
    (agree : RunsAgree published db) : RunsAgree published' db := by
  refine ⟨agree.rows, agree.keyed, agree.distinct, ?_⟩
  intro row member runId target
  obtain ⟨run, stored, same, agrees, clock⟩ := agree.linked row member runId target
  exact ⟨run, stored, same, agrees.mono (wider row.jobId), clock⟩

/-- Overwriting a job row by a moved one keeps every target with one job. -/
theorem distinct_moved {db : Db ρ} {row row' : JobRow} (stored : row ∈ db.jobs) (sameId : row'.jobId = row.jobId)
    (sameTarget : row'.target = row.target)
    (distinct : ∀ a ∈ db.jobs, ∀ b ∈ db.jobs, a.target = b.target → a = b) :
    ∀ a ∈ Table.replace JobRow.jobId db.jobs row', ∀ b ∈ Table.replace JobRow.jobId db.jobs row',
      a.target = b.target → a = b := by
  have present : row'.jobId ∈ db.jobs.map JobRow.jobId := by
    rw [sameId]
    exact List.mem_map_of_mem stored
  have only : ∀ other ∈ db.jobs, other.target = row'.target → other.jobId = row'.jobId := by
    intro other member same
    rw [distinct other member row stored (same.trans sameTarget), sameId]
  intro a inA b inB same
  rcases (Table.mem_replace present).mp inA with rfl | ⟨oldA, foreignA⟩
  · rcases (Table.mem_replace present).mp inB with rfl | ⟨oldB, foreignB⟩
    · rfl
    · exact absurd (only b oldB same.symm) foreignB
  · rcases (Table.mem_replace present).mp inB with rfl | ⟨oldB, foreignB⟩
    · exact absurd (only a oldA same) foreignA
    · exact distinct a oldA b oldB same

theorem commit_agree (guarded : RunsGuarded service.targets) {fits : JobRow → Prop} {db db' : Db ρ}
    {published : String → RunLifecycle → Option RunVerdict → Prop} (agree : RunsAgree published db)
    (recorded : ∀ result, announced = some result → published result.jobId result.lifecycle result.verdict)
    (commit : Commit service announced fits db db') : RunsAgree published db' := by
  have rows := commit_rows agree.rows commit
  cases commit with
  | unchanged => exact agree
  | @enqueued job event targets' _ fresh _ distinct _ enlisted _ _ _ _ =>
    have grown : ∀ run ∈ db.targets.runs, run ∈ targets'.runs := by
      intro run stored
      rcases enlisted with ⟨run', _, _, _, _, _, same⟩ | ⟨_, same⟩
      · rw [same]
        exact List.mem_append_left _ stored
      · rw [same]
        exact stored
    refine ⟨rows, ?_, ?_, ?_⟩
    · rcases enlisted with ⟨run, _, absent, _, _, _, same⟩ | ⟨_, same⟩
      · rw [same]
        have unused := Table.lookup_none.mp absent
        simp only [Table.Keyed, List.map_append, List.map_cons, List.map_nil]
        refine List.nodup_append.mpr ⟨agree.keyed, List.nodup_singleton _, ?_⟩
        rintro _ present _ added rfl
        obtain ⟨other, stored, named⟩ := List.mem_map.mp present
        exact unused other stored (named.trans (List.mem_singleton.mp added))
      · rw [same]
        exact agree.keyed
    · intro a inA b inB same
      rcases List.mem_append.mp inA with oldA | newA
      · rcases List.mem_append.mp inB with oldB | newB
        · exact agree.distinct a oldA b oldB same
        · rw [List.mem_singleton.mp newB] at same
          exact absurd same (distinct a oldA)
      · rcases List.mem_append.mp inB with oldB | newB
        · rw [List.mem_singleton.mp newA] at same
          exact absurd same.symm (distinct b oldB)
        · rw [List.mem_singleton.mp newA, List.mem_singleton.mp newB]
    · intro row member runId target
      rcases List.mem_append.mp member with old | new
      · obtain ⟨run, stored, same, agrees, clock⟩ := agree.linked row old runId target
        exact ⟨run, grown run stored, same, agrees, clock⟩
      · rw [List.mem_singleton.mp new] at target ⊢
        rcases enlisted with ⟨run, own, _, lifecycle, verdict, clock, same⟩ | ⟨notRun, _⟩
        · rw [own] at target
          cases target
          refine ⟨run, by simp [same], rfl, ?_, Nat.le_of_eq clock⟩
          rw [fresh.state]
          exact ⟨lifecycle, verdict⟩
        · exact absurd target (notRun runId)
  | @moved row row' targets' added stored _ move _ =>
    have present : row'.jobId ∈ db.jobs.map JobRow.jobId := by
      rw [move_jobId move]
      exact List.mem_map_of_mem stored
    have distinct := distinct_moved stored (move_jobId move) (move_target move) agree.distinct
    -- either no run changes or the run of the moved job does
    by_cases ofRun : ∃ runId, row.target = .run runId
    · obtain ⟨runId, target⟩ := ofRun
      obtain ⟨run, inRuns, rfl, agrees, clock⟩ := agree.linked row stored runId target
      obtain ⟨run', ⟨sameRun, changed⟩, agrees', clock'⟩ := move_own_run guarded agree.keyed move target inRuns agrees
        clock (fun result told named => (named ▸ recorded result told : published row.jobId _ _))
      have presentRun : run'.runId ∈ db.targets.runs.map RunRow.runId := by
        rw [sameRun]
        exact List.mem_map_of_mem inRuns
      refine ⟨rows, ?_, distinct, ?_⟩
      · rw [changed]
        exact agree.keyed.replace run'
      · intro other member otherRunId otherTarget
        rw [changed]
        rcases (Table.mem_replace present).mp member with rfl | ⟨old, foreign⟩
        · have own := (move_target move).trans target
          rw [own] at otherTarget
          cases otherTarget
          rw [move_jobId move]
          exact ⟨run', (Table.mem_replace presentRun).mpr (.inl rfl), sameRun, agrees', clock'⟩
        · obtain ⟨otherRun, inOther, same, otherAgrees, otherClock⟩ := agree.linked other old otherRunId otherTarget
          have apart : otherRun.runId ≠ run'.runId := by
            intro equal
            apply foreign
            rw [same, sameRun] at equal
            rw [agree.distinct other old row stored (by rw [otherTarget, target, equal]), move_jobId move]
          exact ⟨otherRun, (Table.mem_replace presentRun).mpr (.inr ⟨inOther, apart⟩), same, otherAgrees, otherClock⟩
    · have notRun : ∀ runId, row.target ≠ .run runId := fun runId target => ofRun ⟨runId, target⟩
      have same := move_other_runs guarded move notRun
      refine ⟨rows, by rw [same]; exact agree.keyed, distinct, ?_⟩
      intro other member runId target
      rw [same]
      rcases (Table.mem_replace present).mp member with rfl | ⟨old, _⟩
      · rw [move_target move] at target
        exact absurd target (notRun runId)
      · exact agree.linked other old runId target

end Jiejian.Jobs.Agreement
