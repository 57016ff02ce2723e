import Jiejian.Jobs.Safety

namespace Jiejian.Jobs.EventLog
open Jiejian.Library
open Jiejian.Jobs.Records Jiejian.Jobs.Control Jiejian.Jobs.Queue Jiejian.Jobs.System Jiejian.Jobs.Moves
open Jiejian.Jobs.Inversion Jiejian.Jobs.Safety

variable {ρ ν : Type} {service : Service ρ ν} {published : Option PublishedResult}

/-- The events of one job in the order they were stored. -/
def logOf (events : List JobEventRow) (jobId : String) : List JobEventRow :=
  events.filter fun event => event.jobId = jobId

/-- A log that begins with a submission and leads to `state`. -/
structure Faithful (log : List JobEventRow) (state : JobState) : Prop where
  numbered : History.Numbered JobEventRow.sequence 1 log
  follows : History.Follows JobEventRow.sourceState JobEventRow.targetState none log (some state)
  submitted : ∃ first rest, log = first :: rest ∧ first.targetState = some .pending

/-- Every job has a faithful log and every event belongs to a job. -/
structure LogsSound (db : Db ρ) : Prop where
  rows : RowsSound db
  owned : ∀ event ∈ db.events, event.jobId ∈ db.jobs.map JobRow.jobId
  faithful : ∀ row ∈ db.jobs, Faithful (logOf db.events row.jobId) row.state

theorem logOf_append (events added : List JobEventRow) (jobId : String) :
    logOf (events ++ added) jobId = logOf events jobId ++ logOf added jobId :=
  List.filter_append _ _

theorem logOf_own {events : List JobEventRow} {jobId : String} (own : ∀ event ∈ events, event.jobId = jobId) :
    logOf events jobId = events :=
  List.filter_eq_self.mpr fun event member => decide_eq_true (own event member)

theorem logOf_foreign {events : List JobEventRow} {jobId : String} (foreign : ∀ event ∈ events, event.jobId ≠ jobId) :
    logOf events jobId = [] :=
  List.filter_eq_nil_iff.mpr fun event member => by simpa using foreign event member

/-- The stored order of a numbered log is its sequence order. -/
theorem eventsOf_numbered {events : List JobEventRow} {jobId : String}
    (numbered : History.Numbered JobEventRow.sequence 1 (logOf events jobId)) :
    eventsOf events jobId = logOf events jobId :=
  List.Pairwise.insertionSort_eq numbered.sorted

theorem listForJob_eq {db : Db ρ} (sound : LogsSound db) {row : JobRow} (stored : row ∈ db.jobs) :
    db.listForJob row.jobId = logOf db.events row.jobId :=
  eventsOf_numbered (sound.faithful row stored).numbered

theorem faithful_extend {log added : List JobEventRow} {jobId : String} {state state' : JobState}
    (faithful : Faithful log state) (step : LogStep jobId log.length state added state') :
    Faithful (log ++ added) state' := by
  refine ⟨faithful.numbered.append rfl step.numbered, History.follows_append.mpr ⟨_, faithful.follows, step.follows⟩, ?_⟩
  obtain ⟨first, rest, same, pending⟩ := faithful.submitted
  exact ⟨first, rest ++ added, by rw [same]; rfl, pending⟩

theorem faithful_submission {event : JobEventRow} (number : event.sequence = 1) (leaves : event.sourceState = none)
    (reaches : event.targetState = some .pending) : Faithful [event] .pending :=
  ⟨History.numbered_one number, History.follows_one leaves reaches, event, [], rfl, reaches⟩

/-- The log of a job after a move of it is the old log and the new events. -/
theorem logOf_moved {db : Db ρ} {row row' : JobRow} {added : List JobEventRow} (sound : LogsSound db)
    (stored : row ∈ db.jobs)
    (logged : LogStep row.jobId (db.listForJob row.jobId).length row.state added row'.state) :
    LogStep row.jobId (logOf db.events row.jobId).length row.state added row'.state ∧
      logOf (db.events ++ added) row.jobId = logOf db.events row.jobId ++ added := by
  refine ⟨by rw [← listForJob_eq sound stored]; exact logged, ?_⟩
  rw [logOf_append, logOf_own logged.owner]

theorem commit_logs {fits : JobRow → Prop} {db db' : Db ρ} (sound : LogsSound db)
    (commit : Commit service published fits db db') : LogsSound db' := by
  have rows := commit_rows sound.rows commit
  cases commit with
  | unchanged => exact sound
  | @enqueued job event targets' _ fresh unique _ _ _ owner number leaves reaches =>
    refine ⟨rows, ?_, ?_⟩
    · intro other member
      rcases List.mem_append.mp member with old | new
      · rw [List.map_append]
        exact List.mem_append_left _ (sound.owned other old)
      · rw [List.mem_singleton.mp new, owner]
        simp
    · intro row member
      rw [logOf_append]
      rcases List.mem_append.mp member with old | new
      · -- another job's event
        have foreign : logOf [event] row.jobId = [] := by
          apply logOf_foreign
          intro other only
          rw [List.mem_singleton.mp only, owner]
          exact (Table.lookup_none.mp unique row old).symm
        rw [foreign, List.append_nil]
        exact sound.faithful row old
      · rw [List.mem_singleton.mp new, fresh.state]
        -- no event is stored under an unused id
        have empty : logOf db.events job.jobId = [] := by
          apply logOf_foreign
          intro other present same
          obtain ⟨row, stored, named⟩ := List.mem_map.mp (sound.owned other present)
          exact Table.lookup_none.mp unique row stored (named.trans same)
        have first : event.sequence = 1 := by
          rw [number, Db.listForJob, eventsOf_length]
          exact congrArg (· + 1) (congrArg List.length empty)
        rw [empty, logOf_own (by intro other only; rw [List.mem_singleton.mp only, owner])]
        exact faithful_submission first leaves reaches
  | @moved row row' targets' added stored _ move logged =>
    obtain ⟨logged, extended⟩ := logOf_moved sound stored logged
    refine ⟨rows, ?_, ?_⟩
    · intro event member
      simp only [storeJob, Table.replace_keys]
      rcases List.mem_append.mp member with old | new
      · exact sound.owned event old
      · rw [logged.owner event new]
        exact List.mem_map_of_mem stored
    · intro other member
      have present : row'.jobId ∈ db.jobs.map JobRow.jobId := by
        rw [move_jobId move]
        exact List.mem_map_of_mem stored
      rcases (Table.mem_replace present).mp member with rfl | ⟨old, foreign⟩
      · rw [move_jobId move]
        exact extended ▸ faithful_extend (sound.faithful row stored) logged
      · have unaffected : logOf added other.jobId = [] := by
          apply logOf_foreign
          intro event new same
          exact foreign ((same.symm.trans (logged.owner event new)).trans (move_jobId move).symm)
        show Faithful (logOf (db.events ++ added) other.jobId) other.state
        rw [logOf_append, unaffected, List.append_nil]
        exact sound.faithful other old

theorem run_logs (projects : List String) (other : ρ) (actions : List (Action ρ)) :
    LogsSound (run service (emptyDb projects other) actions) := by
  refine Transition.run_invariant (fun (db : Db ρ) (action : Action ρ) (sound : LogsSound db) =>
    (commit_logs sound (step_commit sound.rows action) : LogsSound (step service db action))) ?_ actions
  refine ⟨emptyDb_rows projects other, ?_, ?_⟩
  · intro event member
    cases member
  · intro row member
    cases member

/-- A job's stored events read as its history. -/
structure FaithfulHistory (log : List JobEventRow) (state : JobState) : Prop where
  numbered : log.map JobEventRow.sequence = List.range' 1 log.length
  submitted : ∃ first rest, log = first :: rest ∧ first.sourceState = none ∧ first.targetState = some .pending
  linked : log.IsChain fun earlier later => later.sourceState = earlier.targetState
  current : log.getLast?.map JobEventRow.targetState = some (some state)

theorem Faithful.history {log : List JobEventRow} {state : JobState} (faithful : Faithful log state) :
    FaithfulHistory log state := by
  obtain ⟨first, rest, same, pending⟩ := faithful.submitted
  have present : log ≠ [] := by simp [same]
  have begins : first.sourceState = none := by
    have follows := faithful.follows
    rw [same] at follows
    exact follows.1
  exact ⟨faithful.numbered, ⟨first, rest, same, begins, pending⟩, faithful.follows.isChain, faithful.follows.last present⟩

/-- The events one transaction adds to a job's log lead from the state the job had to the state it has then. -/
def LoggedStep (db db' : Db ρ) (row : JobRow) : Prop :=
  ∃ row' ∈ db'.jobs, ∃ added, row'.jobId = row.jobId ∧
    db'.listForJob row.jobId = db.listForJob row.jobId ++ added ∧
    History.Follows JobEventRow.sourceState JobEventRow.targetState (some row.state) added (some row'.state)

theorem commit_logged {fits : JobRow → Prop} {db db' : Db ρ} (sound : LogsSound db)
    (commit : Commit service published fits db db') {row : JobRow} (member : row ∈ db.jobs) :
    LoggedStep db db' row := by
  have sound' := commit_logs sound commit
  have before := listForJob_eq sound member
  cases commit with
  | unchanged => exact ⟨row, member, [], rfl, (List.append_nil _).symm, rfl⟩
  | @enqueued job event targets' _ _ unique _ _ _ owner _ _ _ =>
    have kept : row ∈ db.jobs ++ [job] := List.mem_append_left _ member
    have after := listForJob_eq sound' kept
    have foreign : logOf [event] row.jobId = [] := by
      apply logOf_foreign
      intro other only
      rw [List.mem_singleton.mp only, owner]
      exact (Table.lookup_none.mp unique row member).symm
    refine ⟨row, kept, [], rfl, ?_, rfl⟩
    rw [after, before, logOf_append, foreign]
  | @moved moving row' targets' added stored _ move logged =>
    obtain ⟨logged, extended⟩ := logOf_moved sound stored logged
    have present : row'.jobId ∈ db.jobs.map JobRow.jobId := by
      rw [move_jobId move]
      exact List.mem_map_of_mem stored
    by_cases same : row.jobId = row'.jobId
    · have identical := sound.rows.keyed.eq_of_mem member stored (same.trans (move_jobId move))
      subst identical
      have kept : row' ∈ Table.replace JobRow.jobId db.jobs row' := (Table.mem_replace present).mpr (.inl rfl)
      have after := listForJob_eq sound' kept
      refine ⟨row', kept, added, move_jobId move, ?_, logged.follows⟩
      rw [move_jobId move] at after
      rw [after, before]
      exact extended
    · have kept : row ∈ Table.replace JobRow.jobId db.jobs row' := (Table.mem_replace present).mpr (.inr ⟨member, same⟩)
      have after := listForJob_eq sound' kept
      have foreign : logOf added row.jobId = [] := by
        apply logOf_foreign
        intro event new named
        exact same ((named.symm.trans (logged.owner event new)).trans (move_jobId move).symm)
      refine ⟨row, kept, [], rfl, ?_, rfl⟩
      rw [after, before]
      show logOf (db.events ++ added) row.jobId = _
      rw [logOf_append, foreign]

/-- The event log of a run of transactions: at every state each job's log is its history, and every further
transaction extends it by what it does to the job. -/
structure LogFaithful (service : Service ρ ν) (start : Db ρ) (actions : List (Action ρ)) : Prop where
  history : ∀ row ∈ (run service start actions).jobs,
    FaithfulHistory ((run service start actions).listForJob row.jobId) row.state
  stepwise : ∀ row ∈ (run service start actions).jobs, ∀ action,
    LoggedStep (run service start actions) (step service (run service start actions) action) row

theorem eventLog_faithful (service : Service ρ ν) (projects : List String) (other : ρ) (actions : List (Action ρ)) :
    LogFaithful service (emptyDb projects other) actions := by
  have sound : LogsSound (run service (emptyDb projects other) actions) := run_logs projects other actions
  refine ⟨?_, ?_⟩
  · intro row member
    have faithful := sound.faithful row member
    rw [Db.listForJob, eventsOf_numbered faithful.numbered]
    exact faithful.history
  · intro row member action
    exact commit_logged sound (step_commit sound.rows action) member

end Jiejian.Jobs.EventLog
