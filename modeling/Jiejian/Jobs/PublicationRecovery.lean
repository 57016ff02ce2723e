import Jiejian.Jobs.Cancellation
import Jiejian.Jobs.PublicationSafety

namespace Jiejian.Jobs.PublicationRecovery
open Jiejian.Errors Jiejian.Library Jiejian.Library.Outcome
open Jiejian.Jobs.Records Jiejian.Jobs.Models Jiejian.Jobs.Repository Jiejian.Jobs.Control Jiejian.Jobs.Targets
open Jiejian.Jobs.Queue Jiejian.Jobs.Completion Jiejian.Jobs.Moves Jiejian.Jobs.Inversion
open Jiejian.Jobs.System hiding step
open Jiejian.Jobs.Commits Jiejian.Jobs.Safety Jiejian.Jobs.Agreement Jiejian.Jobs.Publication
open Jiejian.Jobs.PublicationSafety

section Recovery

variable {τ ν : Type} {documents : Documents} {service : Service (Tables τ) ν} {secrets : List String}
  {db db' : Db (Tables τ)} {package : CheckPackage} {manifest : CheckPublicationManifest} {raw : Bytes} {nowUs laterUs : Nat}

/-- A row without the time it was written at. -/
def untimedJob (row : JobRow) : JobRow := { row with updatedAtUs := 0 }

def untimedRun (run : RunRow) : RunRow := { run with updatedAtUs := 0, finishedAtUs := run.finishedAtUs.map fun _ => 0 }

def untimedEvent (event : JobEventRow) : JobEventRow := { event with occurredAtUs := 0 }

/-- Two databases that differ in the times at which rows were written and in nothing else. -/
structure SameButTimes (db db' : Db (Tables τ)) : Prop where
  projects : db.projects = db'.projects
  jobs : db.jobs.map untimedJob = db'.jobs.map untimedJob
  events : db.events.map untimedEvent = db'.events.map untimedEvent
  runs : db.targets.runs.map untimedRun = db'.targets.runs.map untimedRun
  other : db.targets.other = db'.targets.other

theorem SameButTimes.refl (db : Db (Tables τ)) : SameButTimes db db := ⟨rfl, rfl, rfl, rfl, rfl⟩

theorem map_replace_congr {κ α β : Type} [DecidableEq κ] {key : α → κ} (rows : List α) {first second : α} (image : α → β)
    (sameKey : key first = key second) (sameImage : image first = image second) :
    (Table.replace key rows first).map image = (Table.replace key rows second).map image := by
  unfold Table.replace
  rw [List.map_map, List.map_map]
  apply List.map_congr_left
  intro row _
  by_cases matched : key row = key second
  · simp [sameKey, matched, sameImage]
  · simp [sameKey, matched]

/-- A run that is open and undecided ends when it is asked to. -/
theorem finishRun_open {ρ : Type} {targets : Targets ρ} {run : RunRow} {lifecycle : RunLifecycle}
    {verdict : Option RunVerdict} (keyed : Table.Keyed RunRow.runId targets.runs) (present : run ∈ targets.runs)
    (unfinished : run.lifecycle.isNonterminal = true) (undecided : run.verdict = none) (clock : run.updatedAtUs ≤ nowUs) :
    finishRun targets run.runId lifecycle verdict nowUs = (some (finishedRun lifecycle verdict nowUs run),
      { targets with runs := Table.replace RunRow.runId targets.runs (finishedRun lifecycle verdict nowUs run) }) := by
  unfold finishRun updateRun
  have keeps : ∀ other, (finishedRun lifecycle verdict nowUs other).runId = other.runId := fun _ => rfl
  have targeted : ∀ other : RunRow, (decide (other.runId = run.runId) && other.lifecycle.isNonterminal && other.verdict.isNone
      && decide (other.updatedAtUs ≤ nowUs)) = true → other.runId = run.runId := by
    intro other holds
    simp only [Bool.and_eq_true, decide_eq_true_eq] at holds
    exact holds.1.1.1
  have kept : (finishedRun lifecycle verdict nowUs run).runId ∈ targets.runs.map RunRow.runId :=
    List.mem_map.mpr ⟨run, present, rfl⟩
  have read := Table.lookup_replace_self keyed kept
  rcases Table.updateReturning_cases keyed targeted keeps with unchanged | ⟨other, stored, holds, changed⟩
  · have missed := congrArg Prod.fst unchanged
    simp only [Table.updateReturning, Option.map_eq_none_iff, List.find?_eq_none] at missed
    have refused := missed run present
    simp [unfinished, undecided, clock] at refused
  · have same := keyed.eq_of_mem stored present (targeted other holds)
    subst same
    rw [changed]
    dsimp only [Targets.run, Option.bind_some]
    rw [keeps] at read
    rw [read]

/-- What a publication writes does not depend on the time at which its rows were completed. -/
theorem recordPublication_congr {digest : String} {first second : Db (Tables τ)}
    (other : first.targets.other = second.targets.other)
    (run : (first.targets.run package.result.runId).map (fun run => (run.runId, run.createdAtUs)) =
      (second.targets.run package.result.runId).map (fun run => (run.runId, run.createdAtUs))) :
    recordPublication documents secrets package manifest digest first =
      recordPublication documents secrets package manifest digest second := by
  have indexed : ∀ added : Tables τ, indexRules { first with targets := { first.targets with other := added } } package digest =
      indexRules { second with targets := { second.targets with other := added } } package digest := by
    intro added
    unfold indexRules Targets.run
    unfold Targets.run at run
    dsimp only
    cases one : Table.lookup RunRow.runId first.targets.runs package.result.runId with
    | none =>
      cases two : Table.lookup RunRow.runId second.targets.runs package.result.runId with
      | none => rfl
      | some _ =>
        rw [one, two] at run
        cases run
    | some run₁ =>
      cases two : Table.lookup RunRow.runId second.targets.runs package.result.runId with
      | none =>
        rw [one, two] at run
        cases run
      | some run₂ =>
        rw [one, two] at run
        simp only [Option.map_some, Option.some.injEq, Prod.mk.injEq] at run
        show added.publications.index _ run₁.runId _ run₁.createdAtUs _ = added.publications.index _ run₂.runId _ run₂.createdAtUs _
        rw [run.1, run.2]
  unfold recordPublication
  simp only [other, indexed]

/-- An event is stored whenever the same event is stored at another time. -/
theorem appendJobEvent_later {ρ : Type} {payloadSafe : Payload → Bool} {first first' : Db ρ} {job : JobRow}
    {eventType : JobEventType} {source target : Option JobState} {metadata : EventMetadata}
    (appended : appendJobEvent payloadSafe first job eventType source target nowUs metadata = .ok first')
    (second : Db ρ) (job' : JobRow) (laterUs : Nat) (timeless : ∀ event time, payloadSafe (.event event) = true →
      payloadSafe (.event { event with occurredAtUs := time }) = true)
    (sameId : job.jobId = job'.jobId) (events : first.events = second.events)
    (stored : (first.job job.jobId).isSome = (second.job job.jobId).isSome) :
    ∃ second', appendJobEvent payloadSafe second job' eventType source target laterUs metadata = .ok second' := by
  simp only [appendJobEvent, appendEvent, bind_eq_ok, require_eq_ok, ensureStoragePayloadSafe] at appended
  obtain ⟨_, safe, _, order, _, present, _⟩ := appended
  simp only [appendJobEvent, appendEvent, bind_eq_ok, require_eq_ok, ensureStoragePayloadSafe]
  refine ⟨_, (), ?_, (), ?_, (), ?_, rfl⟩
  · have moved := timeless _ laterUs safe
    dsimp only at moved
    rw [← sameId]
    unfold Db.listForJob at moved ⊢
    rw [← events]
    exact moved
  · unfold Db.listForJob at order ⊢
    rw [← sameId, ← events]
    exact order
  · rw [← sameId, ← stored]
    exact present

/-- What could be completed in time can be completed later, when the publication was in time. -/
theorem publishable_later {row : JobRow} (holds : publishable (completionOf package manifest nowUs false) row = true)
    (later : nowUs ≤ laterUs) (leased : ∀ expiry, row.leaseExpiresAtUs = some expiry → manifest.publishedAtUs < expiry) :
    publishable (completionOf package manifest laterUs true) row = true := by
  simp only [publishable, completionOf, Bool.and_eq_true, decide_eq_true_eq] at holds ⊢
  obtain ⟨⟨⟨⟨⟨⟨fence, target⟩, attempt⟩, clock⟩, hash⟩, _⟩, active⟩ := holds
  have clock := Nat.le_trans (of_decide_eq_true clock) later
  refine ⟨⟨⟨⟨⟨⟨fence, of_decide_eq_true target⟩, of_decide_eq_true attempt⟩, clock⟩, hash⟩, ?_⟩, ?_⟩
  · cases lease : row.leaseExpiresAtUs with
    | none =>
      rw [lease] at active
      cases active
    | some expiry =>
      show decide ((manifest.publishedAtUs : Int) < (expiry : Int)) = true
      have inTime := leased expiry lease
      rw [decide_eq_true_eq]
      omega
  · rfl

/-- The job and the run of a result ended together. -/
def endTogether (db : Db (Tables τ)) (result : PublishedResult) (row : JobRow) (run : RunRow) : Db (Tables τ) :=
  let ended := finishedRun result.lifecycle result.verdict result.completedAtUs run
  { storeJob db (releasedRow .succeeded result.completedAtUs none row) with
    targets := { db.targets with runs := Table.replace RunRow.runId db.targets.runs ended } }

/-- The rows that a completion changes, and what it asked of them. -/
theorem completePublishedResult_asked {result : PublishedResult} {pair : JobRow × RunRow} {db₁ : Db (Tables τ)}
    (rows : RowsSound db) (keyed : Table.Keyed RunRow.runId db.targets.runs)
    (completed : completePublishedResult db result = .ok (some pair, db₁)) :
    ∃ row ∈ db.jobs, ∃ run ∈ db.targets.runs, publishable result row = true ∧ run.runId = result.runId ∧
      run.lifecycle.isNonterminal = true ∧ run.verdict = none ∧ run.updatedAtUs ≤ result.completedAtUs ∧
      pair = (releasedRow .succeeded result.completedAtUs none row,
        finishedRun result.lifecycle result.verdict result.completedAtUs run) ∧ db₁ = endTogether db result row run := by
  obtain ⟨job, run'⟩ := pair
  obtain ⟨row, stored, runTargets, holds, released, _, _, finished, after⟩ := completePublishedResult_some rows.keyed completed
  obtain ⟨run, present, runId, ⟨unfinished, undecided, clock⟩, ended, changed⟩ := finishRun_row keyed finished
  refine ⟨row, stored, run, present, holds, runId, unfinished, undecided, clock, ?_, ?_⟩
  · rw [released, ended]
  · rw [after, released, changed, ended]
    rfl

/-- A completion that the rows allow. -/
theorem completePublishedResult_allowed {result : PublishedResult} {row : JobRow} {run : RunRow}
    (rows : RowsSound db) (keyed : Table.Keyed RunRow.runId db.targets.runs)
    (lifecycle : result.lifecycle = .completed ∨ result.lifecycle = .safetyStopped)
    (matrix : ¬(result.lifecycle = .completed ∧ result.verdict = none ∨
      result.lifecycle = .safetyStopped ∧ result.verdict = some .pass))
    (decided : result.requestHash.isSome = true → result.verdict ≠ none)
    (dated : ∀ publishedAtUs ∈ result.publishedAtUs, result.requestHash.isSome = true ∧ 0 ≤ publishedAtUs ∧
      publishedAtUs ≤ (result.completedAtUs : Int))
    (stored : row ∈ db.jobs) (holds : publishable result row = true) (present : run ∈ db.targets.runs)
    (runId : run.runId = result.runId) (unfinished : run.lifecycle.isNonterminal = true) (undecided : run.verdict = none)
    (clock : run.updatedAtUs ≤ result.completedAtUs) :
    completePublishedResult db result = .ok (some (releasedRow .succeeded result.completedAtUs none row,
        finishedRun result.lifecycle result.verdict result.completedAtUs run), endTogether db result row run) := by
  have named := (fenced_iff.mp (publishable_facts holds).1).1
  have targeted : ∀ other : JobRow, publishable result other = true → other.jobId = row.jobId := by
    intro other matched
    exact (fenced_iff.mp (publishable_facts matched).1).1.trans named.symm
  have updated := Cancellation.updateJob_stored rows.keyed stored targeted
    (fun other => (rfl : (releasedRow .succeeded result.completedAtUs none other).jobId = other.jobId))
  rw [if_pos holds] at updated
  have finished := @finishRun_open result.completedAtUs _ db.targets run result.lifecycle result.verdict keyed present unfinished
    undecided clock
  rw [runId] at finished
  unfold completePublishedResult
  refine bind_eq_ok.mpr ⟨(), require_eq_ok.mpr lifecycle, bind_eq_ok.mpr ⟨(), require_eq_ok.mpr matrix,
    bind_eq_ok.mpr ⟨(), require_eq_ok.mpr decided, bind_eq_ok.mpr ⟨(), require_eq_ok.mpr dated, ?_⟩⟩⟩⟩
  rw [updated]
  simp only [storeJob, finished]
  rfl

theorem endTogether_run (keyed : Table.Keyed RunRow.runId db.targets.runs) (result : PublishedResult) (row : JobRow)
    {run : RunRow} (present : run ∈ db.targets.runs) :
    (endTogether db result row run).targets.run run.runId =
      some (finishedRun result.lifecycle result.verdict result.completedAtUs run) :=
  Table.lookup_replace_self keyed (List.mem_map.mpr ⟨run, present, rfl⟩)

theorem endTogether_job (rows : RowsSound db) (result : PublishedResult) {row : JobRow} (run : RunRow)
    (stored : row ∈ db.jobs) : ((endTogether db result row run).job row.jobId).isSome = true := by
  have taken : (releasedRow .succeeded result.completedAtUs none row).jobId ∈ db.jobs.map JobRow.jobId :=
    List.mem_map.mpr ⟨row, stored, rfl⟩
  exact Option.isSome_iff_exists.mpr ⟨_, Table.lookup_replace_self rows.keyed taken⟩

/-- A result that was published in time is completed later as it would have been then. -/
theorem complete_later (rows : RowsSound db) (keyed : Table.Keyed RunRow.runId db.targets.runs)
    (timeless : ∀ event time, service.payloadSafe secrets (.event event) = true →
      service.payloadSafe secrets (.event { event with occurredAtUs := time }) = true)
    (completed : complete documents service secrets db package manifest raw nowUs false = .ok db')
    (later : nowUs ≤ laterUs) (dated : manifest.publishedAtUs ≤ nowUs)
    (leased : ∀ job expiry, db.job package.result.jobId = some job → job.leaseExpiresAtUs = some expiry →
      manifest.publishedAtUs < expiry) :
    ∃ db'', complete documents service secrets db package manifest raw laterUs true = .ok db'' ∧ SameButTimes db'' db' := by
  obtain ⟨⟨reply, final⟩, published, same⟩ := map_eq_ok.mp (mapError_eq_ok.mp completed)
  cases same
  simp only [completePublication, bind_eq_ok] at published
  obtain ⟨⟨changed, db₁⟩, taken, published⟩ := published
  cases changed with
  | none => cases published
  | some pair =>
    have asked := taken
    simp only [completePublishedResult, bind_eq_ok, require_eq_ok] at asked
    obtain ⟨_, lifecycle, _, matrix, _, decided, _⟩ := asked
    obtain ⟨row, stored, run, present, holds, runId, unfinished, undecided, clock, same, after⟩ :=
      completePublishedResult_asked rows keyed taken
    subst same after
    simp only [bind_eq_ok] at published
    obtain ⟨recorded, written, db₂, appended, done⟩ := published
    cases done
    have named : row.jobId = package.result.jobId := (fenced_iff.mp (publishable_facts holds).1).1
    have holdsLater := publishable_later holds later fun expiry lease => by
      refine leased row expiry ?_ lease
      rw [← named]
      exact rows.keyed.lookup_mem stored
    have takenLater := @completePublishedResult_allowed τ db (completionOf package manifest laterUs true) row run rows keyed
      lifecycle matrix decided (by
        intro publishedAtUs told
        cases told
        refine ⟨rfl, Int.natCast_nonneg _, ?_⟩
        show (manifest.publishedAtUs : Int) ≤ (laterUs : Int)
        omega) stored holdsLater present runId unfinished undecided (Nat.le_trans clock later)
    have sameRun := endTogether_run keyed (completionOf package manifest nowUs false) row present
    have sameRunLater := endTogether_run keyed (completionOf package manifest laterUs true) row present
    have runId : run.runId = package.result.runId := runId
    rw [runId] at sameRun sameRunLater
    have writtenLater : recordPublication documents secrets package manifest (documents.sha256 raw)
        (endTogether db (completionOf package manifest laterUs true) row run) = .ok recorded := by
      rw [← written]
      refine recordPublication_congr rfl ?_
      rw [sameRun, sameRunLater]
      rfl
    have presentNow := endTogether_job rows (completionOf package manifest nowUs false) run stored
    have presentLater := endTogether_job rows (completionOf package manifest laterUs true) run stored
    let after := endTogether db (completionOf package manifest laterUs true) row run
    obtain ⟨db₃, appendedLater⟩ := appendJobEvent_later appended
      { after with targets := { after.targets with other := recorded } } (releasedRow .succeeded laterUs none row) laterUs
      timeless rfl rfl (presentNow.trans presentLater.symm)
    have logged := appendJobEvent_ok appended
    have loggedLater := appendJobEvent_ok appendedLater
    refine ⟨db₃, ?_, ?_⟩
    · let pair := (releasedRow .succeeded laterUs none row,
        finishedRun package.result.lifecycle package.result.verdict laterUs run)
      refine mapError_eq_ok.mpr (map_eq_ok.mpr ⟨(pair, db₃), ?_, rfl⟩)
      refine bind_eq_ok.mpr ⟨_, takenLater, ?_⟩
      exact bind_eq_ok.mpr ⟨recorded, writtenLater, bind_eq_ok.mpr ⟨db₃, appendedLater, rfl⟩⟩
    · rw [logged, loggedLater]
      refine ⟨rfl, ?_, ?_, ?_, rfl⟩
      · exact map_replace_congr db.jobs untimedJob rfl rfl
      · simp only [List.map_append]
        rfl
      · exact map_replace_congr db.targets.runs untimedRun rfl rfl

/-- A publication to a free place is moved there or is refused, whether its commit is cut off or not. -/
theorem settle_free {state : State τ} {pending : Pending} (free : state.final pending.place = none) :
    ((∃ error, settle state pending raw db .uncommitted = .error error) ∧
      ∃ error, settle state pending raw db .committed = .error error) ∨
      ∃ staged written, Written state pending raw staged written ∧
        settle state pending raw db .uncommitted = .ok (moving state pending written) ∧
        settle state pending raw db .committed = .ok { moving state pending written with db } := by
  have vacant : ¬(state.final pending.place).isSome = true := by
    rw [free]
    exact Bool.false_ne_true
  let writing (staged : Directory) : Except PublicationError Directory :=
    if pending.hasManifest = true then .ok staged else orRaise (staged.create manifestName raw) .FileExistsError
  by_cases possible : ∃ staged written, state.staging pending.key = some staged ∧ writing staged = .ok written
  · obtain ⟨staged, written, found, wrote⟩ := possible
    refine .inr ⟨staged, written, written_of found wrote, ?_, ?_⟩
    · rw [← moving_holding]
      exact bind_eq_ok.mpr ⟨staged, orRaise_eq_ok.mpr found, bind_eq_ok.mpr ⟨written, wrote, if_neg vacant⟩⟩
    · rw [← moving_holding]
      exact bind_eq_ok.mpr ⟨staged, orRaise_eq_ok.mpr found, bind_eq_ok.mpr ⟨written, wrote, if_neg vacant⟩⟩
  · have refused : ∀ fate, (∀ kept, fate ≠ .torn kept) → ∃ error, settle state pending raw db fate = .error error := by
      intro fate whole
      cases done : settle state pending raw db fate with
      | error error => exact ⟨error, rfl⟩
      | ok state' =>
        obtain ⟨staged, found, done⟩ := bind_eq_ok.mp done
        obtain ⟨written, wrote, _⟩ := bind_eq_ok.mp done
        refine absurd ⟨staged, written, orRaise_eq_ok.mp found, ?_⟩ possible
        cases fate with
        | torn kept => exact absurd rfl (whole kept)
        | _ => exact wrote
    exact .inl ⟨refused .uncommitted (fun _ same => by cases same), refused .committed (fun _ same => by cases same)⟩

/-- Recovery of a package that was published in time and whose directory is read back. -/
theorem completeExisting_later {directory : Directory} (rows : RowsSound db)
    (keyed : Table.Keyed RunRow.runId db.targets.runs)
    (timeless : ∀ event time, service.payloadSafe secrets (.event event) = true →
      service.payloadSafe secrets (.event { event with occurredAtUs := time }) = true)
    (published : InWork documents service secrets db package nowUs manifest raw db')
    (holds : Holds documents secrets directory { package with manifest := some manifest } manifest raw)
    (decided : documents.decided directory.contents = true) (fits : directory.size ≤ maxPackageBytes)
    (later : nowUs ≤ laterUs) (dated : manifest.publishedAtUs ≤ nowUs) :
    ∃ db'', completeExisting documents service secrets db package.request.projectId package.result.runId directory laterUs =
      .ok ({ package with manifest := some manifest }, db'') ∧ SameButTimes db'' db' := by
  obtain ⟨⟨_, _, _, _, completed⟩, _⟩ := complete_ok rows keyed published.completed
  obtain ⟨job, expiry, validated, lease, inTime⟩ := published.leased
  have own := holds.own
  unfold belongs at own
  simp only [Bool.and_eq_true, decide_eq_true_eq] at own
  obtain ⟨⟨⟨⟨⟨⟨⟨⟨_, ofProject⟩, ofRun⟩, _⟩, _⟩, _⟩, _⟩, _⟩, _⟩ := own
  have unknown : db.targets.other.publications.receipt manifest.runId = none := by
    refine Table.lookup_none.mpr fun receipt listed same => ?_
    exact completed.recorded.runFree (List.mem_map.mpr ⟨receipt, listed, same.trans ofRun⟩)
  obtain ⟨db'', recovered, same⟩ := complete_later rows keyed timeless published.completed later dated
    fun other expiry' stored leased => by
      have present := (validateJob_eq_ok.mp validated).1
      rw [present] at stored
      cases stored
      rw [lease] at leased
      cases leased
      omega
  refine ⟨db'', ?_, same⟩
  unfold completeExisting
  refine bind_eq_ok.mpr ⟨_, holds.validate fits, bind_eq_ok.mpr ⟨manifest, rfl, bind_eq_ok.mpr ⟨(),
    require_eq_ok.mpr ⟨ofProject, ofRun⟩, bind_eq_ok.mpr ⟨raw, orRaise_eq_ok.mpr holds.stored, ?_⟩⟩⟩⟩
  dsimp only
  rw [unknown]
  exact bind_eq_ok.mpr ⟨job, validated, bind_eq_ok.mpr ⟨(), require_eq_ok.mpr decided,
    bind_eq_ok.mpr ⟨db'', recovered, rfl⟩⟩⟩

/-- What a crash between the rename of the directory and the commit leaves for a recovery to do. -/
structure CrashRecovered (documents : Documents) (service : Service (Tables τ) ν) (state : State τ) (pending : Pending)
    (nowUs laterUs : Nat) (committed crashed recovered : State τ) : Prop where
  committed_eq : committed = step documents service state (.publish pending nowUs .committed)
  crashed_eq : crashed = step documents service state (.publish pending nowUs .uncommitted)
  recovered_eq : recovered =
    step documents service crashed (.recover pending.place.1 pending.place.2 pending.secrets laterUs)
  lost : crashed.db = state.db
  final : recovered.final = committed.final
  staging : recovered.staging = committed.staging
  database : SameButTimes recovered.db committed.db

theorem recover_nothing {state : State τ} {projectId runId : String} (absent : state.final (projectId, runId) = none) :
    step documents service state (.recover projectId runId secrets nowUs) = state := by
  simp only [step, absent]

theorem recover_done {state : State τ} {projectId runId : String} {directory : Directory}
    (present : state.final (projectId, runId) = some directory)
    (done : completeExisting documents service secrets state.db projectId runId directory nowUs = .ok (package, db')) :
    step documents service state (.recover projectId runId secrets nowUs) = { state with db := db' } := by
  simp only [step, present, done]

/-- A publication that is refused leaves nothing to recover. -/
theorem CrashRecovered.refused {state : State τ} {pending : Pending} (free : state.final pending.place = none)
    (committed : step documents service state (.publish pending nowUs .committed) = state)
    (crashed : step documents service state (.publish pending nowUs .uncommitted) = state) :
    CrashRecovered documents service state pending nowUs laterUs state state state :=
  ⟨committed.symm, crashed.symm, (recover_nothing free).symm, rfl, rfl, rfl, SameButTimes.refl _⟩

/-- A written directory has the contents that were decided on. -/
theorem contents_written {state : State τ} {pending : Pending} {directory staged written : Directory}
    (prepared : Prepared documents state.attempts state.staging pending directory)
    (wrote : Written state pending raw staged written) : written.contents = directory.contents := by
  have before : staged.contents = directory.contents := by
    rcases prepared.staged staged wrote.found with same | ⟨_, raw', created⟩
    · rw [same]
    · exact contents_create created
  rcases wrote.related with same | ⟨raw', created⟩
  · rw [same, before]
  · rw [contents_create created, before]

theorem sound_recoverable {state : State τ} {pending : Pending} (sound : Sound documents state)
    (timeless : ∀ event time, service.payloadSafe pending.secrets (.event event) = true →
      service.payloadSafe pending.secrets (.event { event with occurredAtUs := time }) = true)
    (free : state.final pending.place = none) (later : nowUs ≤ laterUs)
    (dated : ∀ manifest ∈ pending.package.manifest, manifest.publishedAtUs ≤ nowUs)
    (fits : ∀ directory ∈ (step documents service state (.publish pending nowUs .uncommitted)).final pending.place,
      directory.size ≤ maxPackageBytes) :
    ∃ committed crashed recovered,
      CrashRecovered documents service state pending nowUs laterUs committed crashed recovered := by
  by_cases member : pending ∈ state.pending
  · cases published : publishInWork documents service pending.secrets state.db pending.package nowUs with
    | error error =>
      refine ⟨state, state, state, .refused free ?_ ?_⟩ <;> simp only [step, if_pos member, published]
    | ok result =>
      obtain ⟨manifest, raw, db'⟩ := result
      rcases @settle_free τ db' raw state pending free with ⟨⟨_, first⟩, _, second⟩ | ⟨staged, written, wrote, first, second⟩
      · refine ⟨state, state, state, .refused free ?_ ?_⟩
        · simp only [step, if_pos member, published, second]
        · simp only [step, if_pos member, published, first]
      · have inWork := publishInWork_ok published
        obtain ⟨directory, prepared⟩ := sound.prepared pending member
        have holds := holds_written prepared inWork wrote
        have crashed : step documents service state (.publish pending nowUs .uncommitted) = moving state pending written := by
          simp only [step, if_pos member, published, first]
        have committed : step documents service state (.publish pending nowUs .committed) =
            { moving state pending written with db := db' } := by
          simp only [step, if_pos member, published, second]
        have present : (moving state pending written).final pending.place = some written := setKey_self _ _ _
        have decided : documents.decided written.contents = true := by
          rw [contents_written prepared wrote]
          exact prepared.decided
        have dated : manifest.publishedAtUs ≤ nowUs := by
          rcases inWork.own with own | ⟨_, _, own⟩
          · exact dated manifest own
          · exact Nat.le_of_eq own
        rw [crashed] at fits
        obtain ⟨db'', recovered, same⟩ := completeExisting_later sound.settled.agree.rows sound.settled.agree.keyed timeless
          inWork holds decided (fits written present) later dated
        exact ⟨_, _, _, committed.symm, crashed.symm, (recover_done present recovered).symm, rfl, rfl, rfl, same⟩
  · exact ⟨state, state, state, .refused free (if_neg member) (if_neg member)⟩

end Recovery

section Others

variable {ρ ν : Type} {service : Service ρ ν} {secrets : List String} {db db' : Db ρ}

theorem claim_targets {recordingStartable : ρ → String → Bool} {jobId : Option String} {leaseOwner : String}
    {nowUs leaseExpiresAtUs : Nat} {targetTypes : List JobTargetType} :
    (claim db recordingStartable jobId leaseOwner nowUs leaseExpiresAtUs targetTypes).2.targets = db.targets := by
  unfold claim
  dsimp only
  split <;> rfl

/-- A check that is submitted without callbacks of its own writes a job and a run and nothing else. -/
theorem submit_other {request : SubmitJob} {generated : GeneratedIds} {reply : JobSubmissionResult}
    (submitted : submit service secrets db request ⟨fun db => .ok db.targets.other, fun db _ => .ok db.targets.other⟩
      generated = .ok (reply, db')) : db'.targets.other = db.targets.other := by
  obtain ⟨_, _, submitted⟩ := bind_eq_ok.mp submitted
  cases existing : getByIdempotency db request.projectId request.operationType request.idempotencyKey with
  | some job =>
    simp only [existing, bind_eq_ok] at submitted
    obtain ⟨_, _, same⟩ := submitted
    cases same
    rfl
  | none =>
    simp only [existing] at submitted
    split at submitted
    · rename_i created performed
      cases submitted
      simp only [createSubmission, bind_eq_ok] at performed
      obtain ⟨_, _, _, checked, _, _, _, _, _, added, _, stored, _, written, _, logged, same⟩ := performed
      cases checked
      cases written
      cases same
      rw [appendJobEvent_ok logged, (addJob_ok stored).2, (addRun_ok added).2]
    · split at submitted
      · obtain ⟨_, _, same⟩ := bind_eq_ok.mp submitted
        cases same
        rfl
      · cases submitted

/-- A handler that accepts every job of a target and writes no rows. -/
def passingHandler : JobTargetHandler ρ Unit where
  load _ _ := .ok ⟨none, none⟩
  advanceAfterClaim tables _ _ := .ok (⟨none, none⟩, tables)
  finish tables _ _ _ := .ok (⟨none, none⟩, tables)

def checkService (ρ : Type) : Service ρ Unit :=
  currentService (fun _ _ => true) (fun _ _ => true)
    { baseDelayUs := 1_700, maxDelayUs := 31_000, maxJitterUs := 270 } passingHandler passingHandler passingHandler passingHandler
    passingHandler

/-- Claiming a job writes its run at most. -/
theorem checkService_advance {targets targets' : Targets ρ} {job : JobRow} {nowUs : Nat} {view : TargetView Unit}
    (advanced : (checkService ρ).targets.advanceAfterClaim targets job nowUs = .ok (view, targets')) :
    targets'.other = targets.other := by
  obtain ⟨handler, resolved, advanced⟩ := bind_eq_ok.mp advanced
  obtain ⟨entry, found, same⟩ := Option.map_eq_some_iff.mp (orRaise_eq_ok.mp resolved)
  have listed := List.mem_of_find?_eq_some found
  have ofRun : entry.2 = checkJobTargetHandler → targets'.other = targets.other := by
    intro check
    rw [← same, check] at advanced
    obtain ⟨_, _, advanced⟩ := bind_eq_ok.mp advanced
    simp only [runJobTargetHandler] at advanced
    split at advanced
    · obtain ⟨_, _, done⟩ := bind_eq_ok.mp advanced
      cases done
      rfl
    · cases advanced
  have passing : entry.2 = passingHandler.onOther → targets'.other = targets.other := by
    intro own
    rw [← same, own] at advanced
    cases advanced
    rfl
  simp only [checkService, currentService, currentCheckAndRecordingTargets, List.mem_cons, List.not_mem_nil, or_false] at listed
  rcases listed with listed | listed | listed | listed | listed | listed
  · exact passing (congrArg Prod.snd listed)
  · exact ofRun (congrArg Prod.snd listed)
  · exact passing (congrArg Prod.snd listed)
  · exact passing (congrArg Prod.snd listed)
  · exact passing (congrArg Prod.snd listed)
  · exact passing (congrArg Prod.snd listed)

theorem claim_other {request : ClaimJob} {reply : Option (JobMutationResult Unit)}
    (claimed : Attempts.claimInWork (checkService ρ) secrets db request = .ok (reply, db')) :
    db'.targets.other = db.targets.other := by
  obtain ⟨_, _, claimed⟩ := bind_eq_ok.mp claimed
  obtain ⟨expiry, _, claimed⟩ := bind_eq_ok.mp claimed
  have kept : (claim db (checkService ρ).recordingStartable request.jobId request.leaseOwner request.nowUs expiry
    (checkService ρ).targets.targetTypes).2.targets = db.targets := claim_targets
  cases found : claim db (checkService ρ).recordingStartable request.jobId request.leaseOwner request.nowUs expiry
      (checkService ρ).targets.targetTypes with
  | mk job db₁ =>
    rw [found] at kept claimed
    cases job with
    | none =>
      simp only at claimed
      split at claimed
      · cases claimed
        rfl
      · cases claimed
    | some job =>
      obtain ⟨advanced, moved, claimed⟩ := bind_eq_ok.mp claimed
      obtain ⟨db₂, logged, claimed⟩ := bind_eq_ok.mp claimed
      obtain ⟨_, _, done⟩ := bind_eq_ok.mp claimed
      cases done
      have written := checkService_advance moved
      rw [appendJobEvent_ok logged]
      exact written.trans (congrArg Targets.other kept)

end Others

section Sample

variable {τ : Type}

/-- A check is submitted. -/
def submission (request : SubmitJob) (generated : GeneratedIds) : Foreign (checkService (Tables τ)) where
  action := .submit [] request ⟨fun db => .ok db.targets.other, fun db _ => .ok db.targets.other⟩ generated
  silent := rfl
  receipts db db' performed := by
    obtain ⟨reply, submitted, same⟩ := map_eq_ok.mp performed
    rw [← same, submit_other submitted]
  evidence db db' performed := by
    obtain ⟨reply, submitted, same⟩ := map_eq_ok.mp performed
    rw [← same, submit_other submitted]

/-- A worker claims a job. -/
def claiming (request : ClaimJob) : Foreign (checkService (Tables τ)) where
  action := .claim [] request
  silent := rfl
  receipts db db' performed := by
    obtain ⟨reply, claimed, same⟩ := map_eq_ok.mp performed
    rw [← same, claim_other claimed]
  evidence db db' performed := by
    obtain ⟨reply, claimed, same⟩ := map_eq_ok.mp performed
    rw [← same, claim_other claimed]

def sampleEvidenceId : String := "ev_" ++ String.ofList (List.replicate 64 'a')

def sampleEvidence : CheckEvidence :=
  { evidenceId := sampleEvidenceId, runId := "r", jobId := "j", attempt := 1, requestHash := "h", configHash := "c",
    caseId := "case" }

def sampleResult : CheckRunnerResult :=
  { runId := "r", jobId := "j", attempt := 1, leaseOwner := "w", fencingToken := 1, requestHash := "h", configHash := "c",
    resultType := .SUCCESS, lifecycle := .completed, caseResults := [⟨"case", [sampleEvidenceId]⟩], verdict := some .pass,
    completedAtUs := 7, valid := rfl }

def sampleRequest : ExecutionRequest :=
  { projectId := "p", planFingerprint := "f", sourceFingerprint := none, policyEpoch := 0, engineVersion := "1",
    cases := [⟨"case", "intent", 1, "permission"⟩] }

def sampleFiles : List (String × Bytes) :=
  [("request.json", [2]), ("result.json", [1]), ("runtime.json", [3]), (evidencePath sampleEvidenceId, [4])]

def sampleDigest (raw : Bytes) : String :=
  if raw = [1] then "result" else if raw = [2] then "h" else if raw = [3] then "c" else if raw = [4] then "evidence" else "manifest"

def samplePackage : CheckPackage :=
  { request := sampleRequest, result := sampleResult, evidence := [sampleEvidence],
    files := [⟨evidencePath sampleEvidenceId, "evidence", 1⟩, ⟨"request.json", "h", 1⟩, ⟨"result.json", "result", 1⟩,
      ⟨"runtime.json", "c", 1⟩],
    manifest := none }

def sampleManifest : CheckPublicationManifest :=
  { projectId := "p", runId := "r", jobId := "j", attempt := 1, leaseOwner := "w", fencingToken := 1,
    leaseExpiresAtUs := 29, publishedAtUs := 8, requestHash := "h", configHash := "c", resultHash := "result",
    files := samplePackage.files }

/-- Every document of one check has its bytes. -/
def sampleDocuments : Documents where
  sha256 := sampleDigest
  readResult raw := if raw = [1] then some sampleResult else none
  readRequest raw := if raw = [2] then some sampleRequest else none
  readEvidence raw := if raw = [4] then some sampleEvidence else none
  readManifest raw := if raw = [5] then some sampleManifest else none
  writeManifest manifest := if manifest = sampleManifest then some [5] else none
  exposes _ _ := false
  associated _ := true
  decided _ := true
  rowsSafe _ _ _ _ := true
  reads_written written := by
    obtain ⟨rfl, same⟩ := Option.ite_none_right_eq_some.mp written
    cases same
    rfl
  writes_read read := by
    obtain ⟨rfl, same⟩ := Option.ite_none_right_eq_some.mp read
    cases same
    rfl
  written_size written := by
    obtain ⟨_, same⟩ := Option.ite_none_right_eq_some.mp written
    cases same
    decide
  exposes_nothing _ := rfl

def sampleActs : List (Act (checkService (Tables Unit))) :=
  [.transaction (submission LeasedSafety.checkSubmission ⟨"r", "j"⟩),
    .transaction (claiming ⟨"w", 6, 23, none, by decide, by decide⟩),
    .stage ("j", 1, 1) ⟨sampleFiles, by decide⟩, .prepare ("j", 1, 1) [] 7]

def samplePending : Pending := { key := ("j", 1, 1), secrets := [], package := samplePackage, hasManifest := false }

def sampleState : Publication.State Unit := Transition.run (step sampleDocuments _) (emptyState ["p"] ()) sampleActs

def sampleCrashed : Publication.State Unit :=
  step sampleDocuments (checkService (Tables Unit)) sampleState (.publish samplePending 8 .uncommitted)

end Sample

end Jiejian.Jobs.PublicationRecovery
