import Jiejian.Jobs.Publication

namespace Jiejian.Jobs.PublicationSafety
open Jiejian.Errors Jiejian.Library Jiejian.Library.Outcome
open Jiejian.Jobs.Records Jiejian.Jobs.Models Jiejian.Jobs.Repository Jiejian.Jobs.Control Jiejian.Jobs.Targets
open Jiejian.Jobs.Queue Jiejian.Jobs.Completion Jiejian.Jobs.Moves Jiejian.Jobs.Inversion
open Jiejian.Jobs.System hiding step
open Jiejian.Jobs.Commits Jiejian.Jobs.Safety Jiejian.Jobs.Agreement Jiejian.Jobs.Publication

section Directories

variable {directory created : Directory} {raw : Bytes}

theorem create_some {path : String} (made : directory.create path raw = some created) :
    path ∉ directory.files.map Prod.fst ∧ created.files = directory.files ++ [(path, raw)] := by
  unfold Directory.create at made
  by_cases absent : path ∉ directory.files.map Prod.fst
  · rw [dif_pos absent] at made
    cases made
    exact ⟨absent, rfl⟩
  · rw [dif_neg absent] at made
    cases made

theorem read_isSome {path : String} : (directory.read path).isSome = true ↔ path ∈ directory.files.map Prod.fst := by
  unfold Directory.read
  rw [Option.isSome_map]
  constructor
  · intro found
    obtain ⟨file, listed⟩ := Option.isSome_iff_exists.mp found
    obtain ⟨member, named⟩ := Table.lookup_some listed
    exact List.mem_map.mpr ⟨file, member, named⟩
  · intro member
    obtain ⟨file, listed, named⟩ := List.mem_map.mp member
    cases absent : Table.lookup Prod.fst directory.files path with
    | some _ => rfl
    | none => exact absurd named (Table.lookup_none.mp absent file listed)

theorem contents_create (made : directory.create manifestName raw = some created) :
    created.contents = directory.contents := by
  obtain ⟨_, files⟩ := create_some made
  unfold Directory.contents
  rw [files, List.filter_append]
  simp

theorem read_create (made : directory.create manifestName raw = some created) : created.read manifestName = some raw := by
  obtain ⟨_, files⟩ := create_some made
  have keyed : Table.Keyed Prod.fst created.files := created.once
  have listed : (manifestName, raw) ∈ created.files := by
    rw [files]
    exact List.mem_append_right _ List.mem_cons_self
  unfold Directory.read
  have found := keyed.lookup_mem listed
  dsimp only at found
  rw [found]
  rfl

/-- A manifest is written once. -/
theorem create_absent (made : directory.create manifestName raw = some created) :
    (directory.read manifestName).isSome = false := by
  rw [Bool.eq_false_iff]
  exact fun present => (create_some made).1 (read_isSome.mp present)

end Directories

section Validation

variable {documents : Documents} {directory : Directory} {package : CheckPackage} {secrets : List String}

theorem readPackage_manifest {contents : List (String × Bytes)} (read : readPackage documents contents = some package) :
    package.manifest = none := by
  unfold readPackage at read
  simp only [Option.bind_eq_bind, Option.bind_eq_some_iff] at read
  obtain ⟨_, _, _, _, _, _, _, _, _, _, _, _, _, _, _, _, _, _, _, _, _, _, same⟩ := read
  cases same
  rfl

/-- What is allowed with secrets is allowed without. -/
theorem fileAllowed_plain {file : String × Bytes} (allowed : fileAllowed documents true secrets file = true) :
    fileAllowed documents true [] file = true := by
  unfold fileAllowed at allowed ⊢
  simp only [Bool.and_eq_true] at allowed ⊢
  refine ⟨allowed.1, ?_⟩
  rw [documents.exposes_nothing]
  rfl

theorem fileAllowed_published {file : String × Bytes} (allowed : fileAllowed documents false secrets file = true) :
    fileAllowed documents true secrets file = true := by
  unfold fileAllowed at allowed ⊢
  simp only [Bool.and_eq_true] at allowed ⊢
  refine ⟨⟨?_, allowed.1.2⟩, allowed.2⟩
  by_cases manifest : file.1 = manifestName
  · rw [if_pos manifest]
  · rw [if_neg manifest] at allowed ⊢
    exact allowed.1.1

/-- The directory holds a package with its manifest; only its size is left open. -/
structure Holds (documents : Documents) (secrets : List String) (directory : Directory) (package : CheckPackage)
    (manifest : CheckPublicationManifest) (raw : Bytes) : Prop where
  contents : readPackage documents directory.contents = some { package with manifest := none }
  named : package.manifest = some manifest
  stored : directory.read manifestName = some raw
  read : documents.readManifest raw = some manifest
  own : belongs manifest package = true
  files : ∀ file ∈ directory.files, fileAllowed documents true secrets file = true
  count : directory.files.length ≤ maxFiles + 1

variable {manifest : CheckPublicationManifest} {raw : Bytes}

theorem readable_iff {published : Bool} : readable documents published secrets directory = true ↔
    (∀ file ∈ directory.files, fileAllowed documents published secrets file = true) ∧
      directory.files.length ≤ maxFiles + published.toNat ∧ directory.size ≤ maxPackageBytes := by
  unfold readable
  rw [Bool.and_eq_true, Bool.and_eq_true, List.all_eq_true, decide_eq_true_eq, decide_eq_true_eq, and_assoc]

/-- A staged directory that is read as a package. -/
theorem validate_staged (validated : validateCheckPackage documents directory false secrets = .ok package) :
    readable documents false secrets directory = true ∧ readPackage documents directory.contents = some package := by
  obtain ⟨_, allowed, validated⟩ := bind_eq_ok.mp validated
  obtain ⟨found, read, validated⟩ := bind_eq_ok.mp validated
  cases validated
  exact ⟨require_eq_ok.mp allowed, orRaise_eq_ok.mp read⟩

/-- A published directory that is read as a package holds it. -/
theorem holds_of_validate (validated : validateCheckPackage documents directory true secrets = .ok package) :
    ∃ manifest raw, Holds documents secrets directory package manifest raw := by
  obtain ⟨_, allowed, validated⟩ := bind_eq_ok.mp validated
  obtain ⟨found, read, validated⟩ := bind_eq_ok.mp validated
  obtain ⟨raw, stored, validated⟩ := bind_eq_ok.mp validated
  obtain ⟨manifest, parsed, validated⟩ := bind_eq_ok.mp validated
  obtain ⟨_, own, validated⟩ := bind_eq_ok.mp validated
  cases validated
  obtain ⟨files, count, _⟩ := readable_iff.mp (require_eq_ok.mp allowed)
  have read' := orRaise_eq_ok.mp read
  refine ⟨manifest, raw, ?_, rfl, orRaise_eq_ok.mp stored, orRaise_eq_ok.mp parsed, require_eq_ok.mp own,
    files, count⟩
  have plain := readPackage_manifest read'
  rw [read']
  cases found
  cases plain
  rfl

/-- Whoever reads a directory that holds a package reads the package, when it is not too large. -/
theorem Holds.validate (holds : Holds documents secrets directory package manifest raw)
    (fits : directory.size ≤ maxPackageBytes) : validateCheckPackage documents directory true secrets = .ok package := by
  have allowed := readable_iff.mpr ⟨holds.files, holds.count, fits⟩
  refine bind_eq_ok.mpr ⟨(), require_eq_ok.mpr allowed, bind_eq_ok.mpr ⟨_, orRaise_eq_ok.mpr holds.contents, ?_⟩⟩
  refine bind_eq_ok.mpr ⟨raw, orRaise_eq_ok.mpr holds.stored, bind_eq_ok.mpr ⟨manifest, orRaise_eq_ok.mpr holds.read,
    bind_eq_ok.mpr ⟨(), require_eq_ok.mpr holds.own, ?_⟩⟩⟩
  have named := holds.named
  cases package
  cases named
  rfl

theorem Holds.plain (holds : Holds documents secrets directory package manifest raw) :
    Holds documents [] directory package manifest raw :=
  ⟨holds.contents, holds.named, holds.stored, holds.read, holds.own,
    fun file member => fileAllowed_plain (holds.files file member), holds.count⟩

theorem validate_oversize (large : maxPackageBytes < directory.size) :
    validateCheckPackage documents directory true secrets = .error unreadable := by
  have refused : ¬readable documents true secrets directory = true := by
    intro allowed
    exact absurd (readable_iff.mp allowed).2.2 (Nat.not_le_of_gt large)
  unfold validateCheckPackage require
  rw [if_neg refused]
  rfl

/-- The manifest that a publication writes completes the directory it was made for. -/
theorem holds_created {created : Directory} (validated : validateCheckPackage documents directory false secrets = .ok package)
    (written : documents.writeManifest manifest = some raw) (hidden : documents.exposes secrets raw = false)
    (own : belongs manifest package = true) (made : directory.create manifestName raw = some created) :
    Holds documents secrets created { package with manifest := some manifest } manifest raw := by
  obtain ⟨allowed, read⟩ := validate_staged validated
  obtain ⟨files, count, _⟩ := readable_iff.mp allowed
  have plain := readPackage_manifest read
  obtain ⟨_, extended⟩ := create_some made
  refine ⟨?_, rfl, read_create made, documents.reads_written written, own, ?_, ?_⟩
  · rw [contents_create made, read]
    cases package
    cases plain
    rfl
  · rw [extended]
    intro file member
    cases List.mem_append.mp member with
    | inl staged => exact fileAllowed_published (files file staged)
    | inr added =>
      rw [List.mem_singleton.mp added]
      unfold fileAllowed
      dsimp only
      rw [if_pos rfl, hidden, decide_eq_true (documents.written_size written)]
      rfl
  · rw [extended, List.length_append, List.length_singleton]
    have bound : directory.files.length ≤ maxFiles + 0 := count
    omega

end Validation

section Commits

variable {ρ ν : Type} {service : Service ρ ν} {announced : Option PublishedResult} {fits : JobRow → Prop}
  {published : String → RunLifecycle → Option RunVerdict → Prop} {db db' : Db ρ}

/-- The run of a job that has ended stays as it is. -/
theorem commit_settled (guarded : RunsGuarded service.targets) (agree : RunsAgree published db)
    (commit : Commit service announced fits db db') {job : JobRow} {run : RunRow} (stored : job ∈ db.jobs)
    (ended : job.state.isTerminal = true) (target : job.target = .run run.runId) (present : run ∈ db.targets.runs) :
    run ∈ db'.targets.runs := by
  cases commit with
  | unchanged => exact present
  | @enqueued submitted event targets' _ _ _ _ _ enlisted _ _ _ _ =>
    rcases enlisted with ⟨queued, _, _, _, _, _, same⟩ | ⟨_, same⟩
    · rw [same]
      exact List.mem_append_left _ present
    · rw [same]
      exact present
  | @moved row row' targets' added moving _ move _ =>
    by_cases ofRun : ∃ runId, row.target = .run runId
    · obtain ⟨runId, moved⟩ := ofRun
      obtain ⟨other, inRuns, rfl, agrees, clock⟩ := agree.linked row moving runId moved
      obtain ⟨other', ⟨same, changed⟩, _⟩ := @move_own_run ρ ν service announced guarded db.targets targets' row row' other
        (published row.jobId) (fun _ _ => True) agree.keyed move moved inRuns agrees clock fun _ _ _ => trivial
      have apart : run.runId ≠ other'.runId := by
        intro equal
        rw [same] at equal
        have identical := agree.distinct job stored row moving (by rw [target, moved, equal])
        rw [identical, move_open move] at ended
        cases ended
      have taken : other'.runId ∈ db.targets.runs.map RunRow.runId := by
        rw [same]
        exact List.mem_map_of_mem inRuns
      rw [changed]
      exact (Table.mem_replace taken).mpr (.inr ⟨present, apart⟩)
    · rw [move_other_runs guarded move fun runId moved => ofRun ⟨runId, moved⟩]
      exact present

/-- Every run belongs to a job. -/
def Owned (db : Db ρ) : Prop := ∀ run ∈ db.targets.runs, ∃ job ∈ db.jobs, job.target = .run run.runId

theorem commit_owned (guarded : RunsGuarded service.targets) (agree : RunsAgree published db)
    (commit : Commit service announced fits db db') (owned : Owned db) : Owned db' := by
  have kept : ∀ runId, (∃ job ∈ db.jobs, job.target = .run runId) → ∃ job ∈ db'.jobs, job.target = .run runId := by
    rintro runId ⟨job, stored, target⟩
    obtain ⟨job', stored', later⟩ := commit_succeeds agree.rows commit job stored
    exact ⟨job', stored', later.target.trans target⟩
  intro run present
  cases commit with
  | unchanged => exact owned run present
  | @enqueued submitted event targets' _ _ _ _ _ enlisted _ _ _ _ =>
    rcases enlisted with ⟨queued, own, _, _, _, _, same⟩ | ⟨_, same⟩
    · rw [same] at present
      cases List.mem_append.mp present with
      | inl old => exact kept run.runId (owned run old)
      | inr new =>
        rw [List.mem_singleton.mp new]
        exact ⟨submitted, List.mem_append_right _ List.mem_cons_self, own⟩
    · rw [same] at present
      exact kept run.runId (owned run present)
  | @moved row row' targets' added moving _ move _ =>
    by_cases ofRun : ∃ runId, row.target = .run runId
    · obtain ⟨runId, moved⟩ := ofRun
      obtain ⟨other, inRuns, rfl, agrees, clock⟩ := agree.linked row moving runId moved
      obtain ⟨other', ⟨same, changed⟩, _⟩ := @move_own_run ρ ν service announced guarded db.targets targets' row row' other
        (published row.jobId) (fun _ _ => True) agree.keyed move moved inRuns agrees clock fun _ _ _ => trivial
      have taken : other'.runId ∈ db.targets.runs.map RunRow.runId := by
        rw [same]
        exact List.mem_map_of_mem inRuns
      rw [changed] at present
      rcases (Table.mem_replace taken).mp present with new | ⟨old, _⟩
      · rw [new, same]
        exact kept other.runId (owned other inRuns)
      · exact kept run.runId (owned run old)
    · rw [move_other_runs guarded move fun runId moved => ofRun ⟨runId, moved⟩] at present
      exact kept run.runId (owned run present)

/-- A run has a verdict only when its job has succeeded. -/
theorem verdict_succeeded (agree : RunsAgree published db) (owned : Owned db) {run : RunRow} (present : run ∈ db.targets.runs)
    (decided : run.verdict ≠ none) : ∃ job ∈ db.jobs, job.target = .run run.runId ∧ job.state = .succeeded ∧
      published job.jobId run.lifecycle run.verdict := by
  obtain ⟨job, stored, target⟩ := owned run present
  obtain ⟨linked, inRuns, same, agrees, _⟩ := agree.linked job stored run.runId target
  have identical := agree.keyed.eq_of_mem inRuns present same
  rw [identical] at agrees
  cases state : job.state with
  | succeeded =>
    rw [state] at agrees
    exact ⟨job, stored, target, state, agrees.2⟩
  | pending =>
    rw [state] at agrees
    exact absurd agrees.2 decided
  | running =>
    rw [state] at agrees
    exact absurd agrees.2 decided
  | retryWait =>
    rw [state] at agrees
    exact absurd agrees.2 decided
  | failed =>
    rw [state] at agrees
    exact absurd agrees.2 decided
  | cancelled =>
    rw [state] at agrees
    exact absurd agrees.2 decided

/-- A run that ends keeps all it was planned with. -/
theorem finishRun_row {targets targets' : Targets ρ} {runId : String} {lifecycle : RunLifecycle}
    {verdict : Option RunVerdict} {nowUs : Nat} {run' : RunRow} (keyed : Table.Keyed RunRow.runId targets.runs)
    (finished : finishRun targets runId lifecycle verdict nowUs = (some run', targets')) :
    ∃ run ∈ targets.runs, run.runId = runId ∧ (run.lifecycle.isNonterminal = true ∧ run.verdict = none ∧
      run.updatedAtUs ≤ nowUs) ∧ run' = finishedRun lifecycle verdict nowUs run ∧
      targets' = { targets with runs := Table.replace RunRow.runId targets.runs run' } := by
  unfold finishRun at finished
  have targeted : ∀ run : RunRow, (decide (run.runId = runId) && run.lifecycle.isNonterminal && run.verdict.isNone
      && decide (run.updatedAtUs ≤ nowUs)) = true → run.runId = runId := by
    intro run holds
    simp only [Bool.and_eq_true, decide_eq_true_eq] at holds
    exact holds.1.1.1
  rcases updateRun_cases keyed targeted (fun run => (rfl : (finishedRun lifecycle verdict nowUs run).runId = run.runId))
    with unchanged | ⟨run, stored, same, holds, changed⟩
  · rw [unchanged] at finished
    cases finished
  · rw [changed] at finished
    cases finished
    simp only [Bool.and_eq_true, decide_eq_true_eq, Option.isNone_iff_eq_none] at holds
    exact ⟨run, stored, same, ⟨holds.1.1.2, holds.1.2, holds.2⟩, rfl, rfl⟩

end Commits

section Completion

variable {τ ν : Type} {documents : Documents} {service : Service (Tables τ) ν} {secrets : List String}
  {db db' : Db (Tables τ)} {package : CheckPackage} {manifest : CheckPublicationManifest} {raw : Bytes}
  {nowUs : Nat} {recovery : Bool}

/-- What a publication adds to the tables. -/
structure Recorded (package : CheckPackage) (manifest : CheckPublicationManifest) (digest : String)
    (before after : Publications) : Prop where
  receipts : after.receipts = before.receipts ++ [receiptFor package manifest digest]
  evidence : after.evidence = before.evidence ++ package.evidence.map (evidenceRecord package.result.runId package manifest)
  runFree : package.result.runId ∉ before.receipts.map Receipt.runId
  jobFree : package.result.jobId ∉ before.receipts.map Receipt.jobId

theorem indexRules_kept {digest : String} {indexed : Publications} (done : indexRules db package digest = .ok indexed) :
    indexed.receipts = db.targets.other.publications.receipts ∧ indexed.evidence = db.targets.other.publications.evidence := by
  obtain ⟨run, _, done⟩ := bind_eq_ok.mp done
  obtain ⟨_, _, done⟩ := bind_eq_ok.mp done
  cases done
  exact ⟨rfl, rfl⟩

theorem recordPublication_ok {digest : String} {recorded : Tables τ}
    (performed : recordPublication documents secrets package manifest digest db = .ok recorded) :
    Recorded package manifest digest db.targets.other.publications recorded.publications := by
  obtain ⟨_, _, performed⟩ := bind_eq_ok.mp performed
  obtain ⟨_, _, performed⟩ := bind_eq_ok.mp performed
  obtain ⟨_, free, performed⟩ := bind_eq_ok.mp performed
  obtain ⟨indexed, done, performed⟩ := bind_eq_ok.mp performed
  cases performed
  obtain ⟨receipts, evidence⟩ := indexRules_kept done
  obtain ⟨runFree, jobFree⟩ := require_eq_ok.mp free
  exact ⟨receipts, evidence, runFree, jobFree⟩

/-- A completed publication: the job and its run end together, and the rows of the package are there. -/
structure Completed (package : CheckPackage) (manifest : CheckPublicationManifest) (digest : String) (nowUs : Nat)
    (db db' : Db (Tables τ)) (job job' : JobRow) (run run' : RunRow) : Prop where
  stored : job ∈ db.jobs
  present : run ∈ db.targets.runs
  jobId : job.jobId = package.result.jobId
  target : job.target = .run package.result.runId
  runId : run.runId = package.result.runId
  after : job' = releasedRow .succeeded nowUs none job
  finished : run' = finishedRun package.result.lifecycle package.result.verdict nowUs run
  jobs : db'.jobs = Table.replace JobRow.jobId db.jobs job'
  runs : db'.targets.runs = Table.replace RunRow.runId db.targets.runs run'
  recorded : Recorded package manifest digest db.targets.other.publications db'.targets.other.publications
  decided : package.result.verdict ≠ none

theorem complete_ok (rows : RowsSound db) (keyed : Table.Keyed RunRow.runId db.targets.runs)
    (completed : complete documents service secrets db package manifest raw nowUs recovery = .ok db') :
    (∃ job job' run run', Completed package manifest (documents.sha256 raw) nowUs db db' job job' run run') ∧
      Commit service (some (completionOf package manifest nowUs recovery)) (fun _ => True) db db' := by
  have performed := mapError_eq_ok.mp completed
  have commit := perform_commit rows performed
  refine ⟨?_, commit_mono (fun _ _ => trivial) commit⟩
  obtain ⟨⟨reply, final⟩, published, same⟩ := map_eq_ok.mp performed
  cases same
  simp only [completePublication, bind_eq_ok] at published
  obtain ⟨⟨changed, db₁⟩, taken, published⟩ := published
  cases changed with
  | none => cases published
  | some pair =>
    obtain ⟨job', run'⟩ := pair
    simp only [bind_eq_ok] at published
    have matrix : package.result.verdict ≠ none := by
      simp only [completePublishedResult, bind_eq_ok, require_eq_ok] at taken
      obtain ⟨_, _, _, _, _, decided, _⟩ := taken
      exact decided rfl
    obtain ⟨job, stored, runTargets, holds, released, _, _, finished, after⟩ := completePublishedResult_some rows.keyed taken
    obtain ⟨recorded, written, db₂, appended, done⟩ := published
    obtain ⟨fence, target, _⟩ := publishable_facts holds
    obtain ⟨named, _⟩ := fenced_iff.mp fence
    obtain ⟨run, present, runId, _, ended, changed⟩ := finishRun_row keyed finished
    have logged := appendJobEvent_ok appended
    subst logged
    subst after
    have rows := recordPublication_ok written
    rw [changed] at rows
    cases done
    refine ⟨job, job', run, run', stored, present, named, target, runId, released, ended, rfl, ?_, ?_, matrix⟩
    · show runTargets.runs = _
      rw [changed]
    · exact rows

end Completion

section Database

variable {τ ν : Type} {documents : Documents} {service : Service (Tables τ) ν} {secrets : List String}
  {db db' : Db (Tables τ)} {final final' : String × String → Option Directory}

/-- The job that a package completes. -/
structure JobDone (package : CheckPackage) (job : JobRow) : Prop where
  jobId : job.jobId = package.result.jobId
  operationType : job.operationType = "CHECK"
  state : job.state = .succeeded
  target : job.target = .run package.result.runId
  projectId : job.projectId = package.request.projectId
  requestHash : job.requestHash = package.result.requestHash
  attempt : job.attempt = package.result.attempt
  fencingToken : job.fencingToken = package.result.fencingToken
  uncancelled : job.cancelRequestedAtUs = none

/-- The run whose result a package is. -/
structure RunDone (package : CheckPackage) (run : RunRow) : Prop where
  runId : run.runId = package.result.runId
  projectId : run.projectId = package.request.projectId
  requestHash : run.requestHash = package.result.requestHash
  planFingerprint : run.planFingerprint = package.request.planFingerprint
  sourceFingerprint : run.sourceFingerprint = package.request.sourceFingerprint
  policyEpoch : run.policyEpoch = package.request.policyEpoch
  engineVersion : run.engineVersion = package.request.engineVersion
  lifecycle : run.lifecycle = package.result.lifecycle
  verdict : run.verdict = package.result.verdict
  decided : package.result.verdict ≠ none

/-- A receipt stands for a directory that holds its package, a job and a run that the package has ended, and its evidence. -/
structure Published (documents : Documents) (db : Db (Tables τ)) (final : String × String → Option Directory)
    (receipt : Receipt) (job : JobRow) (run : RunRow) (directory : Directory) (package : CheckPackage)
    (manifest : CheckPublicationManifest) (raw : Bytes) : Prop where
  stored : job ∈ db.jobs
  present : run ∈ db.targets.runs
  done : JobDone package job
  ended : RunDone package run
  place : final (run.projectId, run.runId) = some directory
  holds : Holds documents [] directory package manifest raw
  receipt : receipt = receiptFor package manifest (documents.sha256 raw)
  evidence : ∀ row, row ∈ db.targets.other.publications.evidence ∧ row.runId = run.runId ↔
    row ∈ package.evidence.map (evidenceRecord run.runId package manifest)

/-- A published result stays, whatever is committed for other runs. -/
theorem Published.kept {published : String → RunLifecycle → Option RunVerdict → Prop} {announced : Option PublishedResult}
    {fits : JobRow → Prop} {receipt : Receipt} {job : JobRow} {run : RunRow} {directory : Directory}
    {package : CheckPackage} {manifest : CheckPublicationManifest} {raw : Bytes} (guarded : RunsGuarded service.targets)
    (agree : RunsAgree published db) (commit : Commit service announced fits db db')
    (places : ∀ place directory, final place = some directory → final' place = some directory)
    (rows : ∀ row, row.runId = receipt.runId →
      (row ∈ db'.targets.other.publications.evidence ↔ row ∈ db.targets.other.publications.evidence))
    (shown : Published documents db final receipt job run directory package manifest raw) :
    Published documents db' final' receipt job run directory package manifest raw := by
  have target : job.target = .run run.runId := by rw [shown.done.target, shown.ended.runId]
  have ended : job.state.isTerminal = true := by
    rw [shown.done.state]
    rfl
  have own : receipt.runId = run.runId := by rw [shown.receipt, shown.ended.runId, receiptFor]
  refine ⟨?_, commit_settled guarded agree commit shown.stored ended target shown.present, shown.done, shown.ended,
    places _ _ shown.place, shown.holds, shown.receipt, ?_⟩
  · obtain ⟨job', stored, later⟩ := commit_succeeds agree.rows commit job shown.stored
    rw [← later.final ended]
    exact stored
  · intro row
    rw [← shown.evidence row]
    exact and_congr_left fun named => rows row (named.trans own.symm)

/-- The results announced for a job are those with a receipt. -/
def Announced (publications : Publications) (jobId : String) (_ : RunLifecycle) (_ : Option RunVerdict) : Prop :=
  ∃ receipt ∈ publications.receipts, receipt.jobId = jobId

theorem announced_congr {before after : Publications} (same : after.receipts = before.receipts) :
    Announced after = Announced before := by
  funext jobId lifecycle verdict
  unfold Announced
  rw [same]

/-- The database agrees with the final directories. -/
structure Settled (documents : Documents) (db : Db (Tables τ)) (final : String × String → Option Directory) : Prop where
  agree : RunsAgree (Announced db.targets.other.publications) db
  owned : Owned db
  unique : Table.Keyed Receipt.runId db.targets.other.publications.receipts
  published : ∀ receipt ∈ db.targets.other.publications.receipts, ∃ job run directory package manifest raw,
    Published documents db final receipt job run directory package manifest raw
  indexed : ∀ row ∈ db.targets.other.publications.evidence, ∃ receipt ∈ db.targets.other.publications.receipts,
    receipt.runId = row.runId

/-- Final directories only come. -/
theorem Settled.places (settled : Settled documents db final)
    (places : ∀ place directory, final place = some directory → final' place = some directory) :
    Settled documents db final' := by
  refine ⟨settled.agree, settled.owned, settled.unique, ?_, settled.indexed⟩
  intro receipt member
  obtain ⟨job, run, directory, package, manifest, raw, shown⟩ := settled.published receipt member
  exact ⟨job, run, directory, package, manifest, raw, shown.stored, shown.present, shown.done, shown.ended,
    places _ _ shown.place, shown.holds, shown.receipt, shown.evidence⟩

/-- A transaction that publishes nothing keeps what is published. -/
theorem Settled.foreign (guarded : RunsGuarded service.targets) (settled : Settled documents db final)
    {foreign : Foreign service} (performed : perform service db foreign.action = .ok db') :
    Settled documents db' final := by
  have commit := perform_commit settled.agree.rows performed
  have receipts := foreign.receipts db db' performed
  have evidence := foreign.evidence db db' performed
  have announced := announced_congr receipts
  rw [foreign.silent] at commit
  refine ⟨?_, commit_owned guarded settled.agree commit settled.owned, ?_, ?_, ?_⟩
  · rw [announced]
    exact commit_agree guarded settled.agree (fun result absent => by cases absent) commit
  · rw [receipts]
    exact settled.unique
  · rw [receipts]
    intro receipt member
    obtain ⟨job, run, directory, package, manifest, raw, shown⟩ := settled.published receipt member
    exact ⟨job, run, directory, package, manifest, raw, shown.kept guarded settled.agree commit
      (fun _ _ found => found) fun row _ => by rw [evidence]⟩
  · rw [receipts, evidence]
    exact settled.indexed

/-- Indexing the rules of a run again changes nothing else. -/
theorem Settled.reindexed (settled : Settled documents db final) {package : CheckPackage} {digest : String}
    {indexed : Publications} (done : indexRules db package digest = .ok indexed) :
    Settled documents { db with targets := { db.targets with other := { db.targets.other with
      publications := indexed } } } final := by
  obtain ⟨receipts, evidence⟩ := indexRules_kept done
  have announced := announced_congr receipts
  refine ⟨?_, settled.owned, ?_, ?_, ?_⟩
  · dsimp only
    rw [announced]
    exact ⟨⟨settled.agree.rows.keyed, settled.agree.rows.sound⟩, settled.agree.keyed, settled.agree.distinct,
      settled.agree.linked⟩
  · dsimp only
    rw [receipts]
    exact settled.unique
  · dsimp only
    rw [receipts]
    intro receipt member
    obtain ⟨job, run, directory, package, manifest, raw, shown⟩ := settled.published receipt member
    refine ⟨job, run, directory, package, manifest, raw, shown.stored, shown.present, shown.done, shown.ended, shown.place,
      shown.holds, shown.receipt, fun row => ?_⟩
    dsimp only
    rw [evidence]
    exact shown.evidence row
  · dsimp only
    rw [receipts, evidence]
    exact settled.indexed

/-- The job and the run that a package may complete. -/
structure Completable (package : CheckPackage) (job : JobRow) (run : RunRow) : Prop where
  state : job.state = .running
  operationType : job.operationType = "CHECK"
  target : job.target = .run package.result.runId
  projectId : job.projectId = package.request.projectId
  attempt : job.attempt = package.result.attempt
  leaseOwner : job.leaseOwner = some package.result.leaseOwner
  fencingToken : job.fencingToken = package.result.fencingToken
  requestHash : job.requestHash = package.result.requestHash
  uncancelled : job.cancelRequestedAtUs = none
  runProjectId : run.projectId = package.request.projectId
  runRequestHash : run.requestHash = package.result.requestHash
  planFingerprint : run.planFingerprint = package.request.planFingerprint
  sourceFingerprint : run.sourceFingerprint = package.request.sourceFingerprint
  policyEpoch : run.policyEpoch = package.request.policyEpoch
  engineVersion : run.engineVersion = package.request.engineVersion
  resultType : package.result.resultType = .SUCCESS ∨ package.result.resultType = .SAFETY_STOPPED

theorem validateJob_eq_ok {package : CheckPackage} {job : JobRow} : validateJob db package = .ok job ↔
    db.job package.result.jobId = some job ∧
      ∃ run, db.targets.run package.result.runId = some run ∧ Completable package job run := by
  unfold validateJob
  simp only [bind_eq_ok, orRaise_eq_ok, require_eq_ok]
  constructor
  · rintro ⟨found, named, run, present, _, ⟨a, b, c, d, e, f, g, h, i, j, k, l, m, n, o⟩, _, kind, same⟩
    cases same
    exact ⟨named, run, present, a, b, c, d, e, f, g, h, i, j, k, l, m, n, o, kind⟩
  · rintro ⟨named, run, present, fits⟩
    exact ⟨job, named, run, present, (), ⟨fits.state, fits.operationType, fits.target, fits.projectId, fits.attempt,
      fits.leaseOwner, fits.fencingToken, fits.requestHash, fits.uncancelled, fits.runProjectId, fits.runRequestHash,
      fits.planFingerprint, fits.sourceFingerprint, fits.policyEpoch, fits.engineVersion⟩, (), fits.resultType, rfl⟩

/-- A completed publication is published, when the final directory holds its package. -/
theorem Settled.completed (guarded : RunsGuarded service.targets) (settled : Settled documents db final)
    {package : CheckPackage} {job : JobRow} {manifest : CheckPublicationManifest} {raw : Bytes} {nowUs : Nat}
    {recovery : Bool} {directory : Directory} (validated : validateJob db package = .ok job)
    (done : complete documents service secrets db package manifest raw nowUs recovery = .ok db')
    (holds : Holds documents [] directory { package with manifest := some manifest } manifest raw)
    (place : final (package.request.projectId, package.result.runId) = some directory) : Settled documents db' final := by
  obtain ⟨⟨before, after, run, run', completed⟩, commit⟩ := complete_ok settled.agree.rows settled.agree.keyed done
  obtain ⟨named, found, present, fits⟩ := validateJob_eq_ok.mp validated
  -- the rows that were checked are the rows that change
  obtain ⟨jobStored, jobNamed⟩ := Table.lookup_some named
  obtain ⟨runStored, runNamed⟩ := Table.lookup_some present
  have sameJob := settled.agree.rows.keyed.eq_of_mem jobStored completed.stored (jobNamed.trans completed.jobId.symm)
  have sameRun := settled.agree.keyed.eq_of_mem runStored completed.present (runNamed.trans completed.runId.symm)
  rw [sameJob, sameRun] at fits
  have recorded := completed.recorded
  have wider : ∀ jobId lifecycle verdict, Announced db.targets.other.publications jobId lifecycle verdict →
      Announced db'.targets.other.publications jobId lifecycle verdict := by
    rintro jobId lifecycle verdict ⟨receipt, member, same⟩
    refine ⟨receipt, ?_, same⟩
    rw [recorded.receipts]
    exact List.mem_append_left _ member
  have receipts : receiptFor package manifest (documents.sha256 raw) ∈ db'.targets.other.publications.receipts := by
    rw [recorded.receipts]
    exact List.mem_append_right _ List.mem_cons_self
  have fresh : ∀ row ∈ db.targets.other.publications.evidence, row.runId ≠ package.result.runId := by
    intro row member same
    obtain ⟨receipt, listed, own⟩ := settled.indexed row member
    exact recorded.runFree (List.mem_map.mpr ⟨receipt, listed, own.trans same⟩)
  refine ⟨commit_agree guarded (settled.agree.mono wider) ?_ commit, commit_owned guarded settled.agree commit settled.owned,
    ?_, ?_, ?_⟩
  · intro result told
    cases told
    exact ⟨_, receipts, rfl⟩
  · rw [recorded.receipts, Table.Keyed, List.map_append]
    refine List.nodup_append.mpr ⟨settled.unique, List.nodup_singleton _, ?_⟩
    intro first inside second added same
    rw [List.mem_singleton.mp added] at same
    rw [same] at inside
    exact recorded.runFree inside
  · intro receipt member
    rw [recorded.receipts] at member
    cases List.mem_append.mp member with
    | inl old =>
      obtain ⟨job, run, directory, package', manifest', raw', shown⟩ := settled.published receipt old
      have apart : receipt.runId ≠ package.result.runId := fun same =>
        recorded.runFree (List.mem_map.mpr ⟨receipt, old, same⟩)
      refine ⟨job, run, directory, package', manifest', raw', shown.kept guarded settled.agree commit
        (fun _ _ found => found) fun row own => ?_⟩
      rw [recorded.evidence, List.mem_append]
      refine or_iff_left fun added => ?_
      obtain ⟨evidence, _, same⟩ := List.mem_map.mp added
      rw [← same] at own
      exact apart own.symm
    | inr new =>
      rw [List.mem_singleton.mp new]
      have jobTaken : after.jobId ∈ db.jobs.map JobRow.jobId := by
        rw [completed.after]
        exact List.mem_map.mpr ⟨before, completed.stored, rfl⟩
      have runTaken : run'.runId ∈ db.targets.runs.map RunRow.runId := by
        rw [completed.finished]
        exact List.mem_map.mpr ⟨run, completed.present, rfl⟩
      refine ⟨after, run', directory, { package with manifest := some manifest }, manifest, raw, ?_, ?_, ?_, ?_, ?_, holds, rfl,
        ?_⟩
      · rw [completed.jobs]
        exact (Table.mem_replace jobTaken).mpr (.inl rfl)
      · rw [completed.runs]
        exact (Table.mem_replace runTaken).mpr (.inl rfl)
      · rw [completed.after]
        exact ⟨completed.jobId, fits.operationType, rfl, fits.target, fits.projectId, fits.requestHash, fits.attempt,
          fits.fencingToken, fits.uncancelled⟩
      · rw [completed.finished]
        exact ⟨completed.runId, fits.runProjectId, fits.runRequestHash, fits.planFingerprint, fits.sourceFingerprint,
          fits.policyEpoch, fits.engineVersion, rfl, rfl, completed.decided⟩
      · rw [completed.finished]
        show final (run.projectId, run.runId) = some directory
        rw [fits.runProjectId, completed.runId]
        exact place
      · intro row
        have named : run'.runId = package.result.runId := by
          rw [completed.finished]
          exact completed.runId
        rw [named, recorded.evidence, List.mem_append]
        constructor
        · rintro ⟨old | added, own⟩
          · exact absurd own (fresh row old)
          · exact added
        · intro added
          refine ⟨.inr added, ?_⟩
          obtain ⟨evidence, _, same⟩ := List.mem_map.mp added
          rw [← same]
          rfl
  · intro row member
    rw [recorded.evidence] at member
    cases List.mem_append.mp member with
    | inl old =>
      obtain ⟨receipt, listed, own⟩ := settled.indexed row old
      refine ⟨receipt, ?_, own⟩
      rw [recorded.receipts]
      exact List.mem_append_left _ listed
    | inr added =>
      obtain ⟨evidence, _, same⟩ := List.mem_map.mp added
      refine ⟨_, receipts, ?_⟩
      rw [← same]
      rfl

/-- A recovery that succeeds publishes what the final directory holds, or finds it published. -/
theorem Settled.recovered (guarded : RunsGuarded service.targets) (settled : Settled documents db final)
    {projectId runId : String} {directory : Directory} {nowUs : Nat} {package : CheckPackage}
    (place : final (projectId, runId) = some directory)
    (done : completeExisting documents service secrets db projectId runId directory nowUs = .ok (package, db')) :
    Settled documents db' final := by
  obtain ⟨found, validated, done⟩ := bind_eq_ok.mp done
  obtain ⟨manifest, named, done⟩ := bind_eq_ok.mp done
  obtain ⟨_, placed, done⟩ := bind_eq_ok.mp done
  obtain ⟨raw, stored, done⟩ := bind_eq_ok.mp done
  obtain ⟨manifest', raw', holds⟩ := holds_of_validate validated
  have sameManifest : manifest = manifest' := Option.some.inj ((orRaise_eq_ok.mp named).symm.trans holds.named)
  have sameRaw : raw = raw' := Option.some.inj ((orRaise_eq_ok.mp stored).symm.trans holds.stored)
  subst sameManifest sameRaw
  obtain ⟨project, run⟩ := require_eq_ok.mp placed
  have own := holds.own
  unfold belongs at own
  simp only [Bool.and_eq_true, decide_eq_true_eq] at own
  obtain ⟨⟨⟨⟨⟨⟨⟨⟨_, ofProject⟩, ofRun⟩, _⟩, _⟩, _⟩, _⟩, _⟩, _⟩ := own
  cases known : db.targets.other.publications.receipt manifest.runId with
  | some receipt =>
    simp only [known, bind_eq_ok] at done
    obtain ⟨_, _, _, _, indexed, rules, done⟩ := done
    cases done
    exact settled.reindexed (mapError_eq_ok.mp rules)
  | none =>
    simp only [known, bind_eq_ok] at done
    obtain ⟨job, validatedJob, _, _, completed, written, done⟩ := done
    cases done
    have whole : { package with manifest := some manifest } = package := by
      have named := holds.named
      cases package
      cases named
      rfl
    have held : Holds documents [] directory { package with manifest := some manifest } manifest raw := by
      rw [whole]
      exact holds.plain
    have there : final (package.request.projectId, package.result.runId) = some directory := by
      rw [← ofProject, ← ofRun, project, run]
      exact place
    exact settled.completed guarded validatedJob written held there

end Database

section Disk

variable {τ ν : Type} {documents : Documents} {service : Service (Tables τ) ν} {attempts : List AttemptKey}
  {staging : AttemptKey → Option Directory} {pending : Pending}

/-- What a publisher at work relies on: the staging directory that it read is there, moved away, or there with a manifest. -/
structure Prepared (documents : Documents) (attempts : List AttemptKey) (staging : AttemptKey → Option Directory)
    (pending : Pending) (directory : Directory) : Prop where
  validated : validateCheckPackage documents directory pending.hasManifest pending.secrets = .ok pending.package
  shown : pending.hasManifest = (directory.read manifestName).isSome
  decided : documents.decided directory.contents = true
  made : pending.key ∈ attempts
  staged : ∀ found, staging pending.key = some found → found = directory ∨
    pending.hasManifest = false ∧ ∃ raw, directory.create manifestName raw = some found

theorem setKey_self {κ α : Type} [DecidableEq κ] (entries : κ → Option α) (key : κ) (value : Option α) :
    setKey entries key value key = value := if_pos rfl

theorem setKey_other {κ α : Type} [DecidableEq κ] (entries : κ → Option α) {key other : κ} (value : Option α)
    (apart : other ≠ key) : setKey entries key value other = entries other := if_neg apart

theorem setKey_setKey {κ α : Type} [DecidableEq κ] (entries : κ → Option α) (key : κ) (first second : Option α) :
    setKey (setKey entries key first) key second = setKey entries key second := by
  funext other
  by_cases same : other = key
  · rw [same, setKey_self, setKey_self]
  · rw [setKey_other _ _ same, setKey_other _ _ same, setKey_other _ _ same]

/-- A new attempt has a directory of its own. -/
theorem Prepared.attempted {directory : Directory} {key : AttemptKey} {value : Option Directory} (fresh : key ∉ attempts)
    (prepared : Prepared documents attempts staging pending directory) :
    Prepared documents (key :: attempts) (setKey staging key value) pending directory := by
  have apart : pending.key ≠ key := fun same => fresh (same ▸ prepared.made)
  refine ⟨prepared.validated, prepared.shown, prepared.decided, List.mem_cons_of_mem _ prepared.made, ?_⟩
  rw [setKey_other _ _ apart]
  exact prepared.staged

/-- A manifest written to a staging directory, or a staging directory moved away, is what the other publishers expect. -/
theorem Prepared.rewritten {directory staged : Directory} {key : AttemptKey} {value : Option Directory}
    (found : staging key = some staged)
    (related : ∀ written, value = some written → written = staged ∨ ∃ raw, staged.create manifestName raw = some written)
    (prepared : Prepared documents attempts staging pending directory) :
    Prepared documents attempts (setKey staging key value) pending directory := by
  refine ⟨prepared.validated, prepared.shown, prepared.decided, prepared.made, ?_⟩
  by_cases same : pending.key = key
  · rw [same, setKey_self]
    intro written held
    have before := prepared.staged staged (same ▸ found)
    rcases related written held with kept | ⟨raw, created⟩
    · rw [kept]
      exact before
    · cases before with
      | inl own =>
        rw [own] at created
        exact .inr ⟨prepared.shown.trans (create_absent created), raw, created⟩
      | inr completed =>
        -- the manifest is there already
        obtain ⟨_, raw', earlier⟩ := completed
        have there := read_create earlier
        have absent := create_absent created
        rw [there] at absent
        cases absent
  · rw [setKey_other _ _ same]
    exact prepared.staged

/-- What a final directory holds, and where it is. -/
def Whole (documents : Documents) (place : String × String) (directory : Directory) : Prop :=
  ∃ package manifest raw, Holds documents [] directory package manifest raw ∧
    place = (package.request.projectId, package.result.runId)

structure Sound (documents : Documents) (state : State τ) : Prop where
  settled : Settled documents state.db state.final
  made : ∀ key directory, state.staging key = some directory → key ∈ state.attempts
  prepared : ∀ pending ∈ state.pending, ∃ directory, Prepared documents state.attempts state.staging pending directory
  whole : ∀ place directory, state.final place = some directory → Whole documents place directory

theorem belongs_manifestFor {db : Db (Tables τ)} {package : CheckPackage} {job : JobRow} {leaseExpiresAtUs nowUs : Nat}
    (validated : validateJob db package = .ok job) :
    belongs (manifestFor package job leaseExpiresAtUs nowUs) package = true := by
  obtain ⟨_, _, _, fits⟩ := validateJob_eq_ok.mp validated
  simp [belongs, manifestFor, fits.projectId]

/-- A publication that its transaction lets through. -/
structure InWork (documents : Documents) (service : Service (Tables τ) ν) (secrets : List String) (db : Db (Tables τ))
    (package : CheckPackage) (nowUs : Nat) (manifest : CheckPublicationManifest) (raw : Bytes) (db' : Db (Tables τ)) :
    Prop where
  leased : ∃ job expiry, validateJob db package = .ok job ∧ job.leaseExpiresAtUs = some expiry ∧ nowUs < expiry
  encoded : documents.writeManifest manifest = some raw
  hidden : documents.exposes secrets raw = false
  completed : complete documents service secrets db package manifest raw nowUs false = .ok db'
  own : package.manifest = some manifest ∨
    package.manifest = none ∧ belongs manifest package = true ∧ manifest.publishedAtUs = nowUs

theorem publishInWork_ok {db db' : Db (Tables τ)} {secrets : List String} {package : CheckPackage} {nowUs : Nat}
    {manifest : CheckPublicationManifest} {raw : Bytes}
    (published : publishInWork documents service secrets db package nowUs = .ok (manifest, raw, db')) :
    InWork documents service secrets db package nowUs manifest raw db' := by
  obtain ⟨job, validated, published⟩ := bind_eq_ok.mp published
  obtain ⟨expiry, lease, published⟩ := bind_eq_ok.mp published
  obtain ⟨_, clock, published⟩ := bind_eq_ok.mp published
  obtain ⟨written, encoded, published⟩ := bind_eq_ok.mp published
  obtain ⟨_, hidden, published⟩ := bind_eq_ok.mp published
  obtain ⟨after, completed, published⟩ := bind_eq_ok.mp published
  cases published
  refine ⟨⟨job, expiry, validated, orRaise_eq_ok.mp lease, (require_eq_ok.mp clock).1⟩, orRaise_eq_ok.mp encoded,
    require_eq_ok.mp hidden, completed, ?_⟩
  cases present : package.manifest with
  | some manifest => exact .inl rfl
  | none => exact .inr ⟨rfl, belongs_manifestFor validated, rfl⟩

/-- What a publication has done to the disk when its process ends. -/
structure Written (state : State τ) (pending : Pending) (raw : Bytes) (staged written : Directory) : Prop where
  found : state.staging pending.key = some staged
  same : pending.hasManifest = true → written = staged
  created : pending.hasManifest = false → staged.create manifestName raw = some written

theorem written_of {state : State τ} {bytes : Bytes} {staged written : Directory}
    (found : state.staging pending.key = some staged)
    (wrote : (if pending.hasManifest = true then .ok staged else
      orRaise (staged.create manifestName bytes) PublicationError.FileExistsError) = .ok written) :
    Written state pending bytes staged written := by
  refine ⟨found, ?_, ?_⟩
  · intro has
    rw [if_pos has] at wrote
    cases wrote
    rfl
  · intro without
    rw [if_neg (Bool.eq_false_iff.mp without)] at wrote
    exact orRaise_eq_ok.mp wrote

/-- The staging directory is rewritten in place. -/
def holding (state : State τ) (pending : Pending) (written : Directory) : State τ :=
  { state with staging := setKey state.staging pending.key (some written) }

/-- The staging directory is moved to its final place. -/
def moving (state : State τ) (pending : Pending) (written : Directory) : State τ :=
  { state with staging := setKey state.staging pending.key none,
               final := setKey state.final pending.place (some written) }

theorem moving_holding (state : State τ) (pending : Pending) (written : Directory) :
    moving (holding state pending written) pending written = moving state pending written := by
  have emptied := setKey_setKey state.staging pending.key (some written) none
  simp only [moving, holding, emptied]

/-- A publication is held in its staging directory, or it is moved whole to a place that was free. -/
theorem settle_ok {state state' : State τ} {raw : Bytes} {db : Db (Tables τ)} {fate : Fate}
    (done : settle state pending raw db fate = .ok state') : ∃ staged written bytes,
      Written state pending bytes staged written ∧ (state' = holding state pending written ∨
        bytes = raw ∧ state.final pending.place = none ∧
          (state' = moving state pending written ∨ state' = { moving state pending written with db })) := by
  obtain ⟨staged, found, done⟩ := bind_eq_ok.mp done
  obtain ⟨written, wrote, done⟩ := bind_eq_ok.mp done
  have before := orRaise_eq_ok.mp found
  cases fate with
  | torn kept =>
    cases done
    exact ⟨staged, written, raw.take kept, written_of before wrote, .inl rfl⟩
  | unmoved =>
    cases done
    exact ⟨staged, written, raw, written_of before wrote, .inl rfl⟩
  | uncommitted =>
    refine ⟨staged, written, raw, written_of before wrote, ?_⟩
    by_cases taken : (state.final pending.place).isSome = true
    · simp only [if_pos taken] at done
      cases done
      exact .inl rfl
    · simp only [if_neg taken] at done
      cases done
      exact .inr ⟨rfl, Option.not_isSome_iff_eq_none.mp taken, .inl (moving_holding state pending written)⟩
  | committed =>
    refine ⟨staged, written, raw, written_of before wrote, ?_⟩
    by_cases taken : (state.final pending.place).isSome = true
    · simp only [if_pos taken] at done
      cases done
      exact .inl rfl
    · simp only [if_neg taken] at done
      cases done
      have same := moving_holding state pending written
      exact .inr ⟨rfl, Option.not_isSome_iff_eq_none.mp taken, .inr (by rw [← same]; rfl)⟩

/-- What a publisher moves to a final directory holds its package. -/
theorem holds_written {state : State τ} {directory staged written : Directory} {raw : Bytes} {nowUs : Nat}
    {manifest : CheckPublicationManifest} {db' : Db (Tables τ)}
    (prepared : Prepared documents state.attempts state.staging pending directory)
    (published : InWork documents service pending.secrets state.db pending.package nowUs manifest raw db')
    (wrote : Written state pending raw staged written) :
    Holds documents pending.secrets written { pending.package with manifest := some manifest } manifest raw := by
  have validated := prepared.validated
  have before := prepared.staged staged wrote.found
  cases has : pending.hasManifest with
  | true =>
    rw [has] at validated before
    have same : staged = directory := before.resolve_right fun completed => Bool.noConfusion completed.1
    obtain ⟨manifest', raw', holds⟩ := holds_of_validate validated
    have named := holds.named
    have manifests : manifest = manifest' := by
      rcases published.own with own | ⟨absent, _⟩
      · exact Option.some.inj (own.symm.trans named)
      · rw [absent] at named
        cases named
    subst manifests
    have bytes : raw = raw' := Option.some.inj (published.encoded.symm.trans (documents.writes_read holds.read))
    have whole : { pending.package with manifest := some manifest } = pending.package := by
      rw [← named]
    rw [whole, wrote.same has, same, bytes]
    exact holds
  | false =>
    rw [has] at validated before
    have created := wrote.created has
    have same : staged = directory := by
      rcases before with same | ⟨_, raw', earlier⟩
      · exact same
      · have there := read_create earlier
        have absent := create_absent created
        rw [there] at absent
        cases absent
    rw [same] at created
    refine holds_created validated published.encoded published.hidden ?_ created
    rcases published.own with own | ⟨_, own, _⟩
    · have plain := readPackage_manifest (validate_staged validated).2
      rw [plain] at own
      cases own
    · exact own

theorem Written.related {state : State τ} {raw : Bytes} {staged written : Directory}
    (wrote : Written state pending raw staged written) :
    written = staged ∨ ∃ raw, staged.create manifestName raw = some written := by
  cases has : pending.hasManifest with
  | true => exact .inl (wrote.same has)
  | false => exact .inr ⟨raw, wrote.created has⟩

/-- A publisher that writes in its staging directory disturbs nobody. -/
theorem Sound.held {state : State τ} {raw : Bytes} {staged written : Directory} (sound : Sound documents state)
    (wrote : Written state pending raw staged written) : Sound documents (holding state pending written) := by
  refine ⟨sound.settled, ?_, ?_, sound.whole⟩
  · intro key directory held
    by_cases same : key = pending.key
    · rw [same]
      exact sound.made pending.key staged wrote.found
    · exact sound.made key directory ((setKey_other _ _ same).symm.trans held)
  · intro other member
    obtain ⟨directory, prepared⟩ := sound.prepared other member
    refine ⟨directory, prepared.rewritten wrote.found fun found held => ?_⟩
    cases held
    exact wrote.related

/-- A package that is moved to a free place is there for good. -/
theorem Sound.moved {state : State τ} {raw : Bytes} {staged written : Directory} {manifest : CheckPublicationManifest}
    (sound : Sound documents state) (wrote : Written state pending raw staged written)
    (holds : Holds documents [] written { pending.package with manifest := some manifest } manifest raw)
    (free : state.final pending.place = none) : Sound documents (moving state pending written) := by
  refine ⟨sound.settled.places ?_, ?_, ?_, ?_⟩
  · intro place directory found
    have apart : place ≠ pending.place := by
      intro same
      rw [same, free] at found
      cases found
    exact (setKey_other _ _ apart).trans found
  · intro key directory held
    by_cases same : key = pending.key
    · rw [same]
      exact sound.made pending.key staged wrote.found
    · exact sound.made key directory ((setKey_other _ _ same).symm.trans held)
  · intro other member
    obtain ⟨directory, prepared⟩ := sound.prepared other member
    exact ⟨directory, prepared.rewritten wrote.found fun found held => by cases held⟩
  · intro place directory found
    by_cases same : place = pending.place
    · rw [same] at found ⊢
      cases (setKey_self state.final pending.place (some written)).symm.trans found
      exact ⟨_, manifest, raw, holds, rfl⟩
    · exact sound.whole place directory ((setKey_other _ _ same).symm.trans found)

/-- Whatever is done next, the database and the disk agree. -/
theorem step_sound (guarded : RunsGuarded service.targets) (state : State τ) (act : Act service)
    (sound : Sound documents state) : Sound documents (step documents service state act) := by
  have committed : ∀ db' : Db (Tables τ), Settled documents db' state.final → Sound documents { state with db := db' } :=
    fun db' settled => ⟨settled, sound.made, sound.prepared, sound.whole⟩
  cases act with
  | transaction foreign =>
    cases performed : perform service state.db foreign.action with
    | ok db' =>
      have kept := committed db' (sound.settled.foreign guarded performed)
      simp only [step, System.step_ok performed]
      exact kept
    | error error =>
      simp only [step, System.step_error performed]
      exact sound
  | stage key directory =>
    by_cases fresh : key ∈ state.attempts
    · simp only [step, if_pos fresh]
      exact sound
    · simp only [step, if_neg fresh]
      refine ⟨sound.settled, ?_, ?_, sound.whole⟩
      · intro other found held
        by_cases same : other = key
        · rw [same]
          exact List.mem_cons_self
        · exact List.mem_cons_of_mem _ (sound.made other found ((setKey_other _ _ same).symm.trans held))
      · intro pending member
        obtain ⟨found, prepared⟩ := sound.prepared pending member
        exact ⟨found, prepared.attempted fresh⟩
  | prepare key secrets nowUs =>
    cases read : prepare documents state key secrets with
    | error error =>
      simp only [step, read]
      exact sound
    | ok pending =>
      cases place : state.final pending.place with
      | some directory =>
        cases done : publishExisting documents service state.db pending directory nowUs with
        | error error =>
          simp only [step, read, place, done]
          exact sound
        | ok result =>
          obtain ⟨package, db'⟩ := result
          simp only [step, read, place, done]
          obtain ⟨existing, _, completed⟩ := bind_eq_ok.mp done
          obtain ⟨_, _, completed⟩ := bind_eq_ok.mp completed
          exact committed db' (sound.settled.recovered guarded place completed)
      | none =>
        simp only [step, read, place]
        refine ⟨sound.settled, sound.made, ?_, sound.whole⟩
        intro other member
        cases List.mem_cons.mp member with
        | inr old => exact sound.prepared other old
        | inl new =>
          obtain ⟨directory, held, read⟩ := bind_eq_ok.mp read
          obtain ⟨package, validated, read⟩ := bind_eq_ok.mp read
          obtain ⟨_, decided, read⟩ := bind_eq_ok.mp read
          obtain ⟨_, own, read⟩ := bind_eq_ok.mp read
          have held := orRaise_eq_ok.mp held
          cases read
          rw [new]
          refine ⟨directory, validated, rfl, require_eq_ok.mp decided, sound.made key directory held, ?_⟩
          intro found there
          exact .inl (Option.some.inj (there.symm.trans held))
  | publish pending nowUs fate =>
    by_cases member : pending ∈ state.pending
    · cases published : publishInWork documents service pending.secrets state.db pending.package nowUs with
      | error error =>
        simp only [step, if_pos member, published]
        exact sound
      | ok result =>
        obtain ⟨manifest, raw, db'⟩ := result
        cases done : settle state pending raw db' fate with
        | error error =>
          simp only [step, if_pos member, published, done]
          exact sound
        | ok state' =>
          simp only [step, if_pos member, published, done]
          have inWork := publishInWork_ok published
          obtain ⟨job, _, validated, _⟩ := inWork.leased
          obtain ⟨directory, prepared⟩ := sound.prepared pending member
          obtain ⟨staged, written, bytes, wrote, result⟩ := settle_ok done
          rcases result with held | ⟨same, free, moved⟩
          · rw [held]
            exact sound.held wrote
          · rw [same] at wrote
            have holds := (holds_written prepared inWork wrote).plain
            have there := sound.moved wrote holds free
            cases moved with
            | inl moved =>
              rw [moved]
              exact there
            | inr moved =>
              rw [moved]
              have place : (moving state pending written).final pending.place = some written := setKey_self _ _ _
              exact ⟨there.settled.completed guarded validated inWork.completed holds place, there.made, there.prepared,
                there.whole⟩
    · simp only [step, if_neg member]
      exact sound
  | recover projectId runId secrets nowUs =>
    cases place : state.final (projectId, runId) with
    | none =>
      simp only [step, place]
      exact sound
    | some directory =>
      cases done : completeExisting documents service secrets state.db projectId runId directory nowUs with
      | error error =>
        simp only [step, place, done]
        exact sound
      | ok result =>
        obtain ⟨package, db'⟩ := result
        simp only [step, place, done]
        exact committed db' (sound.settled.recovered guarded place done)

/-- Before the first job nothing is published and no directory is there. -/
def emptyState (projects : List String) (rest : τ) : State τ :=
  { db := emptyDb projects { publications := { receipts := [], evidence := [], rules := [], ruleRuns := [] }, rest }
    attempts := [], staging := fun _ => none, final := fun _ => none, pending := [] }

theorem emptyState_sound (projects : List String) (rest : τ) : Sound documents (emptyState projects rest) := by
  refine ⟨⟨⟨emptyDb_rows projects _, List.nodup_nil, ?_, ?_⟩, ?_, List.nodup_nil, ?_, ?_⟩, ?_, ?_, ?_⟩
  · intro row member
    cases member
  · intro row member
    cases member
  · intro run member
    cases member
  · intro receipt member
    cases member
  · intro row member
    cases member
  · intro key directory held
    cases held
  · intro pending member
    cases member
  · intro place directory found
    cases found

theorem run_sound (guarded : RunsGuarded service.targets) (projects : List String) (rest : τ) (acts : List (Act service)) :
    Sound documents (Transition.run (step documents service) (emptyState projects rest) acts) :=
  Transition.run_invariant (step_sound guarded) (emptyState_sound projects rest) acts

end Disk

section Reading

variable {τ ν : Type} {documents : Documents} {service : Service (Tables τ) ν} {state : State τ} {receipt : Receipt}
  {job : JobRow} {run : RunRow} {directory : Directory} {package : CheckPackage} {manifest : CheckPublicationManifest}
  {raw : Bytes}

/-- A published result passes every check of a reader. -/
theorem verifiedPackage_published
    (shown : Published documents state.db state.final receipt job run directory package manifest raw)
    (fits : directory.size ≤ maxPackageBytes) : verifiedPackage documents state run (some job) receipt = .ok package := by
  have encoded := documents.writes_read shown.holds.read
  have done := shown.done
  have ended := shown.ended
  refine bind_eq_ok.mpr ⟨directory, orRaise_eq_ok.mpr shown.place, bind_eq_ok.mpr ⟨package, shown.holds.validate fits, ?_⟩⟩
  refine bind_eq_ok.mpr ⟨manifest, orRaise_eq_ok.mpr shown.holds.named, bind_eq_ok.mpr ⟨raw, orRaise_eq_ok.mpr encoded,
    bind_eq_ok.mpr ⟨job, rfl, ?_⟩⟩⟩
  refine bind_eq_ok.mpr ⟨(), require_eq_ok.mpr ?_, bind_eq_ok.mpr ⟨(), require_eq_ok.mpr ?_,
    bind_eq_ok.mpr ⟨(), require_eq_ok.mpr ?_, bind_eq_ok.mpr ⟨(), require_eq_ok.mpr ?_, rfl⟩⟩⟩⟩
  · rw [shown.receipt, receiptFor]
    exact ⟨ended.runId.symm, rfl, rfl, rfl, rfl, rfl, rfl, rfl⟩
  · exact ⟨done.operationType, done.state, by rw [done.target, ended.runId], done.projectId, done.requestHash,
      done.attempt, done.fencingToken, done.uncancelled⟩
  · exact ⟨ended.projectId, ended.requestHash, ended.planFingerprint, ended.sourceFingerprint, ended.policyEpoch,
      ended.engineVersion, ended.lifecycle, ended.verdict⟩
  · have rows := shown.evidence
    constructor
    · intro row listed
      obtain ⟨stored, own⟩ := List.mem_filter.mp listed
      exact (rows row).mp ⟨stored, of_decide_eq_true own⟩
    · intro row expected
      obtain ⟨stored, own⟩ := (rows row).mpr expected
      exact List.mem_filter.mpr ⟨stored, decide_eq_true own⟩

theorem verifiedPackage_oversize
    (shown : Published documents state.db state.final receipt job run directory package manifest raw)
    (large : maxPackageBytes < directory.size) : verifiedPackage documents state run (some job) receipt = .error unreadable := by
  unfold verifiedPackage
  rw [shown.place]
  show (do let package ← validateCheckPackage documents directory true []; _) = _
  rw [validate_oversize large]
  rfl

/-- A reader looks at the one job of the run. -/
theorem job_found (distinct : ∀ a ∈ state.db.jobs, ∀ b ∈ state.db.jobs, a.target = b.target → a = b)
    (stored : job ∈ state.db.jobs) (target : job.target = .run run.runId) :
    state.db.jobs.find? (fun row => row.target = .run run.runId) = some job := by
  cases found : state.db.jobs.find? (fun row => row.target = .run run.runId) with
  | none =>
    have absent := List.find?_eq_none.mp found job stored
    simp [target] at absent
  | some other =>
    have own : other.target = .run run.runId := by
      simpa using List.find?_some found
    rw [distinct other (List.mem_of_find?_eq_some found) job stored (own.trans target.symm)]

/-- What a reader is told of a run. A package that its manifest makes too large is never shown. -/
inductive Told (documents : Documents) (state : State τ) (run : RunRow) : Prop
  | unpublished (receipt : state.db.targets.other.publications.receipt run.runId = none) (undecided : run.verdict = none)
      (told : statusAndPackage documents state run = .ok (.NOT_PUBLISHED, none))
  | valid (directory : Directory) (package : CheckPackage) (place : state.final (run.projectId, run.runId) = some directory)
      (held : validateCheckPackage documents directory true [] = .ok package)
      (same : package.result.runId = run.runId ∧ package.result.lifecycle = run.lifecycle ∧
        package.result.verdict = run.verdict ∧ run.verdict ≠ none)
      (told : statusAndPackage documents state run = .ok (.VALID, some package))
  | oversize (directory : Directory) (place : state.final (run.projectId, run.runId) = some directory)
      (large : maxPackageBytes < directory.size) (decided : run.verdict ≠ none)
      (told : statusAndPackage documents state run = .ok (.INVALID, none))

theorem told_of_settled (settled : Settled documents state.db state.final) (present : run ∈ state.db.targets.runs) :
    Told documents state run := by
  cases known : state.db.targets.other.publications.receipt run.runId with
  | none =>
    have undecided : run.verdict = none := by
      by_contra decided
      obtain ⟨job, stored, target, _, receipt, listed, named⟩ := verdict_succeeded settled.agree settled.owned present decided
      obtain ⟨other, found, _, package, manifest, raw, shown⟩ := settled.published receipt listed
      -- the receipt of the job of the run is a receipt of the run
      have sameJob : other = job := by
        refine settled.agree.rows.keyed.eq_of_mem shown.stored stored ?_
        rw [shown.done.jobId, ← named, shown.receipt, receiptFor]
      have sameRun : receipt.runId = run.runId := by
        have own := shown.done.target
        rw [sameJob, target] at own
        rw [shown.receipt, receiptFor]
        exact (JobTarget.run.inj own).symm
      exact Table.lookup_none.mp known receipt listed sameRun
    refine .unpublished known undecided ?_
    unfold statusAndPackage
    rw [if_neg]
    rw [known, undecided]
    simp
  | some receipt =>
    obtain ⟨listed, named⟩ := Table.lookup_some known
    obtain ⟨job, found, directory, package, manifest, raw, shown⟩ := settled.published receipt listed
    have sameRun : found = run := by
      refine settled.agree.keyed.eq_of_mem shown.present present ?_
      rw [shown.ended.runId, ← named, shown.receipt, receiptFor]
    subst sameRun
    have target : job.target = .run found.runId := by rw [shown.done.target, shown.ended.runId]
    have jobFound := job_found settled.agree.distinct shown.stored target
    have decided : found.verdict ≠ none := by
      rw [shown.ended.verdict]
      exact shown.ended.decided
    have read : packageOf documents state found (some job) = verifiedPackage documents state found (some job) receipt := by
      unfold packageOf
      rw [known]
      rfl
    have published : (state.db.targets.other.publications.receipt found.runId).isSome ∨ found.verdict ≠ none :=
      .inr decided
    by_cases fits : directory.size ≤ maxPackageBytes
    · refine .valid directory package shown.place (shown.holds.validate fits)
        ⟨shown.ended.runId.symm, shown.ended.lifecycle.symm, shown.ended.verdict.symm, decided⟩ ?_
      unfold statusAndPackage
      rw [if_pos published, jobFound, read, verifiedPackage_published shown fits]
    · refine .oversize directory shown.place (Nat.lt_of_not_le fits) decided ?_
      unfold statusAndPackage
      rw [if_pos published, jobFound, read, verifiedPackage_oversize shown (Nat.lt_of_not_le fits)]
      rfl

/-- Whatever transactions, publications, crashes and recoveries came before, a reader of a run is told that nothing is
published, or is shown the package of the final directory with the result that the run has. -/
theorem readers_told (documents : Documents) (payloadSafe : List String → Payload → Bool)
    (recordingStartable : Tables τ → String → Bool) (retryPolicy : RetryPolicy)
    (flowTrial recording preflight capture preparation : JobTargetHandler (Tables τ) ν) (projects : List String) (rest : τ)
    (acts : List (Act (currentService payloadSafe recordingStartable retryPolicy flowTrial recording preflight capture
      preparation))) :
    let state := Transition.run (step documents _) (emptyState projects rest) acts
    ∀ run ∈ state.db.targets.runs, Told documents state run := by
  intro state run present
  have guarded := currentTargets_guarded flowTrial recording preflight capture preparation
  have sound : Sound documents state := run_sound guarded projects rest acts
  exact told_of_settled sound.settled present

end Reading

section Final

variable {τ ν : Type} {documents : Documents} {service : Service (Tables τ) ν}

/-- No step takes a final directory away or changes it. -/
theorem step_final (state : State τ) (act : Act service) {place : String × String} {directory : Directory}
    (there : state.final place = some directory) : (step documents service state act).final place = some directory := by
  cases act with
  | transaction foreign => exact there
  | stage key staged =>
    simp only [step]
    split <;> exact there
  | prepare key secrets nowUs =>
    simp only [step]
    split
    · split
      · exact there
      · split <;> exact there
    · exact there
  | publish pending nowUs fate =>
    simp only [step]
    split
    · split
      · split
        · rename_i state' done
          obtain ⟨staged, written, bytes, _, held | ⟨_, free, moved⟩⟩ := settle_ok done
          · rw [held]
            exact there
          · have apart : place ≠ pending.place := by
              intro same
              rw [same, free] at there
              cases there
            have kept := (setKey_other state.final (some written) apart).trans there
            cases moved with
            | inl moved =>
              rw [moved]
              exact kept
            | inr moved =>
              rw [moved]
              exact kept
        · exact there
      · exact there
    · exact there
  | recover projectId runId secrets nowUs =>
    simp only [step]
    split
    · exact there
    · split <;> exact there

/-- Whoever looks at a final directory, and whenever, finds the whole package of its run with its manifest: a torn write is
never seen there, and what was seen once stays. -/
theorem final_directories_whole (documents : Documents) (payloadSafe : List String → Payload → Bool)
    (recordingStartable : Tables τ → String → Bool) (retryPolicy : RetryPolicy)
    (flowTrial recording preflight capture preparation : JobTargetHandler (Tables τ) ν) (projects : List String) (rest : τ)
    (acts later : List (Act (currentService payloadSafe recordingStartable retryPolicy flowTrial recording preflight capture
      preparation))) :
    let state := Transition.run (step documents _) (emptyState projects rest) acts
    ∀ place directory, state.final place = some directory → Whole documents place directory ∧
      (Transition.run (step documents _) state later).final place = some directory := by
  intro state place directory there
  have guarded := currentTargets_guarded flowTrial recording preflight capture preparation
  have sound : Sound documents state := run_sound guarded projects rest acts
  refine ⟨sound.whole place directory there, ?_⟩
  exact Transition.run_invariant (fun state act found => step_final state act found) there later

end Final

end Jiejian.Jobs.PublicationSafety
