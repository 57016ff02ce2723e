import Jiejian.Jobs.LeasedSafety
import Jiejian.Library.Sorting
import Mathlib.Data.String.Basic

namespace Jiejian.Jobs.Publication
open Jiejian.Errors Jiejian.Library Jiejian.Library.Outcome Jiejian.Library.Sorting
open Jiejian.Jobs.Records Jiejian.Jobs.Models Jiejian.Jobs.Repository Jiejian.Jobs.Control Jiejian.Jobs.Targets
open Jiejian.Jobs.Queue Jiejian.Jobs.Completion Jiejian.Jobs.System

section Packages

abbrev Bytes := List UInt8

def manifestName : String := "publication-manifest.json"
def maxFileBytes : Nat := 1_048_576
def maxFiles : Nat := 4097
def maxPackageBytes : Nat := 268_435_456

/-- A directory has each of its files once; a file is named by its path in it. -/
structure Directory where
  files : List (String × Bytes)
  once : (files.map Prod.fst).Nodup

def Directory.read (directory : Directory) (path : String) : Option Bytes :=
  (Table.lookup Prod.fst directory.files path).map Prod.snd

/-- Opening a file with `xb` fails when it is there. -/
def Directory.create (directory : Directory) (path : String) (raw : Bytes) : Option Directory :=
  if absent : path ∉ directory.files.map Prod.fst then
    some ⟨directory.files ++ [(path, raw)], by
      rw [List.map_append, List.nodup_append]
      refine ⟨directory.once, List.nodup_singleton _, ?_⟩
      intro first inside second added same
      rw [List.mem_singleton.mp added] at same
      rw [same] at inside
      exact absent inside⟩
  else none

/-- The files besides the manifest. -/
def Directory.contents (directory : Directory) : List (String × Bytes) :=
  directory.files.filter fun file => file.1 ≠ manifestName

def Directory.size (directory : Directory) : Nat := directory.files.foldl (fun total file => total + file.2.length) 0

inductive ResultType where
  | SUCCESS
  | SAFETY_STOPPED
  | FAILED
  | CANCELLED
  deriving DecidableEq, Repr

/-- `CheckRunnerResult.validate_result`. -/
def coherent : ResultType → RunLifecycle → Option RunVerdict → Bool
  | .SUCCESS, .completed, some _ => true
  | .SAFETY_STOPPED, .safetyStopped, some .block => true
  | .SAFETY_STOPPED, .safetyStopped, some .inconclusive => true
  | .FAILED, .failed, none => true
  | .CANCELLED, .cancelled, none => true
  | _, _, _ => false

structure CaseResult where
  caseId : String
  evidenceIds : List String
  deriving DecidableEq, Repr

structure CheckRunnerResult where
  runId : String
  jobId : String
  attempt : Nat
  leaseOwner : String
  fencingToken : Nat
  requestHash : String
  configHash : String
  resultType : ResultType
  lifecycle : RunLifecycle
  caseResults : List CaseResult
  verdict : Option RunVerdict
  completedAtUs : Nat
  valid : coherent resultType lifecycle verdict = true
  deriving DecidableEq, Repr

/-- A case of the request with the permission that it checks. -/
structure RequestCase where
  caseId : String
  intentId : String
  revision : Nat
  intentHash : String
  deriving DecidableEq, Repr

structure ExecutionRequest where
  projectId : String
  planFingerprint : String
  sourceFingerprint : Option String
  policyEpoch : Nat
  engineVersion : String
  cases : List RequestCase
  deriving DecidableEq, Repr

structure CheckEvidence where
  evidenceId : String
  runId : String
  jobId : String
  attempt : Nat
  requestHash : String
  configHash : String
  caseId : String
  deriving DecidableEq, Repr

structure CheckPublishedFile where
  path : String
  sha256 : String
  byteCount : Nat
  deriving DecidableEq, Repr

structure CheckPublicationManifest where
  projectId : String
  runId : String
  jobId : String
  attempt : Nat
  leaseOwner : String
  fencingToken : Nat
  leaseExpiresAtUs : Nat
  publishedAtUs : Nat
  requestHash : String
  configHash : String
  resultHash : String
  files : List CheckPublishedFile
  deriving DecidableEq, Repr

structure CheckPackage where
  request : ExecutionRequest
  result : CheckRunnerResult
  evidence : List CheckEvidence
  files : List CheckPublishedFile
  manifest : Option CheckPublicationManifest
  deriving DecidableEq, Repr

/-- `CheckPublicationRecord`. -/
structure Receipt where
  runId : String
  jobId : String
  attempt : Nat
  fencingToken : Nat
  requestHash : String
  resultHash : String
  manifestHash : String
  publishedAtUs : Nat
  deriving DecidableEq, Repr

structure EvidenceIndexRecord where
  evidenceId : String
  runId : String
  caseId : String
  artifactPath : String
  sha256 : String
  byteCount : Nat
  createdAtUs : Nat
  deriving DecidableEq, Repr

structure RuleCheckIndexRow where
  projectId : String
  runId : String
  permission : RequestCase
  manifestHash : String
  createdAtUs : Nat
  deriving DecidableEq, Repr

/-- The readers and writers of the documents and the digest of bytes. A manifest is read from the bytes that are written for
it and from no others. `associated` and `decided` are the checks between documents that look at nothing but their files, `rowsSafe` the search of the
rows of a publication for secrets. -/
structure Documents where
  sha256 : Bytes → String
  readResult : Bytes → Option CheckRunnerResult
  readRequest : Bytes → Option ExecutionRequest
  readEvidence : Bytes → Option CheckEvidence
  readManifest : Bytes → Option CheckPublicationManifest
  writeManifest : CheckPublicationManifest → Option Bytes
  exposes : List String → Bytes → Bool
  associated : List (String × Bytes) → Bool
  decided : List (String × Bytes) → Bool
  rowsSafe : List String → List EvidenceIndexRecord → Receipt → List RequestCase → Bool
  reads_written : ∀ {manifest raw}, writeManifest manifest = some raw → readManifest raw = some manifest
  writes_read : ∀ {manifest raw}, readManifest raw = some manifest → writeManifest manifest = some raw
  written_size : ∀ {manifest raw}, writeManifest manifest = some raw → raw.length ≤ maxFileBytes
  exposes_nothing : ∀ raw, exposes [] raw = false

inductive PublicationError where
  | ARTIFACT_FENCE
  | ARTIFACT_MANIFEST (message : String)
  | ARTIFACT_PUBLISH
  | ARTIFACT_NOT_PUBLISHED
  | RUNNER_PROTOCOL_INVALID
  | FileNotFoundError
  | FileExistsError
  | jiejian (error : JiejianError)
  deriving DecidableEq, Repr

def unreadable : PublicationError := .ARTIFACT_MANIFEST "工件内容校验失败"

def isHexDigit (char : Char) : Bool := '0' ≤ char && char ≤ '9' || 'a' ≤ char && char ≤ 'f'

/-- The pattern of `CheckPublishedFile.path`. -/
def publishedPath (path : String) : Bool :=
  path ∈ ["result.json", "request.json", "runtime.json"] ||
    (path.toList.take 12 = "evidence/ev_".toList && ((path.toList.drop 12).take 64).all isHexDigit &&
      ((path.toList.drop 12).take 64).length = 64 && path.toList.drop 76 = ".json".toList)

def isEvidencePath (path : String) : Bool := "evidence/".toList.isPrefixOf path.toList

def evidencePath (evidenceId : String) : String := "evidence/" ++ evidenceId ++ ".json"

variable (documents : Documents)

/-- What `validate_check_package` asks of every file as it reads it: its name, its size and that it shows no secret. -/
def fileAllowed (published : Bool) (secrets : List String) (file : String × Bytes) : Bool :=
  (if file.1 = manifestName then published else publishedPath file.1) && file.2.length ≤ maxFileBytes &&
    !documents.exposes secrets file.2

def readable (published : Bool) (secrets : List String) (directory : Directory) : Bool :=
  directory.files.all (fileAllowed documents published secrets) &&
    directory.files.length ≤ maxFiles + published.toNat && directory.size ≤ maxPackageBytes

def publishedFile (file : String × Bytes) : CheckPublishedFile :=
  { path := file.1, sha256 := documents.sha256 file.2, byteCount := file.2.length }

/-- An evidence file carries its own name and belongs to the result. -/
def readEvidenceFile (result : CheckRunnerResult) (file : String × Bytes) : Option CheckEvidence := do
  let evidence ← documents.readEvidence file.2
  guard (file.1 = evidencePath evidence.evidenceId ∧ evidence.runId = result.runId ∧ evidence.jobId = result.jobId ∧
    evidence.attempt = result.attempt ∧ evidence.requestHash = result.requestHash ∧ evidence.configHash = result.configHash)
  return evidence

/-- The package of the files besides the manifest. -/
def readPackage (contents : List (String × Bytes)) : Option CheckPackage := do
  let rawResult ← (Table.lookup Prod.fst contents "result.json").map Prod.snd
  let rawRequest ← (Table.lookup Prod.fst contents "request.json").map Prod.snd
  let rawRuntime ← (Table.lookup Prod.fst contents "runtime.json").map Prod.snd
  let result ← documents.readResult rawResult
  let request ← documents.readRequest rawRequest
  guard (documents.associated contents = true)
  guard (result.requestHash = documents.sha256 rawRequest ∧ result.configHash = documents.sha256 rawRuntime)
  guard ((∀ planned ∈ request.cases, planned.caseId ∈ result.caseResults.map CaseResult.caseId) ∧
    ∀ item ∈ result.caseResults, item.caseId ∈ request.cases.map RequestCase.caseId)
  let evidence ← (contents.filter fun file => isEvidencePath file.1).mapM (readEvidenceFile documents result)
  let referenced := result.caseResults.flatMap CaseResult.evidenceIds
  guard ((∀ item ∈ result.caseResults, item.evidenceIds ≠ []) ∧ referenced.Nodup ∧
    (∀ item ∈ evidence, item.evidenceId ∈ referenced) ∧ ∀ reference ∈ referenced, reference ∈ evidence.map CheckEvidence.evidenceId)
  guard (∀ file ∈ contents, 1 ≤ file.2.length)
  return { request, result, evidence := sortedBy CheckEvidence.evidenceId evidence,
           files := sortedBy CheckPublishedFile.path (contents.map (publishedFile documents)), manifest := none }

/-- A manifest belongs to the package whose files and attempt it names. -/
def belongs (manifest : CheckPublicationManifest) (package : CheckPackage) : Bool :=
  manifest.files = package.files && manifest.projectId = package.request.projectId &&
    manifest.runId = package.result.runId && manifest.jobId = package.result.jobId &&
    manifest.attempt = package.result.attempt && manifest.leaseOwner = package.result.leaseOwner &&
    manifest.fencingToken = package.result.fencingToken && manifest.requestHash = package.result.requestHash &&
    manifest.configHash = package.result.configHash

/-- `validate_check_package`. -/
def validateCheckPackage (directory : Directory) (published : Bool) (secrets : List String) :
    Except PublicationError CheckPackage := do
  require (readable documents published secrets directory = true) unreadable
  let package ← orRaise (readPackage documents directory.contents) unreadable
  if published then do
    let raw ← orRaise (directory.read manifestName) unreadable
    let manifest ← orRaise (documents.readManifest raw) unreadable
    require (belongs manifest package = true) unreadable
    return { package with manifest := some manifest }
  else return package

end Packages

section Rows

/-- The tables that a publication writes besides the job and its run. -/
structure Publications where
  receipts : List Receipt
  evidence : List EvidenceIndexRecord
  rules : List RuleCheckIndexRow
  ruleRuns : List (String × String)

structure Tables (τ : Type) where
  publications : Publications
  rest : τ

variable {τ : Type}

def Publications.receipt (publications : Publications) (runId : String) : Option Receipt :=
  Table.lookup Receipt.runId publications.receipts runId

/-- `RuleHistoryRepository.index`; a run has a permission once. -/
def Publications.index (publications : Publications) (projectId runId manifestHash : String) (createdAtUs : Nat)
    (permissions : List RequestCase) : Except JiejianError Publications := do
  require ((permissions.map fun permission => (permission.intentId, permission.revision, permission.intentHash)).Nodup)
    constraintRefused
  return { publications with
    rules := publications.rules.filter (fun row => row.runId ≠ runId) ++
      permissions.map fun permission => { projectId, runId, permission, manifestHash, createdAtUs }
    ruleRuns := Table.put Prod.fst publications.ruleRuns (runId, manifestHash) }

/-- `CheckPublisher._index_rules`; the run is there whenever this is reached. -/
def indexRules (db : Db (Tables τ)) (package : CheckPackage) (manifestHash : String) : Except JiejianError Publications := do
  let run ← orRaise (db.targets.run package.result.runId) ⟨.STORAGE_STATE, "发布完成态读取失败"⟩
  db.targets.other.publications.index package.request.projectId run.runId manifestHash run.createdAtUs package.request.cases

/-- The index row of one evidence file. -/
def evidenceRecord (runId : String) (package : CheckPackage) (manifest : CheckPublicationManifest)
    (evidence : CheckEvidence) : EvidenceIndexRecord :=
  let path := evidencePath evidence.evidenceId
  { evidenceId := evidence.evidenceId, runId, caseId := evidence.caseId, artifactPath := path,
    sha256 := String.ofList (evidence.evidenceId.toList.drop 3),
    byteCount := ((Table.lookup CheckPublishedFile.path package.files path).map CheckPublishedFile.byteCount).getD 0,
    createdAtUs := manifest.publishedAtUs }

def receiptFor (package : CheckPackage) (manifest : CheckPublicationManifest) (manifestHash : String) : Receipt :=
  { runId := package.result.runId, jobId := package.result.jobId, attempt := package.result.attempt,
    fencingToken := package.result.fencingToken, requestHash := package.result.requestHash,
    resultHash := manifest.resultHash, manifestHash, publishedAtUs := manifest.publishedAtUs }

/-- The rows of a publication, added in the transaction that completes its job; a key that is taken refuses them. -/
def recordPublication (documents : Documents) (secrets : List String) (package : CheckPackage)
    (manifest : CheckPublicationManifest) (manifestHash : String) (db : Db (Tables τ)) :
    Except JiejianError (Tables τ) := do
  let stored := db.targets.other.publications
  let rows := package.evidence.map (evidenceRecord package.result.runId package manifest)
  let receipt := receiptFor package manifest manifestHash
  require (documents.rowsSafe secrets rows receipt package.request.cases = true)
    ⟨.STORAGE_SECRET, "持久化数据包含敏感内容"⟩
  require (((stored.evidence ++ rows).map EvidenceIndexRecord.evidenceId).Nodup) constraintRefused
  require (receipt.runId ∉ stored.receipts.map Receipt.runId ∧ receipt.jobId ∉ stored.receipts.map Receipt.jobId)
    constraintRefused
  let added := { stored with receipts := stored.receipts ++ [receipt], evidence := stored.evidence ++ rows }
  let indexed ← indexRules { db with targets := { db.targets with other := { db.targets.other with
    publications := added } } } package manifestHash
  return { db.targets.other with publications := indexed }

end Rows

section Publishing

variable {τ ν : Type} (documents : Documents) (service : Service (Tables τ) ν) (secrets : List String)

/-- `CheckPublisher._validate_job`. -/
def validateJob (db : Db (Tables τ)) (package : CheckPackage) : Except PublicationError JobRow := do
  let result := package.result
  let request := package.request
  let job ← orRaise (db.job result.jobId) .ARTIFACT_FENCE
  let run ← orRaise (db.targets.run result.runId) .ARTIFACT_FENCE
  require (job.state = .running ∧ job.operationType = "CHECK" ∧ job.target = .run result.runId ∧
    job.projectId = request.projectId ∧ job.attempt = result.attempt ∧ job.leaseOwner = some result.leaseOwner ∧
    job.fencingToken = result.fencingToken ∧ job.requestHash = result.requestHash ∧ job.cancelRequestedAtUs = none ∧
    run.projectId = request.projectId ∧ run.requestHash = result.requestHash ∧
    run.planFingerprint = request.planFingerprint ∧ run.sourceFingerprint = request.sourceFingerprint ∧
    run.policyEpoch = request.policyEpoch ∧ run.engineVersion = request.engineVersion) .ARTIFACT_FENCE
  require (result.resultType = .SUCCESS ∨ result.resultType = .SAFETY_STOPPED)
    (.ARTIFACT_MANIFEST "该结果类型不得发布完成态")
  return job

/-- The arguments `_complete` calls `complete_published_result` with. -/
def completionOf (package : CheckPackage) (manifest : CheckPublicationManifest) (nowUs : Nat) (recovery : Bool) :
    PublishedResult :=
  { jobId := package.result.jobId, runId := package.result.runId, attempt := package.result.attempt,
    leaseOwner := package.result.leaseOwner, fencingToken := package.result.fencingToken,
    lifecycle := package.result.lifecycle, verdict := package.result.verdict, completedAtUs := nowUs,
    requireActiveLease := !recovery, requestHash := some package.result.requestHash,
    publishedAtUs := if recovery then some (manifest.publishedAtUs : Int) else none }

/-- `CheckPublisher._complete`. -/
def complete (db : Db (Tables τ)) (package : CheckPackage) (manifest : CheckPublicationManifest) (raw : Bytes)
    (nowUs : Nat) (recovery : Bool) : Except PublicationError (Db (Tables τ)) :=
  (perform service db (.completePublication secrets (completionOf package manifest nowUs recovery)
    (recordPublication documents secrets package manifest (documents.sha256 raw)))).mapError .jiejian

/-- The manifest of a first publication. -/
def manifestFor (package : CheckPackage) (job : JobRow) (leaseExpiresAtUs nowUs : Nat) : CheckPublicationManifest :=
  { projectId := job.projectId, runId := package.result.runId, jobId := package.result.jobId,
    attempt := package.result.attempt, leaseOwner := package.result.leaseOwner,
    fencingToken := package.result.fencingToken, leaseExpiresAtUs, publishedAtUs := nowUs,
    requestHash := package.result.requestHash, configHash := package.result.configHash,
    resultHash := ((Table.lookup CheckPublishedFile.path package.files "result.json").map
      CheckPublishedFile.sha256).getD "", files := package.files }

/-- The transaction of `publish`, up to its commit: the manifest, its bytes and the database to commit. -/
def publishInWork (db : Db (Tables τ)) (package : CheckPackage) (nowUs : Nat) :
    Except PublicationError (CheckPublicationManifest × Bytes × Db (Tables τ)) := do
  let job ← validateJob db package
  let expiry ← orRaise job.leaseExpiresAtUs .ARTIFACT_FENCE
  require (nowUs < expiry ∧ package.result.completedAtUs ≤ nowUs) .ARTIFACT_FENCE
  let manifest := package.manifest.getD (manifestFor package job expiry nowUs)
  let raw ← orRaise (documents.writeManifest manifest) .RUNNER_PROTOCOL_INVALID
  require (documents.exposes secrets raw = false) .RUNNER_PROTOCOL_INVALID
  let db ← complete documents service secrets db package manifest raw nowUs false
  return (manifest, raw, db)

/-- `CheckPublisher._validate_receipt_state`. -/
def validateReceiptState (db : Db (Tables τ)) (package : CheckPackage) : Except PublicationError Unit := do
  let result := package.result
  let run ← orRaise (db.targets.run result.runId) .ARTIFACT_FENCE
  let job ← orRaise (db.job result.jobId) .ARTIFACT_FENCE
  require (run.lifecycle = result.lifecycle ∧ run.verdict = result.verdict ∧ run.requestHash = result.requestHash ∧
    job.state = .succeeded ∧ job.attempt = result.attempt ∧ job.fencingToken = result.fencingToken ∧
    job.requestHash = result.requestHash) .ARTIFACT_FENCE

/-- `CheckPublisher.complete_existing` on the directory of a project and a run. -/
def completeExisting (db : Db (Tables τ)) (projectId runId : String) (directory : Directory) (nowUs : Nat) :
    Except PublicationError (CheckPackage × Db (Tables τ)) := do
  let package ← validateCheckPackage documents directory true secrets
  let manifest ← orRaise package.manifest unreadable
  require (manifest.projectId = projectId ∧ manifest.runId = runId) .ARTIFACT_FENCE
  let raw ← orRaise (directory.read manifestName) unreadable
  let digest := documents.sha256 raw
  match db.targets.other.publications.receipt manifest.runId with
  | some receipt => do
    require (receipt.jobId = manifest.jobId ∧ receipt.attempt = manifest.attempt ∧
      receipt.fencingToken = manifest.fencingToken ∧ receipt.requestHash = manifest.requestHash ∧
      receipt.resultHash = manifest.resultHash ∧ receipt.manifestHash = digest ∧
      receipt.publishedAtUs = manifest.publishedAtUs) .ARTIFACT_FENCE
    validateReceiptState db package
    let indexed ← (indexRules db package digest).mapError .jiejian
    return (package, { db with targets := { db.targets with other := { db.targets.other with publications := indexed } } })
  | none => do
    let _ ← validateJob db package
    require (documents.decided directory.contents = true) unreadable
    let db ← complete documents service secrets db package manifest raw nowUs true
    return (package, db)

end Publishing

section System

/-- A staging directory belongs to one attempt of a job under one token. -/
abbrev AttemptKey := String × Nat × Nat

/-- A publisher between reading the staging directory and its transaction. -/
structure Pending where
  key : AttemptKey
  secrets : List String
  package : CheckPackage
  hasManifest : Bool
  deriving DecidableEq

/-- The database and the disk. `attempts` are the attempt directories that were made, `pending` the publishers at work. -/
structure State (τ : Type) where
  db : Db (Tables τ)
  attempts : List AttemptKey
  staging : AttemptKey → Option Directory
  final : String × String → Option Directory
  pending : List Pending

/-- How far a publication comes: its process may end while it writes the manifest, its rename may fail, and its commit may
fail or be cut off. -/
inductive Fate where
  | torn (kept : Nat)
  | unmoved
  | uncommitted
  | committed
  deriving DecidableEq, Repr

variable {τ ν : Type} (documents : Documents) (service : Service (Tables τ) ν)

/-- A transaction of another component: it publishes no result of a run and leaves receipts and evidence alone. -/
structure Foreign where
  action : Action (Tables τ)
  silent : action.publication = none
  receipts : ∀ db db', perform service db action = .ok db' →
    db'.targets.other.publications.receipts = db.targets.other.publications.receipts
  evidence : ∀ db db', perform service db action = .ok db' →
    db'.targets.other.publications.evidence = db.targets.other.publications.evidence

inductive Act where
  | transaction (foreign : Foreign service)
  | stage (key : AttemptKey) (directory : Directory)
  | prepare (key : AttemptKey) (secrets : List String) (nowUs : Nat)
  | publish (pending : Pending) (nowUs : Nat) (fate : Fate)
  | recover (projectId runId : String) (secrets : List String) (nowUs : Nat)

/-- `CheckPublisher.publish` up to its look at the final directory. -/
def prepare (state : State τ) (key : AttemptKey) (secrets : List String) : Except PublicationError Pending := do
  let directory ← orRaise (state.staging key) unreadable
  let hasManifest := (directory.read manifestName).isSome
  let package ← validateCheckPackage documents directory hasManifest secrets
  require (documents.decided directory.contents = true) unreadable
  require (key = (package.result.jobId, package.result.attempt, package.result.fencingToken)) .ARTIFACT_FENCE
  return { key, secrets, package, hasManifest }

/-- Where `check_final_directory` puts the package. -/
def Pending.place (pending : Pending) : String × String :=
  (pending.package.request.projectId, pending.package.result.runId)

/-- `CheckPublisher.publish` when the final directory is there already. -/
def publishExisting (db : Db (Tables τ)) (pending : Pending) (directory : Directory) (nowUs : Nat) :
    Except PublicationError (CheckPackage × Db (Tables τ)) := do
  let existing ← validateCheckPackage documents directory true pending.secrets
  require (existing.result = pending.package.result ∧ existing.files = pending.package.files) .ARTIFACT_FENCE
  completeExisting documents service pending.secrets db pending.place.1 pending.place.2 directory nowUs

def setKey {κ α : Type} [DecidableEq κ] (entries : κ → Option α) (key : κ) (value : Option α) : κ → Option α :=
  fun other => if other = key then value else entries other

/-- What a publication leaves on the disk and in the database. The manifest is written once, the directory is renamed once,
and only then the transaction commits. -/
def settle (state : State τ) (pending : Pending) (raw : Bytes) (db : Db (Tables τ)) (fate : Fate) :
    Except PublicationError (State τ) := do
  let staged ← orRaise (state.staging pending.key) .FileNotFoundError
  let written ← (if pending.hasManifest then .ok staged else
    orRaise (staged.create manifestName (match fate with
      | .torn kept => raw.take kept
      | _ => raw)) .FileExistsError)
  let held : State τ := { state with staging := setKey state.staging pending.key (some written) }
  let moved : State τ := { held with
    staging := setKey held.staging pending.key none
    final := setKey held.final pending.place (some written) }
  match fate with
  | .torn _ => return held
  | .unmoved => return held
  | .uncommitted => if (state.final pending.place).isSome then return held else return moved
  | .committed => if (state.final pending.place).isSome then return held else return { moved with db }

/-- An action that is refused leaves everything as it was. -/
def step (state : State τ) : Act service → State τ
  | .transaction foreign => { state with db := System.step service state.db foreign.action }
  | .stage key directory =>
    if key ∈ state.attempts then state
    else { state with attempts := key :: state.attempts, staging := setKey state.staging key (some directory) }
  | .prepare key secrets nowUs =>
    match prepare documents state key secrets with
    | .ok pending =>
      match state.final pending.place with
      | none => { state with pending := pending :: state.pending }
      | some directory =>
        match publishExisting documents service state.db pending directory nowUs with
        | .ok (_, db) => { state with db }
        | .error _ => state
    | .error _ => state
  | .publish pending nowUs fate =>
    if pending ∈ state.pending then
      match publishInWork documents service pending.secrets state.db pending.package nowUs with
      | .ok (_, raw, db) =>
        match settle state pending raw db fate with
        | .ok state' => state'
        | .error _ => state
      | .error _ => state
    else state
  | .recover projectId runId secrets nowUs =>
    match state.final (projectId, runId) with
    | none => state
    | some directory =>
      match completeExisting documents service secrets state.db projectId runId directory nowUs with
      | .ok (_, db) => { state with db }
      | .error _ => state

end System

section Reading

inductive Integrity where
  | NOT_PUBLISHED
  | VALID
  | INVALID
  deriving DecidableEq, Repr

variable {τ : Type} (documents : Documents)

/-- `_verified_package`. -/
def verifiedPackage (state : State τ) (run : RunRow) (job : Option JobRow) (receipt : Receipt) :
    Except PublicationError CheckPackage := do
  let directory ← orRaise (state.final (run.projectId, run.runId)) unreadable
  let package ← validateCheckPackage documents directory true []
  let manifest ← orRaise package.manifest unreadable
  let raw ← orRaise (documents.writeManifest manifest) .RUNNER_PROTOCOL_INVALID
  let invalid := PublicationError.ARTIFACT_MANIFEST "发布结果完整性校验失败"
  let job ← orRaise job invalid
  let result := package.result
  let request := package.request
  require (receipt.runId = run.runId ∧ receipt.jobId = result.jobId ∧ receipt.attempt = result.attempt ∧
    receipt.fencingToken = result.fencingToken ∧ receipt.requestHash = result.requestHash ∧
    receipt.resultHash = manifest.resultHash ∧ receipt.manifestHash = documents.sha256 raw ∧
    receipt.publishedAtUs = manifest.publishedAtUs) invalid
  require (job.operationType = "CHECK" ∧ job.state = .succeeded ∧ job.target = .run run.runId ∧
    job.projectId = request.projectId ∧ job.requestHash = result.requestHash ∧ job.attempt = result.attempt ∧
    job.fencingToken = result.fencingToken ∧ job.cancelRequestedAtUs = none) invalid
  require (run.projectId = request.projectId ∧ run.requestHash = result.requestHash ∧
    run.planFingerprint = request.planFingerprint ∧ run.sourceFingerprint = request.sourceFingerprint ∧
    run.policyEpoch = request.policyEpoch ∧ run.engineVersion = request.engineVersion ∧
    run.lifecycle = result.lifecycle ∧ run.verdict = result.verdict) invalid
  let actual := state.db.targets.other.publications.evidence.filter fun row => row.runId = run.runId
  let expected := package.evidence.map (evidenceRecord run.runId package manifest)
  require ((∀ row ∈ actual, row ∈ expected) ∧ ∀ row ∈ expected, row ∈ actual) invalid
  return package

def PublicationError.isArtifact : PublicationError → Bool
  | .ARTIFACT_FENCE | .ARTIFACT_MANIFEST _ | .ARTIFACT_PUBLISH | .ARTIFACT_NOT_PUBLISHED => true
  | _ => false

/-- `_package`. -/
def packageOf (state : State τ) (run : RunRow) (job : Option JobRow) : Except PublicationError CheckPackage := do
  let receipt ← orRaise (state.db.targets.other.publications.receipt run.runId) .ARTIFACT_NOT_PUBLISHED
  verifiedPackage documents state run job receipt

/-- `_status_and_package`: whether the result of a run can be trusted, and the package when it can. -/
def statusAndPackage (state : State τ) (run : RunRow) : Except PublicationError (Integrity × Option CheckPackage) :=
  let job := state.db.jobs.find? fun row => row.target = .run run.runId
  if (state.db.targets.other.publications.receipt run.runId).isSome ∨ run.verdict ≠ none then
    match packageOf documents state run job with
    | .ok package => .ok (.VALID, some package)
    | .error error => if error.isArtifact then .ok (.INVALID, none) else .error error
  else .ok (.NOT_PUBLISHED, none)

end Reading

end Jiejian.Jobs.Publication
