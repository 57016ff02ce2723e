import Jiejian.Library.Reading
import Jiejian.Protocol.Requests

namespace Jiejian.Execution.Journal

open Library Library.Document Library.Outcome Library.Reading Library.Sorting Errors
open Protocol.Codec Protocol.Scenarios Protocol.Requests

inductive NodeRequest where
  | NOT_STARTED
  | INTENT_SAVED
  | RECEIVED
  | UNCONFIRMED
  deriving DecidableEq, Repr

def NodeRequest.value : NodeRequest → String
  | .NOT_STARTED => "NOT_STARTED"
  | .INTENT_SAVED => "INTENT_SAVED"
  | .RECEIVED => "RECEIVED"
  | .UNCONFIRMED => "UNCONFIRMED"

structure ScenarioNodeProgress where
  experimentId : String
  invocationId : String
  experimentLabel : String
  invocationLabel : String
  caseIds : List String
  request : NodeRequest := .NOT_STARTED
  recoveryIntents : List String := []
  recoveredCases : List String := []
  observedAtUs : Nat
  deriving DecidableEq, Repr

def ScenarioNodeProgress.dump (node : ScenarioNodeProgress) : Json :=
  .dict [("experiment_id", .str node.experimentId), ("invocation_id", .str node.invocationId),
    ("experiment_label", .str node.experimentLabel), ("invocation_label", .str node.invocationLabel),
    ("case_ids", strings node.caseIds), ("request", .str node.request.value),
    ("recovery_intents", strings node.recoveryIntents), ("recovered_cases", strings node.recoveredCases),
    ("observed_at_us", natural node.observedAtUs)]

/-- `[0-9a-f]`. -/
def isHexDigit (char : Char) : Bool :=
  ('0' ≤ char && char ≤ '9') || ('a' ≤ char && char ≤ 'f')

/-- `[0-9a-f]{count}`, after the given letters. -/
def isHexName (letters : String) (count : Nat) (text : String) : Bool :=
  letters.toList.isPrefixOf text.toList && text.toList.length = letters.toList.length + count &&
    (text.toList.drop letters.toList.length).all isHexDigit

def isCaseId (key : String) : Bool := isHexName "case_" 32 key

/-- `Field(min_length=1, max_length=limit)`. -/
def bounded (limit : Nat) (length : Nat) : Bool := 1 ≤ length && length ≤ limit

def distinctCases (keys : List String) : Bool := keys.Nodup ∧ ∀ key ∈ keys, isCaseId key = true

def ScenarioNodeProgress.association (node : ScenarioNodeProgress) : Except Raised Unit := do
  require (bounded 64 node.experimentId.length = true ∧ bounded 64 node.invocationId.length = true ∧
      bounded 128 node.experimentLabel.length = true ∧ bounded 128 node.invocationLabel.length = true ∧
      bounded 32 node.caseIds.length = true)
    (.ValueError "string or tuple length")
  require (∀ values ∈ [node.caseIds, node.recoveryIntents, node.recoveredCases], distinctCases values = true)
    (.ValueError "invalid scenario progress case")
  require (node.recoveredCases ⊆ node.recoveryIntents ∧ node.recoveryIntents ⊆ node.caseIds)
    (.ValueError "recovery progress is outside this invocation")
  require (node.request = .NOT_STARTED → node.recoveryIntents = [])
    (.ValueError "unstarted invocation cannot have recovery progress")

/-- The run, the job and the attempt that a journal belongs to. -/
structure AttemptReference where
  runId : String
  jobId : String
  attempt : Nat
  fencingToken : Nat
  requestHash : String
  deriving DecidableEq, Repr

structure ScenarioExecutionJournal where
  owner : AttemptReference
  scenarioFingerprint : String
  nodes : List ScenarioNodeProgress
  deriving DecidableEq, Repr

def ScenarioExecutionJournal.dump (journal : ScenarioExecutionJournal) : Json :=
  .dict [("document_type", .str "jiejian.scenario-execution"), ("schema_version", .str "1"),
    ("run_id", .str journal.owner.runId), ("job_id", .str journal.owner.jobId),
    ("attempt", natural journal.owner.attempt), ("fencing_token", natural journal.owner.fencingToken),
    ("request_hash", .str journal.owner.requestHash), ("scenario_fingerprint", .str journal.scenarioFingerprint),
    ("nodes", .list (journal.nodes.map (·.dump)))]

def ScenarioNodeProgress.key (node : ScenarioNodeProgress) : String × String :=
  (node.experimentId, node.invocationId)

def ScenarioExecutionJournal.uniqueNodes (journal : ScenarioExecutionJournal) : Except Raised Unit := do
  require (isHexName "run_" 32 journal.owner.runId = true ∧ isHexName "job_" 32 journal.owner.jobId = true ∧
      isHexName "" 64 journal.owner.requestHash = true ∧ isHexName "" 64 journal.scenarioFingerprint = true ∧
      1 ≤ journal.owner.attempt ∧ 1 ≤ journal.owner.fencingToken ∧ bounded 256 journal.nodes.length = true)
    (.ValueError "journal field")
  require (journal.nodes.map (·.key)).Nodup (.ValueError "duplicate scenario progress node")

/-- The labels under which a scenario shows an invocation. -/
def invocationLabels (document : BusinessScenarioRevision) : List ((String × String) × (String × String)) :=
  document.experiments.flatMap fun experiment => experiment.invocations.map fun invocation =>
    ((experiment.id, invocation.id), (experiment.label, invocation.label))

def labelsOf (document : BusinessScenarioRevision) (key : String × String) : Except Raised (String × String) :=
  (orRaise (Table.latest Prod.fst (invocationLabels document) key) .KeyError).map Prod.snd

def ScenarioExecutionJournal.validateRequest (journal : ScenarioExecutionJournal) (request : ExecutionRequest) :
    Except Raised Unit := do
  let scenario ← orRaise request.scenario (.ValueError "scenario progress identity")
  require (journal.scenarioFingerprint = scenario.fingerprint) (.ValueError "scenario progress identity")
  require (journal.nodes.map (fun node => (node.experimentId, node.invocationId, node.caseIds)) =
      scenario.invocations.map fun item => (item.experimentId, item.invocationId, item.caseIds))
    (.ValueError "scenario progress coverage")
  journal.nodes.forM fun node => do
    let labels ← labelsOf scenario.document node.key
    require (labels = (node.experimentLabel, node.invocationLabel)) (.ValueError "scenario progress labels")

/-- The directory of one attempt. A name of two numbers stands for `{index}-{version}`; a file that
was opened and not written yet is empty. -/
structure AttemptDir where
  journal : Option (Option Json) := none
  hasFragments : Bool := false
  fragments : List ((Nat × Nat) × Option Json) := []
  single : List (Nat × Option Json) := []
  temporary : List ((Nat × Nat) × Option Json) := []

/-- The file operations of the writer. -/
inductive FileOp where
  | makeFragments
  | openJournal
  | writeJournal (content : Json)
  | openTemporary (name : Nat × Nat)
  | writeTemporary (name : Nat × Nat) (content : Json)
  | replace (name : Nat × Nat)
  | unlink (name : Nat × Nat)

def FileOp.apply (directory : AttemptDir) : FileOp → AttemptDir
  | .makeFragments => { directory with hasFragments := true }
  | .openJournal => { directory with journal := some none }
  | .writeJournal content => { directory with journal := some (some content) }
  | .openTemporary name => { directory with temporary := Table.put Prod.fst directory.temporary (name, none) }
  | .writeTemporary name content =>
    { directory with temporary := Table.put Prod.fst directory.temporary (name, some content) }
  | .replace name =>
    match Table.lookup Prod.fst directory.temporary name with
    | none => directory
    | some file => { directory with
        fragments := Table.put Prod.fst directory.fragments file
        temporary := directory.temporary.filter fun other => other.1 ≠ name }
  | .unlink name => { directory with temporary := directory.temporary.filter fun other => other.1 ≠ name }

def applyAll (directory : AttemptDir) (operations : List FileOp) : AttemptDir :=
  operations.foldl FileOp.apply directory

inductive JournalError where
  | STATE_PRECONDITION
  | SCENARIO_PROGRESS_WRITE_FAILED
  | Invalid (raised : Raised)
  deriving DecidableEq, Repr

/-- The writer of one attempt; `versions index` is the last version of a node. -/
structure ScenarioJournal where
  document : ScenarioExecutionJournal
  versions : Nat → Nat := fun _ => 0

def initialNode (scenario : FrozenBusinessScenario) (now : Nat) (item : FrozenScenarioInvocation) :
    Except Raised ScenarioNodeProgress := do
  let labels ← labelsOf scenario.document item.key
  let node : ScenarioNodeProgress :=
    { experimentId := item.experimentId
      invocationId := item.invocationId
      experimentLabel := labels.1
      invocationLabel := labels.2
      caseIds := item.caseIds
      observedAtUs := now }
  node.association
  return node

/-- `ScenarioJournal.__init__`: the journal of a new attempt, and what its directory then holds. -/
def openJournal (request : ExecutionRequest) (owner : AttemptReference) (now : Nat) :
    Except Raised (ScenarioJournal × List FileOp) := do
  let scenario ← orRaise request.scenario .AttributeError
  let nodes ← scenario.invocations.mapM (initialNode scenario now)
  let document : ScenarioExecutionJournal :=
    { owner := owner
      scenarioFingerprint := scenario.fingerprint
      nodes := nodes }
  document.uniqueNodes
  return ({ document := document }, [.makeFragments, .openJournal, .writeJournal document.dump])

inductive JournalEvent where
  | INTENT_SAVED
  | RECEIVED
  | UNCONFIRMED
  | RECOVERY_INTENT
  | RECOVERED
  deriving DecidableEq, Repr

/-- The node after an event, as it is validated before anything is written. -/
def ScenarioNodeProgress.advance (node : ScenarioNodeProgress) (caseId : String) (event : JournalEvent) (now : Nat) :
    Except JournalError ScenarioNodeProgress := do
  let stamped := { node with observedAtUs := now }
  let next ← match event with
    | .INTENT_SAVED =>
      if node.request ≠ .NOT_STARTED then Except.error JournalError.STATE_PRECONDITION
      else .ok { stamped with request := .INTENT_SAVED }
    | .RECEIVED => .ok { stamped with request := .RECEIVED }
    | .UNCONFIRMED => .ok { stamped with request := .UNCONFIRMED }
    | .RECOVERY_INTENT =>
      if caseId ∈ node.recoveryIntents then Except.error JournalError.STATE_PRECONDITION
      else .ok { stamped with recoveryIntents := node.recoveryIntents ++ [caseId] }
    | .RECOVERED => .ok { stamped with recoveredCases := node.recoveredCases ++ [caseId] }
  next.association.mapError .Invalid
  return next

/-- The operation of a write that failed, when one did. -/
inductive FileFailure where
  | opening
  | writing
  | replacing
  deriving DecidableEq, Repr

/-- The operations of one write; the temporary file is removed in any case. -/
def writeOperations (name : Nat × Nat) (content : Json) : Option FileFailure → List FileOp
  | none => [.openTemporary name, .writeTemporary name content, .replace name, .unlink name]
  | some .opening => [.unlink name]
  | some .writing => [.openTemporary name, .unlink name]
  | some .replacing => [.openTemporary name, .writeTemporary name content, .unlink name]

def ScenarioJournal.nodeIndex (journal : ScenarioJournal) (caseId : String) : Option Nat :=
  journal.document.nodes.findIdx? fun node => caseId ∈ node.caseIds

/-- `record`: the file operations of one call and the journal it leaves, or the error it raises. -/
def ScenarioJournal.record (journal : ScenarioJournal) (caseId : String) (event : JournalEvent) (now : Nat)
    (failure : Option FileFailure) : List FileOp × Except JournalError ScenarioJournal :=
  match journal.nodeIndex caseId with
  | none => ([], .ok journal)
  | some index =>
    match journal.document.nodes[index]? with
    | none => ([], .ok journal)
    | some node =>
      match node.advance caseId event now with
      | .error raised => ([], .error raised)
      | .ok next =>
        let version := journal.versions index + 1
        let outcome : Except JournalError ScenarioJournal :=
          if failure = none then
            .ok { document := { journal.document with nodes := journal.document.nodes.set index next }
                  versions := Function.update journal.versions index version }
          else .error .SCENARIO_PROGRESS_WRITE_FAILED
        (writeOperations (index, version) next.dump failure, outcome)

section Reader

def nodeFields : List String :=
  ["experiment_id", "invocation_id", "experiment_label", "invocation_label", "case_ids", "request",
    "recovery_intents", "recovered_cases", "observed_at_us"]

def requestWords : List NodeRequest := [.NOT_STARTED, .INTENT_SAVED, .RECEIVED, .UNCONFIRMED]

def nodeOf (content : Json) : Option ScenarioNodeProgress := do
  let experimentId ← field text content "experiment_id"
  let invocationId ← field text content "invocation_id"
  let experimentLabel ← field text content "experiment_label"
  let invocationLabel ← field text content "invocation_label"
  let caseIds ← field (items text) content "case_ids"
  let request ← fieldOr (word requestWords NodeRequest.value) .NOT_STARTED content "request"
  let recoveryIntents ← fieldOr (items text) [] content "recovery_intents"
  let recoveredCases ← fieldOr (items text) [] content "recovered_cases"
  let observedAtUs ← field Reading.natural content "observed_at_us"
  if hasOnly nodeFields content then
    return { experimentId, invocationId, experimentLabel, invocationLabel, caseIds, request, recoveryIntents,
             recoveredCases, observedAtUs }
  else none

/-- `ScenarioNodeProgress.model_validate_json`. -/
def readNode (content : Option Json) : Except Raised ScenarioNodeProgress := do
  let node ← orRaise (content.bind nodeOf) (.ValueError "invalid scenario progress document")
  node.association
  return node

def journalFields : List String :=
  ["document_type", "schema_version", "run_id", "job_id", "attempt", "fencing_token", "request_hash",
    "scenario_fingerprint", "nodes"]

def journalOf (content : Json) : Option ScenarioExecutionJournal := do
  let documentType ← fieldOr text "jiejian.scenario-execution" content "document_type"
  let schemaVersion ← fieldOr text "1" content "schema_version"
  let runId ← field text content "run_id"
  let jobId ← field text content "job_id"
  let attempt ← field Reading.natural content "attempt"
  let fencingToken ← field Reading.natural content "fencing_token"
  let requestHash ← field text content "request_hash"
  let scenarioFingerprint ← field text content "scenario_fingerprint"
  let nodes ← field (items nodeOf) content "nodes"
  if hasOnly journalFields content = true ∧ documentType = "jiejian.scenario-execution" ∧ schemaVersion = "1" then
    return { owner := { runId, jobId, attempt, fencingToken, requestHash }, scenarioFingerprint, nodes }
  else none

/-- `ScenarioExecutionJournal.model_validate_json`. -/
def readJournal (content : Option Json) : Except Raised ScenarioExecutionJournal := do
  let journal ← orRaise (content.bind journalOf) (.ValueError "invalid scenario journal document")
  journal.nodes.forM (·.association)
  journal.uniqueNodes
  return journal

/-- The size of a file in bytes. -/
def sizeOf : Option Json → Nat
  | none => 0
  | some content => content.encodedSize

/-- The versions of one node, in the order of the directory. -/
def AttemptDir.versionsOf (directory : AttemptDir) (index : Nat) : List Nat :=
  (directory.fragments.filter fun file => file.1.1 = index).map fun file => file.1.2

/-- The file with the last progress of a node; before there were versions it had one file. -/
def AttemptDir.fragmentOf (directory : AttemptDir) (index : Nat) : Option (Option Json) :=
  if directory.versionsOf index = [] then (Table.lookup Prod.fst directory.single index).map Prod.snd
  else (Table.lookup Prod.fst directory.fragments
    (index, (directory.versionsOf index).foldl max 0)).map Prod.snd

def readFragment (directory : AttemptDir) (initial : ScenarioNodeProgress) (index : Nat) :
    Except Raised ScenarioNodeProgress := do
  let versions := directory.versionsOf index
  require (versions.length ≤ 68 ∧ sortedBy id versions = List.range' 1 versions.length)
    (.ValueError "scenario progress revision gap")
  match directory.fragmentOf index with
  | none => return initial
  | some content => do
    require (sizeOf content ≤ 16384) (.ValueError "scenario progress size")
    let node ← readNode content
    require ((node.experimentId, node.invocationId, node.caseIds, node.experimentLabel, node.invocationLabel) =
        (initial.experimentId, initial.invocationId, initial.caseIds, initial.experimentLabel, initial.invocationLabel))
      (.ValueError "scenario progress node mismatch")
    return node

/-- `read_scenario_journal`; `none` when there is no journal or it is too large. -/
def readScenarioJournal (directory : AttemptDir) (request : ExecutionRequest) (job : AttemptReference) :
    Except Raised (Option ScenarioExecutionJournal) :=
  match directory.journal with
  | none => .ok none
  | some content =>
    if sizeOf content > 1048576 then .ok none
    else do
      let document ← readJournal content
      require (document.owner = job) (.ValueError "scenario journal attempt mismatch")
      document.validateRequest request
      require (directory.hasFragments = true) (.ValueError "scenario progress directory missing")
      let nodes ← document.nodes.zipIdx.mapM fun entry => readFragment directory entry.1 entry.2
      return some { document with nodes := nodes }

end Reader

end Jiejian.Execution.Journal
