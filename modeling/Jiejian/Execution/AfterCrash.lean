import Jiejian.Execution.JournalSafety

namespace Jiejian.Execution.AfterCrash

open Library Library.Outcome Library.Document Library.Transition Errors
open Protocol.Scenarios Protocol.Requests Journal Progress Runs JournalSafety

section Opening

variable {request : ExecutionRequest} {owner : AttemptReference} {now : Nat} {journal : ScenarioJournal}
  {operations : List FileOp}

/-- A node of a new journal. -/
structure Initial (scenario : FrozenBusinessScenario) (now : Nat) (item : FrozenScenarioInvocation)
    (node : ScenarioNodeProgress) : Prop where
  valid : node.association = .ok ()
  labels : labelsOf scenario.document node.key = .ok (node.experimentLabel, node.invocationLabel)
  named : (node.experimentId, node.invocationId, node.caseIds) = (item.experimentId, item.invocationId, item.caseIds)
  fresh : node.request = .NOT_STARTED ∧ node.recoveryIntents = [] ∧ node.recoveredCases = []
  moment : node.observedAtUs = now

theorem initialNode_ok {scenario : FrozenBusinessScenario} {item : FrozenScenarioInvocation}
    {node : ScenarioNodeProgress} (made : initialNode scenario now item = .ok node) :
    Initial scenario now item node := by
  unfold initialNode at made
  obtain ⟨labels, found, rest⟩ := bind_eq_ok.mp made
  obtain ⟨_, valid, returned⟩ := bind_eq_ok.mp rest
  cases Except.ok.inj returned
  exact ⟨valid, found, rfl, ⟨rfl, rfl, rfl⟩, rfl⟩

/-- What opening a journal has checked and written. -/
structure Opened (request : ExecutionRequest) (owner : AttemptReference) (now : Nat) (journal : ScenarioJournal)
    (operations : List FileOp) (scenario : FrozenBusinessScenario) : Prop where
  present : request.scenario = some scenario
  owner : journal.document.owner = owner
  fingerprint : journal.document.scenarioFingerprint = scenario.fingerprint
  nodes : List.Forall₂ (Initial scenario now) scenario.invocations journal.document.nodes
  unique : journal.document.uniqueNodes = .ok ()
  versions : journal.versions = fun _ => 0
  operations : operations = [.makeFragments, .openJournal, .writeJournal journal.document.dump]

theorem openJournal_ok (opened : openJournal request owner now = .ok (journal, operations)) :
    ∃ scenario, Opened request owner now journal operations scenario := by
  unfold openJournal at opened
  obtain ⟨scenario, present, rest⟩ := bind_eq_ok.mp opened
  obtain ⟨nodes, made, rest⟩ := bind_eq_ok.mp rest
  obtain ⟨_, unique, returned⟩ := bind_eq_ok.mp rest
  cases Except.ok.inj returned
  have each := (mapM_eq_ok_iff.mp made).imp fun _ _ => initialNode_ok
  exact ⟨scenario, orRaise_eq_ok.mp present, rfl, rfl, each, unique, rfl, rfl⟩

theorem Opened.started {scenario : FrozenBusinessScenario} (opened : Opened request owner now journal operations scenario)
    (clock : now < 2 ^ 64) (attempt : owner.attempt < 2 ^ 64) (fencingToken : owner.fencingToken < 2 ^ 64) :
    Started journal.document := by
  have each : ∀ node ∈ journal.document.nodes, ∃ item, Initial scenario now item node := by
    intro node member
    obtain ⟨item, -, initial⟩ := partner_left opened.nodes member
    exact ⟨item, initial⟩
  refine ⟨?_, opened.unique, ?_, ?_, ?_, ?_⟩
  · intro node member
    obtain ⟨_, initial⟩ := each node member
    exact initial.valid
  · intro node member
    obtain ⟨_, initial⟩ := each node member
    exact initial.fresh
  · intro node member
    obtain ⟨_, initial⟩ := each node member
    rw [initial.moment]
    exact clock
  · rw [opened.owner]
    exact attempt
  · rw [opened.owner]
    exact fencingToken

theorem initial_covers {scenario : FrozenBusinessScenario} {items : List FrozenScenarioInvocation}
    {nodes : List ScenarioNodeProgress} (each : List.Forall₂ (Initial scenario now) items nodes) :
    nodes.map (fun node => (node.experimentId, node.invocationId, node.caseIds)) =
      items.map fun item => (item.experimentId, item.invocationId, item.caseIds) := by
  induction each with
  | nil => rfl
  | cons initial rest ih => rw [List.map_cons, List.map_cons, initial.named, ih]

/-- The reader's comparison with the request succeeds on what the writer wrote. -/
theorem Opened.matches_request {scenario : FrozenBusinessScenario}
    (opened : Opened request owner now journal operations scenario) :
    journal.document.validateRequest request = .ok () := by
  unfold ScenarioExecutionJournal.validateRequest
  refine bind_eq_ok.mpr ⟨scenario, orRaise_eq_ok.mpr opened.present, ?_⟩
  refine bind_eq_ok.mpr ⟨(), require_eq_ok.mpr opened.fingerprint, ?_⟩
  refine bind_eq_ok.mpr ⟨(), require_eq_ok.mpr (initial_covers opened.nodes), forM_eq_ok.mpr ?_⟩
  intro node member
  obtain ⟨item, -, initial⟩ := partner_left opened.nodes member
  exact bind_eq_ok.mpr ⟨_, initial.labels, require_eq_ok.mpr rfl⟩

/-- A run starts with a kept journal. -/
theorem Opened.kept {scenario : FrozenBusinessScenario} (opened : Opened request owner now journal operations scenario)
    (started : Started journal.document) : Kept journal.document (begun journal operations) := by
  have zero : ∀ (index : Nat) (node : ScenarioNodeProgress), journal.document.nodes[index]? = some node → eventCount node = 0 := by
    intro index node here
    obtain ⟨request, intents, recovered⟩ := started.fresh node (List.mem_of_getElem? here)
    simp [eventCount, request, intents, recovered, requestEvents]
  have directory : (begun journal operations).directory =
      { journal := some (some journal.document.dump), hasFragments := true } := by
    rw [begun, opened.operations]
    rfl
  have idle : (begun journal operations).target = none := rfl
  have unsent : (begun journal operations).sent = [] := rfl
  refine ⟨rfl, ?_, ?_, ?_, ?_, ?_, ?_⟩
  · rw [directory]
    refine ⟨rfl, rfl, rfl, rfl, ?_⟩
    intro index node initial here first
    have same : node = initial := Option.some.inj (here.symm.trans first)
    have member := List.mem_of_getElem? here
    have version : (begun journal operations).journal.versions index = 0 := congrFun opened.versions index
    rw [version]
    refine ⟨rfl, fun wrong => absurd rfl wrong, fun _ => same, by decide, started.nodes node member,
      started.clock node member, ?_⟩
    rw [same]
    rfl
  · intro index node here
    exact (congrFun opened.versions index).trans (zero index node here).symm
  · intro caseId handed under
    rw [idle] at under
    cases under
  · intro caseId listed
    rw [unsent] at listed
    cases listed
  · intro index node here
    have fresh := (started.fresh node (List.mem_of_getElem? here)).1
    rw [fresh]
    rfl
  · intro index node caseId here
    have fresh := (started.fresh node (List.mem_of_getElem? here)).2.1
    rw [fresh]
    rfl

/-- While the journal is being opened there is no progress to read. -/
theorem opening_unread (opened : openJournal request owner now = .ok (journal, operations)) {done : Nat}
    (early : done < operations.length) (progress : ScenarioExecutionJournal) :
    readScenarioJournal (applyAll {} (operations.take done)) request owner ≠ .ok (some progress) := by
  obtain ⟨scenario, opened⟩ := openJournal_ok opened
  rw [opened.operations] at early ⊢
  have short : done = 0 ∨ done = 1 ∨ done = 2 := by
    simp only [List.length_cons, List.length_nil] at early
    omega
  rcases short with rfl | rfl | rfl <;> exact nofun

end Opening

section Runs

variable {start : ScenarioExecutionJournal} {run : ScenarioRun} {call : RecordCall}

/-- Wherever a run stops between its calls, it could also have stopped at the start of one. -/
theorem crash_at_rest (run : ScenarioRun) : ∃ call, enabled run call = true ∧ Runs.crash run call 0 = run.directory := by
  rcases target : run.target with _ | ⟨caseId, _ | _⟩
  · refine ⟨{ caseId := "", event := .RECOVERED, now := ⟨0, by decide⟩ }, ?_, rfl⟩
    simp [enabled, target]
  · refine ⟨{ caseId := caseId, event := .UNCONFIRMED, now := ⟨0, by decide⟩ }, ?_, rfl⟩
    simp [enabled, target]
  · refine ⟨{ caseId := caseId, event := .UNCONFIRMED, now := ⟨0, by decide⟩ }, ?_, rfl⟩
    simp [enabled, target]

/-- The cases of the nodes stay those the journal started with. -/
theorem holds_nodeIndex {directory : AttemptDir} {journal : ScenarioJournal} {versions : Nat → Nat}
    (holds : Holds directory start journal.document.nodes versions) (caseId : String) :
    journal.nodeIndex caseId = start.nodes.findIdx? fun node => caseId ∈ node.caseIds := by
  have listed : journal.document.nodes.map (·.caseIds) = start.nodes.map (·.caseIds) := by
    apply List.ext_getElem?
    intro index
    rw [List.getElem?_map, List.getElem?_map]
    by_cases inside : index < start.nodes.length
    · have inNodes : index < journal.document.nodes.length := holds.length ▸ inside
      have here : journal.document.nodes[index]? = some journal.document.nodes[index] :=
        List.getElem?_eq_getElem inNodes
      have first : start.nodes[index]? = some start.nodes[index] := List.getElem?_eq_getElem inside
      have same := (holds.stored index _ _ here first).same
      simp only [SameNode, Prod.mk.injEq] at same
      rw [here, first, Option.map_some, Option.map_some, same.2.2.1]
    · rw [List.getElem?_eq_none (not_lt.mp inside), List.getElem?_eq_none (holds.length ▸ not_lt.mp inside)]
  unfold ScenarioJournal.nodeIndex
  rw [index_through_cases, index_through_cases, listed]

/-- The versions of a node that is held. -/
theorem holds_versions {directory : AttemptDir} {nodes : List ScenarioNodeProgress} {versions : Nat → Nat}
    (holds : Holds directory start nodes versions)
    (counted : ∀ index node, nodes[index]? = some node → versions index = eventCount node) {index : Nat}
    (inside : index < nodes.length) :
    ∃ count ≤ 66, directory.versionsOf index = List.range' 1 count := by
  have here : nodes[index]? = some nodes[index] := List.getElem?_eq_getElem inside
  have inStart : index < start.nodes.length := holds.length ▸ inside
  have first : start.nodes[index]? = some start.nodes[index] := List.getElem?_eq_getElem inStart
  have stored := holds.stored index _ _ here first
  refine ⟨versions index, ?_, stored.versions⟩
  rw [counted index _ here]
  exact eventCount_le stored.valid

/-- A successful call leaves its journal to the run. -/
theorem after_journal {journal : ScenarioJournal} (outcome : outcomeOf run call = .ok journal) :
    (Runs.after run call).journal = journal ∧ (Runs.after run call).sent = run.sent := by
  unfold Runs.after
  rw [outcome]
  exact ⟨rfl, rfl⟩

/-- What a reader finds of a run whose attempt ended: every node as it was last recorded, or as the call
that was under way records it. -/
structure Readable (request : ExecutionRequest) (start : ScenarioJournal) (run : ScenarioRun) (call : RecordCall)
    (directory : AttemptDir) (nodes : List ScenarioNodeProgress) : Prop where
  read : readScenarioJournal directory request start.document.owner =
    .ok (some { start.document with nodes := nodes })
  last : nodes = run.journal.document.nodes ∨
    ∃ journal, outcomeOf run call = .ok journal ∧ nodes = journal.document.nodes
  sent : ∀ caseId ∈ run.sent, ∀ index node, start.nodeIndex caseId = some index → nodes[index]? = some node →
    node.request ≠ .NOT_STARTED
  versions : ∀ index < nodes.length, ∃ count ≤ 66, directory.versionsOf index = List.range' 1 count

theorem kept_readable {request : ExecutionRequest} {journal : ScenarioJournal} (started : Started journal.document)
    (valid : journal.document.validateRequest request = .ok ()) (kept : Kept journal.document run)
    (allowed : enabled run call = true) (done : Nat) :
    ∃ nodes, Readable request journal run call (Runs.crash run call done) nodes := by
  rcases kept.crash allowed done with holds | ⟨next, outcome, holds⟩
  · refine ⟨run.journal.document.nodes, holds.read started valid, .inl rfl, ?_, ?_⟩
    · intro caseId listed index node found here
      have places := (holds_nodeIndex kept.holds caseId).trans found
      exact kept.sent caseId listed index node places here
    · intro index inside
      exact holds_versions holds kept.counted inside
  · have after := kept.after allowed
    obtain ⟨journal', sent⟩ := after_journal outcome
    refine ⟨next.document.nodes, holds.read started valid, .inr ⟨next, outcome, rfl⟩, ?_, ?_⟩
    · intro caseId listed index node found here
      have places := (holds_nodeIndex holds caseId).trans found
      rw [← journal'] at places here
      exact after.sent caseId (sent ▸ listed) index node places here
    · intro index inside
      have counted := after.counted
      rw [journal'] at counted
      exact holds_versions holds counted inside

end Runs

/-- A journal that was opened is readable wherever its attempt ends, forgets no request that may have been
sent, and records an intent once. -/
theorem journal_readable_after_crash {request : ExecutionRequest} {owner : AttemptReference} {now : Moment}
    {journal : ScenarioJournal} {operations : List FileOp}
    (opened : openJournal request owner now = .ok (journal, operations))
    (attempt : owner.attempt < 2 ^ 64) (fencingToken : owner.fencingToken < 2 ^ 64) (actions : List Action)
    (call : RecordCall) (allowed : enabled (Transition.run step (begun journal operations) actions) call = true)
    (done : Nat) :
    let run := Transition.run step (begun journal operations) actions
    (∃ nodes, Readable request journal run call (Runs.crash run call done) nodes) ∧
      (∀ index < journal.document.nodes.length, intentsOf run.recorded index ≤ 1) ∧
      ∀ index < journal.document.nodes.length, ∀ caseId,
        run.recorded.count (index, caseId, .RECOVERY_INTENT) ≤ 1 := by
  intro run
  obtain ⟨scenario, opening⟩ := openJournal_ok opened
  have started := opening.started now.property attempt fencingToken
  have kept : Kept journal.document run := run_kept (opening.kept started) actions
  have inside : ∀ index < journal.document.nodes.length, ∃ node, run.journal.document.nodes[index]? = some node ∧
      node.association = .ok () := by
    intro index short
    have inNodes : index < run.journal.document.nodes.length := kept.holds.length ▸ short
    have here : run.journal.document.nodes[index]? = some run.journal.document.nodes[index] :=
      List.getElem?_eq_getElem inNodes
    have first : journal.document.nodes[index]? = some journal.document.nodes[index] := List.getElem?_eq_getElem short
    exact ⟨_, here, (kept.holds.stored index _ _ here first).valid⟩
  refine ⟨kept_readable started opening.matches_request kept allowed done, ?_, ?_⟩
  · intro index short
    obtain ⟨node, here, -⟩ := inside index short
    rw [kept.intents index node here]
    split <;> omega
  · intro index short caseId
    obtain ⟨node, here, valid⟩ := inside index short
    rw [kept.recoveries index node caseId here]
    exact List.nodup_iff_count_le_one.mp (associated valid).distinct.2.1 caseId

section Sample

def sampleCaseId : String := "case_0123456789abcdef0123456789abcdef"

def sampleDigest : String := "0123456789abcdef0123456789abcdef0123456789abcdef0123456789abcdef"

/-- One experiment with one invocation of one case. -/
def sampleScenario : FrozenBusinessScenario where
  document :=
    { id := "scenario"
      projectId := "project"
      revision := 1
      label := "Scenario"
      description := ""
      experiments := [{ id := "experiment"
                        label := "Experiment"
                        kind := .NORMAL
                        controlExperimentId := none
                        invocations := [{ id := "invocation"
                                          label := "Invocation"
                                          items := [{ id := "item"
                                                      permission := { intentId := "intent", revision := 1, intentHash := "" }
                                                      subjectIdentityId := none
                                                      resourceId := "resource"
                                                      resourceFrom := none }]
                                          batch := none
                                          dependsOn := [] }] }] }
  fingerprint := sampleDigest
  invocations := [{ experimentId := "experiment", invocationId := "invocation", caseIds := [sampleCaseId] }]

def sampleRequest : ExecutionRequest where
  projectId := "project"
  sourceFingerprint := none
  policyEpoch := 0
  engineVersion := "1"
  planFingerprint := ""
  actions := []
  configFingerprint := ""
  budgetFingerprint := ""
  scenario := some sampleScenario

def sampleOwner : AttemptReference where
  runId := "run_0123456789abcdef0123456789abcdef"
  jobId := "job_0123456789abcdef0123456789abcdef"
  attempt := 1
  fencingToken := 1
  requestHash := sampleDigest

def sampleMoment : Moment := ⟨100, by decide⟩

def sampleJournal : ScenarioJournal where
  document :=
    { owner := sampleOwner
      scenarioFingerprint := sampleDigest
      nodes := [{ experimentId := "experiment"
                  invocationId := "invocation"
                  experimentLabel := "Experiment"
                  invocationLabel := "Invocation"
                  caseIds := [sampleCaseId]
                  observedAtUs := 100 }] }

def sampleOperations : List FileOp := [.makeFragments, .openJournal, .writeJournal sampleJournal.document.dump]

/-- The intent is saved and the request handed over. -/
def sampleActions : List Action :=
  [.record { caseId := sampleCaseId, event := .INTENT_SAVED, now := sampleMoment }, .send]

def sampleAnswer : RecordCall where
  caseId := sampleCaseId
  event := .RECEIVED
  now := sampleMoment

theorem sample_opened : openJournal sampleRequest sampleOwner sampleMoment = .ok (sampleJournal, sampleOperations) := by
  rfl

/-- The attempt ends while the answer is being written. -/
theorem sample_readable :
    ∃ nodes, Readable sampleRequest sampleJournal
      (Transition.run step (begun sampleJournal sampleOperations) sampleActions) sampleAnswer
      (Runs.crash (Transition.run step (begun sampleJournal sampleOperations) sampleActions) sampleAnswer 2) nodes :=
  (journal_readable_after_crash sample_opened (by decide) (by decide) sampleActions sampleAnswer (by decide) 2).1

end Sample

end Jiejian.Execution.AfterCrash
