import Jiejian.Execution.Journal
import Jiejian.Library.Sizes

namespace Jiejian.Execution.Progress

open Library Library.Document Library.Outcome Library.Reading Library.Sizes Library.Sorting Errors
open Protocol.Codec Protocol.Scenarios Protocol.Requests Journal

section Nodes

variable {node : ScenarioNodeProgress}

/-- A written node is read back. -/
theorem nodeOf_dump (node : ScenarioNodeProgress) : nodeOf node.dump = some node := by
  have words : word requestWords NodeRequest.value (.str node.request.value) = some node.request := by
    cases node.request <;> rfl
  have texts : ∀ values, items text (strings values) = some values := reads_items reads_text
  have numbers : Reading.natural (.int node.observedAtUs) = some node.observedAtUs := reads_natural _
  simp [nodeOf, ScenarioNodeProgress.dump, field, fieldOr, words, texts, numbers, text, Protocol.Codec.natural, hasOnly,
    nodeFields]

theorem readNode_dump (valid : node.association = .ok ()) : readNode (some node.dump) = .ok node := by
  unfold readNode
  rw [Option.bind_some, nodeOf_dump]
  exact bind_eq_ok.mpr ⟨node, rfl, bind_eq_ok.mpr ⟨(), valid, rfl⟩⟩

/-- What the validator of a node guarantees. -/
structure Associated (node : ScenarioNodeProgress) : Prop where
  experiment : node.experimentId.length ≤ 64
  invocation : node.invocationId.length ≤ 64
  experimentLabel : node.experimentLabel.length ≤ 128
  invocationLabel : node.invocationLabel.length ≤ 128
  cases : node.caseIds.length ≤ 32
  distinct : node.caseIds.Nodup ∧ node.recoveryIntents.Nodup ∧ node.recoveredCases.Nodup
  named : ∀ key, key ∈ node.caseIds ∨ key ∈ node.recoveryIntents ∨ key ∈ node.recoveredCases → isCaseId key = true
  recovered : node.recoveredCases ⊆ node.recoveryIntents
  inside : node.recoveryIntents ⊆ node.caseIds
  started : node.request = .NOT_STARTED → node.recoveryIntents = []

theorem associated (valid : node.association = .ok ()) : Associated node := by
  unfold ScenarioNodeProgress.association at valid
  simp only [bind_eq_ok, require_eq_ok, bounded, Bool.and_eq_true, decide_eq_true_eq, distinctCases] at valid
  obtain ⟨_, lengths, _, cases', _, recovery, started⟩ := valid
  have listed := cases' node.caseIds (by simp)
  have intents := cases' node.recoveryIntents (by simp)
  have recovered := cases' node.recoveredCases (by simp)
  refine ⟨lengths.1.2, lengths.2.1.2, lengths.2.2.1.2, lengths.2.2.2.1.2, lengths.2.2.2.2.2,
    ⟨listed.1, intents.1, recovered.1⟩, ?_, recovery.1, recovery.2, started⟩
  rintro key (here | here | here)
  · exact listed.2 key here
  · exact intents.2 key here
  · exact recovered.2 key here

/-- Every list of cases of a node is as short as the list of its cases. -/
theorem Associated.intents_length (valid : Associated node) : node.recoveryIntents.length ≤ 32 :=
  (valid.distinct.2.1.subperm valid.inside).length_le.trans valid.cases

theorem Associated.recovered_length (valid : Associated node) : node.recoveredCases.length ≤ 32 :=
  (valid.distinct.2.2.subperm valid.recovered).length_le.trans valid.intents_length

theorem hexDigit_plain {char : Char} (digit : isHexDigit char = true) : escapedSize char = 1 := by
  simp only [isHexDigit, Bool.or_eq_true, Bool.and_eq_true, decide_eq_true_eq] at digit
  have code : 48 ≤ char.toNat ∧ char.toNat ≤ 57 ∨ 97 ≤ char.toNat ∧ char.toNat ≤ 102 := digit
  have special : char ∉ ['"', '\\', '\n', '\r', '\t', '\x08', '\x0c'] := by
    intro listed
    simp only [List.mem_cons, List.not_mem_nil, or_false] at listed
    rcases listed with rfl | rfl | rfl | rfl | rfl | rfl | rfl <;> simp at code
  have bytes : char.utf8Size = 1 := by
    have small : char.val ≤ 0x7f := by
      have bound : char.val.toNat ≤ 0x7f := by
        have same : char.toNat = char.val.toNat := rfl
        omega
      exact bound
    simp [Char.utf8Size, small]
  unfold escapedSize
  rw [if_neg special, if_neg (by omega), bytes]

theorem hexName_plain {letters text : String} {count : Nat} (plain : Plain letters)
    (named : isHexName letters count text = true) : Plain text ∧ text.length = letters.length + count := by
  simp only [isHexName, Bool.and_eq_true, decide_eq_true_eq, List.all_eq_true] at named
  obtain ⟨⟨starts, length⟩, digits⟩ := named
  have split : letters.toList ++ text.toList.drop letters.toList.length = text.toList :=
    List.prefix_iff_eq_append.mp (List.isPrefixOf_iff_prefix.mp starts)
  refine ⟨?_, by simpa [String.length_toList] using length⟩
  intro char member
  rw [← split] at member
  rcases List.mem_append.mp member with here | here
  · exact plain char here
  · exact hexDigit_plain (digits char here)

theorem caseId_size {key : String} (named : isCaseId key = true) : quotedSize key ≤ 39 := by
  have letters : Plain "case_" := plain_of_all (by decide)
  obtain ⟨plain, length⟩ := hexName_plain letters named
  have size := quotedSize_plain plain
  have prefixed : "case_".length = 5 := by decide
  omega

theorem strings_size {values : List String} (named : ∀ key ∈ values, isCaseId key = true)
    (few : values.length ≤ 32) : (strings values).encodedSize ≤ 1282 := by
  have each : ∀ value ∈ values.map Json.str, value.encodedSize ≤ 39 := by
    intro value member
    obtain ⟨key, listed, rfl⟩ := List.mem_map.mp member
    rw [Json.encodedSize]
    exact caseId_size (named key listed)
  have total := encodedItems_le each
  rw [List.length_map] at total
  rw [strings, Json.encodedSize]
  omega

/-- A node that was never recovered is written in less than 3800 bytes, any node in less than 6400. -/
theorem node_size (valid : Associated node) (clock : node.observedAtUs < 2 ^ 64) :
    node.dump.encodedSize ≤ 6400 ∧
      (node.recoveryIntents = [] → node.recoveredCases = [] → node.dump.encodedSize ≤ 3800) := by
  have experiment := quotedSize_le node.experimentId
  have invocation := quotedSize_le node.invocationId
  have experimentLabel := quotedSize_le node.experimentLabel
  have invocationLabel := quotedSize_le node.invocationLabel
  have cases' := strings_size (fun key member => valid.named key (.inl member)) valid.cases
  have intents := strings_size (fun key member => valid.named key (.inr (.inl member))) valid.intents_length
  have recovered := strings_size (fun key member => valid.named key (.inr (.inr member))) valid.recovered_length
  have moment := encodedSize_natural clock
  have request : quotedSize node.request.value ≤ 14 := by
    cases node.request <;> decide
  have names : quotedSize "experiment_id" = 15 ∧ quotedSize "invocation_id" = 15 ∧
      quotedSize "experiment_label" = 18 ∧ quotedSize "invocation_label" = 18 ∧ quotedSize "case_ids" = 10 ∧
      quotedSize "request" = 9 ∧ quotedSize "recovery_intents" = 18 ∧ quotedSize "recovered_cases" = 17 ∧
      quotedSize "observed_at_us" = 16 := by decide
  obtain ⟨name1, name2, name3, name4, name5, name6, name7, name8, name9⟩ := names
  have lengths := valid.experiment
  have lengths2 := valid.invocation
  have lengths3 := valid.experimentLabel
  have lengths4 := valid.invocationLabel
  have written : node.dump.encodedSize = 2 + (15 + 1 + quotedSize node.experimentId + 1 +
      (15 + 1 + quotedSize node.invocationId + 1 + (18 + 1 + quotedSize node.experimentLabel + 1 +
      (18 + 1 + quotedSize node.invocationLabel + 1 + (10 + 1 + (strings node.caseIds).encodedSize + 1 +
      (9 + 1 + quotedSize node.request.value + 1 + (18 + 1 + (strings node.recoveryIntents).encodedSize + 1 +
      (17 + 1 + (strings node.recoveredCases).encodedSize + 1 +
      (16 + 1 + (Json.int node.observedAtUs).encodedSize))))))))) := by
    simp only [ScenarioNodeProgress.dump, Json.encodedSize, encodedEntries, name1, name2, name3, name4, name5, name6,
      name7, name8, name9, Protocol.Codec.natural]
  constructor
  · omega
  · intro fresh fresh'
    have empty : (strings []).encodedSize = 2 := rfl
    rw [fresh, fresh', empty] at written
    omega

end Nodes

section Documents

variable {journal : ScenarioExecutionJournal}

theorem journalOf_dump (journal : ScenarioExecutionJournal) : journalOf journal.dump = some journal := by
  have nodes : items nodeOf (.list (journal.nodes.map (·.dump))) = some journal.nodes :=
    reads_items nodeOf_dump journal.nodes
  have attempts : Reading.natural (.int journal.owner.attempt) = some journal.owner.attempt := reads_natural _
  have tokens : Reading.natural (.int journal.owner.fencingToken) = some journal.owner.fencingToken := reads_natural _
  simp [journalOf, ScenarioExecutionJournal.dump, field, fieldOr, nodes, attempts, tokens, text,
    Protocol.Codec.natural, hasOnly, journalFields]

/-- A document that a writer may start from. -/
structure Started (journal : ScenarioExecutionJournal) : Prop where
  nodes : ∀ node ∈ journal.nodes, node.association = .ok ()
  unique : journal.uniqueNodes = .ok ()
  fresh : ∀ node ∈ journal.nodes, node.request = .NOT_STARTED ∧ node.recoveryIntents = [] ∧ node.recoveredCases = []
  clock : ∀ node ∈ journal.nodes, node.observedAtUs < 2 ^ 64
  attempt : journal.owner.attempt < 2 ^ 64
  fencingToken : journal.owner.fencingToken < 2 ^ 64

theorem readJournal_dump (started : Started journal) : readJournal (some journal.dump) = .ok journal := by
  unfold readJournal
  rw [Option.bind_some, journalOf_dump]
  refine bind_eq_ok.mpr ⟨journal, rfl, bind_eq_ok.mpr ⟨(), forM_eq_ok.mpr started.nodes, ?_⟩⟩
  exact bind_eq_ok.mpr ⟨(), started.unique, rfl⟩

/-- The first document of an attempt fits into its file. -/
theorem journal_size (started : Started journal) : journal.dump.encodedSize ≤ 1048576 := by
  have unique := started.unique
  unfold ScenarioExecutionJournal.uniqueNodes at unique
  simp only [bind_eq_ok, require_eq_ok, bounded, Bool.and_eq_true, decide_eq_true_eq] at unique
  obtain ⟨_, ⟨runName, jobName, hashName, fingerprintName, -, -, -, few⟩, -⟩ := unique
  have empty : Plain "" := plain_of_all (by decide)
  have runLetters : Plain "run_" := plain_of_all (by decide)
  have jobLetters : Plain "job_" := plain_of_all (by decide)
  obtain ⟨runPlain, runLength⟩ := hexName_plain runLetters runName
  obtain ⟨jobPlain, jobLength⟩ := hexName_plain jobLetters jobName
  obtain ⟨hashPlain, hashLength⟩ := hexName_plain empty hashName
  obtain ⟨fingerprintPlain, fingerprintLength⟩ := hexName_plain empty fingerprintName
  have run := quotedSize_plain runPlain
  have job := quotedSize_plain jobPlain
  have hash := quotedSize_plain hashPlain
  have fingerprint := quotedSize_plain fingerprintPlain
  have letters : "run_".length = 4 ∧ "job_".length = 4 ∧ "".length = 0 := by decide
  have attempt := encodedSize_natural started.attempt
  have fencingToken := encodedSize_natural started.fencingToken
  have each : ∀ value ∈ journal.nodes.map (·.dump), value.encodedSize ≤ 3800 := by
    intro value member
    obtain ⟨node, listed, rfl⟩ := List.mem_map.mp member
    obtain ⟨-, intents, recovered⟩ := started.fresh node listed
    exact (node_size (associated (started.nodes node listed)) (started.clock node listed)).2 intents recovered
  have nodes := encodedItems_le each
  rw [List.length_map] at nodes
  have names : quotedSize "document_type" = 15 ∧ quotedSize "jiejian.scenario-execution" = 28 ∧
      quotedSize "schema_version" = 16 ∧ quotedSize "1" = 3 ∧ quotedSize "run_id" = 8 ∧ quotedSize "job_id" = 8 ∧
      quotedSize "attempt" = 9 ∧ quotedSize "fencing_token" = 15 ∧ quotedSize "request_hash" = 14 ∧
      quotedSize "scenario_fingerprint" = 22 ∧ quotedSize "nodes" = 7 := by decide
  obtain ⟨name1, name2, name3, name4, name5, name6, name7, name8, name9, name10, name11⟩ := names
  have written : journal.dump.encodedSize = 2 + (15 + 1 + 28 + 1 + (16 + 1 + 3 + 1 +
      (8 + 1 + quotedSize journal.owner.runId + 1 + (8 + 1 + quotedSize journal.owner.jobId + 1 +
      (9 + 1 + (Json.int journal.owner.attempt).encodedSize + 1 +
      (15 + 1 + (Json.int journal.owner.fencingToken).encodedSize + 1 +
      (14 + 1 + quotedSize journal.owner.requestHash + 1 +
      (22 + 1 + quotedSize journal.scenarioFingerprint + 1 +
      (7 + 1 + (2 + encodedItems (journal.nodes.map (·.dump))))))))))))  := by
    simp only [ScenarioExecutionJournal.dump, Json.encodedSize, encodedEntries, name1, name2, name3, name4, name5, name6,
      name7, name8, name9, name10, name11, Protocol.Codec.natural]
  omega

/-- Two states of one node. -/
def SameNode (first second : ScenarioNodeProgress) : Prop :=
  (first.experimentId, first.invocationId, first.caseIds, first.experimentLabel, first.invocationLabel) =
    (second.experimentId, second.invocationId, second.caseIds, second.experimentLabel, second.invocationLabel)

/-- The directory holds the given number of versions of a node, and the last is this one. -/
structure Stored (directory : AttemptDir) (index version : Nat) (initial node : ScenarioNodeProgress) : Prop where
  versions : directory.versionsOf index = List.range' 1 version
  last : version ≠ 0 → Table.lookup Prod.fst directory.fragments (index, version) =
    some ((index, version), some node.dump)
  first : version = 0 → node = initial
  few : version ≤ 68
  valid : node.association = .ok ()
  clock : node.observedAtUs < 2 ^ 64
  same : SameNode node initial

theorem foldl_max_range (version : Nat) : (List.range' 1 version).foldl max 0 = version := by
  induction version with
  | zero => rfl
  | succ version ih =>
    rw [List.range'_concat, List.foldl_append, ih]
    simp only [List.foldl_cons, List.foldl_nil]
    omega

theorem range_ordered (version : Nat) : sortedBy id (List.range' 1 version) = List.range' 1 version := by
  apply sortedBy_eq_self
  exact List.pairwise_le_range'

/-- A stored node is read back. -/
theorem readFragment_stored {directory : AttemptDir} {index version : Nat} {initial node : ScenarioNodeProgress}
    (stored : Stored directory index version initial node) (single : directory.single = []) :
    readFragment directory initial index = .ok node := by
  unfold readFragment
  rw [stored.versions]
  refine bind_eq_ok.mpr ⟨(), require_eq_ok.mpr ⟨by simpa using stored.few, ?_⟩, ?_⟩
  · rw [range_ordered, List.length_range']
  by_cases fresh : version = 0
  · have file : directory.fragmentOf index = none := by
      unfold AttemptDir.fragmentOf
      rw [stored.versions, fresh, single]
      rfl
    rw [file, stored.first fresh]
    rfl
  · have nonempty : List.range' 1 version ≠ [] := by
      intro empty
      have lengths := congrArg List.length empty
      rw [List.length_range'] at lengths
      exact fresh lengths
    have file : directory.fragmentOf index = some (some node.dump) := by
      unfold AttemptDir.fragmentOf
      rw [stored.versions, if_neg nonempty, foldl_max_range, stored.last fresh]
      rfl
    have small := (node_size (associated stored.valid) stored.clock).1
    rw [file]
    dsimp only
    refine bind_eq_ok.mpr ⟨(), require_eq_ok.mpr (small.trans (by decide)), ?_⟩
    refine bind_eq_ok.mpr ⟨node, readNode_dump stored.valid, ?_⟩
    exact bind_eq_ok.mpr ⟨(), require_eq_ok.mpr stored.same, rfl⟩

/-- The directory holds the document the attempt started from, and these nodes after it. -/
structure Holds (directory : AttemptDir) (start : ScenarioExecutionJournal) (nodes : List ScenarioNodeProgress)
    (versions : Nat → Nat) : Prop where
  written : directory.journal = some (some start.dump)
  created : directory.hasFragments = true
  single : directory.single = []
  length : nodes.length = start.nodes.length
  stored : ∀ index node initial, nodes[index]? = some node → start.nodes[index]? = some initial →
    Stored directory index (versions index) initial node

/-- What the directory holds is what its reader returns. -/
theorem Holds.read {directory : AttemptDir} {start : ScenarioExecutionJournal} {nodes : List ScenarioNodeProgress}
    {versions : Nat → Nat} {request : ExecutionRequest} (holds : Holds directory start nodes versions)
    (started : Started start) (valid : start.validateRequest request = .ok ()) :
    readScenarioJournal directory request start.owner = .ok (some { start with nodes := nodes }) := by
  have passed : (start.nodes.zipIdx.mapM fun entry => readFragment directory entry.1 entry.2) = .ok nodes := by
    apply mapM_eq_ok_iff.mpr
    apply List.forall₂_iff_get.mpr
    refine ⟨by rw [List.length_zipIdx, holds.length], ?_⟩
    intro index inStart inNodes
    have inside : index < start.nodes.length := by simpa using inStart
    have initial : start.nodes[index]? = some start.nodes[index] := List.getElem?_eq_getElem inside
    have node : nodes[index]? = some nodes[index] := List.getElem?_eq_getElem inNodes
    have read := readFragment_stored (holds.stored index _ _ node initial) holds.single
    simpa using read
  unfold readScenarioJournal
  rw [holds.written]
  dsimp only
  have fits : ¬ Journal.sizeOf (some start.dump) > 1048576 := not_lt.mpr (journal_size started)
  rw [if_neg fits]
  refine bind_eq_ok.mpr ⟨start, readJournal_dump started, bind_eq_ok.mpr ⟨(), require_eq_ok.mpr rfl, ?_⟩⟩
  refine bind_eq_ok.mpr ⟨(), valid, bind_eq_ok.mpr ⟨(), require_eq_ok.mpr holds.created, ?_⟩⟩
  exact bind_eq_ok.mpr ⟨nodes, passed, rfl⟩

end Documents

end Jiejian.Execution.Progress
