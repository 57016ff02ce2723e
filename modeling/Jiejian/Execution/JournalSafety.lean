import Jiejian.Execution.Progress
import Jiejian.Execution.Runs

namespace Jiejian.Execution.JournalSafety

open Library Library.Outcome Library.Transition Library.Document Errors
open Protocol.Scenarios Protocol.Requests Journal Progress Runs

section Files

variable {directory : AttemptDir} {name : Nat × Nat} {content : Json}

/-- What any part of a write leaves as it was, and what it may have done to the fragments. -/
structure Written (directory result : AttemptDir) (fragments : List ((Nat × Nat) × Option Json)) : Prop where
  journal : result.journal = directory.journal
  created : result.hasFragments = directory.hasFragments
  single : result.single = directory.single
  fragments : result.fragments = fragments

/-- A whole write that did not fail has put its fragment there, one that failed has not. -/
theorem write_whole (directory : AttemptDir) (name : Nat × Nat) (content : Json) (failure : Option FileFailure) :
    Written directory (applyAll directory (writeOperations name content failure))
      (if failure = none then Table.put Prod.fst directory.fragments (name, some content)
        else directory.fragments) := by
  have temporary : Table.lookup Prod.fst (Table.put Prod.fst (Table.put Prod.fst directory.temporary (name, none))
      (name, some content)) name = some (name, some content) := Table.lookup_put_self _ _
  cases failure with
  | none =>
    simp only [writeOperations, applyAll, List.foldl, FileOp.apply, temporary, if_true]
    exact ⟨rfl, rfl, rfl, rfl⟩
  | some stage => cases stage <;> exact ⟨rfl, rfl, rfl, rfl⟩

/-- A write that stops anywhere leaves the fragments as they were, or it has put its whole fragment there. -/
theorem write_cut (directory : AttemptDir) (name : Nat × Nat) (content : Json) (failure : Option FileFailure)
    (done : Nat) :
    Written directory (applyAll directory ((writeOperations name content failure).take done)) directory.fragments ∨
      failure = none ∧ Written directory (applyAll directory ((writeOperations name content failure).take done))
        (Table.put Prod.fst directory.fragments (name, some content)) := by
  have whole := write_whole directory name content failure
  by_cases ended : (writeOperations name content failure).length ≤ done
  · rw [List.take_of_length_le ended]
    by_cases succeeded : failure = none
    · rw [if_pos succeeded] at whole
      exact .inr ⟨succeeded, whole⟩
    · rw [if_neg succeeded] at whole
      exact .inl whole
  have temporary : Table.lookup Prod.fst (Table.put Prod.fst (Table.put Prod.fst directory.temporary (name, none))
      (name, some content)) name = some (name, some content) := Table.lookup_put_self _ _
  cases failure with
  | none =>
    have short : done < 4 := not_le.mp ended
    -- before the replacement only the temporary file has changed
    by_cases replaced : done = 3
    · right
      subst replaced
      simp only [writeOperations, applyAll, List.take, List.foldl, FileOp.apply, temporary]
      exact ⟨trivial, rfl, rfl, rfl, rfl⟩
    · left
      have early : done = 0 ∨ done = 1 ∨ done = 2 := by omega
      rcases early with rfl | rfl | rfl <;> exact ⟨rfl, rfl, rfl, rfl⟩
  | some stage =>
    left
    have short : done < 3 := by
      cases stage <;> simp [writeOperations] at ended <;> omega
    have early : done = 0 ∨ done = 1 ∨ done = 2 := by omega
    cases stage <;> rcases early with rfl | rfl | rfl <;> exact ⟨rfl, rfl, rfl, rfl⟩

end Files
section Nodes

variable {directory result : AttemptDir} {start : ScenarioExecutionJournal} {nodes : List ScenarioNodeProgress}
  {versions : Nat → Nat} {index : Nat} {node next : ScenarioNodeProgress}

theorem unwritten_holds (holds : Holds directory start nodes versions)
    (written : Written directory result directory.fragments) : Holds result start nodes versions := by
  refine ⟨written.journal.trans holds.written, written.created.trans holds.created,
    written.single.trans holds.single, holds.length, ?_⟩
  intro index node initial here first
  have stored := holds.stored index node initial here first
  refine ⟨?_, ?_, stored.first, stored.few, stored.valid, stored.clock, stored.same⟩
  · rw [AttemptDir.versionsOf, written.fragments]
    exact stored.versions
  · rw [written.fragments]
    exact stored.last

/-- The next version of a node has no file yet. -/
theorem fresh_version {version : Nat} {fragments : List ((Nat × Nat) × Option Json)}
    (versions : ((fragments.filter fun file => file.1.1 = index).map fun file => file.1.2) = List.range' 1 version) :
    (index, version + 1) ∉ fragments.map Prod.fst := by
  intro taken
  obtain ⟨file, stored, named⟩ := List.mem_map.mp taken
  have listed : file.1.2 ∈ (fragments.filter fun file => file.1.1 = index).map fun file => file.1.2 := by
    apply List.mem_map_of_mem
    rw [List.mem_filter]
    exact ⟨stored, by simp [named]⟩
  rw [versions, List.mem_range', named] at listed
  obtain ⟨offset, inside, same⟩ := listed
  simp only at same
  omega

/-- A fragment of the next version continues the history of its node and of no other. -/
theorem written_holds (holds : Holds directory start nodes versions) (here : nodes[index]? = some node)
    (written : Written directory result
      (Table.put Prod.fst directory.fragments ((index, versions index + 1), some next.dump)))
    (few : versions index + 1 ≤ 68) (valid : next.association = .ok ()) (clock : next.observedAtUs < 2 ^ 64)
    (same : SameNode next node) :
    Holds result start (nodes.set index next) (Function.update versions index (versions index + 1)) := by
  have inside : index < nodes.length := (List.getElem?_eq_some_iff.mp here).1
  have inStart : index < start.nodes.length := holds.length ▸ inside
  have started : start.nodes[index]? = some start.nodes[index] := List.getElem?_eq_getElem inStart
  have before := holds.stored index node _ here started
  have fresh := fresh_version before.versions
  have appended : result.fragments =
      directory.fragments ++ [((index, versions index + 1), some next.dump)] :=
    written.fragments.trans (Table.put_fresh fresh)
  refine ⟨written.journal.trans holds.written, written.created.trans holds.created,
    written.single.trans holds.single, (List.length_set ..).trans holds.length, ?_⟩
  intro position other initial there first
  by_cases same' : position = index
  · subst same'
    rw [List.getElem?_set_self inside] at there
    cases Option.some.inj there
    rw [started] at first
    cases Option.some.inj first
    rw [Function.update_self]
    refine ⟨?_, ?_, by omega, few, valid, clock, same.trans before.same⟩
    · have versions' := before.versions
      unfold AttemptDir.versionsOf at versions' ⊢
      rw [appended, List.filter_append, List.map_append, versions', List.range'_concat]
      simp
      omega
    · intro _
      rw [written.fragments]
      exact Table.lookup_put_self _ _
  · rw [List.getElem?_set_ne (Ne.symm same')] at there
    have stored := holds.stored position other initial there first
    rw [Function.update_of_ne same']
    refine ⟨?_, ?_, stored.first, stored.few, stored.valid, stored.clock, stored.same⟩
    · have versions' := stored.versions
      unfold AttemptDir.versionsOf at versions' ⊢
      rw [appended, List.filter_append, List.map_append, versions']
      simp [Ne.symm same']
    · intro nonzero
      have last := stored.last nonzero
      rw [appended, Table.lookup, List.find?_append]
      unfold Table.lookup at last
      rw [last]
      rfl

end Nodes

section Events

variable {node next : ScenarioNodeProgress} {caseId : String} {event : JournalEvent} {now : Nat}

/-- Everything an event can do to a node. -/
theorem advance_cases (advanced : node.advance caseId event now = .ok next) :
    next.association = .ok () ∧
      ((event = .INTENT_SAVED ∧ node.request = .NOT_STARTED ∧
          next = { node with observedAtUs := now, request := .INTENT_SAVED }) ∨
        (event = .RECEIVED ∧ next = { node with observedAtUs := now, request := .RECEIVED }) ∨
        (event = .UNCONFIRMED ∧ next = { node with observedAtUs := now, request := .UNCONFIRMED }) ∨
        (event = .RECOVERY_INTENT ∧
          next = { node with observedAtUs := now, recoveryIntents := node.recoveryIntents ++ [caseId] }) ∨
        (event = .RECOVERED ∧
          next = { node with observedAtUs := now, recoveredCases := node.recoveredCases ++ [caseId] })) := by
  have checked : ∀ {candidate : ScenarioNodeProgress},
      (do candidate.association.mapError JournalError.Invalid; return candidate) = Except.ok next →
        next.association = .ok () ∧ next = candidate := by
    intro candidate passed
    obtain ⟨_, valid, returned⟩ := bind_eq_ok.mp passed
    have same : next = candidate := (Except.ok.inj returned).symm
    refine ⟨?_, same⟩
    rw [same]
    cases outcome : candidate.association with
    | error raised =>
      rw [outcome] at valid
      exact nomatch valid
    | ok passed' => rfl
  unfold ScenarioNodeProgress.advance at advanced
  cases event with
  | INTENT_SAVED =>
    by_cases started : node.request ≠ .NOT_STARTED
    · simp only [if_pos started] at advanced
      exact nomatch advanced
    · simp only [if_neg started] at advanced
      obtain ⟨valid, same⟩ := checked advanced
      exact ⟨valid, .inl ⟨rfl, not_not.mp started, same⟩⟩
  | RECEIVED =>
    obtain ⟨valid, same⟩ := checked advanced
    exact ⟨valid, .inr (.inl ⟨rfl, same⟩)⟩
  | UNCONFIRMED =>
    obtain ⟨valid, same⟩ := checked advanced
    exact ⟨valid, .inr (.inr (.inl ⟨rfl, same⟩))⟩
  | RECOVERY_INTENT =>
    by_cases listed : caseId ∈ node.recoveryIntents
    · simp only [if_pos listed] at advanced
      exact nomatch advanced
    · simp only [if_neg listed] at advanced
      obtain ⟨valid, same⟩ := checked advanced
      exact ⟨valid, .inr (.inr (.inr (.inl ⟨rfl, same⟩)))⟩
  | RECOVERED =>
    obtain ⟨valid, same⟩ := checked advanced
    exact ⟨valid, .inr (.inr (.inr (.inr ⟨rfl, same⟩)))⟩

/-- No event changes what a node is about. -/
theorem advance_same (advanced : node.advance caseId event now = .ok next) :
    SameNode next node ∧ next.observedAtUs = now := by
  rcases (advance_cases advanced).2 with ⟨-, -, rfl⟩ | ⟨-, rfl⟩ | ⟨-, rfl⟩ | ⟨-, rfl⟩ | ⟨-, rfl⟩ <;>
    exact ⟨rfl, rfl⟩

/-- No event takes a saved intent back. -/
theorem advance_started (advanced : node.advance caseId event now = .ok next) (started : node.request ≠ .NOT_STARTED) :
    next.request ≠ .NOT_STARTED := by
  rcases (advance_cases advanced).2 with ⟨-, -, rfl⟩ | ⟨-, rfl⟩ | ⟨-, rfl⟩ | ⟨-, rfl⟩ | ⟨-, rfl⟩
  · exact nofun
  · exact nofun
  · exact nofun
  · exact started
  · exact started

/-- How often a state has been reached through its request. -/
def requestEvents : NodeRequest → Nat
  | .NOT_STARTED => 0
  | .INTENT_SAVED => 1
  | .RECEIVED | .UNCONFIRMED => 2

/-- The number of events that lead to a node. -/
def eventCount (node : ScenarioNodeProgress) : Nat :=
  requestEvents node.request + node.recoveryIntents.length + node.recoveredCases.length

/-- Two events of the request and two for each of at most 32 cases. -/
theorem eventCount_le (valid : node.association = .ok ()) : eventCount node ≤ 66 := by
  have intents := (associated valid).intents_length
  have recovered := (associated valid).recovered_length
  have events : requestEvents node.request ≤ 2 := by
    cases node.request <;> decide
  unfold eventCount
  omega

/-- An answer is only recorded over a saved intent. -/
def Answers (node : ScenarioNodeProgress) (event : JournalEvent) : Prop :=
  event = .RECEIVED ∨ event = .UNCONFIRMED → node.request = .INTENT_SAVED

theorem advance_count (advanced : node.advance caseId event now = .ok next) (answers : Answers node event) :
    eventCount next = eventCount node + 1 := by
  rcases (advance_cases advanced).2 with ⟨-, fresh, rfl⟩ | ⟨rfl, rfl⟩ | ⟨rfl, rfl⟩ | ⟨-, rfl⟩ | ⟨-, rfl⟩
  · simp only [eventCount, fresh, requestEvents]
    omega
  · have saved := answers (.inl rfl)
    simp only [eventCount, saved, requestEvents]
    omega
  · have saved := answers (.inr rfl)
    simp only [eventCount, saved, requestEvents]
    omega
  · simp only [eventCount, List.length_append, List.length_singleton]
    omega
  · simp only [eventCount, List.length_append, List.length_singleton]
    omega

end Events

section Calls

variable {journal : ScenarioJournal} {caseId : String} {event : JournalEvent} {now : Nat}
  {failure : Option FileFailure}

/-- The journal after an event was written. -/
def advancedTo (journal : ScenarioJournal) (index : Nat) (next : ScenarioNodeProgress) : ScenarioJournal :=
  { document := { journal.document with nodes := journal.document.nodes.set index next }
    versions := Function.update journal.versions index (journal.versions index + 1) }

/-- A call writes nothing, or it writes the next version of the node of its case. -/
theorem record_cases (journal : ScenarioJournal) (caseId : String) (event : JournalEvent) (now : Nat)
    (failure : Option FileFailure) :
    (journal.nodeIndex caseId = none ∧ journal.record caseId event now failure = ([], .ok journal)) ∨
      (∃ raised, journal.record caseId event now failure = ([], .error raised)) ∨
      ∃ index node next, journal.nodeIndex caseId = some index ∧ journal.document.nodes[index]? = some node ∧
        node.advance caseId event now = .ok next ∧
        journal.record caseId event now failure =
          (writeOperations (index, journal.versions index + 1) next.dump failure,
            if failure = none then .ok (advancedTo journal index next)
            else .error .SCENARIO_PROGRESS_WRITE_FAILED) := by
  unfold ScenarioJournal.record
  cases found : journal.nodeIndex caseId with
  | none => exact .inl ⟨rfl, rfl⟩
  | some index =>
    have inside : index < journal.document.nodes.length :=
      (List.findIdx?_eq_some_iff_getElem.mp found).1
    have here : journal.document.nodes[index]? = some journal.document.nodes[index] :=
      List.getElem?_eq_getElem inside
    simp only [here]
    cases advanced : journal.document.nodes[index].advance caseId event now with
    | error raised => exact .inr (.inl ⟨raised, rfl⟩)
    | ok next => exact .inr (.inr ⟨index, _, next, rfl, here, advanced, rfl⟩)

/-- The place of a case depends on the cases of the nodes only. -/
theorem index_through_cases (nodes : List ScenarioNodeProgress) (caseId : String) :
    (nodes.findIdx? fun node => caseId ∈ node.caseIds) =
      (nodes.map (·.caseIds)).findIdx? fun keys => caseId ∈ keys := by
  rw [List.findIdx?_map]
  rfl

/-- The place of a case in the journal does not change. -/
theorem advancedTo_nodeIndex {index : Nat} {node next : ScenarioNodeProgress}
    (here : journal.document.nodes[index]? = some node) (same : SameNode next node) (caseId : String) :
    (advancedTo journal index next).nodeIndex caseId = journal.nodeIndex caseId := by
  have cases' : next.caseIds = node.caseIds := by
    have parts := same
    simp only [SameNode, Prod.mk.injEq] at parts
    exact parts.2.2.1
  have listed : (journal.document.nodes.set index next).map (·.caseIds) = journal.document.nodes.map (·.caseIds) := by
    obtain ⟨inside, rfl⟩ := List.getElem?_eq_some_iff.mp here
    have inMapped : index < (journal.document.nodes.map (·.caseIds)).length := by simpa using inside
    have mapped : (journal.document.nodes.map (·.caseIds))[index] = journal.document.nodes[index].caseIds :=
      List.getElem_map _
    rw [List.map_set, cases', ← mapped]
    exact List.set_getElem_self inMapped
  unfold ScenarioJournal.nodeIndex
  rw [index_through_cases, index_through_cases]
  exact congrArg _ listed

end Calls

section Steps

variable {start : ScenarioExecutionJournal} {run : ScenarioRun} {call : RecordCall}

/-- How often an intent was recorded for a node. -/
def intentsOf (recorded : List (Nat × String × JournalEvent)) (index : Nat) : Nat :=
  recorded.countP fun entry => entry.1 = index ∧ entry.2.2 = .INTENT_SAVED

/-- What holds of every run between two calls. -/
structure Kept (start : ScenarioExecutionJournal) (run : ScenarioRun) : Prop where
  document : run.journal.document = { start with nodes := run.journal.document.nodes }
  holds : Holds run.directory start run.journal.document.nodes run.journal.versions
  counted : ∀ index node, run.journal.document.nodes[index]? = some node →
    run.journal.versions index = eventCount node
  targeted : ∀ caseId handed, run.target = some (caseId, handed) →
    ∀ index node, run.journal.nodeIndex caseId = some index → run.journal.document.nodes[index]? = some node →
      node.request = .INTENT_SAVED
  sent : ∀ caseId ∈ run.sent, ∀ index node, run.journal.nodeIndex caseId = some index →
    run.journal.document.nodes[index]? = some node → node.request ≠ .NOT_STARTED
  intents : ∀ index node, run.journal.document.nodes[index]? = some node →
    intentsOf run.recorded index = if node.request = .NOT_STARTED then 0 else 1
  recoveries : ∀ index node caseId, run.journal.document.nodes[index]? = some node →
    run.recorded.count (index, caseId, .RECOVERY_INTENT) = node.recoveryIntents.count caseId

/-- After a call no TARGET step is under way, or the one whose intent it was is. -/
theorem targetAfter_cases (allowed : enabled run call = true) (saved : Bool) :
    targetAfter run call saved = none ∨
      call.event = .INTENT_SAVED ∧ saved = true ∧ targetAfter run call saved = some (call.caseId, false) := by
  unfold enabled at allowed
  unfold targetAfter
  cases event : call.event with
  | INTENT_SAVED =>
    simp only [event, Bool.decide_and, Bool.and_eq_true, decide_eq_true_eq] at allowed
    cases saved with
    | true => exact .inr ⟨rfl, rfl, rfl⟩
    | false => exact .inl allowed.1
  | RECEIVED => exact .inl rfl
  | UNCONFIRMED => exact .inl rfl
  | RECOVERY_INTENT =>
    simp only [event, decide_eq_true_eq] at allowed
    exact .inl allowed
  | RECOVERED =>
    simp only [event, decide_eq_true_eq] at allowed
    exact .inl allowed

/-- An answer belongs to the TARGET step under way. -/
theorem Kept.answers (kept : Kept start run) (allowed : enabled run call = true) {index : Nat}
    {node : ScenarioNodeProgress} (found : run.journal.nodeIndex call.caseId = some index)
    (here : run.journal.document.nodes[index]? = some node) : Answers node call.event := by
  intro answer
  unfold enabled at allowed
  rcases answer with event | event
  · simp only [event, decide_eq_true_eq] at allowed
    exact kept.targeted _ _ allowed index node found here
  · simp only [event, Bool.decide_or, Bool.or_eq_true, decide_eq_true_eq] at allowed
    rcases allowed with target | target
    · exact kept.targeted _ _ target index node found here
    · exact kept.targeted _ _ target index node found here

/-- A directory with the next version of a node holds the journal after the call. -/
theorem Kept.advanced_holds (kept : Kept start run) (allowed : enabled run call = true) {index : Nat}
    {node next : ScenarioNodeProgress} {result : AttemptDir}
    (found : run.journal.nodeIndex call.caseId = some index)
    (here : run.journal.document.nodes[index]? = some node)
    (advanced : node.advance call.caseId call.event call.now = .ok next)
    (written : Written run.directory result
      (Table.put Prod.fst run.directory.fragments ((index, run.journal.versions index + 1), some next.dump))) :
    Holds result start (advancedTo run.journal index next).document.nodes
      (advancedTo run.journal index next).versions := by
  have valid := (advance_cases advanced).1
  obtain ⟨same, moment⟩ := advance_same advanced
  have counted := advance_count advanced (kept.answers allowed found here)
  have bound := eventCount_le valid
  have version := kept.counted index node here
  apply written_holds kept.holds here written (by omega) valid _ same
  rw [moment]
  exact call.now.property

/-- A call that writes nothing, or fails, leaves a kept run. -/
theorem Kept.unchanged (kept : Kept start run) {directory : AttemptDir} {executed : List String}
    {target : Option (String × Bool)} (holds : Holds directory start run.journal.document.nodes run.journal.versions)
    (targeted : ∀ caseId handed, target = some (caseId, handed) → run.journal.nodeIndex caseId = none) :
    Kept start { run with
      directory := directory
      executed := executed
      target := target } := by
  refine ⟨kept.document, holds, kept.counted, ?_, kept.sent, kept.intents, kept.recoveries⟩
  intro caseId handed under index node found
  rw [targeted caseId handed under] at found
  exact nomatch found

/-- A recorded event keeps every part of the invariant. -/
theorem Kept.recorded (kept : Kept start run) (allowed : enabled run call = true) {index : Nat}
    {node next : ScenarioNodeProgress} {directory : AttemptDir} {executed : List String}
    (found : run.journal.nodeIndex call.caseId = some index)
    (here : run.journal.document.nodes[index]? = some node)
    (advanced : node.advance call.caseId call.event call.now = .ok next)
    (written : Written run.directory directory
      (Table.put Prod.fst run.directory.fragments ((index, run.journal.versions index + 1), some next.dump))) :
    Kept start { run with
      journal := advancedTo run.journal index next
      directory := directory
      executed := executed
      target := targetAfter run call true
      recorded := run.recorded ++ [(index, call.caseId, call.event)] } := by
  have same := (advance_same advanced).1
  have inside : index < run.journal.document.nodes.length := (List.getElem?_eq_some_iff.mp here).1
  have places := advancedTo_nodeIndex here same
  have holds := kept.advanced_holds allowed found here advanced written
  have there : ∀ position other, (advancedTo run.journal index next).document.nodes[position]? = some other →
      position = index ∧ other = next ∨ position ≠ index ∧ run.journal.document.nodes[position]? = some other := by
    intro position other stored
    have moved : (run.journal.document.nodes.set index next)[position]? = some other := stored
    by_cases equal : position = index
    · subst equal
      rw [List.getElem?_set_self inside] at moved
      exact .inl ⟨rfl, (Option.some.inj moved).symm⟩
    · rw [List.getElem?_set_ne (Ne.symm equal)] at moved
      exact .inr ⟨equal, moved⟩
  refine ⟨?_, holds, ?_, ?_, ?_, ?_, ?_⟩
  · simp only [advancedTo]
    rw [kept.document]
  · intro position other stored
    rcases there position other stored with ⟨rfl, rfl⟩ | ⟨apart, before⟩
    · have version := kept.counted position node here
      have counted := advance_count advanced (kept.answers allowed found here)
      have updated : (advancedTo run.journal position other).versions position =
          run.journal.versions position + 1 := Function.update_self ..
      exact updated.trans (by omega)
    · have version := kept.counted position other before
      have kept' : (advancedTo run.journal index next).versions position = run.journal.versions position :=
        Function.update_of_ne apart ..
      exact kept'.trans version
  · intro caseId handed under position other placed stored
    rcases targetAfter_cases allowed true with target | ⟨event, -, target⟩
    · exact nomatch target.symm.trans under
    · have same' : call.caseId = caseId := by
        have pair := Option.some.inj (target.symm.trans under)
        exact congrArg Prod.fst pair
      have placed' := (places caseId).symm.trans placed
      rw [← same', found] at placed'
      have position' : position = index := (Option.some.inj placed').symm
      rcases there position other stored with ⟨-, rfl⟩ | ⟨apart, -⟩
      · rcases (advance_cases advanced).2 with ⟨-, -, rfl⟩ | ⟨other', -⟩ | ⟨other', -⟩ | ⟨other', -⟩ | ⟨other', -⟩
        · rfl
        all_goals exact nomatch event.symm.trans other'
      · exact absurd position' apart
  · intro caseId listed position other placed stored
    have placed' := (places caseId).symm.trans placed
    rcases there position other stored with ⟨rfl, rfl⟩ | ⟨-, before⟩
    · exact advance_started advanced (kept.sent caseId listed position node placed' here)
    · exact kept.sent caseId listed position other placed' before
  · intro position other stored
    rcases there position other stored with ⟨rfl, rfl⟩ | ⟨apart, before⟩
    · have intents := kept.intents position node here
      unfold intentsOf at intents ⊢
      rw [List.countP_append, intents]
      rcases (advance_cases advanced).2 with ⟨event, fresh, rfl⟩ | ⟨event, rfl⟩ | ⟨event, rfl⟩ | ⟨event, rfl⟩ |
        ⟨event, rfl⟩
      · simp [event, fresh]
      · have saved := kept.answers allowed found here (.inl event)
        simp [event, saved]
      · have saved := kept.answers allowed found here (.inr event)
        simp [event, saved]
      · simp [event]
      · simp [event]
    · have intents := kept.intents position other before
      unfold intentsOf at intents ⊢
      rw [List.countP_append, intents]
      simp [Ne.symm apart]
  · intro position other caseId stored
    rcases there position other stored with ⟨rfl, rfl⟩ | ⟨apart, before⟩
    · have recoveries := kept.recoveries position node caseId here
      rw [List.count_append, recoveries]
      rcases (advance_cases advanced).2 with ⟨event, -, rfl⟩ | ⟨event, rfl⟩ | ⟨event, rfl⟩ | ⟨event, rfl⟩ |
        ⟨event, rfl⟩
      · simp [event]
      · simp [event]
      · simp [event]
      · simp only [event, List.count_append]
        by_cases same' : call.caseId = caseId <;> simp [same']
      · simp [event]
    · have recoveries := kept.recoveries position other caseId before
      rw [List.count_append, recoveries]
      simp [Ne.symm apart]

/-- A call that is possible keeps the invariant, whatever becomes of its write. -/
theorem Kept.after (kept : Kept start run) (allowed : enabled run call = true) : Kept start (Runs.after run call) := by
  have idle : ∀ caseId handed, targetAfter run call false = some (caseId, handed) →
      run.journal.nodeIndex caseId = none := by
    intro caseId handed under
    rcases targetAfter_cases allowed false with target | ⟨-, saved, -⟩
    · exact nomatch target.symm.trans under
    · exact nomatch saved
  rcases record_cases run.journal call.caseId call.event call.now call.failure with
    ⟨absent, call'⟩ | ⟨raised, call'⟩ | ⟨index, node, next, found, here, advanced, call'⟩
  · have operations : operationsOf run call = [] := congrArg Prod.fst call'
    have outcome : outcomeOf run call = .ok run.journal := congrArg Prod.snd call'
    have recorded : recordedAfter run call = run.recorded := by
      unfold recordedAfter
      rw [absent]
    unfold Runs.after
    rw [outcome, operations]
    simp only [recorded]
    apply kept.unchanged kept.holds
    intro caseId handed under
    rcases targetAfter_cases allowed true with target | ⟨-, -, target⟩
    · exact nomatch target.symm.trans under
    · have same : call.caseId = caseId := congrArg Prod.fst (Option.some.inj (target.symm.trans under))
      rw [← same]
      exact absent
  · have operations : operationsOf run call = [] := congrArg Prod.fst call'
    have outcome : outcomeOf run call = .error raised := congrArg Prod.snd call'
    unfold Runs.after
    rw [outcome, operations]
    exact kept.unchanged kept.holds idle
  · have written := write_whole run.directory (index, run.journal.versions index + 1) next.dump call.failure
    have operations : operationsOf run call =
        writeOperations (index, run.journal.versions index + 1) next.dump call.failure := congrArg Prod.fst call'
    have outcome := congrArg Prod.snd call'
    rw [← operations] at written
    unfold Runs.after
    by_cases succeeded : call.failure = none
    · have saved : outcomeOf run call = .ok (advancedTo run.journal index next) := by
        rw [if_pos succeeded] at outcome
        exact outcome
      have recorded : recordedAfter run call = run.recorded ++ [(index, call.caseId, call.event)] := by
        unfold recordedAfter
        rw [found]
      rw [if_pos succeeded] at written
      rw [saved]
      simp only [recorded]
      exact kept.recorded allowed found here advanced written
    · have failed : outcomeOf run call = .error .SCENARIO_PROGRESS_WRITE_FAILED := by
        rw [if_neg succeeded] at outcome
        exact outcome
      rw [if_neg succeeded] at written
      rw [failed]
      exact kept.unchanged (unwritten_holds kept.holds written) idle

/-- Handing a request over keeps the invariant: its intent is saved. -/
theorem Kept.sending (kept : Kept start run) : Kept start (step run .send) := by
  rcases target : run.target with _ | ⟨caseId, _ | _⟩
  · have same : Runs.step run .send = run := by simp only [Runs.step, target]
    rw [same]
    exact kept
  · have stepped : Runs.step run .send = { run with
        target := some (caseId, true)
        sent := caseId :: run.sent } := by simp only [Runs.step, target]
    rw [stepped]
    refine ⟨kept.document, kept.holds, kept.counted, ?_, ?_, kept.intents, kept.recoveries⟩
    · intro other handed under index node found here
      have same : caseId = other := congrArg Prod.fst (Option.some.inj under)
      rw [← same] at found
      exact kept.targeted caseId false target index node found here
    · intro other listed index node found here
      rcases List.mem_cons.mp listed with rfl | before
      · have saved := kept.targeted _ false target index node found here
        rw [saved]
        exact nofun
      · exact kept.sent other before index node found here
  · have same : Runs.step run .send = run := by simp only [Runs.step, target]
    rw [same]
    exact kept

theorem Kept.step (kept : Kept start run) (action : Action) : Kept start (Runs.step run action) := by
  cases action with
  | record call =>
    by_cases allowed : enabled run call = true
    · have stepped : Runs.step run (.record call) = Runs.after run call := if_pos allowed
      rw [stepped]
      exact kept.after allowed
    · have same : Runs.step run (.record call) = run := if_neg allowed
      rw [same]
      exact kept
  | send => exact kept.sending

theorem run_kept (kept : Kept start run) (actions : List Action) :
    Kept start (Transition.run Runs.step run actions) := by
  have preserved : ∀ state action, Kept start state → Kept start (Runs.step state action) :=
    fun _ action holds => Kept.step holds action
  exact run_invariant preserved kept actions

/-- Wherever an attempt ends inside a call, the directory holds the journal before it or after it. -/
theorem Kept.crash (kept : Kept start run) (allowed : enabled run call = true) (done : Nat) :
    Holds (Runs.crash run call done) start run.journal.document.nodes run.journal.versions ∨
      ∃ journal, outcomeOf run call = .ok journal ∧
        Holds (Runs.crash run call done) start journal.document.nodes journal.versions := by
  unfold Runs.crash
  rcases record_cases run.journal call.caseId call.event call.now call.failure with
    ⟨-, call'⟩ | ⟨raised, call'⟩ | ⟨index, node, next, found, here, advanced, call'⟩
  · have operations : operationsOf run call = [] := congrArg Prod.fst call'
    rw [operations, List.take_nil]
    exact .inl kept.holds
  · have operations : operationsOf run call = [] := congrArg Prod.fst call'
    rw [operations, List.take_nil]
    exact .inl kept.holds
  · have operations : operationsOf run call =
        writeOperations (index, run.journal.versions index + 1) next.dump call.failure := congrArg Prod.fst call'
    rw [operations]
    rcases write_cut run.directory (index, run.journal.versions index + 1) next.dump call.failure done with
      written | ⟨succeeded, written⟩
    · exact .inl (unwritten_holds kept.holds written)
    · right
      refine ⟨advancedTo run.journal index next, ?_, kept.advanced_holds allowed found here advanced written⟩
      have outcome := congrArg Prod.snd call'
      rw [if_pos succeeded] at outcome
      exact outcome

end Steps

end Jiejian.Execution.JournalSafety
