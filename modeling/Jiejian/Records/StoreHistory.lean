import Jiejian.Records.VersionChain

namespace Jiejian.Records.StoreHistory

open Library Library.Outcome Library.Document Values Models TransactionStore Calls Changes VersionChain

variable {env : Environment}

/-- Every stored operation is one that a receipt was given for. -/
def Issued (env : Environment) (session : Session) : Prop :=
  ∀ row ∈ session.tables.operations, ∃ receipt ∈ session.receipts, row.requestKey = receipt.command.requestKey ∧
    row.commandHash = env.commandHash receipt.command ∧ row.document = receipt.operation

/-- What holds of a store after any calls. -/
structure Sound (env : Environment) (session : Session) : Prop where
  scopes : ScopesSound session.tables
  keyed : Table.Keyed ResourceRow.key session.tables.resources
  announced : Announced session.tables
  chains : ∀ row ∈ session.tables.resources, ∃ command ∈ session.seeds,
    Chain row command (operationsOf session.tables row.key)
  numbered : ∀ scopeId, ScopeSequence (operationsIn session.tables scopeId) (scopeRows session.tables scopeId)
  requestKeys : Table.Keyed OperationRow.requestKey session.tables.operations
  receipts : ∀ receipt ∈ session.receipts, Receipted env session.tables receipt
  issued : Issued env session

theorem fresh_sound (generation : String) : Sound env (fresh generation) where
  scopes := ⟨List.nodup_nil, by simp [fresh], by simp [fresh]⟩
  keyed := List.nodup_nil
  announced := ⟨by simp [fresh], by simp [fresh], by simp [fresh]⟩
  chains := by simp [fresh]
  numbered _ := ⟨Nat.zero_le _, rfl, rfl, rfl⟩
  requestKeys := List.nodup_nil
  receipts := by simp [fresh]
  issued := by simp [Issued, fresh]

theorem change_issued {session : Session} {tables' : Tables} {seeds : List RecordSeed} {receipts : List Receipt}
    (change : Change env session.tables tables' seeds receipts) (issued : Issued env session) :
    ∀ row ∈ tables'.operations, ∃ receipt ∈ session.receipts ++ receipts,
      row.requestKey = receipt.command.requestKey ∧ row.commandHash = env.commandHash receipt.command ∧
        row.document = receipt.operation := by
  have earlier : ∀ row ∈ session.tables.operations, ∃ receipt ∈ session.receipts ++ receipts,
      row.requestKey = receipt.command.requestKey ∧ row.commandHash = env.commandHash receipt.command ∧
        row.document = receipt.operation := by
    intro row stored
    obtain ⟨receipt, given, facts⟩ := issued row stored
    exact ⟨receipt, List.mem_append_left _ given, facts⟩
  cases change with
  | @write command operation row value scopeOperations present =>
    intro row' stored
    rcases List.mem_append.mp stored with old | new
    · exact earlier row' old
    · rw [List.mem_singleton.mp new]
      exact ⟨⟨command, operation⟩, by simp, rfl, rfl, rfl⟩
  | keep => exact earlier
  | create => exact earlier
  | remove => exact earlier
  | openScope => exact earlier
  | closeScope => exact earlier
  | trace => exact earlier

/-- One committed change keeps the store sound, with the seeds and receipts it adds. -/
theorem change_sound {session : Session} (sound : Sound env session) {tables' : Tables} {seeds : List RecordSeed}
    {receipts : List Receipt} (change : Change env session.tables tables' seeds receipts) (poisoned : Bool) :
    Sound env ⟨tables', poisoned, session.seeds ++ seeds, session.receipts ++ receipts⟩ where
  scopes := change_scopes change sound.scopes
  keyed := change_keyed change sound.keyed
  announced := change_announced change sound.announced
  chains := change_chains change sound.keyed sound.announced sound.chains
  numbered scopeId := change_numbered change scopeId (sound.numbered scopeId)
  requestKeys := change_requestKeys change sound.requestKeys
  receipts receipt given := by
    rcases List.mem_append.mp given with old | new
    · exact (sound.receipts receipt old).kept change
    · exact change_receipts change receipt new
  issued := change_issued change sound.issued

/-- A call is refused and changes nothing, or it commits one change. -/
theorem call_cases {session : Session} (sound : Sound env session) (made : Call) (written : Bool) :
    (∃ error, call env session made written = (.refused error, session)) ∨
      ∃ committed, session.poisoned = false ∧ perform env session.tables made = .ok committed ∧
        Change env session.tables committed.tables (seedsOf made committed.dirty) (receiptsOf made committed) ∧
        (call env session made written).2 = ⟨committed.tables, committed.dirty && !written,
          session.seeds ++ seedsOf made committed.dirty, session.receipts ++ receiptsOf made committed⟩ ∧
        (call env session made written).1 =
          if (committed.dirty && !written) = true then .sealed else .answered committed.answer := by
  unfold call
  by_cases poisoned : session.poisoned = true
  · rw [if_pos poisoned]
    exact .inl ⟨_, rfl⟩
  · rw [if_neg poisoned]
    cases performed : perform env session.tables made with
    | error error => exact .inl ⟨error, rfl⟩
    | ok committed =>
      exact .inr ⟨committed, by simpa using poisoned, rfl, perform_change sound.scopes performed, rfl, rfl⟩

theorem step_sound (session : Session) (made : Call × Bool) (sound : Sound env session) :
    Sound env (step env session made) := by
  rcases call_cases sound made.1 made.2 with ⟨error, refused⟩ | ⟨committed, _, _, change, next, _⟩
  · rw [step, refused]
    exact sound
  · rw [step, next]
    exact change_sound sound change _

theorem run_sound (session : Session) (calls : List (Call × Bool)) (sound : Sound env session) :
    Sound env (Transition.run (step env) session calls) := Transition.run_invariant step_sound sound calls

/-- Receipts and removals are never taken back. -/
def Kept (before after : Session) : Prop :=
  (∀ receipt ∈ before.receipts, receipt ∈ after.receipts) ∧ ∀ key, Removed before.tables key → Removed after.tables key

theorem step_kept (session : Session) (made : Call × Bool) (sound : Sound env session) :
    Kept session (step env session made) := by
  rcases call_cases sound made.1 made.2 with ⟨error, refused⟩ | ⟨committed, _, _, change, next, _⟩
  · rw [step, refused]
    exact ⟨fun _ given => given, fun _ removed => removed⟩
  · rw [step, next]
    refine ⟨fun _ given => List.mem_append_left _ given, ?_⟩
    rintro key ⟨event, recorded, facts⟩
    exact ⟨event, (change_keeps change).2.2 event recorded, facts⟩

theorem run_kept (session : Session) (calls : List (Call × Bool)) (sound : Sound env session) :
    Kept session (Transition.run (step env) session calls) :=
  Transition.run_relation step_sound step_kept (fun _ => ⟨fun _ given => given, fun _ removed => removed⟩)
    (fun _ _ _ first second => ⟨fun receipt given => second.1 receipt (first.1 receipt given),
      fun key removed => second.2 key (first.2 key removed)⟩) sound calls

/-- The prior operation of a request key is the one its receipt names. -/
theorem Sound.prior {session : Session} (sound : Sound env session) {receipt : Receipt}
    (given : receipt ∈ session.receipts) {command : RecordTransaction} (same : command.requestKey = receipt.command.requestKey) :
    ∃ row, (session.tables.operations.find? fun row => row.requestKey = command.requestKey) = some row ∧
      row.commandHash = env.commandHash receipt.command ∧ row.document = receipt.operation := by
  obtain ⟨row, stored, key, hash, document⟩ := (sound.receipts receipt given).stored
  have found := sound.requestKeys.lookup_mem stored
  rw [key, ← same] at found
  exact ⟨row, found, hash, document⟩

theorem Sound.transactionScope {session : Session} (sound : Sound env session) {receipt : Receipt}
    (given : receipt ∈ session.receipts) :
    ∃ scope, TransactionStore.transactionScope session.tables receipt.command = .ok scope := by
  unfold TransactionStore.transactionScope
  cases named : receipt.command.scopeId with
  | none => exact ⟨none, rfl⟩
  | some scopeId =>
    obtain ⟨row, stored, rfl⟩ := (sound.receipts receipt given).scope scopeId named
    have found := sound.scopes.keyed.lookup_mem stored
    have generation := sound.scopes.generation row stored
    exact ⟨some row.document, by simp [requireScope, found, orRaise, require, generation, bind, Except.bind]⟩

/-- A repeated transaction is answered with its receipt and writes nothing. -/
theorem transact_again {session : Session} (sound : Sound env session) (usable : session.poisoned = false)
    {receipt : Receipt} (given : receipt ∈ session.receipts) (operationId : String) (written : Bool) :
    call env session (.transact receipt.command operationId) written =
      (.answered (.operation receipt.operation), session) := by
  obtain ⟨scope, inScope⟩ := sound.transactionScope given
  obtain ⟨row, found, hash, document⟩ := sound.prior given rfl
  have replayed : perform env session.tables (.transact receipt.command operationId) =
      .ok ⟨.operation receipt.operation, session.tables, false⟩ := by
    simp only [perform, transact, inScope, found, require, hash, document, if_true, bind, Except.bind, Except.map]
    rfl
  simp only [call, usable, replayed, seedsOf, receiptsOf, Bool.false_eq_true, if_false, Bool.false_and, List.append_nil]
  rw [← usable]

/-- Another transaction under a used request key is refused. -/
theorem transact_conflict {session : Session} (sound : Sound env session) {receipt : Receipt}
    (given : receipt ∈ session.receipts) {command : RecordTransaction}
    (same : command.requestKey = receipt.command.requestKey) (different : command ≠ receipt.command)
    (operationId : String) (written : Bool) :
    ∃ error, call env session (.transact command operationId) written = (.refused error, session) := by
  rcases call_cases sound (.transact command operationId) written with refused | ⟨committed, _, performed, _⟩
  · exact refused
  · obtain ⟨result, transacted, rfl⟩ := map_eq_ok.mp performed
    simp only [transact, bind_eq_ok] at transacted
    obtain ⟨scope, _, rest⟩ := transacted
    obtain ⟨row, found, hash, _⟩ := sound.prior given same
    simp only [found, bind_eq_ok, require_eq_ok, hash] at rest
    obtain ⟨_, equal, _⟩ := rest
    exact absurd (env.collisionFree equal).symm different

/-- An answered transaction leaves its receipt behind. -/
theorem transact_receipted {session : Session} (sound : Sound env session) {command : RecordTransaction}
    {operationId : String} {written : Bool} {operation : RecordOperation}
    (answered : (call env session (.transact command operationId) written).1 = .answered (.operation operation)) :
    (⟨command, operation⟩ : Receipt) ∈ (step env session (.transact command operationId, written)).receipts := by
  rcases call_cases sound (.transact command operationId) written with
    ⟨error, refused⟩ | ⟨committed, _, performed, _, next, outcome⟩
  · simp [refused] at answered
  · obtain ⟨result, transacted, rfl⟩ := map_eq_ok.mp performed
    rw [outcome] at answered
    by_cases lost : ((Committed.as Answer.operation result).dirty && !written) = true
    · rw [if_pos lost] at answered
      contradiction
    · rw [if_neg lost] at answered
      simp only [Committed.as, Outcome.answered.injEq, Answer.operation.injEq] at answered
      rw [step, next]
      by_cases dirty : result.dirty = true
      · simp [receiptsOf, Committed.as, dirty, answered]
      · simp only [transact, bind_eq_ok] at transacted
        obtain ⟨scope, inScope, rest⟩ := transacted
        cases found : session.tables.operations.find? fun row => row.requestKey = command.requestKey with
        | none =>
          simp only [found] at rest
          exact absurd (commitOperation_change sound.scopes inScope rest).1 dirty
        | some row =>
          simp only [found, bind_eq_ok, require_eq_ok, Except.ok.injEq] at rest
          obtain ⟨_, equal, rfl⟩ := rest
          obtain ⟨receipt, given, _, hash, document⟩ := sound.issued row (List.mem_of_find?_eq_some found)
          have same := env.collisionFree (hash.symm.trans equal)
          have this_receipt : (⟨command, operation⟩ : Receipt) = receipt := by
            rw [← answered, document, ← same]
          rw [this_receipt]
          exact List.mem_append_left _ given

/-- The creation events recorded for a scope. -/
def eventsIn (tables : Tables) (scopeId : String) : List CreationEventRow :=
  tables.creationEvents.filter fun row => row.scopeId = some scopeId

/-- A scope that takes no writes gets no operation and no creation event. -/
theorem change_closed {tables tables' : Tables} {seeds : List RecordSeed} {receipts : List Receipt}
    (change : Change env tables tables' seeds receipts) {scopeId : String} (closed : ¬ScopeOpen tables scopeId) :
    operationsIn tables' scopeId = operationsIn tables scopeId ∧ scopeRows tables' scopeId = scopeRows tables scopeId ∧
      eventsIn tables' scopeId = eventsIn tables scopeId := by
  have unrecorded : ∀ event : CreationEventRow, (∀ named, event.scopeId = some named → ScopeOpen tables named) →
      (tables.creationEvents ++ [event]).filter (fun row => decide (row.scopeId = some scopeId)) =
        eventsIn tables scopeId := by
    intro event permitted
    have other : event.scopeId ≠ some scopeId := fun named => closed (permitted scopeId named)
    simp [eventsIn, List.filter_append, other]
  cases change with
  | create _ _ permitted => exact ⟨rfl, rfl, unrecorded _ permitted⟩
  | remove _ permitted => exact ⟨rfl, rfl, unrecorded _ permitted⟩
  | @write command operation row value scopeOperations present named version next follows unused scope enters =>
    rw [operationsIn_write]
    cases enters with
    | unscoped free =>
      rw [if_neg (by simp [free]), List.append_nil]
      exact ⟨rfl, rfl, rfl⟩
    | @inScope target target_named isOpen =>
      have other : target ≠ scopeId := fun same => closed (same ▸ isOpen)
      rw [scopeRows_append, if_neg other, if_neg (by simp [target_named, other]), List.append_nil, List.append_nil]
      exact ⟨rfl, rfl, rfl⟩
  | keep => exact ⟨rfl, rfl, rfl⟩
  | openScope => exact ⟨rfl, rfl, rfl⟩
  | closeScope => exact ⟨rfl, rfl, rfl⟩
  | trace => exact ⟨rfl, rfl, rfl⟩

theorem remove_recorded {tables : Tables} {command : RecordRemove} {committed : Committed RecordSnapshot}
    (removed : remove env tables command = .ok committed) :
    Removed committed.tables (command.collection, command.resourceId) := by
  simp only [remove, bind_eq_ok, require_eq_ok, Except.ok.injEq] at removed
  obtain ⟨_, _, current, found, _, _, rfl⟩ := removed
  obtain ⟨row, _, _, rfl⟩ := snapshot_ok found
  exact ⟨_, List.mem_append_right _ (List.mem_singleton_self _), rfl, rfl⟩

/-- A removed resource is gone for good. -/
theorem remove_final {session : Session} (sound : Sound env session) {command : RecordRemove} {written : Bool}
    (done : ∀ error, (call env session (.remove command) written).1 ≠ .refused error) (more : List (Call × Bool)) :
    ∀ row ∈ (Transition.run (step env) (step env session (.remove command, written)) more).tables.resources,
      row.key ≠ (command.collection, command.resourceId) := by
  have next_sound := step_sound session (.remove command, written) sound
  have removed : Removed (step env session (.remove command, written)).tables (command.collection, command.resourceId) := by
    rcases call_cases sound (.remove command) written with ⟨error, refused⟩ | ⟨committed, _, performed, _, next, _⟩
    · exact absurd (by rw [refused]) (done error)
    · obtain ⟨result, made, rfl⟩ := map_eq_ok.mp performed
      rw [step, next]
      exact remove_recorded made
  intro row stored same
  apply (run_sound _ more next_sound).announced.live row stored
  rw [same]
  exact (run_kept _ more next_sound).2 _ removed

/-- The history that a record store keeps, whatever calls led to it. -/
structure VersionedHistory (env : Environment) (session : Session) : Prop where
  keyed : Table.Keyed ResourceRow.key session.tables.resources
  chains : ∀ row ∈ session.tables.resources, ∃ command ∈ session.seeds,
    Chain row command (operationsOf session.tables row.key)
  scopes : ∀ scopeId, ScopeSequence (operationsIn session.tables scopeId) (scopeRows session.tables scopeId)
  closed : ∀ made scopeId, ¬ScopeOpen session.tables scopeId →
    operationsIn (step env session made).tables scopeId = operationsIn session.tables scopeId ∧
      scopeRows (step env session made).tables scopeId = scopeRows session.tables scopeId ∧
      eventsIn (step env session made).tables scopeId = eventsIn session.tables scopeId
  removed : ∀ command written, (∀ error, (call env session (.remove command) written).1 ≠ .refused error) →
    ∀ more, ∀ row ∈ (Transition.run (step env) (step env session (.remove command, written)) more).tables.resources,
      row.key ≠ (command.collection, command.resourceId)
  refused : ∀ made written error, (call env session made written).1 = .refused error →
    (call env session made written).2 = session
  repeated : ∀ command operationId written operation,
    (call env session (.transact command operationId) written).1 = .answered (.operation operation) →
      ∀ more, let later := Transition.run (step env) (step env session (.transact command operationId, written)) more
        later.poisoned = false → ∀ again written,
          call env later (.transact command again) written = (.answered (.operation operation), later) ∧
            ∀ other, other.requestKey = command.requestKey → other ≠ command →
              ∃ error, call env later (.transact other again) written = (.refused error, later)

theorem recordStore_history (env : Environment) (generation : String) (calls : List (Call × Bool)) :
    VersionedHistory env (runStore env generation calls) := by
  have sound : Sound env (runStore env generation calls) := run_sound _ calls (fresh_sound generation)
  refine ⟨sound.keyed, sound.chains, sound.numbered, ?_, fun _ _ done more => remove_final sound done more, ?_, ?_⟩
  · intro made scopeId closed
    rcases call_cases sound made.1 made.2 with ⟨error, refused⟩ | ⟨committed, _, _, change, next, _⟩
    · rw [step, refused]
      exact ⟨rfl, rfl, rfl⟩
    · rw [step, next]
      exact change_closed change closed
  · intro made written error refused
    rcases call_cases sound made written with ⟨_, same⟩ | ⟨committed, _, _, _, _, outcome⟩
    · rw [same]
    · rw [outcome] at refused
      split at refused <;> contradiction
  · intro command operationId written operation answered more later usable again written'
    have next_sound := step_sound _ (.transact command operationId, written) sound
    have later_sound := run_sound _ more next_sound
    have given := (run_kept _ more next_sound).1 _ (transact_receipted sound answered)
    exact ⟨transact_again later_sound usable given again written', fun other same different =>
      transact_conflict later_sound given same different again written'⟩

end Jiejian.Records.StoreHistory
