import Jiejian.Records.Calls

namespace Jiejian.Records.Changes

open Library Library.Outcome Library.Document Library.History Values Models TransactionStore Calls

variable {env : Environment} {tables : Tables}

/-- Scope rows are keyed, name themselves and belong to the store's generation. -/
structure ScopesSound (tables : Tables) : Prop where
  keyed : Table.Keyed ScopeRow.scopeId tables.scopes
  named : ∀ row ∈ tables.scopes, row.document.scopeId = row.scopeId
  generation : ∀ row ∈ tables.scopes, row.document.generation = tables.generation

theorem requireScope_ok {scopeId : String} {scope : RecordRequestScope} (found : requireScope tables scopeId = .ok scope) :
    ∃ row ∈ tables.scopes, row.scopeId = scopeId ∧ row.document = scope := by
  simp only [requireScope, bind_eq_ok, orRaise_eq_ok, Except.ok.injEq] at found
  obtain ⟨row, stored, same⟩ := found
  have keyed := Table.lookup_some stored
  exact ⟨row, keyed.1, keyed.2, same⟩

theorem openCreationScope_ok {scopeId : String} {done : Unit} (permitted : openCreationScope tables scopeId = .ok done) :
    ScopeOpen tables scopeId := by
  simp only [openCreationScope, bind_eq_ok, require_eq_ok] at permitted
  obtain ⟨scope, found, _, isOpen, _⟩ := permitted
  obtain ⟨row, stored, named, same⟩ := requireScope_ok found
  exact ⟨row, stored, named, same ▸ isOpen⟩

theorem snapshot_ok {collection resourceId : String} {current : RecordSnapshot}
    (found : snapshot tables collection resourceId = .ok current) :
    ∃ row ∈ tables.resources, row.key = (collection, resourceId) ∧ current =
      ⟨tables.generation, collection, resourceId, row.ownerId, row.version, row.data, row.lastOperationId⟩ := by
  simp only [snapshot, bind_eq_ok, orRaise_eq_ok, Except.ok.injEq] at found
  obtain ⟨row, stored, same⟩ := found
  have keyed := Table.lookup_some stored
  exact ⟨row, keyed.1, keyed.2, same.symm⟩

theorem insertOrIgnore_cases (resources : List ResourceRow) (new : ResourceRow) :
    (insertOrIgnore resources new = (resources, false) ∧ ∃ row ∈ resources, row.key = new.key) ∨
      (insertOrIgnore resources new = (resources ++ [new], true) ∧ ∀ row ∈ resources, row.key ≠ new.key) := by
  unfold insertOrIgnore
  cases inserted : Table.insert ResourceRow.key resources new with
  | none =>
    left
    refine ⟨rfl, ?_⟩
    by_contra free
    push Not at free
    have accepted := Table.insert_eq_some.mpr ⟨free, rfl⟩
    simp [accepted] at inserted
  | some result =>
    obtain ⟨free, rfl⟩ := Table.insert_eq_some.mp inserted
    exact .inr ⟨rfl, free⟩

theorem seed_change {command : RecordSeed} {incarnation : String} {committed : Committed RecordSnapshot}
    (seeded : seed env tables command incarnation = .ok committed) :
    Change env tables committed.tables (if committed.dirty then [command] else []) [] := by
  simp only [seed, bind_eq_ok, require_eq_ok] at seeded
  obtain ⟨_, inScope, _, fresh, current, found, _, _, rest⟩ := seeded
  have permitted : ∀ scopeId, command.scopeId = some scopeId → ScopeOpen tables scopeId := by
    intro scopeId named
    rw [named] at inScope
    exact openCreationScope_ok inScope
  rcases insertOrIgnore_cases tables.resources (seededRow command) with ⟨ignored, _⟩ | ⟨inserted, free⟩
  · rw [seededRow] at ignored
    simp only [ignored, Bool.false_eq_true, if_false, Except.ok.injEq] at rest
    subst rest
    exact .keep
  · rw [seededRow] at inserted
    simp only [inserted, if_true, bind_eq_ok, orRaise_eq_ok, Except.ok.injEq] at rest found
    obtain ⟨incarnations, _, rfl⟩ := rest
    obtain ⟨row, _, _, same⟩ := snapshot_ok found
    have unseen : ∀ event ∈ tables.creationEvents, event.key ≠ seedKey command := by
      rcases fresh with present | unseen
      · obtain ⟨row, stored⟩ := Option.isSome_iff_exists.mp present
        have keyed := Table.lookup_some stored
        exact absurd keyed.2 (free row keyed.1)
      · exact unseen
    exact .create free unseen permitted (by rw [same]; rfl) rfl

theorem remove_change {command : RecordRemove} {committed : Committed RecordSnapshot}
    (removed : remove env tables command = .ok committed) : Change env tables committed.tables [] [] := by
  simp only [remove, bind_eq_ok, require_eq_ok, Except.ok.injEq] at removed
  obtain ⟨_, inScope, current, found, _, _, rfl⟩ := removed
  obtain ⟨row, stored, keyed, rfl⟩ := snapshot_ok found
  have permitted : ∀ scopeId, some command.scopeId = some scopeId → ScopeOpen tables scopeId := by
    intro scopeId named
    cases named
    exact openCreationScope_ok inScope
  exact @Change.remove env tables (creationEventRow env tables command.collection
    ⟨tables.generation, command.collection, command.resourceId, row.ownerId, row.version, row.data, row.lastOperationId⟩
    (some command.scopeId) .REMOVE) ⟨row, stored, keyed⟩ permitted rfl

theorem openScope_change {requestNonce requestDigest scopeId : String} {activity : Option RequestActivity}
    {committed : Committed RecordRequestScope}
    (opened : openScope tables requestNonce requestDigest activity scopeId = .ok committed) :
    Change env tables committed.tables [] [] := by
  simp only [openScope, bind_eq_ok, require_eq_ok, orRaise_eq_ok, Except.ok.injEq] at opened
  obtain ⟨_, _, _, _, scopes, inserted, rfl⟩ := opened
  obtain ⟨free, rfl⟩ := Table.insert_eq_some.mp inserted
  exact .openScope free rfl rfl

theorem closeScope_change (sound : ScopesSound tables) {scopeId : String} {complete : Bool}
    {activity : Option RequestActivity} {committed : Committed RecordRequestScope}
    (closed : closeScope tables scopeId complete activity = .ok committed) : Change env tables committed.tables [] [] := by
  simp only [closeScope, bind_eq_ok] at closed
  obtain ⟨scope, found, rest⟩ := closed
  obtain ⟨row, stored, named, rfl⟩ := requireScope_ok found
  by_cases still : row.document.state = .OPEN
  · simp only [still, ne_eq, not_true_eq_false, if_false, bind_eq_ok, require_eq_ok, Except.ok.injEq] at rest
    obtain ⟨_, _, _, _, rfl⟩ := rest
    apply Change.closeScope
    · exact (sound.named row stored).trans named
    · exact sound.generation row stored
    · cases complete <;> simp
  · simp only [still, ne_eq, not_false_eq_true, if_true, Except.ok.injEq] at rest
    subst rest
    exact .keep

theorem appendTrace_change {command : RecordTraceWrite} {eventId : String} {recordedAtUs : Nat}
    {committed : Committed RecordTraceEvent} (appended : appendTrace env tables command eventId recordedAtUs = .ok committed) :
    Change env tables committed.tables [] [] := by
  simp only [appendTrace, bind_eq_ok, require_eq_ok, Except.ok.injEq] at appended
  obtain ⟨_, _, _, _, _, _, _, _, _, _, _, _, _, _, rfl⟩ := appended
  exact .trace _

/-- The assignment loop leads from the value it is given to the value it returns. -/
theorem applyChanges_follows {ordinal : Nat} {value final : Json} {changes : List RecordChange}
    {transitions : List RecordTransition} (applied : applyChanges env ordinal value changes = .ok (final, transitions)) :
    Follows RecordTransition.before RecordTransition.after value transitions final := by
  induction changes generalizing ordinal value transitions with
  | nil =>
    simp only [applyChanges, Except.ok.injEq, Prod.mk.injEq] at applied
    obtain ⟨rfl, rfl⟩ := applied
    rfl
  | cons change rest ih =>
    simp only [applyChanges, bind_eq_ok, Except.ok.injEq, Prod.mk.injEq] at applied
    obtain ⟨before, copied, _, _, assigned, _, after, _, ⟨last, later⟩, applied, rfl, rfl⟩ := applied
    exact ⟨boundedRecordData_ok copied, ih applied⟩

theorem transactionScope_ok {command : RecordTransaction} {scope : Option RecordRequestScope}
    (found : transactionScope tables command = .ok scope) :
    (command.scopeId = none ∧ scope = none) ∨ ∃ row ∈ tables.scopes, command.scopeId = some row.scopeId ∧
      scope = some row.document := by
  unfold transactionScope at found
  cases named : command.scopeId with
  | none =>
    simp only [named, Except.ok.injEq] at found
    exact .inl ⟨rfl, found.symm⟩
  | some scopeId =>
    simp only [named, bind_eq_ok, require_eq_ok, Except.ok.injEq] at found
    obtain ⟨document, stored, _, _, rfl⟩ := found
    obtain ⟨row, present, same, rfl⟩ := requireScope_ok stored
    exact .inr ⟨row, present, by rw [same], rfl⟩

theorem insertOperation_ok {command : RecordTransaction} {operation : RecordOperation} {operations : List OperationRow}
    {scopeOperations : List ScopeOperationRow}
    (inserted : insertOperation env tables command operation = .ok (operations, scopeOperations)) :
    (∀ old ∈ tables.operations, old.requestKey ≠ command.requestKey) ∧
      operations = tables.operations ++
        [⟨operation.operationId, command.requestKey, env.commandHash command, operation⟩] ∧
      scopeOperations = match command.scopeId, operation.scopeOrdinal with
        | some scopeId, some ordinal => tables.scopeOperations ++ [⟨scopeId, operation.operationId, ordinal⟩]
        | _, _ => tables.scopeOperations := by
  simp only [insertOperation, bind_eq_ok, require_eq_ok, orRaise_eq_ok, Table.insert_eq_some] at inserted
  obtain ⟨_, unused, rows, ⟨_, rfl⟩, rest⟩ := inserted
  refine ⟨unused, ?_⟩
  cases named : command.scopeId with
  | none =>
    simp only [named, Except.ok.injEq, Prod.mk.injEq] at rest
    exact ⟨rest.1.symm, rest.2.symm⟩
  | some scopeId =>
    cases numbered : operation.scopeOrdinal with
    | none =>
      simp only [named, numbered, Except.ok.injEq, Prod.mk.injEq] at rest
      exact ⟨rest.1.symm, rest.2.symm⟩
    | some ordinal =>
      simp only [named, numbered, bind_eq_ok, require_eq_ok, orRaise_eq_ok, Table.insert_eq_some, Except.ok.injEq,
        Prod.mk.injEq] at rest
      obtain ⟨_, _, _, ⟨_, rfl⟩, rfl, rfl⟩ := rest
      exact ⟨rfl, rfl⟩

/-- A committed operation extends the row it read. -/
theorem commitOperation_change (sound : ScopesSound tables) {command : RecordTransaction}
    {scope : Option RecordRequestScope} {operationId : String} {committed : Committed RecordOperation}
    (inScope : transactionScope tables command = .ok scope)
    (written : commitOperation env tables command scope operationId = .ok committed) :
    committed.dirty = true ∧ Change env tables committed.tables [] [⟨command, committed.answer⟩] := by
  simp only [commitOperation, bind_eq_ok, require_eq_ok, Except.ok.injEq, Prod.exists] at written
  obtain ⟨ordinal, numbered, current, found, _, _, value, transitions, applied, _, _, operations, scopeOperations, inserted,
    rfl⟩ := written
  obtain ⟨row, stored, keyed, rfl⟩ := snapshot_ok found
  obtain ⟨unused, rfl, scopes⟩ := insertOperation_ok inserted
  refine ⟨rfl, ?_⟩
  have names : (row.collection, row.resourceId) = (command.collection, command.resourceId) := keyed
  have change := @Change.write env tables command
    { operationId
      generation := tables.generation
      collection := command.collection
      resourceId := command.resourceId
      ownerId := row.ownerId
      subjectId := command.subjectId
      requestKey := command.requestKey
      scopeId := command.scopeId
      beforeVersion := row.version
      afterVersion := row.version + 1
      transitions
      scopeOrdinal := ordinal } row value scopeOperations stored names.symm rfl rfl (applyChanges_follows applied) unused rfl
  rw [show row.key = (command.collection, command.resourceId) from keyed] at change
  apply change
  rcases transactionScope_ok inScope with ⟨unnamed, rfl⟩ | ⟨scopeRow, present, named, rfl⟩
  · simp only [scopeOrdinal, Except.ok.injEq] at numbered
    subst numbered
    simp only [unnamed] at scopes
    subst scopes
    exact .unscoped unnamed rfl
  · simp only [scopeOrdinal, bind_eq_ok, require_eq_ok, Except.ok.injEq, sound.named scopeRow present] at numbered
    obtain ⟨_, isOpen, _, room, rfl⟩ := numbered
    simp only [named] at scopes
    subst scopes
    exact .inScope named ⟨scopeRow, present, rfl, isOpen⟩ room rfl

theorem transact_change (sound : ScopesSound tables) {command : RecordTransaction} {operationId : String}
    {committed : Committed RecordOperation} (transacted : transact env tables command operationId = .ok committed) :
    Change env tables committed.tables [] (if committed.dirty then [⟨command, committed.answer⟩] else []) := by
  simp only [transact, bind_eq_ok] at transacted
  obtain ⟨scope, inScope, rest⟩ := transacted
  cases prior : tables.operations.find? fun row => row.requestKey = command.requestKey with
  | some row =>
    simp only [prior, bind_eq_ok, require_eq_ok, Except.ok.injEq] at rest
    obtain ⟨_, _, rfl⟩ := rest
    exact .keep
  | none =>
    simp only [prior] at rest
    obtain ⟨dirty, change⟩ := commitOperation_change sound inScope rest
    rw [if_pos dirty]
    exact change

/-- Whatever call was made, what it committed is one of the changes. -/
theorem perform_change (sound : ScopesSound tables) {made : Call} {committed : Committed Answer}
    (performed : perform env tables made = .ok committed) :
    Change env tables committed.tables (seedsOf made committed.dirty) (receiptsOf made committed) := by
  cases made with
  | seed command incarnation =>
    obtain ⟨result, seeded, rfl⟩ := map_eq_ok.mp performed
    exact seed_change seeded
  | openScope requestNonce requestDigest activity scopeId =>
    obtain ⟨result, opened, rfl⟩ := map_eq_ok.mp performed
    exact openScope_change opened
  | transact command operationId =>
    obtain ⟨result, transacted, rfl⟩ := map_eq_ok.mp performed
    exact transact_change sound transacted
  | remove command =>
    obtain ⟨result, removed, rfl⟩ := map_eq_ok.mp performed
    exact remove_change removed
  | appendTrace command eventId recordedAtUs =>
    obtain ⟨result, appended, rfl⟩ := map_eq_ok.mp performed
    exact appendTrace_change appended
  | closeScope scopeId complete activity =>
    obtain ⟨result, closed, rfl⟩ := map_eq_ok.mp performed
    exact closeScope_change sound closed

end Jiejian.Records.Changes
