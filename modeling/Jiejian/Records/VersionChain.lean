import Jiejian.Records.Changes

namespace Jiejian.Records.VersionChain

open Library Library.Outcome Library.Document Library.History Values Models TransactionStore Calls Changes

variable {env : Environment}

/-- The committed operations of a resource, in the order of their commits. -/
def operationsOf (tables : Tables) (key : String × String) : List RecordOperation :=
  (tables.operations.map OperationRow.document).filter fun operation => operationKey operation = key

/-- The committed operations of a scope, in the order of their commits. -/
def operationsIn (tables : Tables) (scopeId : String) : List RecordOperation :=
  (tables.operations.map OperationRow.document).filter fun operation => operation.scopeId = some scopeId

def scopeRows (tables : Tables) (scopeId : String) : List ScopeOperationRow :=
  tables.scopeOperations.filter fun row => row.scopeId = scopeId

def Removed (tables : Tables) (key : String × String) : Prop :=
  ∃ event ∈ tables.creationEvents, event.key = key ∧ event.document.kind = .REMOVE

/-- The history of a resource leads from its seed to its stored row, one version at a time. -/
structure Chain (row : ResourceRow) (command : RecordSeed) (history : List RecordOperation) : Prop where
  key : seedKey command = row.key
  owner : command.ownerId = row.ownerId
  numbered : history.map RecordOperation.beforeVersion = List.range row.version
  follows : Follows RecordTransition.before RecordTransition.after command.data
    (history.flatMap RecordOperation.transitions) row.data
  last : row.lastOperationId = history.getLast?.map RecordOperation.operationId

/-- The operations of a scope are numbered from zero, in the documents and in `scope_operations`. -/
structure ScopeSequence (operations : List RecordOperation) (rows : List ScopeOperationRow) : Prop where
  bounded : operations.length ≤ 32
  numbered : operations.map RecordOperation.scopeOrdinal = (List.range operations.length).map some
  listed : rows.map ScopeOperationRow.operationId = operations.map RecordOperation.operationId
  ordered : rows.map ScopeOperationRow.ordinal = List.range operations.length

/-- A receipt that a repeated transaction finds again. -/
structure Receipted (env : Environment) (tables : Tables) (receipt : Receipt) : Prop where
  stored : ∃ row ∈ tables.operations, row.requestKey = receipt.command.requestKey ∧
    row.commandHash = env.commandHash receipt.command ∧ row.document = receipt.operation
  scope : ∀ scopeId, receipt.command.scopeId = some scopeId → ∃ row ∈ tables.scopes, row.scopeId = scopeId

theorem chain_seeded (command : RecordSeed) : Chain (seededRow command) command [] :=
  ⟨rfl, rfl, rfl, rfl, rfl⟩

/-- One more operation, from the stored version and data, extends the chain. -/
theorem Chain.extend {row : ResourceRow} {command : RecordSeed} {history : List RecordOperation}
    (chain : Chain row command history) {operation : RecordOperation} {value : Json}
    (version : operation.beforeVersion = row.version) (next : operation.afterVersion = row.version + 1)
    (follows : Follows RecordTransition.before RecordTransition.after row.data operation.transitions value) :
    Chain (writtenRow operation value row) command (history ++ [operation]) where
  key := chain.key
  owner := chain.owner
  numbered := by
    simp only [List.map_append, chain.numbered, List.map_cons, List.map_nil, writtenRow, next, version]
    rw [List.range_succ]
  follows := by
    rw [List.flatMap_append, follows_append]
    exact ⟨row.data, chain.follows, by simpa [writtenRow] using follows⟩
  last := by simp [writtenRow]

theorem change_scopes {tables tables' : Tables} {seeds : List RecordSeed} {receipts : List Receipt}
    (change : Change env tables tables' seeds receipts) (sound : ScopesSound tables) : ScopesSound tables' := by
  cases change with
  | keep => exact sound
  | create => exact ⟨sound.keyed, sound.named, sound.generation⟩
  | remove => exact ⟨sound.keyed, sound.named, sound.generation⟩
  | write => exact ⟨sound.keyed, sound.named, sound.generation⟩
  | trace => exact ⟨sound.keyed, sound.named, sound.generation⟩
  | openScope free named generation =>
    refine ⟨Table.insert_keyed sound.keyed free, ?_, ?_⟩
    · intro row stored
      rcases List.mem_append.mp stored with old | new
      · exact sound.named row old
      · rw [List.mem_singleton.mp new]
        exact named
    · intro row stored
      rcases List.mem_append.mp stored with old | new
      · exact sound.generation row old
      · rw [List.mem_singleton.mp new]
        exact generation
  | @closeScope scopeId closed named generation ended =>
    refine ⟨?_, ?_, ?_⟩
    · apply sound.keyed.map
      intro row _
      by_cases same : row.scopeId = scopeId <;> simp [same]
    · intro row stored
      obtain ⟨old, present, rfl⟩ := List.mem_map.mp stored
      by_cases same : old.scopeId = scopeId
      · simpa [same] using named
      · simpa [same] using sound.named old present
    · intro row stored
      obtain ⟨old, present, rfl⟩ := List.mem_map.mp stored
      by_cases same : old.scopeId = scopeId
      · simpa [same] using generation
      · simpa [same] using sound.generation old present

theorem writtenRow_key (operation : RecordOperation) (value : Json) (row : ResourceRow) :
    (writtenRow operation value row).key = row.key := rfl

theorem change_keyed {tables tables' : Tables} {seeds : List RecordSeed} {receipts : List Receipt}
    (change : Change env tables tables' seeds receipts) (keyed : Table.Keyed ResourceRow.key tables.resources) :
    Table.Keyed ResourceRow.key tables'.resources := by
  cases change with
  | create free => exact Table.insert_keyed keyed free
  | remove => exact keyed.sublist (List.filter_sublist.map _)
  | @write _ _ row =>
    apply keyed.map
    intro old _
    by_cases same : old.key = row.key
    · rw [if_pos same, writtenRow_key]
    · rw [if_neg same]
  | keep => exact keyed
  | openScope => exact keyed
  | closeScope => exact keyed
  | trace => exact keyed

/-- Every resource and every operation has left a creation event under its key. -/
structure Announced (tables : Tables) : Prop where
  resources : ∀ row ∈ tables.resources, ∃ event ∈ tables.creationEvents, event.key = row.key
  operations : ∀ row ∈ tables.operations, ∃ event ∈ tables.creationEvents, event.key = operationKey row.document
  live : ∀ row ∈ tables.resources, ¬Removed tables row.key

theorem operationsOf_write (tables : Tables) (row : OperationRow) (resources : List ResourceRow)
    (scopeOperations : List ScopeOperationRow) (key : String × String) :
    operationsOf { tables with resources, operations := tables.operations ++ [row], scopeOperations } key =
      operationsOf tables key ++ if operationKey row.document = key then [row.document] else [] := by
  by_cases same : operationKey row.document = key <;> simp [operationsOf, List.filter_append, same]

theorem change_chains {tables tables' : Tables} {known seeds : List RecordSeed} {receipts : List Receipt}
    (change : Change env tables tables' seeds receipts) (keyed : Table.Keyed ResourceRow.key tables.resources)
    (announced : Announced tables)
    (chains : ∀ row ∈ tables.resources, ∃ command ∈ known, Chain row command (operationsOf tables row.key)) :
    ∀ row ∈ tables'.resources, ∃ command ∈ known ++ seeds, Chain row command (operationsOf tables' row.key) := by
  cases change with
  | @create command incarnations event free unseen =>
    intro row stored
    rcases List.mem_append.mp stored with old | new
    · obtain ⟨seed, made, chain⟩ := chains row old
      exact ⟨seed, List.mem_append_left _ made, chain⟩
    · have none_yet : operationsOf tables (seededRow command).key = [] := by
        simp only [operationsOf, List.filter_eq_nil_iff, List.mem_map, decide_eq_true_eq]
        rintro operation ⟨written, present, rfl⟩ same
        obtain ⟨seen, recorded, named⟩ := announced.operations written present
        exact unseen seen recorded (named.trans same)
      have empty : operationsOf { tables with
          resources := tables.resources ++ [seededRow command]
          resourceIncarnations := incarnations
          creationEvents := tables.creationEvents ++ [event] } (seededRow command).key = [] := none_yet
      rw [List.mem_singleton.mp new, empty]
      exact ⟨command, by simp, chain_seeded command⟩
  | remove =>
    intro row stored
    obtain ⟨seed, made, chain⟩ := chains row (List.mem_filter.mp stored).1
    exact ⟨seed, by simpa using made, chain⟩
  | @write command operation row value scopeOperations present named version next follows =>
    intro row' stored
    obtain ⟨old, before, rfl⟩ := List.mem_map.mp stored
    rw [operationsOf_write]
    by_cases same : old.key = row.key
    · have identical := keyed.eq_of_mem before present same
      subst identical
      obtain ⟨seed, made, chain⟩ := chains old before
      rw [if_pos rfl, writtenRow_key, if_pos named]
      exact ⟨seed, by simpa using made, chain.extend version next follows⟩
    · obtain ⟨seed, made, chain⟩ := chains old before
      have other : operationKey operation ≠ old.key := fun wrong => same (wrong.symm.trans named)
      simp only [if_neg same, if_neg other, List.append_nil]
      exact ⟨seed, by simpa using made, chain⟩
  | keep => rwa [List.append_nil]
  | openScope => rwa [List.append_nil]
  | closeScope => rwa [List.append_nil]
  | trace => rwa [List.append_nil]

theorem change_announced {tables tables' : Tables} {seeds : List RecordSeed} {receipts : List Receipt}
    (change : Change env tables tables' seeds receipts) (announced : Announced tables) : Announced tables' := by
  cases change with
  | @create command incarnations event free unseen permitted keyed kind =>
    refine ⟨?_, ?_, ?_⟩
    · intro row stored
      rcases List.mem_append.mp stored with old | new
      · obtain ⟨seen, recorded, named⟩ := announced.resources row old
        exact ⟨seen, List.mem_append_left _ recorded, named⟩
      · rw [List.mem_singleton.mp new]
        exact ⟨event, by simp, keyed⟩
    · intro row stored
      obtain ⟨seen, recorded, named⟩ := announced.operations row stored
      exact ⟨seen, List.mem_append_left _ recorded, named⟩
    · rintro row stored ⟨seen, recorded, named, removed⟩
      rcases List.mem_append.mp recorded with before | now
      · rcases List.mem_append.mp stored with old | new
        · exact announced.live row old ⟨seen, before, named, removed⟩
        · rw [List.mem_singleton.mp new] at named
          exact unseen seen before named
      · rw [List.mem_singleton.mp now, kind] at removed
        contradiction
  | @remove event present permitted kind =>
    refine ⟨?_, ?_, ?_⟩
    · intro row stored
      obtain ⟨seen, recorded, named⟩ := announced.resources row (List.mem_filter.mp stored).1
      exact ⟨seen, List.mem_append_left _ recorded, named⟩
    · intro row stored
      obtain ⟨seen, recorded, named⟩ := announced.operations row stored
      exact ⟨seen, List.mem_append_left _ recorded, named⟩
    · rintro row stored ⟨seen, recorded, named, removed⟩
      obtain ⟨before, other⟩ := List.mem_filter.mp stored
      rcases List.mem_append.mp recorded with old | now
      · exact announced.live row before ⟨seen, old, named, removed⟩
      · rw [List.mem_singleton.mp now] at named
        simp [named] at other
  | @write command operation row value scopeOperations present named =>
    refine ⟨?_, ?_, ?_⟩
    · intro row' stored
      obtain ⟨old, before, rfl⟩ := List.mem_map.mp stored
      obtain ⟨seen, recorded, same⟩ := announced.resources old before
      refine ⟨seen, recorded, ?_⟩
      by_cases this_row : old.key = row.key
      · rw [if_pos this_row, writtenRow_key, same]
      · rw [if_neg this_row, same]
    · intro row' stored
      rcases List.mem_append.mp stored with old | new
      · exact announced.operations row' old
      · rw [List.mem_singleton.mp new]
        obtain ⟨seen, recorded, same⟩ := announced.resources row present
        exact ⟨seen, recorded, same.trans named.symm⟩
    · rintro row' stored ⟨seen, recorded, same, removed⟩
      obtain ⟨old, before, rfl⟩ := List.mem_map.mp stored
      apply announced.live old before
      refine ⟨seen, recorded, ?_, removed⟩
      by_cases this_row : old.key = row.key
      · rwa [if_pos this_row, writtenRow_key] at same
      · rwa [if_neg this_row] at same
  | keep => exact announced
  | openScope => exact ⟨announced.resources, announced.operations, announced.live⟩
  | closeScope => exact ⟨announced.resources, announced.operations, announced.live⟩
  | trace => exact ⟨announced.resources, announced.operations, announced.live⟩

theorem operationsIn_write (tables : Tables) (row : OperationRow) (resources : List ResourceRow)
    (scopeOperations : List ScopeOperationRow) (scopeId : String) :
    operationsIn { tables with resources, operations := tables.operations ++ [row], scopeOperations } scopeId =
      operationsIn tables scopeId ++ if row.document.scopeId = some scopeId then [row.document] else [] := by
  by_cases same : row.document.scopeId = some scopeId <;> simp [operationsIn, List.filter_append, same]

theorem scopeRows_append (tables : Tables) (row : ScopeOperationRow) (resources : List ResourceRow)
    (operations : List OperationRow) (scopeId : String) :
    scopeRows { tables with resources, operations, scopeOperations := tables.scopeOperations ++ [row] } scopeId =
      scopeRows tables scopeId ++ if row.scopeId = scopeId then [row] else [] := by
  by_cases same : row.scopeId = scopeId <;> simp [scopeRows, List.filter_append, same]

theorem ScopeSequence.extend {operations : List RecordOperation} {rows : List ScopeOperationRow}
    (sequence : ScopeSequence operations rows) {operation : RecordOperation} {scopeId : String} (room : rows.length < 32)
    (ordinal : operation.scopeOrdinal = some rows.length) :
    ScopeSequence (operations ++ [operation]) (rows ++ [⟨scopeId, operation.operationId, rows.length⟩]) := by
  have count : rows.length = operations.length := by
    have lengths := congrArg List.length sequence.ordered
    simpa using lengths
  constructor
  · simp only [List.length_append, List.length_singleton]
    omega
  · simp only [List.map_append, sequence.numbered, List.length_append, List.length_singleton, List.range_succ,
      List.map_cons, List.map_nil, ordinal, count]
  · simp only [List.map_append, sequence.listed, List.map_cons, List.map_nil]
  · simp only [List.map_append, sequence.ordered, List.length_append, List.length_singleton, List.range_succ,
      List.map_cons, List.map_nil, count]

theorem change_numbered {tables tables' : Tables} {seeds : List RecordSeed} {receipts : List Receipt}
    (change : Change env tables tables' seeds receipts) (scopeId : String)
    (sequence : ScopeSequence (operationsIn tables scopeId) (scopeRows tables scopeId)) :
    ScopeSequence (operationsIn tables' scopeId) (scopeRows tables' scopeId) := by
  cases change with
  | @write command operation row value scopeOperations present named version next follows unused scope enters =>
    rw [operationsIn_write]
    cases enters with
    | unscoped free unnumbered =>
      rw [if_neg (by simp [free]), List.append_nil]
      exact sequence
    | @inScope target target_named isOpen room ordinal =>
      rw [scopeRows_append]
      by_cases same : target = scopeId
      · subst same
        rw [if_pos target_named, if_pos rfl]
        exact sequence.extend room ordinal
      · have other : operation.scopeId ≠ some scopeId := by simp [target_named, same]
        rw [if_neg other, if_neg same, List.append_nil, List.append_nil]
        exact sequence
  | keep => exact sequence
  | create => exact sequence
  | remove => exact sequence
  | openScope => exact sequence
  | closeScope => exact sequence
  | trace => exact sequence

theorem change_requestKeys {tables tables' : Tables} {seeds : List RecordSeed} {receipts : List Receipt}
    (change : Change env tables tables' seeds receipts)
    (keyed : Table.Keyed OperationRow.requestKey tables.operations) :
    Table.Keyed OperationRow.requestKey tables'.operations := by
  cases change with
  | write _ _ _ _ _ unused => exact Table.insert_keyed keyed unused
  | keep => exact keyed
  | create => exact keyed
  | remove => exact keyed
  | openScope => exact keyed
  | closeScope => exact keyed
  | trace => exact keyed

/-- Nothing a call does takes away an operation, a scope, a creation event or a receipt. -/
theorem change_keeps {tables tables' : Tables} {seeds : List RecordSeed} {receipts : List Receipt}
    (change : Change env tables tables' seeds receipts) :
    (∀ row ∈ tables.operations, row ∈ tables'.operations) ∧
      (∀ row ∈ tables.scopes, ∃ row' ∈ tables'.scopes, row'.scopeId = row.scopeId) ∧
      ∀ event ∈ tables.creationEvents, event ∈ tables'.creationEvents := by
  have same_scopes : ∀ row ∈ tables.scopes, ∃ row' ∈ tables.scopes, row'.scopeId = row.scopeId :=
    fun row stored => ⟨row, stored, rfl⟩
  cases change with
  | keep => exact ⟨fun _ stored => stored, same_scopes, fun _ stored => stored⟩
  | create => exact ⟨fun _ stored => stored, same_scopes, fun _ stored => List.mem_append_left _ stored⟩
  | remove => exact ⟨fun _ stored => stored, same_scopes, fun _ stored => List.mem_append_left _ stored⟩
  | write => exact ⟨fun _ stored => List.mem_append_left _ stored, same_scopes, fun _ stored => stored⟩
  | trace => exact ⟨fun _ stored => stored, same_scopes, fun _ stored => stored⟩
  | openScope =>
    exact ⟨fun _ stored => stored, fun row stored => ⟨row, List.mem_append_left _ stored, rfl⟩, fun _ stored => stored⟩
  | @closeScope scopeId closed =>
    refine ⟨fun _ stored => stored, fun row stored => ⟨_, List.mem_map_of_mem stored, ?_⟩, fun _ stored => stored⟩
    by_cases same : row.scopeId = scopeId <;> simp [same]

theorem Receipted.kept {tables tables' : Tables} {seeds : List RecordSeed} {receipts : List Receipt}
    (change : Change env tables tables' seeds receipts) {receipt : Receipt} (held : Receipted env tables receipt) :
    Receipted env tables' receipt := by
  obtain ⟨operations, scopes, _⟩ := change_keeps change
  obtain ⟨row, stored, facts⟩ := held.stored
  refine ⟨⟨row, operations row stored, facts⟩, fun scopeId named => ?_⟩
  obtain ⟨scope, present, same⟩ := held.scope scopeId named
  obtain ⟨scope', present', same'⟩ := scopes scope present
  exact ⟨scope', present', same'.trans same⟩

theorem change_receipts {tables tables' : Tables} {seeds : List RecordSeed} {receipts : List Receipt}
    (change : Change env tables tables' seeds receipts) : ∀ receipt ∈ receipts, Receipted env tables' receipt := by
  cases change with
  | @write command operation row value scopeOperations present named version next follows unused scope enters =>
    intro receipt made
    rw [List.mem_singleton.mp made]
    refine ⟨⟨⟨operation.operationId, command.requestKey, env.commandHash command, operation⟩, by simp, rfl, rfl, rfl⟩, ?_⟩
    intro scopeId asked
    cases enters with
    | unscoped free =>
      rw [scope, asked] at free
      contradiction
    | @inScope target target_named isOpen =>
      obtain ⟨scopeRow, stored, same, _⟩ := isOpen
      rw [scope, asked, Option.some.injEq] at target_named
      exact ⟨scopeRow, stored, same.trans target_named.symm⟩
  | keep => simp
  | create => simp
  | remove => simp
  | openScope => simp
  | closeScope => simp
  | trace => simp

end Jiejian.Records.VersionChain
