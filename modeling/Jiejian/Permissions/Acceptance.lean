import Jiejian.Permissions.Arranged

namespace Jiejian.Permissions.Acceptance

open Library Library.Outcome Library.Sorting Library.Arrangements Library.DepthFirst Errors Models Contract Arranged
open Coverage.Contract (RelationFact RelationType)

theorem guard_eq_ok {condition : Prop} [Decidable condition] {error : Raised} {next : Except Raised Unit} :
    (require condition error >>= fun _ => next) = .ok () ↔ condition ∧ next = .ok () := by
  rw [bind_eq_ok]
  constructor
  · intro passed
    obtain ⟨_, holds, rest⟩ := passed
    exact ⟨require_eq_ok.mp holds, rest⟩
  · intro passed
    exact ⟨(), require_eq_ok.mpr passed.1, passed.2⟩

variable {contract other : PermissionContract}

/-- Every kind of definition has ids of its own. -/
structure Named (contract : PermissionContract) : Prop where
  subjects : Table.Keyed (·.subjectId) contract.subjects
  effects : Table.Keyed (·.effectId) contract.effects
  actions : Table.Keyed (·.actionId) contract.actions
  resources : Table.Keyed (·.resourceId) contract.resources
  relations : Table.Keyed (·.relationId) contract.relations
  rules : Table.Keyed (·.ruleId) contract.rules
  batchRules : Table.Keyed (·.ruleId) contract.batchRules

theorem validateIds_eq_ok : validateIds contract = .ok () ↔
    contract.allIds.Nodup ∧ Named contract ∧
      ∀ action ∈ contract.actions, ∀ effectId ∈ action.effectIds, (contract.declared.effects effectId).isSome := by
  unfold validateIds
  simp only [guard_eq_ok, require_eq_ok]
  constructor
  · intro passed
    obtain ⟨all, subjects, effects, actions, references, resources, relations, rules, batchRules⟩ := passed
    exact ⟨all, ⟨subjects, effects, actions, resources, relations, rules, batchRules⟩, references⟩
  · intro passed
    obtain ⟨all, named, references⟩ := passed
    exact ⟨all, named.subjects, named.effects, named.actions, references, named.resources, named.relations, named.rules,
      named.batchRules⟩

theorem same_named (same : SameContents contract other) (named : Named contract) : Named other where
  subjects := (same.subjects.map _).nodup_iff.mp named.subjects
  effects := (same.effects.map _).nodup_iff.mp named.effects
  actions := (same.actions.map _).nodup_iff.mp named.actions
  resources := (same.resources.map _).nodup_iff.mp named.resources
  relations := (same.relations.map _).nodup_iff.mp named.relations
  rules := (same.rules.map _).nodup_iff.mp named.rules
  batchRules := (same.batchRules.map _).nodup_iff.mp named.batchRules

theorem same_allIds (same : SameContents contract other) : contract.allIds.Perm other.allIds := by
  unfold PermissionContract.allIds
  rw [same.workflowStates]
  refine List.Perm.append_right _ ?_
  exact ((((((same.subjects.map _).dedup.append (same.effects.map _).dedup).append (same.actions.map _).dedup).append
    (same.resources.map _).dedup).append (same.relations.map _).dedup).append (same.rules.map _).dedup).append
    (same.batchRules.map _).dedup

/-- The dictionaries do not depend on the order of the lists. -/
theorem same_declared (same : SameContents contract other) (named : Named contract) :
    other.declared = contract.declared := by
  have subjects : Table.lookup (·.subjectId) other.subjects = Table.lookup (·.subjectId) contract.subjects :=
    funext fun wanted => (named.subjects.lookup_perm same.subjects wanted).symm
  have effects : Table.lookup (·.effectId) other.effects = Table.lookup (·.effectId) contract.effects :=
    funext fun wanted => (named.effects.lookup_perm same.effects wanted).symm
  have actions : Table.lookup (·.actionId) other.actions = Table.lookup (·.actionId) contract.actions :=
    funext fun wanted => (named.actions.lookup_perm same.actions wanted).symm
  have resources : Table.lookup (·.resourceId) other.resources = Table.lookup (·.resourceId) contract.resources :=
    funext fun wanted => (named.resources.lookup_perm same.resources wanted).symm
  have relations : Table.lookup (·.relationId) other.relations = Table.lookup (·.relationId) contract.relations :=
    funext fun wanted => (named.relations.lookup_perm same.relations wanted).symm
  unfold PermissionContract.declared
  rw [subjects, effects, actions, resources, relations]

theorem same_ids (same : SameContents contract other) (passed : validateIds contract = .ok ()) :
    validateIds other = .ok () := by
  obtain ⟨all, named, references⟩ := validateIds_eq_ok.mp passed
  apply validateIds_eq_ok.mpr
  refine ⟨(same_allIds same).nodup_iff.mp all, same_named same named, ?_⟩
  intro action member effectId inside
  rw [same_declared same named]
  exact references action (same.actions.mem_iff.mpr member) effectId inside

theorem same_declarations (same : SameContents contract other) (named : Named contract)
    (passed : validateDeclarations contract = .ok ()) : validateDeclarations other = .ok () := by
  have tenants : contract.declaredTenants.Perm other.declaredTenants :=
    (same.subjects.filterMap _).append (same.resources.filterMap _)
  have departments : contract.declaredDepartments.Perm other.declaredDepartments :=
    (same.subjects.filterMap _).append (same.resources.filterMap _)
  unfold validateDeclarations at passed ⊢
  simp only [guard_eq_ok, require_eq_ok] at passed ⊢
  simpa only [same_declared same named, same.roleIds, same.workflowStates, same.subjects.mem_iff, same.resources.mem_iff,
    same.rules.mem_iff, tenants.mem_iff, departments.mem_iff] using passed

theorem forM_perm {α : Type} {check : α → Except Raised Unit} {items others : List α} (perm : items.Perm others)
    (passed : items.forM check = .ok ()) : others.forM check = .ok () :=
  forM_eq_ok.mpr fun item member => forM_eq_ok.mp passed item (perm.mem_iff.mpr member)

section Conflicts

variable {α κ ν : Type} [DecidableEq κ] [DecidableEq ν] {key : α → κ} {value : α → ν} {message : String} {items : List α}

theorem noteValue_eq_ok {seen next : List (κ × ν)} {item : α} :
    noteValue key value message seen item = .ok next ↔
      (∀ previous ∈ Table.lookup Prod.fst seen (key item), previous.2 = value item) ∧
        Table.put Prod.fst seen (key item, value item) = next := by
  unfold noteValue
  rw [bind_eq_ok]
  constructor
  · intro noted
    obtain ⟨_, agrees, built⟩ := noted
    exact ⟨require_eq_ok.mp agrees, Except.ok.inj built⟩
  · intro noted
    exact ⟨(), require_eq_ok.mpr noted.1, congrArg Except.ok noted.2⟩

/-- A pass finds no conflict exactly when items with one key have one value. -/
theorem rejectConflicts_eq_ok : rejectConflicts key value message items = .ok () ↔
    ∀ first ∈ items, ∀ second ∈ items, key first = key second → value first = value second := by
  unfold rejectConflicts
  rw [bind_eq_ok]
  constructor
  · intro passed first inFirst second inSecond same
    obtain ⟨last, walked, _⟩ := passed
    have kept := foldlM_reflecting (fun _ => True)
      (fun done seen => ∀ item ∈ done, Table.lookup Prod.fst seen (key item) = some (key item, value item)) []
      (fun _ _ _ _ _ => trivial) (fun done seen item next _ stepped _ before => by
        obtain ⟨agrees, built⟩ := noteValue_eq_ok.mp stepped
        intro other member
        rw [← built]
        by_cases shared : key other = key item
        · have self : Table.lookup Prod.fst (Table.put Prod.fst seen (key item, value item)) (key item) =
              some (key item, value item) := Table.lookup_put_self seen (key item, value item)
          rw [shared, self]
          cases List.mem_append.mp member with
          | inl old =>
            have stored := before other old
            rw [shared] at stored
            rw [← agrees _ stored]
          | inr new => rw [List.mem_singleton.mp new]
        · rw [Table.lookup_put_other seen shared]
          cases List.mem_append.mp member with
          | inl old => exact before other old
          | inr new => exact absurd (congrArg key (List.mem_singleton.mp new)) shared) walked trivial
    have stored := kept.2 fun _ member => absurd member List.not_mem_nil
    have one := stored first inFirst
    rw [same, stored second inSecond] at one
    exact (Prod.mk.inj (Option.some.inj one)).2.symm
  · intro agree
    obtain ⟨last, walked, _⟩ := @foldlM_total _ _ _ (noteValue key value message)
      (fun seen => ∀ wanted pair, Table.lookup Prod.fst seen wanted = some pair →
        ∃ item ∈ items, key item = wanted ∧ value item = pair.2) items
      (fun seen item member before => by
        refine ⟨_, noteValue_eq_ok.mpr ⟨?_, rfl⟩, ?_⟩
        · intro previous stored
          obtain ⟨other, inside, shared, noted⟩ := before _ _ stored
          rw [← noted]
          exact agree other inside item member shared
        · intro wanted pair found
          by_cases shared : wanted = key item
          · rw [shared] at found ⊢
            have self : Table.lookup Prod.fst (Table.put Prod.fst seen (key item, value item)) (key item) =
                some (key item, value item) := Table.lookup_put_self seen (key item, value item)
            rw [self] at found
            rw [← Option.some.inj found]
            exact ⟨item, member, rfl, rfl⟩
          · rw [Table.lookup_put_other seen shared] at found
            exact before wanted pair found) [] (fun wanted pair found => by cases found)
    exact ⟨last, walked, rfl⟩

theorem rejectConflicts_perm {others : List α} (perm : items.Perm others)
    (passed : rejectConflicts key value message items = .ok ()) : rejectConflicts key value message others = .ok () := by
  rw [rejectConflicts_eq_ok] at passed ⊢
  intro first inFirst second inSecond
  exact passed first (perm.mem_iff.mpr inFirst) second (perm.mem_iff.mpr inSecond)

end Conflicts

section Graphs

/-- The graphs of a contract in which no path has more nodes than given. -/
def Shallow (frames : Nat) (contract : PermissionContract) : Prop :=
  ∀ graph ∈ contract.graphs, ∀ node ∈ graph.nodes, Bounded graph.children frames node

/-- The same nodes, with the same children. -/
structure SameGraph (graph other : Graph) : Prop where
  nodes : ∀ node, node ∈ graph.nodes ↔ node ∈ other.nodes
  children : ∀ node child, child ∈ graph.children node ↔ child ∈ other.children node

variable {setOrder : List String → List String} {frames : Nat} {graph : Graph}

theorem rejectCycles_eq_ok : rejectCycles setOrder frames graph = .ok () ↔
    search (fun node => setOrder (graph.children node)) frames graph.nodes = .ok () := mapError_eq_ok

theorem rejectCycles_of_bounded (reorders : ∀ items, (setOrder items).Perm items)
    (bounded : ∀ node ∈ graph.nodes, Bounded graph.children frames node) :
    rejectCycles setOrder frames graph = .ok () := by
  apply rejectCycles_eq_ok.mpr
  apply search_total
  intro node member
  exact (bounded_congr fun node child => ((reorders (graph.children node)).mem_iff).symm).mp (bounded node member)

/-- A walk that passes shows that every path ends. -/
theorem bounded_of_rejectCycles (reorders : ∀ items, (setOrder items).Perm items)
    (passed : rejectCycles setOrder frames graph = .ok ()) {node : String} (member : node ∈ graph.nodes) :
    ∃ most, Bounded graph.children most node := by
  obtain ⟨most, bounded⟩ := search_bounded (rejectCycles_eq_ok.mp passed) member
  exact ⟨most, (bounded_congr fun node child => ((reorders (graph.children node)).mem_iff).symm).mpr bounded⟩

theorem parentGraph_same {label : String} {parents others : List (String × String)} (perm : parents.Perm others)
    (keyed : Table.Keyed Prod.fst parents) : SameGraph (parentGraph label parents) (parentGraph label others) where
  nodes := fun node => (perm.map Prod.fst).mem_iff
  children := fun node child => by
    unfold parentGraph
    dsimp only
    rw [keyed.lookup_perm perm node]

theorem relationGraph_same {relations others : List RelationFact} (perm : relations.Perm others)
    (relation : RelationType) : SameGraph (relationGraph relations relation) (relationGraph others relation) where
  nodes := fun node => by
    simp only [relationGraph, List.mem_eraseDups]
    exact ((perm.filter _).map _).mem_iff
  children := fun node child => by
    simp only [relationGraph, List.mem_eraseDups]
    exact ((perm.filter _).map _).mem_iff

/-- The entries of a dictionary of parents are named by the ids of the items that have one. -/
theorem parents_keyed {α : Type} {key : α → String} {parent : α → Option String} {items : List α}
    (keyed : Table.Keyed key items) :
    Table.Keyed Prod.fst (items.filterMap fun item => (parent item).map fun found => (key item, found)) := by
  have among : ((items.filterMap fun item => (parent item).map fun found => (key item, found)).map Prod.fst).Sublist
      (items.map key) := by
    clear keyed
    induction items with
    | nil => exact .slnil
    | cons item rest ih =>
      cases found : parent item with
      | none =>
        rw [List.filterMap_cons_none (by rw [found]; rfl)]
        exact ih.cons _
      | some above =>
        rw [List.filterMap_cons_some (by rw [found]; rfl)]
        exact ih.cons_cons _
  exact among.nodup keyed

theorem mem_graphs {graph : Graph} : graph ∈ contract.graphs ↔
    graph = parentGraph "subject parent graph" (subjectParents contract.subjects) ∨
      graph = parentGraph "resource parent graph" (resourceParents contract.resources) ∨
      ∃ relation ∈ graphTypes contract.relations, relationGraph contract.relations relation = graph := by
  unfold PermissionContract.graphs
  rw [List.mem_cons, List.mem_cons, List.mem_map]

theorem graphTypes_mem {relations : List RelationFact} {relation : RelationType} :
    relation ∈ graphTypes relations ↔
      (∃ fact ∈ relations, fact.relation = relation) ∧ relation ∈ [.MANAGES, .INHERITS, .PARENT_OF] := by
  unfold graphTypes
  rw [List.mem_eraseDups, List.mem_filter, List.mem_map, decide_eq_true_eq]

/-- Contracts with the same contents have the same graphs. -/
theorem same_graphs (same : SameContents contract other) (named : Named contract) {graph : Graph}
    (member : graph ∈ other.graphs) : ∃ graph' ∈ contract.graphs, SameGraph graph' graph := by
  obtain subjects | resources | relations := mem_graphs.mp member
  · rw [subjects]
    exact ⟨_, mem_graphs.mpr (.inl rfl), parentGraph_same (same.subjects.filterMap _) (parents_keyed named.subjects)⟩
  · rw [resources]
    exact ⟨_, mem_graphs.mpr (.inr (.inl rfl)),
      parentGraph_same (same.resources.filterMap _) (parents_keyed named.resources)⟩
  · obtain ⟨relation, listed, built⟩ := relations
    rw [← built]
    refine ⟨_, mem_graphs.mpr (.inr (.inr ⟨relation, ?_, rfl⟩)), relationGraph_same same.relations relation⟩
    rw [graphTypes_mem] at listed ⊢
    simpa only [same.relations.mem_iff] using listed

theorem Shallow.same (shallow : Shallow frames contract) (same : SameContents contract other)
    (named : Named contract) : Shallow frames other := by
  intro graph member node inside
  obtain ⟨graph', listed, alike⟩ := same_graphs same named member
  exact (bounded_congr alike.children).mp (shallow graph' listed node ((alike.nodes node).mpr inside))

end Graphs

section Validity

variable {setOrder setOrder' : List String → List String} {frames : Nat}

/-- The steps of the validator, all passed. -/
structure Valid (setOrder : List String → List String) (frames : Nat) (contract : PermissionContract) : Prop where
  ids : validateIds contract = .ok ()
  declarations : validateDeclarations contract = .ok ()
  actions : contract.actions.forM (validateTransition contract.declared contract.workflowStates) = .ok ()
  relations : contract.relations.forM (validateRelation contract.declared) = .ok ()
  rules : contract.rules.forM (validateRule contract.declared) = .ok ()
  batchRules : contract.batchRules.forM (validateBatchRule contract.declared) = .ok ()
  loops : ∀ relation ∈ contract.relations, relation.source.endpointId ≠ relation.target.endpointId
  graphs : contract.graphs.forM (rejectCycles setOrder frames) = .ok ()
  conflicts : validateConflicts contract = .ok ()

theorem validateReferences_eq_ok : validateReferences setOrder frames contract = .ok () ↔
    Valid setOrder frames contract := by
  unfold validateReferences validateGraphs
  simp only [bind_eq_ok, require_eq_ok]
  constructor
  · intro passed
    obtain ⟨_, ids, _, declarations, _, actions, _, relations, _, rules, _, batchRules, _, ⟨_, loops, graphs⟩,
      conflicts⟩ := passed
    exact ⟨ids, declarations, actions, relations, rules, batchRules, loops, graphs, conflicts⟩
  · intro valid
    exact ⟨(), valid.ids, (), valid.declarations, (), valid.actions, (), valid.relations, (), valid.rules, (),
      valid.batchRules, (), ⟨(), valid.loops, valid.graphs⟩, valid.conflicts⟩

theorem Valid.named (valid : Valid setOrder frames contract) : Named contract := (validateIds_eq_ok.mp valid.ids).2.1

theorem validateConflicts_same (same : SameContents contract other) (passed : validateConflicts contract = .ok ()) :
    validateConflicts other = .ok () := by
  unfold validateConflicts at passed ⊢
  obtain ⟨_, rules, batches⟩ := bind_eq_ok.mp passed
  exact bind_eq_ok.mpr ⟨(), rejectConflicts_perm same.rules rules, rejectConflicts_perm same.batchRules batches⟩

/-- Where the paths are short enough, validity does not depend on the order of anything. -/
theorem Valid.same (valid : Valid setOrder frames contract) (same : SameContents contract other)
    (shallow : Shallow frames contract) (reorders : ∀ items, (setOrder' items).Perm items) :
    Valid setOrder' frames other where
  ids := same_ids same valid.ids
  declarations := same_declarations same valid.named valid.declarations
  actions := by
    rw [same_declared same valid.named, same.workflowStates]
    exact forM_perm same.actions valid.actions
  relations := by
    rw [same_declared same valid.named]
    exact forM_perm same.relations valid.relations
  rules := by
    rw [same_declared same valid.named]
    exact forM_perm same.rules valid.rules
  batchRules := by
    rw [same_declared same valid.named]
    exact forM_perm same.batchRules valid.batchRules
  loops := fun relation member => valid.loops relation (same.relations.mem_iff.mpr member)
  graphs := forM_eq_ok.mpr fun graph member =>
    rejectCycles_of_bounded reorders fun node inside => shallow.same same valid.named graph member node inside
  conflicts := validateConflicts_same same valid.conflicts

/-- An accepted batch names each of its resources once. -/
theorem Valid.batch_unique (valid : Valid setOrder frames contract) :
    ∀ rule ∈ contract.batchRules, (rule.resourceExpectations.map (·.resourceId)).Nodup := by
  intro rule member
  have passed := forM_eq_ok.mp valid.batchRules rule member
  unfold validateBatchRule at passed
  dsimp only at passed
  simp only [bind_eq_ok, require_eq_ok] at passed
  obtain ⟨_, _, _, _, _, unique, _⟩ := passed
  exact unique

end Validity

end Jiejian.Permissions.Acceptance
