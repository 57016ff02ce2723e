import Jiejian.Library.Schema
import Jiejian.Permissions.Acceptance
import Jiejian.Permissions.Plan

namespace Jiejian.Permissions.Orders

open Library Library.Document Library.Outcome Library.Sorting Library.Arrangements Library.DepthFirst Library.Schema
open Errors Protocol.Codec Models Contract Arranged Acceptance Plan
open Coverage.Contract (CoverageDimension RelationFact RelationType PermissionContext WorkflowTransition
  BatchResourceExpectation)

section Symmetry

theorem effectPermuted_refl (effect : SecurityEffectDefinition) : EffectPermuted effect effect := ⟨_, .refl _, rfl⟩

theorem subjectPermuted_refl (subject : SubjectDefinition) : SubjectPermuted subject subject := ⟨_, .refl _, rfl⟩

theorem transitionPermuted_refl (transition : Option WorkflowTransition) :
    Option.Rel TransitionPermuted transition transition := by
  cases transition with
  | none => exact .none
  | some transition => exact .some ⟨_, .refl _, rfl⟩

theorem actionPermuted_refl (action : ActionDefinition) : ActionPermuted action action :=
  ⟨_, _, .refl _, transitionPermuted_refl _, rfl⟩

theorem contextPermuted_refl (context : PermissionContext) : ContextPermuted context context :=
  ⟨.refl _, .refl _, .refl _, .refl _⟩

theorem rulePermuted_refl (rule : PermissionRule) : RulePermuted rule rule :=
  ⟨_, _, _, contextPermuted_refl _, .refl _, .refl _, rfl⟩

theorem batchRulePermuted_refl (rule : BatchPermissionRule) : BatchRulePermuted rule rule :=
  ⟨_, _, _, _, .refl _, .refl _, contextPermuted_refl _, .refl _, rfl⟩

theorem permuted_refl (contract : PermissionContract) : Permuted contract contract where
  contractId := rfl
  version := rfl
  roleIds := .refl _
  workflowStates := .refl _
  subjects := rearranged_of_perm subjectPermuted_refl (.refl _)
  effects := rearranged_of_perm effectPermuted_refl (.refl _)
  actions := rearranged_of_perm actionPermuted_refl (.refl _)
  resources := .refl _
  relations := .refl _
  rules := rearranged_of_perm rulePermuted_refl (.refl _)
  batchRules := rearranged_of_perm batchRulePermuted_refl (.refl _)

theorem effectPermuted_symm {effect other : SecurityEffectDefinition} (same : EffectPermuted effect other) :
    EffectPermuted other effect := by
  obtain ⟨fields, perm, built⟩ := same
  rw [built]
  exact ⟨effect.protectedFields, perm.symm, rfl⟩

theorem subjectPermuted_symm {subject other : SubjectDefinition} (same : SubjectPermuted subject other) :
    SubjectPermuted other subject := by
  obtain ⟨roles, perm, built⟩ := same
  rw [built]
  exact ⟨subject.roles, perm.symm, rfl⟩

theorem transitionPermuted_symm {transition other : Option WorkflowTransition}
    (same : Option.Rel TransitionPermuted transition other) : Option.Rel TransitionPermuted other transition := by
  cases same with
  | none => exact .none
  | some pair =>
    obtain ⟨states, perm, built⟩ := pair
    rw [built]
    exact .some ⟨_, perm.symm, rfl⟩

theorem actionPermuted_symm {action other : ActionDefinition} (same : ActionPermuted action other) :
    ActionPermuted other action := by
  obtain ⟨effectIds, transition, perm, moved, built⟩ := same
  rw [built]
  exact ⟨action.effectIds, action.workflowTransition, perm.symm, transitionPermuted_symm moved, rfl⟩

theorem contextPermuted_symm {context other : PermissionContext} (same : ContextPermuted context other) :
    ContextPermuted other context :=
  ⟨same.workflowStates.symm, same.tenantIds.symm, same.departmentIds.symm, same.resourceIds.symm⟩

theorem rulePermuted_symm {rule other : PermissionRule} (same : RulePermuted rule other) : RulePermuted other rule := by
  obtain ⟨context, observations, dimensions, contexts, observed, covered, built⟩ := same
  rw [built]
  exact ⟨rule.context, _, _, contextPermuted_symm contexts, observed.symm, covered.symm, rfl⟩

theorem batchRulePermuted_symm {rule other : BatchPermissionRule} (same : BatchRulePermuted rule other) :
    BatchRulePermuted other rule := by
  obtain ⟨expectations, observations, context, dimensions, moved, observed, contexts, covered, built⟩ := same
  rw [built]
  exact ⟨_, _, rule.context, _, moved.symm, observed.symm, contextPermuted_symm contexts, covered.symm, rfl⟩

theorem rearranged_symm {α : Type} {related : α → α → Prop} (symmetric : ∀ item other, related item other → related other item)
    {left right : List α} (same : Rearranged related left right) : Rearranged related right left :=
  same.flip.imp fun other _ item _ pair => symmetric item other pair

theorem permuted_symm {contract other : PermissionContract} (same : Permuted contract other) : Permuted other contract where
  contractId := same.contractId.symm
  version := same.version.symm
  roleIds := same.roleIds.symm
  workflowStates := same.workflowStates.symm
  subjects := rearranged_symm (fun _ _ => subjectPermuted_symm) same.subjects
  effects := rearranged_symm (fun _ _ => effectPermuted_symm) same.effects
  actions := rearranged_symm (fun _ _ => actionPermuted_symm) same.actions
  resources := same.resources.symm
  relations := same.relations.symm
  rules := rearranged_symm (fun _ _ => rulePermuted_symm) same.rules
  batchRules := rearranged_symm (fun _ _ => batchRulePermuted_symm) same.batchRules

theorem sameContents_symm {contract other : PermissionContract} (same : SameContents contract other) :
    SameContents other contract :=
  ⟨same.contractId.symm, same.version.symm, same.roleIds.symm, same.workflowStates.symm, same.subjects.symm,
    same.effects.symm, same.actions.symm, same.resources.symm, same.relations.symm, same.rules.symm,
    same.batchRules.symm⟩

end Symmetry

section Acceptance

variable {secretOrUrl : String → Bool} {setOrder setOrder' : List String → List String} {frames : Nat}
variable {contract other created created' result : PermissionContract}

/-- The constructor takes the contract. -/
def Accepted (secretOrUrl : String → Bool) (setOrder : List String → List String) (frames : Nat)
    (contract : PermissionContract) : Prop :=
  ∃ made, contract.create secretOrUrl setOrder frames = .ok made

/-- A set is iterated in some order of its members. -/
def Reorders (setOrder : List String → List String) : Prop := ∀ items, (setOrder items).Perm items

theorem create_eq_ok : contract.create secretOrUrl setOrder frames = .ok result ↔
    ∃ fields, Created secretOrUrl contract fields ∧ Valid setOrder frames fields ∧ fields.sorted = result := by
  unfold PermissionContract.create
  rw [bind_eq_ok]
  constructor
  · intro made
    obtain ⟨fields, created, made⟩ := made
    obtain ⟨_, valid, returned⟩ := bind_eq_ok.mp made
    exact ⟨fields, createFields_eq_ok.mp created, validateReferences_eq_ok.mp valid, Except.ok.inj returned⟩
  · intro made
    obtain ⟨fields, created, valid, returned⟩ := made
    exact ⟨fields, createFields_eq_ok.mpr created,
      bind_eq_ok.mpr ⟨(), validateReferences_eq_ok.mpr valid, congrArg Except.ok returned⟩⟩

/-- Making definitions changes nothing that they are read for afterwards. -/
theorem filterMap_created {α β : Type} {create : α → Except Raised α} {read : α → Option β} {items results : List α}
    (keeps : ∀ item made, create item = .ok made → read made = read item) (made : items.mapM create = .ok results) :
    results.filterMap read = items.filterMap read := by
  have pairs := mapM_eq_ok_iff.mp made
  clear made
  induction pairs with
  | nil => rfl
  | cons here _ ih => rw [List.filterMap_cons, List.filterMap_cons, keeps _ _ here, ih]

theorem created_subject {subject made : SubjectDefinition} (created : subject.create secretOrUrl = .ok made) :
    made.subjectId = subject.subjectId ∧ made.parentSubjectId = subject.parentSubjectId := by
  unfold SubjectDefinition.create at created
  simp only [bind_eq_ok] at created
  obtain ⟨_, _, _, _, _, _, _, _, _, _, _, _, returned⟩ := created
  rw [← Except.ok.inj returned]
  exact ⟨rfl, rfl⟩

theorem created_resource {resource made : ResourceDefinition} (created : resource.create secretOrUrl = .ok made) :
    made = resource := by
  unfold ResourceDefinition.create at created
  simp only [bind_eq_ok] at created
  obtain ⟨_, _, _, _, _, _, _, _, _, _, _, _, _, _, returned⟩ := created
  exact (Except.ok.inj returned).symm

theorem created_relation {relation made : RelationFact} (created : createRelation secretOrUrl relation = .ok made) :
    made = relation := by
  unfold createRelation at created
  simp only [bind_eq_ok] at created
  obtain ⟨_, _, _, _, _, _, returned⟩ := created
  exact (Except.ok.inj returned).symm

theorem created_links (made : Created secretOrUrl contract created) :
    subjectParents created.subjects = subjectParents contract.subjects ∧
      resourceParents created.resources = resourceParents contract.resources ∧ created.relations = contract.relations := by
  refine ⟨?_, ?_, ?_⟩
  · apply filterMap_created _ made.subjects
    intro subject subject' same
    obtain ⟨named, parent⟩ := created_subject same
    rw [named, parent]
  · apply filterMap_created _ made.resources
    intro resource resource' same
    rw [created_resource same]
  · have kept := filterMap_created (fun _ _ same => congrArg some (created_relation same)) made.relations
    simpa only [List.filterMap_some] using kept

/-- The graphs of a contract are those of the fields it is made of. -/
theorem created_graphs (made : Created secretOrUrl contract created) : created.graphs = contract.graphs := by
  obtain ⟨subjects, resources, relations⟩ := created_links made
  unfold PermissionContract.graphs
  rw [subjects, resources, relations]

theorem created_shallow (made : Created secretOrUrl contract created) : Shallow frames created ↔ Shallow frames contract := by
  unfold Shallow
  rw [created_graphs made]

/-- Contracts with the same contents are sorted alike, but for their effects. -/
theorem sorted_same (same : SameContents contract other) (named : Named contract) :
    other.sorted = { contract.sorted with effects := other.effects } := by
  have keyed : ∀ {α : Type} {key : α → String} {items : List α}, Table.Keyed key items →
      ∀ first ∈ items, ∀ second ∈ items, key first = key second → first = second :=
    fun keyed first inFirst second inSecond => keyed.eq_of_mem inFirst inSecond
  unfold PermissionContract.sorted
  rw [sortedBy_congr same.subjects (keyed named.subjects), sortedBy_congr same.actions (keyed named.actions),
    sortedBy_congr same.resources (keyed named.resources), sortedBy_congr same.relations (keyed named.relations),
    sortedBy_congr same.rules (keyed named.rules), sortedBy_congr same.batchRules (keyed named.batchRules),
    ← same.contractId, ← same.version, ← same.roleIds, ← same.workflowStates]

/-- Where the paths are short enough, the order of the declarations does not decide whether they are taken. -/
theorem accepted_permuted (same : Permuted contract other) (shallow : Shallow frames contract) (reorders : Reorders setOrder')
    (accepted : Accepted secretOrUrl setOrder frames contract) : Accepted secretOrUrl setOrder' frames other := by
  obtain ⟨result, made⟩ := accepted
  obtain ⟨fields, created, valid, _⟩ := create_eq_ok.mp made
  obtain ⟨fields', created', contents⟩ := created_permuted same created valid.batch_unique
  have shallow' : Shallow frames fields := (created_shallow created).mpr shallow
  exact ⟨_, create_eq_ok.mpr ⟨fields', created', valid.same contents shallow' reorders, rfl⟩⟩

/-- Short paths stay short in the other order. -/
theorem shallow_permuted (same : Permuted contract other) (shallow : Shallow frames contract)
    (accepted : Accepted secretOrUrl setOrder frames other) : Shallow frames other := by
  obtain ⟨result, made⟩ := accepted
  obtain ⟨fields', created', valid', _⟩ := create_eq_ok.mp made
  obtain ⟨fields, created, contents⟩ := created_permuted (permuted_symm same) created' valid'.batch_unique
  have named : Named fields := same_named contents valid'.named
  have shallow' : Shallow frames fields := (created_shallow created).mpr shallow
  exact (created_shallow created').mp (shallow'.same (sameContents_symm contents) named)

theorem accepted_iff (same : Permuted contract other) (shallow : Shallow frames contract) (reorders : Reorders setOrder)
    (reorders' : Reorders setOrder') :
    Accepted secretOrUrl setOrder frames contract ↔ Accepted secretOrUrl setOrder' frames other := by
  constructor
  · exact accepted_permuted same shallow reorders'
  · intro accepted
    exact accepted_permuted (permuted_symm same) (shallow_permuted same shallow accepted) reorders accepted

/-- Two accepted orders of one contract differ in the order of their effects only. -/
theorem created_alike {made made' : PermissionContract} (same : Permuted contract other)
    (created : contract.create secretOrUrl setOrder frames = .ok made)
    (created' : other.create secretOrUrl setOrder' frames = .ok made') :
    made' = { made with effects := made'.effects } ∧ made.effects.Perm made'.effects := by
  obtain ⟨fields, fresh, valid, sorted⟩ := create_eq_ok.mp created
  obtain ⟨fields', fresh', _, sorted'⟩ := create_eq_ok.mp created'
  obtain ⟨fields'', fresh'', contents⟩ := created_permuted same fresh valid.batch_unique
  have one : fields'' = fields' :=
    Except.ok.inj ((createFields_eq_ok.mpr fresh'').symm.trans (createFields_eq_ok.mpr fresh'))
  rw [one] at contents
  rw [← sorted, ← sorted']
  exact ⟨sorted_same contents valid.named, contents.effects⟩

end Acceptance

section Depth

variable {secretOrUrl : String → Bool} {setOrder : List String → List String} {frames : Nat}
variable {contract other : PermissionContract} {graph graph' : Graph} {node : String}

/-- A graph that is walked from its deepest node on, and down its longest path, exceeds the frames. -/
theorem deep_rejected (listed : graph' ∈ other.graphs) (first : graph'.nodes.head? = some node)
    (finite : ∃ most, Bounded graph'.children most node) (deep : ¬Bounded graph'.children frames node) :
    ¬Accepted secretOrUrl (deepestFirst graph'.children) frames other := by
  intro accepted
  obtain ⟨result, made⟩ := accepted
  obtain ⟨fields, created, valid, _⟩ := create_eq_ok.mp made
  have walked := forM_eq_ok.mp valid.graphs graph' (by rw [created_graphs created]; exact listed)
  have searched := rejectCycles_eq_ok.mp walked
  obtain ⟨rest, split⟩ := List.head?_eq_some_iff.mp first
  rw [split] at searched
  exact search_fails finite deep searched

/-- A node of a graph can be brought to its front. -/
theorem front_graph (subjectsKeyed : Table.Keyed Prod.fst (subjectParents contract.subjects))
    (resourcesKeyed : Table.Keyed Prod.fst (resourceParents contract.resources)) (listed : graph ∈ contract.graphs) (inside : node ∈ graph.nodes) :
    ∃ other graph', Permuted contract other ∧ graph' ∈ other.graphs ∧ graph'.nodes.head? = some node ∧
      SameGraph graph graph' := by
  obtain subjects | resources | relations := mem_graphs.mp listed
  · rw [subjects] at inside ⊢
    obtain ⟨link, member, start⟩ := List.mem_map.mp inside
    obtain ⟨subject, declared, linked⟩ := List.mem_filterMap.mp member
    have moved := List.perm_cons_erase declared
    obtain ⟨parent, above, built⟩ := Option.map_eq_some_iff.mp linked
    refine ⟨{ contract with subjects := subject :: contract.subjects.erase subject }, _,
      { permuted_refl contract with subjects := rearranged_of_perm subjectPermuted_refl moved },
      mem_graphs.mpr (.inl rfl), ?_, parentGraph_same (moved.filterMap _) subjectsKeyed⟩
    rw [← start, ← built]
    unfold parentGraph subjectParents
    dsimp only
    rw [List.filterMap_cons_some (by rw [above]; rfl), List.map_cons, List.head?_cons]
  · rw [resources] at inside ⊢
    obtain ⟨link, member, start⟩ := List.mem_map.mp inside
    obtain ⟨resource, declared, linked⟩ := List.mem_filterMap.mp member
    have moved := List.perm_cons_erase declared
    obtain ⟨parent, above, built⟩ := Option.map_eq_some_iff.mp linked
    refine ⟨{ contract with resources := resource :: contract.resources.erase resource }, _,
      { permuted_refl contract with resources := moved },
      mem_graphs.mpr (.inr (.inl rfl)), ?_, parentGraph_same (moved.filterMap _) resourcesKeyed⟩
    rw [← start, ← built]
    unfold parentGraph resourceParents
    dsimp only
    rw [List.filterMap_cons_some (by rw [above]; rfl), List.map_cons, List.head?_cons]
  · obtain ⟨relation, typed, built⟩ := relations
    rw [← built] at inside ⊢
    obtain ⟨fact, member, start⟩ := List.mem_map.mp (List.mem_eraseDups.mp inside)
    obtain ⟨declared, ofType⟩ := List.mem_filter.mp member
    have moved := List.perm_cons_erase declared
    refine ⟨{ contract with relations := fact :: contract.relations.erase fact }, _,
      { permuted_refl contract with relations := moved },
      mem_graphs.mpr (.inr (.inr ⟨relation, ?_, rfl⟩)), ?_, relationGraph_same moved relation⟩
    · rw [graphTypes_mem] at typed ⊢
      simpa only [moved.mem_iff] using typed
    · rw [← start]
      unfold relationGraph
      dsimp only
      rw [List.filter_cons, if_pos ofType, List.map_cons, List.eraseDups_cons, List.head?_cons]

/-- Where a path is too long, some order of the declarations is refused. -/
theorem deep_refused (accepted : Accepted secretOrUrl setOrder frames contract) (reorders : Reorders setOrder)
    (deep : ¬Shallow frames contract) :
    ∃ setOrder' other, Reorders setOrder' ∧ Permuted contract other ∧ ¬Accepted secretOrUrl setOrder' frames other := by
  obtain ⟨result, made⟩ := accepted
  obtain ⟨fields, created, valid, _⟩ := create_eq_ok.mp made
  obtain ⟨subjects, resources, _⟩ := created_links created
  have subjectsKeyed : Table.Keyed Prod.fst (subjectParents contract.subjects) := by
    rw [← subjects]
    exact parents_keyed valid.named.subjects
  have resourcesKeyed : Table.Keyed Prod.fst (resourceParents contract.resources) := by
    rw [← resources]
    exact parents_keyed valid.named.resources
  unfold Shallow at deep
  simp only [not_forall] at deep
  obtain ⟨graph, listed, node, inside, long⟩ := deep
  have walked := forM_eq_ok.mp valid.graphs graph (by rw [created_graphs created]; exact listed)
  obtain ⟨most, bounded⟩ := bounded_of_rejectCycles reorders walked inside
  obtain ⟨other, graph', permuted, listed', first, alike⟩ := front_graph subjectsKeyed resourcesKeyed listed inside
  refine ⟨deepestFirst graph'.children, other, deepestFirst_perm _, permuted, ?_⟩
  exact deep_rejected listed' first ⟨most, (bounded_congr alike.children).mp bounded⟩
    fun short => long ((bounded_congr alike.children).mpr short)

end Depth

section Identity

variable {secretOrUrl : String → Bool} {digest : Digest} {setOrder : List String → List String} {frames : Nat}
variable {contract : PermissionContract}

/-- No order of the declarations changes whether the contract is taken, its fingerprint or its plan. -/
def Unchanged (secretOrUrl : String → Bool) (digest : Digest) (setOrder : List String → List String) (frames : Nat)
    (contract : PermissionContract) : Prop :=
  ∀ setOrder' other, Reorders setOrder' → Permuted contract other →
    (Accepted secretOrUrl setOrder frames contract ↔ Accepted secretOrUrl setOrder' frames other) ∧
    ∀ made made', contract.create secretOrUrl setOrder frames = .ok made →
      other.create secretOrUrl setOrder' frames = .ok made' →
      modelFingerprint digest made' = modelFingerprint digest made ∧
        ∀ engineVersion seed, compilePermissionPlan digest engineVersion seed made' =
          compilePermissionPlan digest engineVersion seed made

/-- Lists with the same images have the same images under all that the images tell. -/
theorem map_of_map {α β γ : Type} {image : α → β} {told : α → γ} (tells : ∀ item other, image item = image other → told item = told other)
    {left right : List α} (same : left.map image = right.map image) : left.map told = right.map told := by
  induction left generalizing right with
  | nil =>
    cases right with
    | nil => rfl
    | cons other right => cases same
  | cons item left ih =>
    cases right with
    | nil => cases same
    | cons other right =>
      rw [List.map_cons, List.map_cons] at same ⊢
      injection same with heads tails
      rw [tells item other heads, ih tails]

theorem dumpEffect_id {effect other : SecurityEffectDefinition}
    (same : (dumpEffect effect).canonical = (dumpEffect other).canonical) : effect.effectId = other.effectId :=
  separating_str.field same "effect_id" (by simp) (by simp)

/-- The effects stand in the fingerprint in the order they are listed. -/
theorem fingerprint_effects {made made' : PermissionContract}
    (same : modelFingerprint digest made' = modelFingerprint digest made) :
    made'.effects.map (·.effectId) = made.effects.map (·.effectId) := by
  have documents : (dumpContract made').canonical = (dumpContract made).canonical :=
    digest.collisionFree _ _ (congrArg digest.short same)
  have fields := field_of_canonical_eq documents "effects"
  simp only [dumpContract, field_dict, fieldOf_cons, String.reduceEq, if_false, if_true, Option.map_some, canonical_list,
    List.map_map, Option.some.injEq, Json.list.injEq] at fields
  exact map_of_map (fun _ _ => dumpEffect_id) fields

theorem created_effect {effect made : SecurityEffectDefinition} (created : effect.create secretOrUrl = .ok made) :
    made.effectId = effect.effectId := by
  unfold SecurityEffectDefinition.create at created
  simp only [bind_eq_ok] at created
  obtain ⟨_, _, _, _, _, _, _, _, _, _, _, _, returned⟩ := created
  rw [← Except.ok.inj returned]

/-- A contract keeps its effects in the order they are given, each with an id of its own. -/
theorem create_effects {made : PermissionContract} (created : contract.create secretOrUrl setOrder frames = .ok made) :
    made.effects.map (·.effectId) = contract.effects.map (·.effectId) ∧ (contract.effects.map (·.effectId)).Nodup ∧
      1 ≤ contract.effects.length := by
  obtain ⟨fields, fresh, valid, sorted⟩ := create_eq_ok.mp created
  have kept : fields.effects.map (·.effectId) = contract.effects.map (·.effectId) := by
    have read := filterMap_created (fun _ _ same => congrArg some (created_effect same)) fresh.effects
    simpa only [List.filterMap_eq_map'] using read
  rw [← sorted]
  refine ⟨kept, ?_, fresh.effectCount.1⟩
  rw [← kept]
  exact valid.named.effects

/-- A contract with two effects has another fingerprint when they are swapped. -/
theorem swapped_effects {first second : SecurityEffectDefinition} {rest : List SecurityEffectDefinition}
    (listed : contract.effects = first :: second :: rest) {made made' : PermissionContract}
    (created : contract.create secretOrUrl setOrder frames = .ok made)
    (created' : PermissionContract.create secretOrUrl setOrder frames
      { contract with effects := second :: first :: rest } = .ok made') :
    modelFingerprint digest made' ≠ modelFingerprint digest made := by
  intro same
  obtain ⟨ids, distinct, _⟩ := create_effects created
  obtain ⟨ids', _, _⟩ := create_effects created'
  have alike := fingerprint_effects same
  rw [ids, ids', listed] at alike
  rw [listed] at distinct
  simp only [List.map_cons, List.cons.injEq] at alike distinct
  exact (List.nodup_cons.mp distinct).1 (alike.1 ▸ List.mem_cons_self)

/-- The same declarations in another order: they are taken alike while no path is too long, they make the same plan,
and an accepted contract keeps everything exactly when it declares one effect and has no path that is too long. -/
theorem permuted_contract (secretOrUrl : String → Bool) (digest : Digest) (frames : Nat) :
    (∀ setOrder setOrder' contract other, Reorders setOrder → Reorders setOrder' → Permuted contract other →
      Shallow frames contract →
      (Accepted secretOrUrl setOrder frames contract ↔ Accepted secretOrUrl setOrder' frames other)) ∧
    (∀ setOrder setOrder' contract other made made', Permuted contract other →
      contract.create secretOrUrl setOrder frames = .ok made →
      other.create secretOrUrl setOrder' frames = .ok made' → ∀ engineVersion seed,
        compilePermissionPlan digest engineVersion seed made' = compilePermissionPlan digest engineVersion seed made) ∧
    ∀ setOrder contract, Reorders setOrder → Accepted secretOrUrl setOrder frames contract →
      (Unchanged secretOrUrl digest setOrder frames contract ↔
        contract.effects.length = 1 ∧ Shallow frames contract) := by
  have plans : ∀ setOrder setOrder' contract other made made', Permuted contract other →
      contract.create secretOrUrl setOrder frames = .ok made →
      other.create secretOrUrl setOrder' frames = .ok made' → ∀ engineVersion seed,
        compilePermissionPlan digest engineVersion seed made' =
          compilePermissionPlan digest engineVersion seed made := by
    intro setOrder setOrder' contract other made made' same created created' engineVersion seed
    rw [(created_alike same created created').1]
    rfl
  refine ⟨fun _ _ _ _ reorders reorders' same shallow => accepted_iff same shallow reorders reorders', plans, ?_⟩
  intro setOrder contract reorders accepted
  constructor
  · intro unchanged
    have shallow : Shallow frames contract := by
      by_contra deep
      obtain ⟨setOrder', other, reorders', same, refused⟩ := deep_refused accepted reorders deep
      exact refused ((unchanged setOrder' other reorders' same).1.mp accepted)
    refine ⟨?_, shallow⟩
    obtain ⟨made, created⟩ := accepted
    obtain ⟨_, _, some'⟩ := create_effects created
    by_contra several
    obtain ⟨first, second, rest, listed⟩ : ∃ first second rest, contract.effects = first :: second :: rest := by
      match contract.effects, some', several with
      | [_], _, single => exact absurd rfl single
      | first :: second :: rest, _, _ => exact ⟨first, second, rest, rfl⟩
    have swapped : Permuted contract { contract with effects := second :: first :: rest } :=
      { permuted_refl contract with
        effects := rearranged_of_perm effectPermuted_refl (by rw [listed]; exact .swap second first rest) }
    obtain ⟨agree, same⟩ := unchanged setOrder _ reorders swapped
    obtain ⟨made', created'⟩ := agree.mp ⟨made, created⟩
    exact swapped_effects listed created created' (same made made' created created').1
  · intro condition setOrder' other reorders' same
    refine ⟨accepted_iff same condition.2 reorders reorders', ?_⟩
    intro made made' created created'
    refine ⟨?_, plans setOrder setOrder' contract other made made' same created created'⟩
    obtain ⟨alike, effects⟩ := created_alike same created created'
    have one : made.effects.length = 1 := by
      have ids := congrArg List.length (create_effects created).1
      rw [List.length_map, List.length_map, condition.1] at ids
      exact ids
    obtain ⟨effect, single⟩ := List.length_eq_one_iff.mp one
    rw [single] at effects
    have kept : made'.effects = made.effects := by rw [single, List.singleton_perm.mp effects]
    rw [alike, kept]

end Identity

section Sample

def changedEffect : SecurityEffectDefinition where
  effectId := "changed"
  kind := .STATE_MUTATION
  resourceType := "document"

def createdEffect : SecurityEffectDefinition where
  effectId := "created"
  kind := .OBJECT_CREATION
  resourceType := "document"

def sampleContract (effects : List SecurityEffectDefinition) : PermissionContract where
  contractId := "permissions"
  version := 1
  roleIds := ["user"]
  workflowStates := ["active"]
  subjects := [{ subjectId := "owner", roles := ["user"] }]
  effects := effects
  actions := [{ actionId := "write", effectIds := ["changed"] }]
  resources := [{ resourceId := "document", resourceType := "document", ownerSubjectId := some "owner",
                  workflowState := "active" }]
  relations := [⟨"owns", .OWNS, ⟨.subject, "owner"⟩, ⟨.resource, "document"⟩⟩]
  rules := [{ ruleId := "write-document", subjectId := "owner", actionId := "write", resourceId := "document",
              relationPath := ["owns"], expectation := .ALLOW, requiredObservations := ["state"],
              coverageDimensions := [.RELATION] }]


def sampleEffects : List SecurityEffectDefinition := [changedEffect, createdEffect]

theorem sample_created : Created (fun _ => false) (sampleContract sampleEffects) (sampleContract sampleEffects) where
  contractId := rfl
  version := rfl
  named := rfl
  versioned := by decide
  roleIds := rfl
  workflowStates := rfl
  subjectCount := by decide
  subjects := rfl
  effectCount := by decide
  effects := rfl
  actionCount := by decide
  actions := rfl
  resourceCount := by decide
  resources := rfl
  relationCount := by decide
  relations := rfl
  ruleCount := by decide
  rules := rfl
  batchCount := by decide
  batchRules := rfl

theorem sample_ids : validateIds (sampleContract sampleEffects) = .ok () := by
  apply validateIds_eq_ok.mpr
  refine ⟨?_, ⟨?_, ?_, ?_, ?_, ?_, ?_, ?_⟩, ?_⟩
  · simp [PermissionContract.allIds, sampleContract, sampleEffects, changedEffect, createdEffect]
  all_goals simp [Table.Keyed, sampleContract, sampleEffects, changedEffect, createdEffect, PermissionContract.declared, Table.lookup]

theorem sample_declarations : validateDeclarations (sampleContract sampleEffects) = .ok () := by
  unfold validateDeclarations
  simp [guard_eq_ok, require_eq_ok, sampleContract, PermissionContract.declared, Table.lookup]

theorem sample_valid : Valid id 10 (sampleContract sampleEffects) where
  ids := sample_ids
  declarations := sample_declarations
  actions := rfl
  relations := rfl
  rules := rfl
  batchRules := rfl
  loops := by decide
  graphs := rfl
  conflicts := rfl

theorem sample_shallow : Shallow 10 (sampleContract sampleEffects) := by
  intro graph member
  obtain subjects | resources | relations := mem_graphs.mp member
  · rw [subjects]
    exact fun node inside => absurd inside List.not_mem_nil
  · rw [resources]
    exact fun node inside => absurd inside List.not_mem_nil
  · obtain ⟨relation, typed, _⟩ := relations
    have none' : graphTypes (sampleContract sampleEffects).relations = [] := rfl
    rw [none'] at typed
    exact absurd typed List.not_mem_nil

theorem sample_swapped : Permuted (sampleContract sampleEffects) (sampleContract sampleEffects.reverse) :=
  { permuted_refl (sampleContract sampleEffects) with
    effects := rearranged_of_perm effectPermuted_refl (.swap createdEffect changedEffect []) }

/-- Two effects listed in two orders: both contracts are taken, with two fingerprints. -/
theorem effects_in_two_orders : Permuted (sampleContract sampleEffects) (sampleContract sampleEffects.reverse) ∧
    ∃ made made', (sampleContract sampleEffects).create (fun _ => false) id 10 = .ok made ∧
      (sampleContract sampleEffects.reverse).create (fun _ => false) id 10 = .ok made' ∧
      modelFingerprint textDigest made' ≠ modelFingerprint textDigest made := by
  have reorders : Reorders id := fun items => .refl items
  have made := create_eq_ok.mpr ⟨_, sample_created, sample_valid, rfl⟩
  obtain ⟨made', created'⟩ := accepted_permuted sample_swapped sample_shallow reorders ⟨_, made⟩
  exact ⟨sample_swapped, _, made', made, created', swapped_effects rfl made created'⟩

end Sample

end Jiejian.Permissions.Orders
