import Jiejian.Permissions.Contract

namespace Jiejian.Permissions.Arranged

open Library Library.Outcome Library.Sorting Library.Arrangements Errors Models Contract
open Coverage.Contract (CoverageDimension RelationFact PermissionContext WorkflowTransition BatchResourceExpectation)

section Permutations

/-- The same effect, with its protected fields in another order. -/
def EffectPermuted (effect other : SecurityEffectDefinition) : Prop :=
  ∃ fields, effect.protectedFields.Perm fields ∧ other = { effect with protectedFields := fields }

def SubjectPermuted (subject other : SubjectDefinition) : Prop :=
  ∃ roles, subject.roles.Perm roles ∧ other = { subject with roles := roles }

def TransitionPermuted (transition other : WorkflowTransition) : Prop :=
  ∃ states, transition.allowedFromStates.Perm states ∧ other = { transition with allowedFromStates := states }

def ActionPermuted (action other : ActionDefinition) : Prop :=
  ∃ effectIds transition, action.effectIds.Perm effectIds ∧
    Option.Rel TransitionPermuted action.workflowTransition transition ∧
    other = { action with effectIds := effectIds, workflowTransition := transition }

structure ContextPermuted (context other : PermissionContext) : Prop where
  workflowStates : context.workflowStates.Perm other.workflowStates
  tenantIds : context.tenantIds.Perm other.tenantIds
  departmentIds : context.departmentIds.Perm other.departmentIds
  resourceIds : context.resourceIds.Perm other.resourceIds

/-- The same rule with its sets in another order; the relation path is a path and stays as it is. -/
def RulePermuted (rule other : PermissionRule) : Prop :=
  ∃ context observations dimensions, ContextPermuted rule.context context ∧
    rule.requiredObservations.Perm observations ∧ rule.coverageDimensions.Perm dimensions ∧
    other = { rule with
      context := context
      requiredObservations := observations
      coverageDimensions := dimensions }

def BatchRulePermuted (rule other : BatchPermissionRule) : Prop :=
  ∃ expectations observations context dimensions, rule.resourceExpectations.Perm expectations ∧
    rule.requiredObservations.Perm observations ∧ ContextPermuted rule.context context ∧
    rule.coverageDimensions.Perm dimensions ∧
    other = { rule with
      resourceExpectations := expectations
      requiredObservations := observations
      context := context
      coverageDimensions := dimensions }

/-- The same declarations in another order, in every list whose order has no meaning. -/
structure Permuted (contract other : PermissionContract) : Prop where
  contractId : other.contractId = contract.contractId
  version : other.version = contract.version
  roleIds : contract.roleIds.Perm other.roleIds
  workflowStates : contract.workflowStates.Perm other.workflowStates
  subjects : Rearranged SubjectPermuted contract.subjects other.subjects
  effects : Rearranged EffectPermuted contract.effects other.effects
  actions : Rearranged ActionPermuted contract.actions other.actions
  resources : contract.resources.Perm other.resources
  relations : contract.relations.Perm other.relations
  rules : Rearranged RulePermuted contract.rules other.rules
  batchRules : Rearranged BatchRulePermuted contract.batchRules other.batchRules

end Permutations

section Values

theorem require_congr {ε : Type} {left right : Prop} [Decidable left] [Decidable right] {error : ε} (same : left ↔ right) :
    require left error = require right error := by
  unfold require
  by_cases holds : left
  · rw [if_pos holds, if_pos (same.mp holds)]
  · rw [if_neg holds, if_neg fun other => holds (same.mpr other)]

theorem boundedValues_perm {least most : Nat} {accepts : String → Bool} {message fieldName : String}
    {values others : List String} (perm : values.Perm others) :
    boundedValues least most accepts message fieldName others = boundedValues least most accepts message fieldName values := by
  have members : (∀ value ∈ others, accepts value = true) ↔ ∀ value ∈ values, accepts value = true := by
    simp only [perm.mem_iff]
  have sorted : sortedBy id others = sortedBy id values :=
    sortedBy_congr perm.symm fun first _ second _ same => same
  unfold boundedValues sortedUniqueValues
  rw [perm.length_eq, require_congr members, require_congr perm.symm.nodup_iff, sorted]

theorem dimension_injective : Function.Injective CoverageDimension.value := by
  intro left right same
  cases left <;> cases right <;> first | rfl | exact absurd same (by decide)

theorem sortedDimensions_perm {least : Nat} {values others : List CoverageDimension} (perm : values.Perm others) :
    sortedDimensions least others = sortedDimensions least values := by
  have sorted : sortedBy CoverageDimension.value others = sortedBy CoverageDimension.value values :=
    sortedBy_congr perm.symm fun first _ second _ same => dimension_injective same
  unfold sortedDimensions
  rw [perm.length_eq, require_congr perm.symm.nodup_iff, sorted]

end Values

section Definitions

variable {secretOrUrl : String → Bool}

theorem createEffect_permuted {effect other : SecurityEffectDefinition} (same : EffectPermuted effect other) :
    SecurityEffectDefinition.create secretOrUrl other = SecurityEffectDefinition.create secretOrUrl effect := by
  obtain ⟨fields, perm, built⟩ := same
  rw [built]
  unfold SecurityEffectDefinition.create
  rw [boundedValues_perm perm]

theorem createSubject_permuted {subject other : SubjectDefinition} (same : SubjectPermuted subject other) :
    SubjectDefinition.create secretOrUrl other = SubjectDefinition.create secretOrUrl subject := by
  obtain ⟨roles, perm, built⟩ := same
  rw [built]
  unfold SubjectDefinition.create
  rw [boundedValues_perm perm]

theorem createTransition_permuted {transition other : Option WorkflowTransition}
    (same : Option.Rel TransitionPermuted transition other) :
    createOptionalTransition other = createOptionalTransition transition := by
  cases same with
  | none => rfl
  | some pair =>
    obtain ⟨states, perm, built⟩ := pair
    rw [built]
    unfold createOptionalTransition createTransition
    dsimp only
    rw [boundedValues_perm perm]

theorem createAction_permuted {action other : ActionDefinition} (same : ActionPermuted action other) :
    ActionDefinition.create secretOrUrl other = ActionDefinition.create secretOrUrl action := by
  obtain ⟨effectIds, transition, perm, moved, built⟩ := same
  rw [built]
  unfold ActionDefinition.create
  dsimp only
  rw [boundedValues_perm perm, createTransition_permuted moved]

theorem createContext_permuted {context other : PermissionContext} (same : ContextPermuted context other) :
    createContext other = createContext context := by
  unfold createContext
  rw [boundedValues_perm same.workflowStates, boundedValues_perm same.tenantIds, boundedValues_perm same.departmentIds,
    boundedValues_perm same.resourceIds]

theorem createRule_permuted {rule other : PermissionRule} (same : RulePermuted rule other) :
    PermissionRule.create secretOrUrl other = PermissionRule.create secretOrUrl rule := by
  obtain ⟨context, observations, dimensions, contexts, observed, covered, built⟩ := same
  rw [built]
  unfold PermissionRule.create requiredObservationValues
  dsimp only
  rw [createContext_permuted contexts, boundedValues_perm observed, sortedDimensions_perm covered]

/-- The same batch rule, with the same resources in the order of their ids. -/
def SameBatch (rule other : BatchPermissionRule) : Prop :=
  ∃ expectations : List BatchResourceExpectation, rule.resourceExpectations.Perm expectations ∧
    other.resourceExpectations = sortedBy (·.resourceId) expectations ∧
    rule.resourceExpectations = sortedBy (·.resourceId) rule.resourceExpectations ∧
    other = { rule with resourceExpectations := other.resourceExpectations }

theorem createBatchRule_permuted {rule other created : BatchPermissionRule} (same : BatchRulePermuted rule other)
    (made : BatchPermissionRule.create rule = .ok created) :
    ∃ created', BatchPermissionRule.create other = .ok created' ∧ SameBatch created created' := by
  obtain ⟨expectations, observations, context, dimensions, moved, observed, contexts, covered, built⟩ := same
  rw [built]
  unfold BatchPermissionRule.create requiredObservationValues at made ⊢
  dsimp only
  rw [createContext_permuted contexts, boundedValues_perm observed, sortedDimensions_perm covered, ← moved.length_eq]
  simp only [bind_eq_ok, require_eq_ok] at made
  obtain ⟨_, ruleId, _, subjectId, _, actionId, _, size, results, expected, values, observed', context', contexts',
    dimensions', covered', _, bulk, returned⟩ := made
  obtain ⟨others, expected', perm⟩ := mapM_perm moved expected
  refine ⟨{ rule with
      resourceExpectations := sortedBy (·.resourceId) others
      requiredObservations := values
      context := context'
      coverageDimensions := dimensions' }, ?_, ?_⟩
  · simp only [bind_eq_ok, require_eq_ok]
    exact ⟨(), ruleId, (), subjectId, (), actionId, (), size, others, expected', values, observed', context', contexts',
      dimensions', covered', (), bulk, rfl⟩
  · rw [← Except.ok.inj returned]
    exact ⟨others, (sortedBy_perm _ results).trans perm, rfl, (sortedBy_sortedBy _ results).symm, rfl⟩

/-- A batch that names each resource once is the same whatever the order it names them in. -/
theorem SameBatch.eq {rule other : BatchPermissionRule} (same : SameBatch rule other)
    (unique : (rule.resourceExpectations.map (·.resourceId)).Nodup) : rule = other := by
  obtain ⟨expectations, perm, sorted, ordered, built⟩ := same
  have keyed : ∀ first ∈ rule.resourceExpectations, ∀ second ∈ rule.resourceExpectations,
      first.resourceId = second.resourceId → first = second :=
    fun first inFirst second inSecond key => List.inj_on_of_nodup_map unique inFirst inSecond key
  have equal : rule.resourceExpectations = other.resourceExpectations := by
    rw [ordered, sorted]
    exact sortedBy_congr perm keyed
  rw [built, ← equal]

end Definitions

section Fields

variable {secretOrUrl : String → Bool}

/-- What the fields of a contract are made of. -/
structure Created (secretOrUrl : String → Bool) (contract created : PermissionContract) : Prop where
  contractId : created.contractId = contract.contractId
  version : created.version = contract.version
  named : textField secretOrUrl intentId contract.contractId "contract_id" = .ok ()
  versioned : 1 ≤ contract.version ∧ contract.version ≤ 2147483647
  roleIds : boundedValues 1 128 intentId "role_ids must contain bounded IDs" "role_ids" contract.roleIds =
    .ok created.roleIds
  workflowStates : boundedValues 1 128 workflowStateName "workflow_states must contain bounded IDs" "workflow_states"
    contract.workflowStates = .ok created.workflowStates
  subjectCount : 1 ≤ contract.subjects.length ∧ contract.subjects.length ≤ 4096
  subjects : contract.subjects.mapM (SubjectDefinition.create secretOrUrl) = .ok created.subjects
  effectCount : 1 ≤ contract.effects.length ∧ contract.effects.length ≤ 4096
  effects : contract.effects.mapM (SecurityEffectDefinition.create secretOrUrl) = .ok created.effects
  actionCount : 1 ≤ contract.actions.length ∧ contract.actions.length ≤ 4096
  actions : contract.actions.mapM (ActionDefinition.create secretOrUrl) = .ok created.actions
  resourceCount : 1 ≤ contract.resources.length ∧ contract.resources.length ≤ 4096
  resources : contract.resources.mapM (ResourceDefinition.create secretOrUrl) = .ok created.resources
  relationCount : contract.relations.length ≤ 8192
  relations : contract.relations.mapM (createRelation secretOrUrl) = .ok created.relations
  ruleCount : 1 ≤ contract.rules.length ∧ contract.rules.length ≤ 8192
  rules : contract.rules.mapM (PermissionRule.create secretOrUrl) = .ok created.rules
  batchCount : contract.batchRules.length ≤ 2048
  batchRules : contract.batchRules.mapM BatchPermissionRule.create = .ok created.batchRules

theorem createFields_eq_ok {contract created : PermissionContract} :
    createFields secretOrUrl contract = .ok created ↔ Created secretOrUrl contract created := by
  unfold createFields
  simp only [bind_eq_ok, require_eq_ok]
  constructor
  · intro made
    obtain ⟨_, named, _, versioned, roleIds, roles, workflowStates, states, _, subjectCount, subjects, someSubjects, _,
      effectCount, effects, someEffects, _, actionCount, actions, someActions, _, resourceCount, resources, someResources,
      _, relationCount, relations, someRelations, _, ruleCount, rules, someRules, _, batchCount, batchRules, someBatches,
      returned⟩ := made
    rw [← Except.ok.inj returned]
    exact ⟨rfl, rfl, named, versioned, roles, states, subjectCount, someSubjects, effectCount, someEffects, actionCount,
      someActions, resourceCount, someResources, relationCount, someRelations, ruleCount, someRules, batchCount,
      someBatches⟩
  · intro made
    have built : created = { contract with
        roleIds := created.roleIds
        workflowStates := created.workflowStates
        subjects := created.subjects
        effects := created.effects
        actions := created.actions
        resources := created.resources
        relations := created.relations
        rules := created.rules
        batchRules := created.batchRules } := by
      rw [← made.contractId, ← made.version]
    refine ⟨(), made.named, (), made.versioned, created.roleIds, made.roleIds, created.workflowStates,
      made.workflowStates, ?_⟩
    refine ⟨(), made.subjectCount, created.subjects, made.subjects, ?_⟩
    refine ⟨(), made.effectCount, created.effects, made.effects, ?_⟩
    refine ⟨(), made.actionCount, created.actions, made.actions, ?_⟩
    refine ⟨(), made.resourceCount, created.resources, made.resources, ?_⟩
    refine ⟨(), made.relationCount, created.relations, made.relations, ?_⟩
    refine ⟨(), made.ruleCount, created.rules, made.rules, ?_⟩
    refine ⟨(), made.batchCount, created.batchRules, made.batchRules, ?_⟩
    exact congrArg Except.ok built.symm

/-- The same definitions, in another order. -/
structure SameContents (contract other : PermissionContract) : Prop where
  contractId : other.contractId = contract.contractId
  version : other.version = contract.version
  roleIds : other.roleIds = contract.roleIds
  workflowStates : other.workflowStates = contract.workflowStates
  subjects : contract.subjects.Perm other.subjects
  effects : contract.effects.Perm other.effects
  actions : contract.actions.Perm other.actions
  resources : contract.resources.Perm other.resources
  relations : contract.relations.Perm other.relations
  rules : contract.rules.Perm other.rules
  batchRules : contract.batchRules.Perm other.batchRules

/-- Definitions that are made alike whatever the order of their own lists are made in the order they are given. -/
theorem created_perm {α : Type} {related : α → α → Prop} {create : α → Except Raised α} {items others results : List α}
    (each : ∀ item other, related item other → create other = create item) (arranged : Rearranged related items others)
    (made : items.mapM create = .ok results) : ∃ results', others.mapM create = .ok results' ∧ results.Perm results' := by
  obtain ⟨results', made', same⟩ :=
    @mapM_rearranged _ _ _ _ _ related Eq create create
      (fun item other result pair created => ⟨result, (each item other pair).trans created, rfl⟩) _ _ _ arranged made
  exact ⟨results', made', perm_of_rearranged same⟩

theorem Rearranged.length_eq {α β : Type} {related : α → β → Prop} {left : List α} {right : List β}
    (arranged : Rearranged related left right) : left.length = right.length := by
  obtain ⟨middle, perm, pairs⟩ := arranged
  rw [perm.length_eq, pairs.length_eq]

/-- A permuted contract is made of the same definitions, as long as no batch names a resource twice. -/
theorem created_permuted {contract other created : PermissionContract} (same : Permuted contract other)
    (made : Created secretOrUrl contract created)
    (unique : ∀ rule ∈ created.batchRules, (rule.resourceExpectations.map (·.resourceId)).Nodup) :
    ∃ created', Created secretOrUrl other created' ∧ SameContents created created' := by
  obtain ⟨subjects, someSubjects, subjectPerm⟩ :=
    @created_perm _ SubjectPermuted (SubjectDefinition.create secretOrUrl) _ _ _ (fun _ _ => createSubject_permuted) same.subjects made.subjects
  obtain ⟨effects, someEffects, effectPerm⟩ :=
    @created_perm _ EffectPermuted (SecurityEffectDefinition.create secretOrUrl) _ _ _ (fun _ _ => createEffect_permuted) same.effects made.effects
  obtain ⟨actions, someActions, actionPerm⟩ :=
    @created_perm _ ActionPermuted (ActionDefinition.create secretOrUrl) _ _ _ (fun _ _ => createAction_permuted) same.actions made.actions
  obtain ⟨resources, someResources, resourcePerm⟩ := mapM_perm same.resources made.resources
  obtain ⟨relations, someRelations, relationPerm⟩ := mapM_perm same.relations made.relations
  obtain ⟨rules, someRules, rulePerm⟩ :=
    @created_perm _ RulePermuted (PermissionRule.create secretOrUrl) _ _ _ (fun _ _ => createRule_permuted) same.rules made.rules
  obtain ⟨batchRules, someBatches, batchSame⟩ :=
    @mapM_rearranged _ _ _ _ _ BatchRulePermuted SameBatch BatchPermissionRule.create BatchPermissionRule.create
      (fun _ _ _ pair created => createBatchRule_permuted pair created) _ _ _ same.batchRules made.batchRules
  have batchPerm : created.batchRules.Perm batchRules :=
    perm_of_rearranged (batchSame.imp fun rule member _ _ pair => pair.eq (unique rule member))
  refine ⟨{ created with
      subjects := subjects
      effects := effects
      actions := actions
      resources := resources
      relations := relations
      rules := rules
      batchRules := batchRules }, ?_, ?_⟩
  · exact {
      contractId := made.contractId.trans same.contractId.symm
      version := made.version.trans same.version.symm
      named := by rw [same.contractId]; exact made.named
      versioned := by rw [same.version]; exact made.versioned
      roleIds := (boundedValues_perm same.roleIds).trans made.roleIds
      workflowStates := (boundedValues_perm same.workflowStates).trans made.workflowStates
      subjectCount := by rw [← Rearranged.length_eq same.subjects]; exact made.subjectCount
      subjects := someSubjects
      effectCount := by rw [← Rearranged.length_eq same.effects]; exact made.effectCount
      effects := someEffects
      actionCount := by rw [← Rearranged.length_eq same.actions]; exact made.actionCount
      actions := someActions
      resourceCount := by rw [← same.resources.length_eq]; exact made.resourceCount
      resources := someResources
      relationCount := by rw [← same.relations.length_eq]; exact made.relationCount
      relations := someRelations
      ruleCount := by rw [← Rearranged.length_eq same.rules]; exact made.ruleCount
      rules := someRules
      batchCount := by rw [← Rearranged.length_eq same.batchRules]; exact made.batchCount
      batchRules := someBatches }
  · exact ⟨rfl, rfl, rfl, rfl, subjectPerm, effectPerm, actionPerm, resourcePerm, relationPerm, rulePerm, batchPerm⟩

end Fields

end Jiejian.Permissions.Arranged
