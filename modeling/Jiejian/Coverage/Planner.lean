import Jiejian.Coverage.Targets

namespace Jiejian.Coverage.Planner

open Library Library.Document Library.Outcome Library.Sorting Errors
open Protocol.Codec Protocol.Cases Contract Candidates Plan Targets

section Merging

variable {contract : PermissionContract}

theorem merged_fingerprint {previous item : Candidate} (same : fingerprintOf previous = fingerprintOf item) :
    fingerprintOf (merged previous item) = fingerprintOf item := by
  unfold fingerprintOf merged
  dsimp only
  split
  · rfl
  · exact same

theorem merged_keys {previous item : Candidate} {target : Target} :
    target ∈ (merged previous item).targetKeys ↔ target ∈ previous.targetKeys ∨ target ∈ item.targetKeys := by
  unfold merged
  rw [mem_sortedBy, List.mem_dedup, List.mem_append]

theorem Origin.relabel {case : PermissionMutationCase} (origin : Origin contract case) (sources : List String)
    (dimensions : List CoverageDimension) :
    Origin contract { case with sourceRuleIds := sources, dimensions := dimensions } := by
  cases origin with
  | rule source listed content reason => exact .rule source listed content reason
  | neighbor source listed subjectId resourceId content reason =>
    exact .neighbor source listed subjectId resourceId content reason
  | batch source listed content reason => exact .batch source listed content reason

theorem merged_origin {previous item : Candidate} (first : Origin contract previous.case)
    (second : Origin contract item.case) : Origin contract (merged previous item).case := by
  unfold merged
  dsimp only
  split
  · exact Origin.relabel second _ _
  · exact Origin.relabel first _ _

/-- What holds of the distinct candidates along the loop that removes duplicates. -/
structure Merged (contract : PermissionContract) (done unique : List Candidate) : Prop where
  keyed : Table.Keyed fingerprintOf unique
  origins : ∀ item ∈ unique, Origin contract item.case
  keys : ∀ item ∈ done, ∀ target ∈ item.targetKeys, ∃ kept ∈ unique, target ∈ kept.targetKeys

theorem mergeCandidate_merged {done : List Candidate} {state next : List Candidate × List EliminatedCandidate}
    {item : Candidate} (stepped : mergeCandidate state item = .ok next) (origin : Origin contract item.case)
    (holds : Merged contract done state.1) : Merged contract (done ++ [item]) next.1 := by
  unfold mergeCandidate at stepped
  cases found : Table.lookup fingerprintOf state.1 (fingerprintOf item) with
  | none =>
    rw [found] at stepped
    cases stepped
    have fresh := Table.lookup_none.mp found
    refine ⟨Table.insert_keyed holds.keyed fresh, ?_, ?_⟩
    · intro other member
      rcases List.mem_append.mp member with before | new
      · exact holds.origins other before
      · exact List.mem_singleton.mp new ▸ origin
    · intro other member target key
      rcases List.mem_append.mp member with before | new
      · obtain ⟨kept, inside, held⟩ := holds.keys other before target key
        exact ⟨kept, List.mem_append_left _ inside, held⟩
      · rw [List.mem_singleton.mp new] at key
        exact ⟨item, List.mem_append_right _ (List.mem_singleton_self item), key⟩
  | some previous =>
    obtain ⟨stored, same⟩ := Table.lookup_some found
    rw [found] at stepped
    obtain ⟨duplicate, -, stepped⟩ := bind_eq_ok.mp stepped
    cases stepped
    have placed : ∀ {kept : Candidate}, kept ∈ Table.put fingerprintOf state.1 (merged previous item) ↔
        kept = merged previous item ∨ (kept ∈ state.1 ∧ fingerprintOf kept ≠ fingerprintOf (merged previous item)) :=
      Table.mem_put
    refine ⟨holds.keyed.put _, ?_, ?_⟩
    · intro other member
      rcases placed.mp member with new | ⟨before, -⟩
      · exact new ▸ merged_origin (holds.origins previous stored) origin
      · exact holds.origins other before
    · have carried : ∀ kept ∈ state.1, ∀ target ∈ kept.targetKeys,
          ∃ kept ∈ Table.put fingerprintOf state.1 (merged previous item), target ∈ kept.targetKeys := by
        intro kept inside target key
        by_cases replaced : fingerprintOf kept = fingerprintOf (merged previous item)
        · -- the only candidate under the fingerprint is the one that was merged
          have itself : kept = previous := by
            apply holds.keyed.eq_of_mem inside stored
            rw [replaced, merged_fingerprint same, same]
          exact ⟨_, placed.mpr (.inl rfl), merged_keys.mpr (.inl (itself ▸ key))⟩
        · exact ⟨kept, placed.mpr (.inr ⟨inside, replaced⟩), key⟩
      intro other member target key
      rcases List.mem_append.mp member with before | new
      · obtain ⟨kept, inside, held⟩ := holds.keys other before target key
        exact carried kept inside target held
      · rw [List.mem_singleton.mp new] at key
        exact ⟨_, placed.mpr (.inl rfl), merged_keys.mpr (.inr key)⟩

/-- Removing duplicates loses no target. -/
theorem merge_merged {raw unique : List Candidate} {duplicates : List EliminatedCandidate}
    (walked : raw.foldlM mergeCandidate ([], []) = .ok (unique, duplicates))
    (origins : ∀ item ∈ raw, Origin contract item.case) : Merged contract raw unique := by
  have kept := foldlM_reflecting (fun _ => True) (fun done state => Merged contract done state.1) []
    (fun _ _ _ _ _ => trivial)
    (fun done state item next member stepped _ holds => mergeCandidate_merged stepped (origins item member) holds)
    walked trivial
  have start : Merged contract [] ([] : List Candidate) := by
    refine ⟨List.nodup_nil, ?_, ?_⟩
    · intro item member
      cases member
    · intro item member
      cases member
  exact kept.2 start

end Merging

section Targets

variable {contract : PermissionContract}

/-- The targets of differently named rules are different. -/
theorem named_nodup {entries : List (String × List Target)} (named : (entries.map (·.1)).Nodup)
    (own : ∀ entry ∈ entries, entry.2.Nodup ∧ ∀ target ∈ entry.2, target.ruleId = entry.1) :
    (entries.flatMap (·.2)).Nodup := by
  rw [List.nodup_flatMap]
  refine ⟨fun entry member => (own entry member).1, ?_⟩
  rw [List.Nodup, List.pairwise_map] at named
  refine named.imp_of_mem ?_
  intro first second inFirst inSecond differ target one other
  exact differ (((own first inFirst).2 target one).symm.trans ((own second inSecond).2 target other))

theorem ruleTargets_nodup (rule : PermissionRule) : (ruleTargets rule).Nodup := by
  unfold ruleTargets
  rw [List.nodup_cons]
  constructor
  · intro member
    obtain ⟨dimension, -, same⟩ := List.mem_map.mp member
    cases same
  · apply rule.distinct.map
    intro first second same
    cases same
    rfl

theorem planTargets_nodup (contract : PermissionContract) : (planTargets contract).Nodup := by
  let entries : List (String × List Target) := contract.rules.map (fun rule => (rule.ruleId, ruleTargets rule)) ++
    contract.batchRules.map fun rule => (rule.ruleId, batchTargets rule)
  have listed : planTargets contract = entries.flatMap (·.2) := by
    simp only [planTargets, entries, List.flatMap_append, List.flatMap_map]
  have names : entries.map (·.1) = contract.rules.map (·.ruleId) ++ contract.batchRules.map (·.ruleId) := by
    simp only [entries, List.map_append, List.map_map, Function.comp_def]
  rw [listed]
  apply named_nodup
  · rw [names]
    exact contract.named
  · intro entry member
    rcases List.mem_append.mp member with inRules | inBatches
    · obtain ⟨rule, -, rfl⟩ := List.mem_map.mp inRules
      refine ⟨ruleTargets_nodup rule, fun target inside => ?_⟩
      rcases List.mem_cons.mp inside with same | dimension
      · rw [same]
      · obtain ⟨dimension, -, rfl⟩ := List.mem_map.mp dimension
        rfl
    · obtain ⟨rule, -, rfl⟩ := List.mem_map.mp inBatches
      refine ⟨List.nodup_singleton _, fun target inside => ?_⟩
      rw [List.mem_singleton.mp inside]

end Targets

section Steps

variable {digest : Digest} {contract : PermissionContract} {request : PlanRequest} {plan : PermissionMutationPlan}

/-- The distinct candidates in the order of the plan: those within the budget, and the others. -/
def retainedOf (digest : Digest) (request : PlanRequest) (unique : List Candidate) : List Candidate :=
  (sortedBy (sortKey digest request) unique).take request.caseBudget.toNat

def droppedOf (digest : Digest) (request : PlanRequest) (unique : List Candidate) : List Candidate :=
  (sortedBy (sortKey digest request) unique).drop request.caseBudget.toNat

def gapsOf (settled : List Settlement) (dropped : List Candidate) : List CoverageGap :=
  settled.filterMap Sum.getLeft? ++ budgetGaps dropped

theorem mem_retained_or_dropped {unique : List Candidate} {item : Candidate} (member : item ∈ unique) :
    item ∈ retainedOf digest request unique ∨ item ∈ droppedOf digest request unique := by
  rw [← List.mem_append, retainedOf, droppedOf, List.take_append_drop]
  exact mem_sortedBy.mpr member

theorem retained_unique {unique : List Candidate} {item : Candidate}
    (member : item ∈ retainedOf digest request unique) : item ∈ unique :=
  mem_sortedBy.mp (List.mem_of_mem_take member)

/-- A returned plan was made from settled targets and distinct candidates. -/
theorem plan_steps (built : buildPermissionCoveragePlan digest contract request = .ok plan) :
    ∃ settled unique, settlements digest contract request = .ok settled ∧
      Merged contract (sortedBy (sortKey digest request) (settled.filterMap Sum.getRight?)) unique ∧
      plan.cases = (retainedOf digest request unique).map (·.case) ∧
      plan.coverage.Perm ((planTargets contract).map
        (coverageRecord (retainedOf digest request unique) (gapsOf settled (droppedOf digest request unique)))) := by
  obtain ⟨-, -, built⟩ := bind_eq_ok.mp built
  obtain ⟨-, -, built⟩ := bind_eq_ok.mp built
  obtain ⟨settled, settles, built⟩ := bind_eq_ok.mp built
  obtain ⟨⟨unique, duplicates⟩, merges, built⟩ := bind_eq_ok.mp built
  obtain ⟨exceeded, -, built⟩ := bind_eq_ok.mp built
  obtain ⟨-, -, same⟩ := bind_eq_ok.mp built
  cases same
  refine ⟨settled, unique, settles, ?_, rfl, sortedBy_perm _ _⟩
  apply merge_merged merges
  intro item member
  obtain ⟨settlement, listed, right⟩ := List.mem_filterMap.mp (mem_sortedBy.mp member)
  cases settlement with
  | inl gap => cases right
  | inr candidate =>
    have same : candidate = item := Option.some.inj right
    rw [← same]
    exact (settlements_ok settles).2 candidate listed

/-- Every target of the contract is kept by a retained candidate, or has a gap. -/
theorem target_kept {settled : List Settlement} {unique : List Candidate}
    (settles : settlements digest contract request = .ok settled)
    (merges : Merged contract (sortedBy (sortKey digest request) (settled.filterMap Sum.getRight?)) unique)
    {target : Target} (declared : target ∈ planTargets contract) :
    (∃ item ∈ retainedOf digest request unique, target ∈ item.targetKeys) ∨
      ∃ gap ∈ gapsOf settled (droppedOf digest request unique), gap.target = target := by
  obtain ⟨settlement, listed, settlesTarget⟩ := (settlements_ok settles).1 target declared
  cases settlement with
  | inl gap =>
    have recorded : gap ∈ settled.filterMap Sum.getLeft? := List.mem_filterMap.mpr ⟨.inl gap, listed, rfl⟩
    exact .inr ⟨gap, List.mem_append_left _ recorded, settlesTarget⟩
  | inr candidate =>
    have raw : candidate ∈ sortedBy (sortKey digest request) (settled.filterMap Sum.getRight?) :=
      mem_sortedBy.mpr (List.mem_filterMap.mpr ⟨.inr candidate, listed, rfl⟩)
    obtain ⟨kept, inside, key⟩ := merges.keys candidate raw target settlesTarget
    rcases @mem_retained_or_dropped digest request unique kept inside with retained | dropped
    · exact .inl ⟨kept, retained, key⟩
    · have budget : (⟨target, .BUDGET_EXCEEDED, "case budget exceeded"⟩ : CoverageGap) ∈
          budgetGaps (droppedOf digest request unique) :=
        List.mem_flatMap.mpr ⟨kept, dropped, List.mem_map.mpr ⟨target, key, rfl⟩⟩
      exact .inr ⟨_, List.mem_append_right _ budget, rfl⟩

end Steps

section Records

variable {retained : List Candidate} {gaps : List CoverageGap} {target : Target}

theorem record_covered (covered : (coverageRecord retained gaps target).status = .COVERED) :
    (coverageRecord retained gaps target).caseIds ≠ [] := by
  unfold coverageRecord at covered ⊢
  dsimp only at covered ⊢
  split at covered
  · rename_i both
    exact both.1
  · cases covered

theorem record_explained
    (kept : (∃ item ∈ retained, target ∈ item.targetKeys) ∨ ∃ gap ∈ gaps, gap.target = target)
    (open' : (coverageRecord retained gaps target).status = .GAP) :
    (coverageRecord retained gaps target).gapCodes ≠ [] := by
  unfold coverageRecord at open' ⊢
  dsimp only at open' ⊢
  intro none
  have codes : (gaps.filter fun gap => gap.target = target).map (·.code) = [] := by
    rw [List.eq_nil_iff_forall_not_mem]
    intro code member
    have sorted : code ∈ sortedBy CoverageGapCode.value
        ((gaps.filter fun gap => gap.target = target).map (·.code)).dedup := mem_sortedBy.mpr (List.mem_dedup.mpr member)
    rw [none] at sorted
    cases sorted
  rw [codes] at open'
  split at open'
  · cases open'
  · rename_i uncovered
    apply uncovered
    refine ⟨?_, rfl⟩
    rcases kept with ⟨item, member, key⟩ | ⟨gap, member, same⟩
    · have named : item.case.caseId ∈ (retained.filter fun item => target ∈ item.targetKeys).map (·.case.caseId) :=
        List.mem_map.mpr ⟨item, List.mem_filter.mpr ⟨member, decide_eq_true key⟩, rfl⟩
      exact List.ne_nil_of_mem named
    · have listed : gap.code ∈ (gaps.filter fun gap => gap.target = target).map (·.code) :=
        List.mem_map.mpr ⟨gap, List.mem_filter.mpr ⟨member, decide_eq_true same⟩, rfl⟩
      rw [codes] at listed
      cases listed

theorem record_names {caseId : String} (named : caseId ∈ (coverageRecord retained gaps target).caseIds) :
    ∃ item ∈ retained, item.case.caseId = caseId := by
  obtain ⟨item, member, same⟩ := List.mem_map.mp named
  exact ⟨item, (List.mem_filter.mp member).1, same⟩

end Records

/-- The case asks for a refusal of what the rule is about, through the given path. -/
def Refuses (case : PermissionMutationCase) (rule : PermissionRule) (path : List String) : Prop :=
  case.subjectId = rule.subjectId ∧ case.actionId = rule.actionId ∧ case.context = rule.context ∧
    (rule.resourceId, .DENY, path) ∈ case.resourceIds.zip (case.expectations.zip case.relationPaths)

/-- What a plan owes to its contract. -/
structure Faithful (contract : PermissionContract) (plan : PermissionMutationPlan) : Prop where
  rules : ∀ rule ∈ contract.rules,
    (plan.coverage.map (·.target)).count { ruleId := rule.ruleId, expectation := some rule.expectation } = 1 ∧
      ∀ dimension ∈ rule.coverageDimensions,
        (plan.coverage.map (·.target)).count { ruleId := rule.ruleId, dimension := some dimension } = 1
  batches : ∀ rule ∈ contract.batchRules,
    (plan.coverage.map (·.target)).count { ruleId := rule.ruleId, dimension := some .BULK } = 1
  covered : ∀ record ∈ plan.coverage, record.status = .COVERED →
    record.caseIds ≠ [] ∧ ∀ caseId ∈ record.caseIds, ∃ case ∈ plan.cases, case.caseId = caseId
  explained : ∀ record ∈ plan.coverage, record.status = .GAP → record.gapCodes ≠ []
  declared : ∀ case ∈ plan.cases, case.retentionReason ≠ .RECENT_NEIGHBOR →
    (∃ rule ∈ contract.rules, case.toCaseContent = ruleContent rule) ∨
      ∃ rule ∈ contract.batchRules, case.toCaseContent = batchContent rule
  uncontradicted : ∀ case ∈ plan.cases, case.retentionReason ≠ .RECENT_NEIGHBOR →
    case.retentionReason ≠ .BATCH_AUTHORIZATION →
    ∀ rule ∈ contract.rules, rule.expectation = .ALLOW → ¬ Refuses case rule rule.relationPath

section Plans

variable {digest : Digest} {contract : PermissionContract} {request : PlanRequest} {plan : PermissionMutationPlan}

/-- A case made from a rule never refuses what another rule allows through the same path. -/
theorem rule_uncontradicted {case : PermissionMutationCase} {source rule : PermissionRule}
    (listed : source ∈ contract.rules) (content : case.toCaseContent = ruleContent source)
    (member : rule ∈ contract.rules) (allowed : rule.expectation = .ALLOW) : ¬ Refuses case rule rule.relationPath := by
  rintro ⟨subject, action, context, refused⟩
  have subjects : case.subjectId = source.subjectId := congrArg CaseContent.subjectId content
  have actions : case.actionId = source.actionId := congrArg CaseContent.actionId content
  have contexts : case.context = source.context := congrArg CaseContent.context content
  have resources : case.resourceIds = [source.resourceId] := congrArg CaseContent.resourceIds content
  have expectations : case.expectations = [source.expectation] := congrArg CaseContent.expectations content
  have paths : case.relationPaths = [source.relationPath] := congrArg CaseContent.relationPaths content
  rw [resources, expectations, paths] at refused
  simp only [List.zip_cons_cons, List.zip_nil_right, List.mem_singleton, Prod.mk.injEq] at refused
  obtain ⟨resource, denied, path⟩ := refused
  have same : source.semantics = rule.semantics := by
    unfold PermissionRule.semantics
    rw [← subjects, ← actions, ← contexts, subject, action, context, resource, path]
  have expectation := contract.consistent source listed rule member same
  rw [← denied, allowed] at expectation
  cases expectation

end Plans

end Jiejian.Coverage.Planner
