import Jiejian.Coverage.Planner
import Jiejian.Library.Schema

namespace Jiejian.Coverage.Conflicts

open Library Library.Document Library.Outcome Library.Sorting Library.Schema Errors
open Protocol.Codec Protocol.Cases Contract Candidates Plan Targets Planner

section Distinct

variable {digest : Digest} {contract : PermissionContract} {request : PlanRequest}

/-- Candidates of different fingerprints are all kept, in their order. -/
theorem merge_distinct {done raw : List Candidate} (duplicates : List EliminatedCandidate)
    (distinct : Table.Keyed fingerprintOf (done ++ raw)) :
    raw.foldlM mergeCandidate (done, duplicates) = .ok (done ++ raw, duplicates) := by
  induction raw generalizing done with
  | nil => simp [pure, Except.pure]
  | cons item raw ih =>
    have fresh : Table.lookup fingerprintOf done (fingerprintOf item) = none := by
      apply Table.lookup_none.mpr
      intro other member same
      rw [Table.Keyed, List.map_append, List.nodup_append] at distinct
      exact distinct.2.2 _ (List.mem_map.mpr ⟨other, member, rfl⟩) _ (by simp) same
    have stepped : mergeCandidate (done, duplicates) item = .ok (done ++ [item], duplicates) := by
      unfold mergeCandidate
      rw [fresh]
      rfl
    rw [List.append_cons] at distinct
    calc
      _ = raw.foldlM mergeCandidate (done ++ [item], duplicates) := by
        rw [List.foldlM_cons, stepped]
        rfl
      _ = .ok (done ++ item :: raw, duplicates) := by
        rw [ih distinct, List.append_cons done item raw]

/-- A request that bounds nothing a small contract needs. -/
structure Ample (request : PlanRequest) (contract : PermissionContract) (settled : List Settlement) : Prop where
  budget : 0 ≤ request.caseBudget ∧ request.caseBudget ≤ 8192
  depth : 1 ≤ request.maxRelationDepth
  fits : (settled.filterMap Sum.getRight?).length ≤ request.caseBudget.toNat
  targets : (planTargets contract).length ≤ 16384
  gaps : (settled.filterMap Sum.getLeft?).length ≤ 16384

/-- Within its bounds a plan keeps every candidate of its own fingerprint. -/
theorem plan_of_distinct {settled : List Settlement} (settles : settlements digest contract request = .ok settled)
    (distinct : Table.Keyed fingerprintOf (settled.filterMap Sum.getRight?)) (ample : Ample request contract settled) :
    ∃ plan, buildPermissionCoveragePlan digest contract request = .ok plan ∧
      (∀ candidate, .inr candidate ∈ settled → candidate.case ∈ plan.cases) ∧
      (plan.coverage.map (·.target)).Perm (planTargets contract) := by
  let raw := sortedBy (sortKey digest request) (settled.filterMap Sum.getRight?)
  have perm : raw.Perm (settled.filterMap Sum.getRight?) := sortedBy_perm _ _
  have keyed : Table.Keyed fingerprintOf ([] ++ raw) := (perm.map fingerprintOf).nodup_iff.mpr distinct
  have merges : raw.foldlM mergeCandidate ([], []) = .ok (raw, []) := merge_distinct [] keyed
  have ordered : sortedBy (sortKey digest request) raw = raw := sortedBy_sortedBy _ _
  have count : raw.length ≤ request.caseBudget.toNat := by
    rw [perm.length_eq]
    exact ample.fits
  have taken : raw.take request.caseBudget.toNat = raw := List.take_of_length_le count
  have dropped : raw.drop request.caseBudget.toNat = [] := List.drop_eq_nil_of_le count
  let gaps := settled.filterMap Sum.getLeft? ++ budgetGaps []
  let plan := sealPlan digest contract request raw.length (raw.map (·.case))
    (sortedBy (fun record => targetOrder record.target) ((planTargets contract).map (coverageRecord raw gaps)))
    (sortedBy gapOrder gaps) (sortedBy eliminatedOrder ([] ++ []))
  have counts : plan.validateCounts = .ok () := by
    have small : raw.length ≤ 8192 := by
      have budget := ample.budget
      omega
    have covered : plan.coverage.length = (planTargets contract).length := by
      rw [← List.length_map (coverageRecord raw gaps)]
      exact (sortedBy_perm _ _).length_eq
    have missing : plan.gaps.length = (settled.filterMap Sum.getLeft?).length := by
      have listed : gaps = settled.filterMap Sum.getLeft? := List.append_nil _
      rw [← listed]
      exact (sortedBy_perm _ _).length_eq
    have cases' : plan.cases.length = raw.length := List.length_map _
    refine bind_eq_ok.mpr ⟨(), require_eq_ok.mpr ample.budget, bind_eq_ok.mpr ⟨(), require_eq_ok.mpr ⟨small, ?_⟩,
      bind_eq_ok.mpr ⟨(), require_eq_ok.mpr ⟨?_, ?_, ?_⟩, bind_eq_ok.mpr ⟨(), require_eq_ok.mpr ?_,
        require_eq_ok.mpr rfl⟩⟩⟩⟩
    · exact Nat.le_trans (Nat.le_of_eq cases') small
    · rw [covered]
      exact ample.targets
    · rw [missing]
      exact ample.gaps
    · exact Nat.zero_le _
    · exact Nat.le_of_eq cases'
  refine ⟨plan, ?_, ?_, ?_⟩
  · refine bind_eq_ok.mpr ⟨(), require_eq_ok.mpr ample.budget.1, bind_eq_ok.mpr ⟨(), require_eq_ok.mpr ample.depth,
      bind_eq_ok.mpr ⟨settled, settles, bind_eq_ok.mpr ⟨(raw, []), merges, ?_⟩⟩⟩⟩
    dsimp only
    rw [ordered, taken, dropped]
    exact bind_eq_ok.mpr ⟨[], rfl, bind_eq_ok.mpr ⟨(), counts, rfl⟩⟩
  · intro candidate listed
    have member : candidate ∈ raw := perm.mem_iff.mpr (List.mem_filterMap.mpr ⟨.inr candidate, listed, rfl⟩)
    exact List.mem_map.mpr ⟨candidate, member, rfl⟩
  · have mapped := (sortedBy_perm (fun record => targetOrder record.target)
      ((planTargets contract).map (coverageRecord raw gaps))).map (·.target)
    rw [List.map_map] at mapped
    have same : ((·.target) ∘ coverageRecord raw gaps) = id := rfl
    rw [same, List.map_id] at mapped
    exact mapped

/-- Equal fingerprints were made from the same subject, expectations and paths. -/
theorem fingerprint_content {engineVersion : String} {left right : CaseContent}
    (same : canonicalSha256 digest (left.semantic engineVersion) = canonicalSha256 digest (right.semantic engineVersion)) :
    left.subjectId = right.subjectId ∧ left.expectations = right.expectations ∧
      left.relationPaths = right.relationPaths := by
  have documents := digest.collisionFree _ _ (congrArg digest.short same)
  have word : Function.Injective Expectation.value := by
    intro first second equal
    cases first <;> cases second <;> simp [Expectation.value] at equal ⊢
  refine ⟨?_, ?_, ?_⟩
  · exact separating_str.field documents "subject_id" (by simp [CaseContent.facts]) (by simp [CaseContent.facts])
  · exact (separating_list (separating_word word)).field documents "expectations" (by simp [CaseContent.facts])
      (by simp [CaseContent.facts])
  · exact (separating_list (separating_list separating_str)).field documents "relation_paths"
      (by simp [CaseContent.facts, strings]) (by simp [CaseContent.facts, strings])

end Distinct

/-- Two subjects who may read a document, one of whom a second path denies it to. -/
def sampleRule (ruleId subjectId path : String) (expectation : Expectation) (dimensions : List CoverageDimension)
    (distinct : dimensions.Nodup) (single : CoverageDimension.BULK ∉ dimensions) : PermissionRule where
  ruleId := ruleId
  subjectId := subjectId
  actionId := "read"
  resourceId := "report"
  relationPath := [path]
  expectation := expectation
  requiredObservations := ["resource_state"]
  coverageDimensions := dimensions
  distinct := distinct
  single := single

def sampleRules : List PermissionRule :=
  [sampleRule "rule-allow-alice" "alice" "owns" .ALLOW [.ROLE] (by decide) (by decide),
    sampleRule "rule-allow-bob" "bob" "shares" .ALLOW [] (by decide) (by decide),
    sampleRule "rule-deny-alice" "alice" "joins" .DENY [.TENANT] (by decide) (by decide)]

def sampleBatch : BatchPermissionRule where
  ruleId := "rule-batch"
  subjectId := "alice"
  actionId := "read"
  resourceExpectations := [⟨"draft", .DENY, []⟩, ⟨"report", .DENY, []⟩]
  requiredObservations := ["resource_state"]
  coverageDimensions := [.BULK, .ROLE]

def sampleRelation (relationId subjectId : String) (relation : RelationType) : RelationFact where
  relationId := relationId
  relation := relation
  source := ⟨.subject, subjectId⟩
  target := ⟨.resource, "report"⟩

def sampleContract : PermissionContract where
  subjects := [⟨"alice", ["user"], some "tenant", some "department", 0⟩,
    ⟨"bob", ["admin"], some "tenant", some "department", 1⟩]
  actions := [⟨"read", true, none⟩]
  resources := [⟨"draft", "document", some "tenant", some "department", none, "ACTIVE"⟩,
    ⟨"report", "document", some "tenant", some "department", none, "ACTIVE"⟩]
  relations := [sampleRelation "joins" "alice" .MEMBER_OF, sampleRelation "owns" "alice" .OWNS,
    sampleRelation "shares" "bob" .MEMBER_OF]
  rules := sampleRules
  batchRules := [sampleBatch]
  facts := .null
  named := by decide
  consistent := by
    intro first inFirst second inSecond same
    simp only [sampleRules, List.mem_cons, List.not_mem_nil, or_false] at inFirst inSecond
    rcases inFirst with rfl | rfl | rfl <;> rcases inSecond with rfl | rfl | rfl <;>
      simp [sampleRule, PermissionRule.semantics] at same ⊢

def sampleRequest : PlanRequest where
  engineVersion := "coverage-v2"
  seed := 7
  caseBudget := 16

/-- What the plan of the sample asks, and why. -/
def sampleCases : List (CaseContent × RetentionReason) :=
  [(ruleContent (sampleRule "rule-allow-alice" "alice" "owns" .ALLOW [.ROLE] (by decide) (by decide)),
      .EXPLICIT_ALLOW_BASELINE),
    (neighborContent (sampleRule "rule-allow-alice" "alice" "owns" .ALLOW [.ROLE] (by decide) (by decide)) "bob"
      "report", .RECENT_NEIGHBOR),
    (ruleContent (sampleRule "rule-allow-bob" "bob" "shares" .ALLOW [] (by decide) (by decide)),
      .EXPLICIT_ALLOW_BASELINE),
    (ruleContent (sampleRule "rule-deny-alice" "alice" "joins" .DENY [.TENANT] (by decide) (by decide)),
      .EXPLICIT_DENY_RISK),
    (batchContent sampleBatch, .BATCH_AUTHORIZATION)]

theorem sample_settled (digest : Digest) : ∃ settled, settlements digest sampleContract sampleRequest = .ok settled ∧
    (settled.filterMap Sum.getRight?).map (fun candidate => (candidate.case.toCaseContent, candidate.case.retentionReason))
      = sampleCases ∧
    (settled.filterMap Sum.getRight?).map fingerprintOf =
      sampleCases.map (fun listed => canonicalSha256 digest (listed.1.semantic "coverage-v2")) ∧
    (settled.filterMap Sum.getLeft?).length = 1 :=
  ⟨_, rfl, rfl, rfl, rfl⟩

theorem sample_keyed {digest : Digest} {candidates : List Candidate}
    (fingerprints : candidates.map fingerprintOf =
      sampleCases.map fun listed => canonicalSha256 digest (listed.1.semantic "coverage-v2")) :
    Table.Keyed fingerprintOf candidates := by
  have distinct : (sampleCases.map fun listed =>
      (listed.1.subjectId, listed.1.expectations, listed.1.relationPaths)).Nodup := by
    decide
  rw [Table.Keyed, fingerprints]
  rw [List.Nodup, List.pairwise_map] at distinct ⊢
  refine distinct.imp ?_
  intro first second differ same
  obtain ⟨subject, expectations, paths⟩ := fingerprint_content same
  exact differ (Prod.ext subject (Prod.ext expectations paths))

/-- The sample has a plan with all of its cases, and its targets are those of the contract. -/
theorem sample_planned (digest : Digest) :
    ∃ plan, buildPermissionCoveragePlan digest sampleContract sampleRequest = .ok plan ∧
      (∀ listed ∈ sampleCases, ∃ case ∈ plan.cases, case.toCaseContent = listed.1 ∧ case.retentionReason = listed.2) ∧
      (plan.coverage.map (·.target)).Perm (planTargets sampleContract) := by
  obtain ⟨settled, settles, contents, fingerprints, missing⟩ := sample_settled digest
  have count : (settled.filterMap Sum.getRight?).length = 5 := by
    rw [← List.length_map, contents]
    rfl
  have ample : Ample sampleRequest sampleContract settled := by
    refine ⟨by decide, by decide, ?_, Nat.le_of_ble_eq_true rfl, ?_⟩
    · rw [count]
      exact Nat.le_of_ble_eq_true rfl
    · rw [missing]
      exact Nat.le_of_ble_eq_true rfl
  obtain ⟨plan, built, kept, targets⟩ := plan_of_distinct settles (sample_keyed fingerprints) ample
  refine ⟨plan, built, ?_, targets⟩
  intro listed member
  rw [← contents] at member
  obtain ⟨candidate, inside, same⟩ := List.mem_map.mp member
  obtain ⟨settlement, held, right⟩ := List.mem_filterMap.mp inside
  cases settlement with
  | inl gap => cases right
  | inr other =>
    have itself : other = candidate := Option.some.inj right
    subst itself
    exact ⟨other.case, kept other held, congrArg Prod.fst same, congrArg Prod.snd same⟩

/-- The case asks for a refusal of what the rule allows, by whatever path. -/
def Contradicts (case : PermissionMutationCase) (rule : PermissionRule) : Prop :=
  rule.expectation = .ALLOW ∧ ∃ path, Refuses case rule path

theorem content_contradicts {case : PermissionMutationCase} {content : CaseContent} {rule : PermissionRule}
    {path : List String} (same : case.toCaseContent = content) (allowed : rule.expectation = .ALLOW)
    (asked : content.subjectId = rule.subjectId ∧ content.actionId = rule.actionId ∧ content.context = rule.context ∧
      (rule.resourceId, .DENY, path) ∈ content.resourceIds.zip (content.expectations.zip content.relationPaths)) :
    Contradicts case rule := by
  subst same
  exact ⟨allowed, path, asked⟩

end Jiejian.Coverage.Conflicts
