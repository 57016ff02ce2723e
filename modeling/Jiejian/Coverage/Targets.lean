import Jiejian.Coverage.Plan

namespace Jiejian.Coverage.Targets

open Library Library.Document Library.Outcome Library.Sorting Errors
open Protocol.Codec Protocol.Cases Contract Candidates Plan

/-- The settlement decides the target: a gap for it, or a candidate that covers it. -/
def Settles (settlement : Settlement) (target : Target) : Prop :=
  match settlement with
  | .inl gap => gap.target = target
  | .inr candidate => target ∈ candidate.targetKeys

/-- Where the case of a candidate comes from: a rule, the neighbourhood of a rule, or a batch rule. -/
inductive Origin (contract : PermissionContract) (case : PermissionMutationCase) : Prop where
  | rule (source : PermissionRule) (listed : source ∈ contract.rules) (content : case.toCaseContent = ruleContent source)
      (reason : case.retentionReason = .EXPLICIT_ALLOW_BASELINE ∨ case.retentionReason = .EXPLICIT_DENY_RISK)
  | neighbor (source : PermissionRule) (listed : source ∈ contract.rules) (subjectId resourceId : String)
      (content : case.toCaseContent = neighborContent source subjectId resourceId)
      (reason : case.retentionReason = .RECENT_NEIGHBOR)
  | batch (source : BatchPermissionRule) (listed : source ∈ contract.batchRules)
      (content : case.toCaseContent = batchContent source) (reason : case.retentionReason = .BATCH_AUTHORIZATION)

section Settlements

variable {digest : Digest} {contract : PermissionContract} {request : PlanRequest}

theorem candidateCase_ok {ruleId : String} {dimensions : List CoverageDimension} {reason : RetentionReason}
    {priority : Nat} {content : CaseContent} {baseline : Bool} {candidate : Candidate}
    (made : candidateCase digest contract request ruleId dimensions reason priority content baseline = .ok candidate) :
    candidate.case.toCaseContent = content ∧ candidate.case.retentionReason = reason ∧
      candidate.targetKeys = (if baseline then [{ ruleId, expectation := content.expectations.head? }] else []) ++
        dimensions.map fun dimension => { ruleId, dimension := some dimension } := by
  obtain ⟨identity, -, made⟩ := bind_eq_ok.mp made
  obtain ⟨-, -, made⟩ := bind_eq_ok.mp made
  cases made
  exact ⟨rfl, rfl, rfl⟩

theorem openDimensions_eq (rule : PermissionRule) : openDimensions rule = rule.coverageDimensions := by
  apply List.filter_eq_self.mpr
  intro dimension member
  rw [decide_eq_true_eq]
  intro bulk
  exact rule.single (bulk ▸ member)

theorem neighbor_settles {rule : PermissionRule} {dimension : CoverageDimension} {settlement : Settlement}
    (settled : neighborSettlement digest contract request rule dimension = .ok settlement) :
    Settles settlement { ruleId := rule.ruleId, dimension := some dimension } := by
  obtain ⟨found, -, settled⟩ := bind_eq_ok.mp settled
  cases found with
  | error obstacle =>
    cases settled
    rfl
  | ok names =>
    obtain ⟨subjectId, resourceId⟩ := names
    dsimp only at settled
    by_cases subject : subjectId ∉ availableSubjects contract request
    · rw [if_pos subject] at settled
      cases settled
      rfl
    · rw [if_neg subject] at settled
      by_cases resource : resourceId ∉ availableResources contract request
      · rw [if_pos resource] at settled
        cases settled
        rfl
      · rw [if_neg resource] at settled
        obtain ⟨candidate, made, settled⟩ := bind_eq_ok.mp settled
        cases settled
        have keys := (candidateCase_ok made).2.2
        show _ ∈ candidate.targetKeys
        rw [keys]
        simp

theorem neighbor_origin {rule : PermissionRule} (listed : rule ∈ contract.rules) {dimension : CoverageDimension}
    {candidate : Candidate}
    (settled : neighborSettlement digest contract request rule dimension = .ok (.inr candidate)) :
    Origin contract candidate.case := by
  obtain ⟨found, -, settled⟩ := bind_eq_ok.mp settled
  cases found with
  | error obstacle => cases settled
  | ok names =>
    obtain ⟨subjectId, resourceId⟩ := names
    dsimp only at settled
    by_cases subject : subjectId ∉ availableSubjects contract request
    · rw [if_pos subject] at settled
      cases settled
    · rw [if_neg subject] at settled
      by_cases resource : resourceId ∉ availableResources contract request
      · rw [if_pos resource] at settled
        cases settled
      · rw [if_neg resource] at settled
        obtain ⟨other, made, settled⟩ := bind_eq_ok.mp settled
        cases settled
        obtain ⟨content, reason, -⟩ := candidateCase_ok made
        exact .neighbor rule listed subjectId resourceId content reason

/-- Every target of a rule is settled. -/
theorem ordinary_settles {rule : PermissionRule} {settled : List Settlement}
    (made : ordinaryCandidates digest contract request rule = .ok settled) :
    ∀ target ∈ ruleTargets rule, ∃ settlement ∈ settled, Settles settlement target := by
  obtain ⟨-, -, made⟩ := bind_eq_ok.mp made
  obtain ⟨-, -, made⟩ := bind_eq_ok.mp made
  unfold ruleTargets
  cases obstacle : ruleObstacle contract request rule with
  | some reason =>
    rw [obstacle] at made
    cases made
    intro target member
    refine ⟨gapAt target reason, List.mem_map.mpr ⟨target, ?_, rfl⟩, rfl⟩
    rw [openDimensions_eq]
    exact member
  | none =>
    rw [obstacle] at made
    obtain ⟨baseline, first, made⟩ := bind_eq_ok.mp made
    obtain ⟨neighbors, others, made⟩ := bind_eq_ok.mp made
    cases made
    intro target member
    rcases List.mem_cons.mp member with rfl | dimension
    · refine ⟨.inr baseline, List.mem_cons_self, ?_⟩
      show _ ∈ baseline.targetKeys
      rw [(candidateCase_ok first).2.2]
      exact List.mem_cons_self
    · obtain ⟨dimension, declared, rfl⟩ := List.mem_map.mp dimension
      rw [openDimensions_eq] at others
      obtain ⟨settlement, listed, settled⟩ := partner_right (mapM_eq_ok_iff.mp others) declared
      exact ⟨settlement, List.mem_cons_of_mem _ listed, neighbor_settles settled⟩

theorem ordinary_origin {rule : PermissionRule} (listed : rule ∈ contract.rules) {settled : List Settlement}
    (made : ordinaryCandidates digest contract request rule = .ok settled) {candidate : Candidate}
    (member : .inr candidate ∈ settled) : Origin contract candidate.case := by
  obtain ⟨-, -, made⟩ := bind_eq_ok.mp made
  obtain ⟨-, -, made⟩ := bind_eq_ok.mp made
  cases obstacle : ruleObstacle contract request rule with
  | some reason =>
    rw [obstacle] at made
    cases made
    obtain ⟨target, -, same⟩ := List.mem_map.mp member
    cases same
  | none =>
    rw [obstacle] at made
    obtain ⟨baseline, first, made⟩ := bind_eq_ok.mp made
    obtain ⟨neighbors, others, made⟩ := bind_eq_ok.mp made
    cases made
    rcases List.mem_cons.mp member with same | later
    · cases same
      obtain ⟨content, reason, -⟩ := candidateCase_ok first
      refine .rule rule listed content ?_
      rw [reason]
      split
      · exact .inl rfl
      · exact .inr rfl
    · obtain ⟨dimension, -, settled⟩ := partner_left (mapM_eq_ok_iff.mp others) later
      exact neighbor_origin listed settled

theorem batch_settles {rule : BatchPermissionRule} {settlement : Settlement}
    (made : batchCandidates digest contract request rule = .ok settlement) :
    Settles settlement { ruleId := rule.ruleId, dimension := some .BULK } := by
  unfold batchCandidates at made
  cases obstacle : batchObstacle contract request rule with
  | some reason =>
    rw [obstacle] at made
    cases made
    rfl
  | none =>
    rw [obstacle] at made
    obtain ⟨candidate, built, same⟩ := bind_eq_ok.mp made
    cases same
    show _ ∈ candidate.targetKeys
    rw [(candidateCase_ok built).2.2]
    simp

theorem batch_origin {rule : BatchPermissionRule} (listed : rule ∈ contract.batchRules) {candidate : Candidate}
    (made : batchCandidates digest contract request rule = .ok (.inr candidate)) : Origin contract candidate.case := by
  unfold batchCandidates at made
  cases obstacle : batchObstacle contract request rule with
  | some reason =>
    rw [obstacle] at made
    cases made
  | none =>
    rw [obstacle] at made
    obtain ⟨other, built, same⟩ := bind_eq_ok.mp made
    cases same
    obtain ⟨content, reason, -⟩ := candidateCase_ok built
    exact .batch rule listed content reason

/-- Every target of the contract is settled, and every candidate has an origin in the contract. -/
theorem settlements_ok {settled : List Settlement} (made : settlements digest contract request = .ok settled) :
    (∀ target ∈ planTargets contract, ∃ settlement ∈ settled, Settles settlement target) ∧
      ∀ candidate, .inr candidate ∈ settled → Origin contract candidate.case := by
  obtain ⟨ordinary, first, made⟩ := bind_eq_ok.mp made
  obtain ⟨batches, second, made⟩ := bind_eq_ok.mp made
  cases made
  have rules := mapM_eq_ok_iff.mp first
  have others := mapM_eq_ok_iff.mp second
  constructor
  · intro target member
    rcases List.mem_append.mp member with inRules | inBatches
    · obtain ⟨rule, listed, declared⟩ := List.mem_flatMap.mp inRules
      obtain ⟨list, inside, made⟩ := partner_right rules listed
      obtain ⟨settlement, found, settles⟩ := ordinary_settles made target declared
      exact ⟨settlement, List.mem_append_left _ (List.mem_flatten.mpr ⟨list, inside, found⟩), settles⟩
    · obtain ⟨rule, listed, declared⟩ := List.mem_flatMap.mp inBatches
      obtain ⟨settlement, inside, made⟩ := partner_right others listed
      rw [List.mem_singleton.mp declared]
      exact ⟨settlement, List.mem_append_right _ inside, batch_settles made⟩
  · intro candidate member
    rcases List.mem_append.mp member with inRules | inBatches
    · obtain ⟨list, inside, found⟩ := List.mem_flatten.mp inRules
      obtain ⟨rule, listed, made⟩ := partner_left rules inside
      exact ordinary_origin listed made found
    · obtain ⟨rule, listed, made⟩ := partner_left others inBatches
      exact batch_origin listed made

end Settlements

end Jiejian.Coverage.Targets
