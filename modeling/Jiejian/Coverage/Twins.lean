import Jiejian.Coverage.Differential
import Jiejian.Library.Schema

namespace Jiejian.Coverage.Twins

open Library Library.Document Library.Outcome Library.Schema Library.Sorting Errors
open Protocol.Codec Protocol.Cases Contract Candidates Plan Coverage.Differential

section Variation

variable {allow deny : PermissionMutationCase}

/-- The same subject by the same relation paths. -/
def SameAccess (allow deny : PermissionMutationCase) : Prop :=
  allow.subjectId = deny.subjectId ∧ allow.relationPaths = deny.relationPaths

/-- The context is filed under RELATION, where the relation paths stand already. -/
def Overwritten (allow deny : PermissionMutationCase) : Prop :=
  allow.relationPaths ≠ deny.relationPaths ∧ allow.context ≠ deny.context ∧
    allow.context.workflowStates = deny.context.workflowStates ∧
    CoverageDimension.TENANT ∉ deny.dimensions ∧ CoverageDimension.DEPARTMENT ∉ deny.dimensions

theorem contextDimension_relation : contextDimension deny = .RELATION ↔
    CoverageDimension.TENANT ∉ deny.dimensions ∧ CoverageDimension.DEPARTMENT ∉ deny.dimensions := by
  by_cases tenant : CoverageDimension.TENANT ∈ deny.dimensions
  · simp [contextDimension, tenant]
  · by_cases department : CoverageDimension.DEPARTMENT ∈ deny.dimensions
    · simp [contextDimension, tenant, department]
    · simp [contextDimension, tenant, department]

theorem contextDimension_scope (deny : PermissionMutationCase) :
    contextDimension deny ≠ .ROLE ∧ contextDimension deny ≠ .WORKFLOW := by
  by_cases tenant : CoverageDimension.TENANT ∈ deny.dimensions
  · simp [contextDimension, tenant]
  · by_cases department : CoverageDimension.DEPARTMENT ∈ deny.dimensions
    · simp [contextDimension, tenant, department]
    · simp [contextDimension, tenant, department]

/-- The context alone is explained by one dimension. -/
theorem variation_context (access : SameAccess allow deny) (context : allow.context ≠ deny.context) :
    ∃ dimension, variation allow deny = (some dimension, ["context"]) := by
  obtain ⟨subject, paths⟩ := access
  have changed : variationFields allow deny = ["context"] := by simp [variationFields, subject, paths, context]
  by_cases states : allow.context.workflowStates = deny.context.workflowStates
  · obtain ⟨role, workflow⟩ := contextDimension_scope deny
    refine ⟨contextDimension deny, ?_⟩
    simp [variation, variationGroups, changed, states, Table.put, role, workflow]
  · exact ⟨.WORKFLOW, by simp [variation, variationGroups, changed, states]⟩

/-- The access alone is explained by one dimension. -/
theorem variation_access (access : ¬ SameAccess allow deny) (context : allow.context = deny.context) :
    ∃ dimension, variation allow deny = (some dimension, sortedBy id (variationFields allow deny)) := by
  unfold SameAccess at access
  by_cases subject : allow.subjectId = deny.subjectId
  · have paths : allow.relationPaths ≠ deny.relationPaths := fun same => access ⟨subject, same⟩
    have changed : variationFields allow deny = ["relation_paths"] := by simp [variationFields, subject, paths, context]
    exact ⟨.RELATION, by simp [variation, variationGroups, changed]⟩
  · by_cases paths : allow.relationPaths = deny.relationPaths
    · have changed : variationFields allow deny = ["subject_id"] := by simp [variationFields, subject, paths, context]
      exact ⟨.ROLE, by simp [variation, variationGroups, changed]⟩
    · have changed : variationFields allow deny = ["subject_id", "relation_paths"] := by
        simp [variationFields, subject, paths, context]
      exact ⟨.RELATION, by simp [variation, variationGroups, changed]⟩

/-- The entry of the relation paths is lost to the context. -/
theorem variation_overwritten (overwritten : Overwritten allow deny) :
    variation allow deny = (some .RELATION, ["context"]) ∧ "relation_paths" ∈ variationFields allow deny := by
  obtain ⟨paths, context, states, scopes⟩ := overwritten
  have dimension := contextDimension_relation.mpr scopes
  have changed : "relation_paths" ∈ variationFields allow deny := by simp [variationFields, paths]
  have moved : "context" ∈ variationFields allow deny := by simp [variationFields, context]
  refine ⟨?_, changed⟩
  simp [variation, variationGroups, changed, moved, states, Table.put, Table.replace, dimension]

/-- A change of the access and of the context is not one dimension's. -/
theorem variation_multiple (access : ¬ SameAccess allow deny) (context : allow.context ≠ deny.context)
    (kept : ¬ Overwritten allow deny) : (variation allow deny).1 = none := by
  obtain ⟨role, workflow⟩ := contextDimension_scope deny
  by_cases paths : allow.relationPaths = deny.relationPaths
  · have subject : allow.subjectId ≠ deny.subjectId := fun same => access ⟨same, paths⟩
    have changed : variationFields allow deny = ["subject_id", "context"] := by
      simp [variationFields, subject, paths, context]
    by_cases states : allow.context.workflowStates = deny.context.workflowStates
    · simp [variation, variationGroups, changed, states, Table.put, role, workflow]
    · simp [variation, variationGroups, changed, states]
  · have changed : variationFields allow deny = ["relation_paths", "context"] ∨
        variationFields allow deny = ["subject_id", "relation_paths", "context"] := by
      by_cases subject : allow.subjectId = deny.subjectId
      · simp [variationFields, subject, paths, context]
      · simp [variationFields, subject, paths, context]
    by_cases states : allow.context.workflowStates = deny.context.workflowStates
    · have scope : contextDimension deny ≠ .RELATION := fun relation =>
        kept ⟨paths, context, states, contextDimension_relation.mp relation⟩
      rcases changed with changed | changed <;>
        simp [variation, variationGroups, changed, states, Table.put, scope, workflow]
    · rcases changed with changed | changed <;> simp [variation, variationGroups, changed, states]

theorem variation_unchanged (access : SameAccess allow deny) (context : allow.context = deny.context) :
    (variation allow deny).1 = none := by
  obtain ⟨subject, paths⟩ := access
  have changed : variationFields allow deny = [] := by simp [variationFields, subject, paths, context]
  simp [variation, variationGroups, changed]

/-- A difference is explained exactly when one of the two parts changed alone, or one hides the other. -/
theorem variation_none : (variation allow deny).1 = none ↔
    (SameAccess allow deny ↔ allow.context = deny.context) ∧ ¬ Overwritten allow deny := by
  by_cases access : SameAccess allow deny
  · by_cases context : allow.context = deny.context
    · simp [variation_unchanged access context, access, context, Overwritten]
    · obtain ⟨dimension, explained⟩ := variation_context access context
      simp [explained, access, context]
  · by_cases context : allow.context = deny.context
    · obtain ⟨dimension, explained⟩ := variation_access access context
      simp [explained, access, context]
    · by_cases overwritten : Overwritten allow deny
      · simp [variation_overwritten overwritten, overwritten]
      · simp [variation_multiple access context overwritten, access, context, overwritten]

/-- An explained difference names every changed field, unless one hides another. -/
theorem variation_fields {dimension : CoverageDimension} {fields : List String}
    (explained : variation allow deny = (some dimension, fields)) :
    SameSet fields (variationFields allow deny) ↔ ¬ Overwritten allow deny := by
  by_cases overwritten : Overwritten allow deny
  · obtain ⟨shown, changed⟩ := variation_overwritten overwritten
    have named : fields = ["context"] := congrArg Prod.snd (explained.symm.trans shown)
    refine iff_of_false ?_ (not_not.mpr overwritten)
    intro same
    have listed := same.2 changed
    rw [named] at listed
    exact absurd listed (by decide)
  · refine iff_of_true ?_ overwritten
    have single : ¬ (SameAccess allow deny ↔ allow.context = deny.context) := by
      intro alike
      have none := variation_none.mpr ⟨alike, overwritten⟩
      rw [explained] at none
      cases none
    by_cases access : SameAccess allow deny
    · have context : allow.context ≠ deny.context := fun same => single (iff_of_true access same)
      obtain ⟨_, shown⟩ := variation_context access context
      have changed : variationFields allow deny = ["context"] := by
        simp [variationFields, access.1, access.2, context]
      have named : fields = ["context"] := congrArg Prod.snd (explained.symm.trans shown)
      rw [changed, named]
      exact ⟨List.Subset.refl _, List.Subset.refl _⟩
    · have context : allow.context = deny.context := by
        by_contra differ
        exact single (iff_of_false access differ)
      obtain ⟨_, shown⟩ := variation_access access context
      have named : fields = sortedBy id (variationFields allow deny) := congrArg Prod.snd (explained.symm.trans shown)
      exact sameSet_of_mem_iff fun value => by rw [named, mem_sortedBy]

end Variation

section Nearest

variable {digest : Digest} {coverage : PermissionMutationPlan} {frozen : FrozenInvariants}
  {deny allow : PermissionMutationCase}

/-- The control with the fewest changes, when no other has as few. -/
def Nearest (coverage : PermissionMutationPlan) (deny allow : PermissionMutationCase) : Prop :=
  ∃ others, (controls coverage deny).Perm (allow :: others) ∧
    ∀ other ∈ others, distance deny allow < distance deny other

theorem distance_le {first second : PermissionMutationCase} (before : controlOrder deny first ≤ controlOrder deny second) :
    distance deny first ≤ distance deny second := by
  rcases Prod.Lex.toLex_le_toLex.mp before with closer | ⟨same, -⟩
  · exact Nat.le_of_lt closer
  · exact Nat.le_of_eq same

/-- The nearest control heads the ranking. -/
theorem nearest_ranked (nearest : Nearest coverage deny allow) :
    ∃ others, sortedBy (controlOrder deny) (controls coverage deny) = allow :: others ∧
      ∀ other ∈ others, distance deny allow < distance deny other := by
  obtain ⟨others, perm, closest⟩ := nearest
  have reordered := (sortedBy_perm (controlOrder deny) (controls coverage deny)).trans perm
  have ordered := sortedBy_ordered (controlOrder deny) (controls coverage deny)
  cases ranked : sortedBy (controlOrder deny) (controls coverage deny) with
  | nil =>
    rw [ranked] at reordered
    exact absurd reordered.symm (List.cons_ne_nil _ _ ∘ List.Perm.eq_nil)
  | cons first rest =>
    rw [ranked] at reordered ordered
    rcases List.mem_cons.mp (reordered.mem_iff.mp List.mem_cons_self) with same | later
    · refine ⟨rest, congrArg (· :: rest) same, ?_⟩
      rw [same] at reordered
      intro other member
      exact closest other (reordered.cons_inv.mem_iff.mp member)
    · exfalso
      have farther := closest first later
      rcases List.mem_cons.mp (reordered.mem_iff.mpr List.mem_cons_self) with same | inside
      · rw [same] at farther
        omega
      · have before := distance_le ((List.pairwise_cons.mp ordered).1 allow inside)
        omega

/-- A head of the ranking that is not tied is the nearest control. -/
theorem ranked_nearest {others : List PermissionMutationCase}
    (ranked : sortedBy (controlOrder deny) (controls coverage deny) = allow :: others)
    (untied : (others.head?.any fun second => decide (distance deny allow = distance deny second)) = false) :
    Nearest coverage deny allow := by
  have ordered := sortedBy_ordered (controlOrder deny) (controls coverage deny)
  rw [ranked] at ordered
  refine ⟨others, ranked ▸ (sortedBy_perm (controlOrder deny) (controls coverage deny)).symm, ?_⟩
  cases others with
  | nil => exact fun _ member => absurd member List.not_mem_nil
  | cons second rest =>
    have apart : distance deny allow ≠ distance deny second := by simpa using untied
    obtain ⟨first, later⟩ := List.pairwise_cons.mp ordered
    have closer := distance_le (first second List.mem_cons_self)
    intro other member
    rcases List.mem_cons.mp member with rfl | inside
    · omega
    · have beyond := distance_le ((List.pairwise_cons.mp later).1 other inside)
      omega

end Nearest

section Settlement

variable {digest : Digest} {coverage : PermissionMutationPlan} {frozen : FrozenInvariants}
  {deny allow : PermissionMutationCase} {outcome : TwinPlanGap ⊕ PermissionTwin}

theorem createTwin_ok {dimension : CoverageDimension} {fields : List String} {invariant : TwinInvariantSpecification}
    {twin : PermissionTwin} (created : createTwin digest allow deny dimension fields invariant = .ok twin) :
    twin.allowCase = allow ∧ twin.denyCase = deny ∧ twin.mutation.changedFields = fields := by
  obtain ⟨_, -, created⟩ := bind_eq_ok.mp created
  obtain ⟨_, -, created⟩ := bind_eq_ok.mp created
  have made := Except.ok.inj created
  rw [← made]
  exact ⟨rfl, rfl, rfl⟩

/-- What becomes of a denied case with a nearest control. -/
theorem settle_nearest (nearest : Nearest coverage deny allow) :
    settleDenied digest coverage frozen deny = match variation allow deny with
      | (none, _) => .ok (.inl (twinGap deny .MULTIPLE_VARIATIONS "ALLOW 与 DENY 之间不是一个可解释的权限变化"))
      | (some dimension, changedFields) =>
        match invariantOf frozen deny with
        | none => .ok (.inl (twinGap deny .MISSING_INVARIANT "工作流、效果或基线不变量尚未冻结"))
        | some invariant => do
          let twin ← createTwin digest allow deny dimension changedFields invariant
          return .inr twin := by
  obtain ⟨others, ranked, closest⟩ := nearest_ranked nearest
  have untied : (others.head?.any fun second => decide (distance deny allow = distance deny second)) = false := by
    cases others with
    | nil => rfl
    | cons second rest =>
      have closer := closest second List.mem_cons_self
      simp only [List.head?_cons, Option.any_some, decide_eq_false_iff_not]
      omega
  simp only [settleDenied, ranked, untied, Bool.false_eq_true, if_false]
  rfl

/-- An explained difference becomes a twin, or waits for its invariants. -/
theorem settle_explained {dimension : CoverageDimension} {fields : List String}
    (nearest : Nearest coverage deny allow) (explained : variation allow deny = (some dimension, fields))
    (settled : settleDenied digest coverage frozen deny = .ok outcome) :
    (invariantOf frozen deny = none ∧ ∃ detail, outcome = .inl ⟨deny.caseId, .MISSING_INVARIANT, detail⟩) ∨
      ((invariantOf frozen deny).isSome = true ∧ ∃ twin, outcome = .inr twin ∧ twin.allowCase = allow ∧
        twin.denyCase = deny ∧ twin.mutation.changedFields = fields) := by
  rw [settle_nearest nearest, explained] at settled
  cases known : invariantOf frozen deny with
  | none =>
    rw [known] at settled
    exact .inl ⟨rfl, _, (Except.ok.inj settled).symm⟩
  | some invariant =>
    rw [known] at settled
    obtain ⟨twin, created, same⟩ := bind_eq_ok.mp settled
    exact .inr ⟨rfl, twin, (Except.ok.inj same).symm, createTwin_ok created⟩

/-- A twin is made of a denied case and its nearest control. -/
theorem settle_twin {twin : PermissionTwin} (settled : settleDenied digest coverage frozen deny = .ok (.inr twin)) :
    ∃ allow dimension fields, Nearest coverage deny allow ∧ variation allow deny = (some dimension, fields) := by
  unfold settleDenied at settled
  cases ranked : sortedBy (controlOrder deny) (controls coverage deny) with
  | nil =>
    simp only [ranked] at settled
    cases Except.ok.inj settled
  | cons allow others =>
    simp only [ranked] at settled
    cases tied : others.head?.any fun second => decide (distance deny allow = distance deny second) with
    | true =>
      simp only [tied, if_true] at settled
      cases Except.ok.inj settled
    | false =>
      simp only [tied, Bool.false_eq_true, if_false] at settled
      cases explained : variation allow deny with
      | mk dimension fields =>
        cases dimension with
        | none =>
          simp only [explained] at settled
          cases Except.ok.inj settled
        | some dimension => exact ⟨allow, dimension, fields, ranked_nearest ranked tied, explained⟩

end Settlement

/-- The dimensions whose components of the context differ; the listed resources belong to the relation. -/
def contextChanges (left right : PermissionContext) : List CoverageDimension :=
  (if left.workflowStates ≠ right.workflowStates then [.WORKFLOW] else []) ++
  (if left.tenantIds ≠ right.tenantIds then [.TENANT] else []) ++
  (if left.departmentIds ≠ right.departmentIds then [.DEPARTMENT] else []) ++
  (if left.resourceIds ≠ right.resourceIds then [.RELATION] else [])

/-- The workflow states changed together with the tenants or the departments. -/
def MixedContext (left right : PermissionContext) : Prop :=
  left.workflowStates ≠ right.workflowStates ∧
    (left.tenantIds ≠ right.tenantIds ∨ left.departmentIds ≠ right.departmentIds)

/-- More than one permission dimension changed. -/
def Multiple (allow deny : PermissionMutationCase) : Prop :=
  (¬ SameAccess allow deny ∧ allow.context ≠ deny.context) ∨ MixedContext allow.context deny.context

/-- Every twin explains its difference by one dimension, and what needs several is a gap. -/
structure Explained (coverage : PermissionMutationPlan) (plan : DifferentialExperimentPlan) : Prop where
  fields : ∀ twin ∈ plan.twins, SameSet twin.mutation.changedFields (variationFields twin.allowCase twin.denyCase)
  component : ∀ twin ∈ plan.twins, (contextChanges twin.allowCase.context twin.denyCase.context).length ≤ 1
  gaps : ∀ deny ∈ ordinaryCases coverage .DENY, ∀ allow, Nearest coverage deny allow → Multiple allow deny →
    (∃ gap ∈ plan.gaps, gap.denyCaseId = deny.caseId ∧ gap.code = .MULTIPLE_VARIATIONS) ∧
      ∀ twin ∈ plan.twins, twin.denyCase ≠ deny

/-- Nothing of the difference is hidden: no field overwrites another, and a context that changed alone did so
in one component. -/
def Explainable (frozen : FrozenInvariants) (allow deny : PermissionMutationCase) : Prop :=
  ¬ Overwritten allow deny ∧ (SameAccess allow deny → ¬ MixedContext allow.context deny.context ∧
    ((invariantOf frozen deny).isSome = true → (contextChanges allow.context deny.context).length ≤ 1))

section Plan

variable {digest : Digest} {coverage : PermissionMutationPlan} {frozen : FrozenInvariants}
  {deny allow : PermissionMutationCase} {plan : DifferentialExperimentPlan}

theorem changed_of_component {left right : PermissionContext} (same : left = right) : contextChanges left right = [] := by
  simp [contextChanges, same]

theorem MixedContext.ne {left right : PermissionContext} (mixed : MixedContext left right) : left ≠ right :=
  fun same => mixed.1 (congrArg PermissionContext.workflowStates same)

/-- A built plan lists what became of each denied case. -/
theorem built_settled (built : buildDifferentialExperimentPlan digest coverage frozen = .ok plan) :
    (∀ deny ∈ ordinaryCases coverage .DENY, ∃ outcome, settleDenied digest coverage frozen deny = .ok outcome) ∧
      (∀ twin, twin ∈ plan.twins ↔
        ∃ deny ∈ ordinaryCases coverage .DENY, settleDenied digest coverage frozen deny = .ok (.inr twin)) ∧
      (∀ gap, gap ∈ plan.gaps ↔
        ∃ deny ∈ ordinaryCases coverage .DENY, settleDenied digest coverage frozen deny = .ok (.inl gap)) ∧
      (plan.gaps.map (·.denyCaseId)).Nodup := by
  obtain ⟨settled, outcomes, built⟩ := bind_eq_ok.mp built
  obtain ⟨_, valid, built⟩ := bind_eq_ok.mp built
  have pairwise := mapM_eq_ok_iff.mp outcomes
  have listed : ∀ outcome, outcome ∈ settled ↔
      ∃ deny ∈ ordinaryCases coverage .DENY, settleDenied digest coverage frozen deny = .ok outcome := by
    intro outcome
    constructor
    · intro member
      obtain ⟨deny, inside, here⟩ := partner_left pairwise member
      exact ⟨deny, mem_sortedBy.mp inside, here⟩
    · rintro ⟨deny, inside, here⟩
      obtain ⟨other, member, there⟩ := partner_right pairwise (mem_sortedBy.mpr inside)
      have same := Except.ok.inj (here.symm.trans there)
      exact same ▸ member
  cases Except.ok.inj built
  refine ⟨?_, ?_, ?_, ?_⟩
  · intro deny inside
    obtain ⟨outcome, -, here⟩ := partner_right pairwise (mem_sortedBy.mpr inside)
    exact ⟨outcome, here⟩
  · intro twin
    rw [← listed]
    simp only [sealDifferentialPlan, mem_sortedBy, List.mem_filterMap]
    constructor
    · rintro ⟨outcome, member, shown⟩
      cases outcome with
      | inl gap => cases shown
      | inr other =>
        cases shown
        exact member
    · intro member
      exact ⟨_, member, rfl⟩
  · intro gap
    rw [← listed]
    simp only [sealDifferentialPlan, mem_sortedBy, List.mem_filterMap]
    constructor
    · rintro ⟨outcome, member, shown⟩
      cases outcome with
      | inl other =>
        cases shown
        exact member
      | inr twin => cases shown
    · intro member
      exact ⟨_, member, rfl⟩
  · simp only [DifferentialExperimentPlan.validatePlan, bind_eq_ok, require_eq_ok] at valid
    obtain ⟨_, -, _, -, _, distinct, -⟩ := valid
    exact distinct

/-- An explained difference is not among the gaps of several variations. -/
theorem explained_not_gap (built : buildDifferentialExperimentPlan digest coverage frozen = .ok plan)
    (member : deny ∈ ordinaryCases coverage .DENY) (nearest : Nearest coverage deny allow)
    {dimension : CoverageDimension} {fields : List String}
    (explained : variation allow deny = (some dimension, fields)) :
    ¬ ((∃ gap ∈ plan.gaps, gap.denyCaseId = deny.caseId ∧ gap.code = .MULTIPLE_VARIATIONS) ∧
      ∀ twin ∈ plan.twins, twin.denyCase ≠ deny) := by
  rintro ⟨⟨gap, listed, sameId, code⟩, alone⟩
  obtain ⟨settles, twins, gaps, distinct⟩ := built_settled built
  obtain ⟨outcome, settled⟩ := settles deny member
  rcases settle_explained nearest explained settled with ⟨-, detail, waits⟩ | ⟨-, twin, made, -, about, -⟩
  · have other := (gaps _).mpr ⟨deny, member, waits ▸ settled⟩
    have keyed : Table.Keyed TwinPlanGap.denyCaseId plan.gaps := distinct
    have same := keyed.eq_of_mem listed other sameId
    rw [same] at code
    cases code
  · exact alone twin ((twins twin).mpr ⟨deny, member, made ▸ settled⟩) about

/-- A difference that no dimension explains is such a gap, and no twin. -/
theorem unexplained_gap (built : buildDifferentialExperimentPlan digest coverage frozen = .ok plan)
    (member : deny ∈ ordinaryCases coverage .DENY) (nearest : Nearest coverage deny allow)
    (unexplained : (variation allow deny).1 = none) :
    (∃ gap ∈ plan.gaps, gap.denyCaseId = deny.caseId ∧ gap.code = .MULTIPLE_VARIATIONS) ∧
      ∀ twin ∈ plan.twins, twin.denyCase ≠ deny := by
  obtain ⟨settles, twins, gaps, -⟩ := built_settled built
  have settled : settleDenied digest coverage frozen deny =
      .ok (.inl (twinGap deny .MULTIPLE_VARIATIONS "ALLOW 与 DENY 之间不是一个可解释的权限变化")) := by
    rw [settle_nearest nearest]
    cases shown : variation allow deny with
    | mk dimension fields =>
      rw [shown] at unexplained
      cases unexplained
      rfl
  constructor
  · exact ⟨_, (gaps _).mpr ⟨deny, member, settled⟩, rfl, rfl⟩
  · intro twin listed same
    obtain ⟨other, inside, made⟩ := (twins twin).mp listed
    obtain ⟨control, dimension, fields, near, explained⟩ := settle_twin made
    rcases settle_explained near explained made with ⟨-, detail, waits⟩ | ⟨-, entry, itself, -, about, -⟩
    · cases waits
    · cases itself
      have equal : other = deny := about.symm.trans same
      rw [equal, settled] at made
      cases Except.ok.inj made

/-- Every twin explains its whole difference by one dimension exactly when the differences of the denied cases from
their nearest controls can be explained. -/
theorem differences_explained (built : buildDifferentialExperimentPlan digest coverage frozen = .ok plan) :
    Explained coverage plan ↔
      ∀ deny ∈ ordinaryCases coverage .DENY, ∀ allow, Nearest coverage deny allow → Explainable frozen allow deny := by
  obtain ⟨settles, twins, gaps, -⟩ := built_settled built
  constructor
  · intro shown deny member allow nearest
    have kept : ¬ Overwritten allow deny := by
      intro overwritten
      have access : ¬ SameAccess allow deny := fun same => overwritten.1 same.2
      exact explained_not_gap built member nearest (variation_overwritten overwritten).1
        (shown.gaps deny member allow nearest (.inl ⟨access, overwritten.2.1⟩))
    refine ⟨kept, fun access => ⟨?_, ?_⟩⟩
    · intro mixed
      obtain ⟨dimension, explained⟩ := variation_context access mixed.ne
      exact explained_not_gap built member nearest explained (shown.gaps deny member allow nearest (.inr mixed))
    · intro known
      by_cases context : allow.context = deny.context
      · rw [changed_of_component context]
        exact Nat.zero_le 1
      · obtain ⟨dimension, explained⟩ := variation_context access context
        obtain ⟨outcome, settled⟩ := settles deny member
        rcases settle_explained nearest explained settled with ⟨unknown, -⟩ | ⟨-, twin, made, control, about, -⟩
        · rw [unknown] at known
          cases known
        · have listed := (twins twin).mpr ⟨deny, member, made ▸ settled⟩
          have single := shown.component twin listed
          rw [control, about] at single
          exact single
  · intro explainable
    -- what a twin of the plan is made of
    have sources : ∀ twin ∈ plan.twins, ∃ deny ∈ ordinaryCases coverage .DENY, ∃ allow dimension,
        Nearest coverage deny allow ∧ variation allow deny = (some dimension, twin.mutation.changedFields) ∧
          twin.allowCase = allow ∧ twin.denyCase = deny ∧ (invariantOf frozen deny).isSome = true := by
      intro twin listed
      obtain ⟨deny, member, made⟩ := (twins twin).mp listed
      obtain ⟨allow, dimension, fields, nearest, explained⟩ := settle_twin made
      rcases settle_explained nearest explained made with ⟨-, detail, waits⟩ | ⟨known, entry, itself, control, about, named⟩
      · cases waits
      · cases itself
        exact ⟨deny, member, allow, dimension, nearest, named ▸ explained, control, about, known⟩
    constructor
    · intro twin listed
      obtain ⟨deny, member, allow, dimension, nearest, explained, control, about, -⟩ := sources twin listed
      rw [control, about]
      exact (variation_fields explained).mpr (explainable deny member allow nearest).1
    · intro twin listed
      obtain ⟨deny, member, allow, dimension, nearest, explained, control, about, known⟩ := sources twin listed
      obtain ⟨kept, alone⟩ := explainable deny member allow nearest
      rw [control, about]
      by_cases access : SameAccess allow deny
      · exact (alone access).2 known
      · have context : allow.context = deny.context := by
          by_contra differ
          have none := variation_multiple access differ kept
          rw [explained] at none
          cases none
        rw [changed_of_component context]
        exact Nat.zero_le 1
    · intro deny member allow nearest multiple
      obtain ⟨kept, alone⟩ := explainable deny member allow nearest
      apply unexplained_gap built member nearest
      rcases multiple with ⟨access, context⟩ | mixed
      · exact variation_multiple access context kept
      · have access : ¬ SameAccess allow deny := fun same => (alone same).1 mixed
        exact variation_multiple access mixed.ne kept

end Plan

section Totality

variable {digest : Digest} {coverage : PermissionMutationPlan} {frozen : FrozenInvariants}
  {deny allow : PermissionMutationCase}

theorem mem_ordinaryCases {expectation : Expectation} {case : PermissionMutationCase} :
    case ∈ ordinaryCases coverage expectation ↔
      case ∈ coverage.cases ∧ case.batchMode = none ∧ ∀ value ∈ case.expectations, value = expectation := by
  unfold ordinaryCases
  rw [List.mem_filter, decide_eq_true_eq]

theorem mem_controls : allow ∈ controls coverage deny ↔ allow ∈ ordinaryCases coverage .ALLOW ∧
    allow.actionId = deny.actionId ∧ allow.resourceIds = deny.resourceIds ∧
    allow.requiredObservations = deny.requiredObservations := by
  unfold controls
  rw [List.mem_filter, decide_eq_true_eq]

/-- The constructor accepts the twin of a denied case and one of its controls. -/
theorem createTwin_accepted (member : deny ∈ ordinaryCases coverage .DENY) (ruled : deny.sourceRuleIds ≠ [])
    (control : allow ∈ controls coverage deny) {invariant : TwinInvariantSpecification}
    (known : invariantOf frozen deny = some invariant) (dimension : CoverageDimension) (fields : List String) :
    ∃ twin, createTwin digest allow deny dimension fields invariant = .ok twin := by
  obtain ⟨ordinary, action, resources, -⟩ := mem_controls.mp control
  have about : invariant.actionId = deny.actionId ∧ invariant.resourceIds = deny.resourceIds := by
    unfold invariantOf at known
    simp only [Option.bind_eq_bind, Option.bind_eq_some_iff] at known
    obtain ⟨_, -, _, -, _, -, made⟩ := known
    cases made
    exact ⟨rfl, rfl⟩
  cases rules : deny.sourceRuleIds with
  | nil => exact absurd rules ruled
  | cons rule rest =>
    refine ⟨_, bind_eq_ok.mpr ⟨rule, orRaise_eq_ok.mpr ?_, bind_eq_ok.mpr ⟨(), ?_, rfl⟩⟩⟩
    · rw [rules]
      rfl
    · simp only [PermissionTwin.validateTwin, bind_eq_ok, require_eq_ok]
      exact ⟨(), (mem_ordinaryCases.mp ordinary).2.2, (), (mem_ordinaryCases.mp member).2.2, (), rfl, (),
        ⟨action, action.trans about.1.symm⟩, (), ⟨resources, resources.trans about.2.symm⟩, rfl, rfl⟩

theorem settle_total (member : deny ∈ ordinaryCases coverage .DENY) (ruled : deny.sourceRuleIds ≠ []) :
    ∃ outcome, settleDenied digest coverage frozen deny = .ok outcome := by
  unfold settleDenied
  cases ranked : sortedBy (controlOrder deny) (controls coverage deny) with
  | nil => exact ⟨_, rfl⟩
  | cons allow others =>
    have control : allow ∈ controls coverage deny := mem_sortedBy.mp (ranked ▸ List.mem_cons_self)
    dsimp only
    cases tied : others.head?.any fun second => decide (distance deny allow = distance deny second) with
    | true => exact ⟨_, rfl⟩
    | false =>
      cases explained : variation allow deny with
      | mk dimension fields =>
        cases dimension with
        | none => exact ⟨_, rfl⟩
        | some dimension =>
          cases known : invariantOf frozen deny with
          | none => exact ⟨_, rfl⟩
          | some invariant =>
            have accepted : ∃ twin, createTwin digest allow deny dimension fields invariant = .ok twin :=
              createTwin_accepted member ruled control known dimension fields
            obtain ⟨twin, created⟩ := accepted
            exact ⟨.inr twin, bind_eq_ok.mpr ⟨twin, created, rfl⟩⟩

/-- The denied case that an outcome is about. -/
def outcomeId (outcome : TwinPlanGap ⊕ PermissionTwin) : String :=
  outcome.elim (·.denyCaseId) (·.denyCase.caseId)

theorem outcome_named {outcome : TwinPlanGap ⊕ PermissionTwin}
    (settled : settleDenied digest coverage frozen deny = .ok outcome) : outcomeId outcome = deny.caseId := by
  cases outcome with
  | inr twin =>
    obtain ⟨allow, dimension, fields, nearest, explained⟩ := settle_twin settled
    rcases settle_explained nearest explained settled with ⟨-, detail, waits⟩ | ⟨-, entry, itself, -, about, -⟩
    · cases waits
    · cases itself
      exact congrArg (·.caseId) about
  | inl gap =>
    unfold settleDenied at settled
    split at settled
    · cases Except.ok.inj settled
      rfl
    · split at settled
      · cases Except.ok.inj settled
        rfl
      · split at settled
        · cases Except.ok.inj settled
          rfl
        · split at settled
          · cases Except.ok.inj settled
            rfl
          · obtain ⟨twin, -, same⟩ := bind_eq_ok.mp settled
            cases Except.ok.inj same

theorem outcomes_named {denied : List PermissionMutationCase} {settled : List (TwinPlanGap ⊕ PermissionTwin)}
    (pairwise : List.Forall₂ (fun deny outcome => settleDenied digest coverage frozen deny = .ok outcome) denied settled) :
    settled.map outcomeId = denied.map (·.caseId) := by
  induction pairwise with
  | nil => rfl
  | cons here _ ih => rw [List.map_cons, List.map_cons, ih, outcome_named here]

/-- The gaps and the twins are about different cases when the outcomes are. -/
theorem outcomes_distinct {settled : List (TwinPlanGap ⊕ PermissionTwin)} (distinct : (settled.map outcomeId).Nodup) :
    ((settled.filterMap Sum.getRight?).map (·.denyCase.caseId)).Nodup ∧
      ((settled.filterMap Sum.getLeft?).map (·.denyCaseId)).Nodup := by
  have sublists : ((settled.filterMap Sum.getRight?).map (·.denyCase.caseId)).Sublist (settled.map outcomeId) ∧
      ((settled.filterMap Sum.getLeft?).map (·.denyCaseId)).Sublist (settled.map outcomeId) := by
    clear distinct
    induction settled with
    | nil => exact ⟨.slnil, .slnil⟩
    | cons outcome rest ih =>
      cases outcome with
      | inl gap => exact ⟨ih.1.cons _, ih.2.cons_cons _⟩
      | inr twin => exact ⟨ih.1.cons_cons _, ih.2.cons _⟩
  exact ⟨distinct.sublist sublists.1, distinct.sublist sublists.2⟩

/-- Twins of different denied cases have different ids. -/
theorem twinId_case {first second : TwinContent}
    (same : (sealTwin digest first).twinId = (sealTwin digest second).twinId) :
    first.denyCase.caseId = second.denyCase.caseId := by
  have documents := digest.collisionFree _ _ ((String.append_right_inj "twin-").mp same)
  have cases' := field_of_canonical_eq documents "deny_case"
  simp only [TwinContent.facts, field_dict, fieldOf_cons, fieldOf_nil, String.reduceEq, if_false, if_true,
    Option.map_some, Option.some.injEq] at cases'
  exact separating_str.field cases' "case_id" (by simp) (by simp)

theorem twin_sealed {twin : PermissionTwin} (settled : settleDenied digest coverage frozen deny = .ok (.inr twin)) :
    twin = sealTwin digest twin.toTwinContent := by
  obtain ⟨allow, dimension, fields, nearest, explained⟩ := settle_twin settled
  rw [settle_nearest nearest, explained] at settled
  cases known : invariantOf frozen deny with
  | none =>
    rw [known] at settled
    cases Except.ok.inj settled
  | some invariant =>
    rw [known] at settled
    obtain ⟨made, created, same⟩ := bind_eq_ok.mp settled
    cases Except.ok.inj same
    obtain ⟨_, -, created⟩ := bind_eq_ok.mp created
    obtain ⟨_, -, created⟩ := bind_eq_ok.mp created
    rw [← Except.ok.inj created]
    rfl

/-- The plan is built whenever every case has a rule and the denied cases have ids of their own. -/
theorem build_total (ruled : ∀ case ∈ coverage.cases, case.sourceRuleIds ≠ [])
    (named : ((ordinaryCases coverage .DENY).map (·.caseId)).Nodup) :
    ∃ plan, buildDifferentialExperimentPlan digest coverage frozen = .ok plan := by
  have settles : ∀ deny ∈ sortedBy (·.caseId) (ordinaryCases coverage .DENY),
      ∃ outcome, settleDenied digest coverage frozen deny = .ok outcome := by
    intro deny member
    have ordinary := mem_sortedBy.mp member
    exact settle_total ordinary (ruled deny (mem_ordinaryCases.mp ordinary).1)
  obtain ⟨settled, outcomes⟩ := mapM_total settles
  have pairwise := mapM_eq_ok_iff.mp outcomes
  have distinct : (settled.map outcomeId).Nodup := by
    rw [outcomes_named pairwise]
    exact nodup_map_sortedBy.mpr named
  obtain ⟨cases', gaps⟩ := outcomes_distinct distinct
  have sealed : ∀ twin ∈ settled.filterMap Sum.getRight?, twin = sealTwin digest twin.toTwinContent := by
    intro twin member
    obtain ⟨outcome, inside, shown⟩ := List.mem_filterMap.mp member
    obtain ⟨deny, -, here⟩ := partner_left pairwise inside
    cases outcome with
    | inl gap => cases shown
    | inr other =>
      cases shown
      exact twin_sealed here
  have twinIds : ((settled.filterMap Sum.getRight?).map (·.twinId)).Nodup := by
    rw [List.Nodup, List.pairwise_map] at cases' ⊢
    refine cases'.imp_of_mem ?_
    intro first second inFirst inSecond differ same
    rw [sealed first inFirst, sealed second inSecond] at same
    exact differ (twinId_case same)
  refine ⟨_, bind_eq_ok.mpr ⟨settled, outcomes, bind_eq_ok.mpr ⟨(), ?_, rfl⟩⟩⟩
  simp only [DifferentialExperimentPlan.validatePlan, bind_eq_ok, require_eq_ok]
  exact ⟨(), nodup_map_sortedBy.mpr twinIds, (), nodup_map_sortedBy.mpr cases', (),
    nodup_map_sortedBy.mpr gaps, rfl, rfl⟩

end Totality

/-- A case about one document, by one relation and for the listed tenants. -/
def sampleCase (caseId path : String) (expectation : Expectation) (tenantIds : List String) : PermissionMutationCase where
  subjectId := "alice"
  actionId := "read"
  resourceIds := ["report"]
  expectations := [expectation]
  relationPaths := [[path]]
  context := { tenantIds := tenantIds }
  requiredObservations := ["resource_state"]
  caseId := caseId
  fingerprint := caseId
  findingPreIdentity := caseId
  sourceRuleIds := ["rule"]
  dimensions := []
  retentionReason := if expectation = .ALLOW then .EXPLICIT_ALLOW_BASELINE else .EXPLICIT_DENY_RISK

/-- The owner may read the report; a member of the listed tenants may not. -/
def sampleCoverage (tenantIds : List String) : PermissionMutationPlan where
  planId := "plan"
  planFingerprint := "plan"
  contractFingerprint := "contract"
  seed := 7
  engineVersion := "coverage-v2"
  caseBudget := 16
  candidateCount := 2
  retainedCount := 2
  cases := [sampleCase "case-allow" "owns" .ALLOW [], sampleCase "case-deny" "joins" .DENY tenantIds]
  coverage := []
  gaps := []
  eliminated := []

def sampleFrozen : FrozenInvariants where
  workflowFingerprints := fun _ => some "workflow"
  effectFingerprints := fun _ => some "effect"
  observerFingerprint := "observer"
  baselineFingerprints := fun _ => some "baseline"
  normalizationVersion := "1"

theorem sample_built (digest : Digest) (tenantIds : List String) :
    ∃ plan, buildDifferentialExperimentPlan digest (sampleCoverage tenantIds) sampleFrozen = .ok plan := by
  apply build_total
  · intro case member
    simp only [sampleCoverage, List.mem_cons, List.not_mem_nil, or_false] at member
    rcases member with rfl | rfl <;> simp [sampleCase]
  · simp [ordinaryCases, sampleCoverage, sampleCase]

theorem sample_nearest (tenantIds : List String) : Nearest (sampleCoverage tenantIds)
    (sampleCase "case-deny" "joins" .DENY tenantIds) (sampleCase "case-allow" "owns" .ALLOW []) := by
  refine ⟨[], ?_, fun _ member => absurd member List.not_mem_nil⟩
  simp [controls, ordinaryCases, sampleCoverage, sampleCase]

/-- A member of another tenant is refused: the change of the relation path is lost. -/
theorem tenant_hides_path : ¬ ∀ (digest : Digest) (coverage : PermissionMutationPlan) (frozen : FrozenInvariants)
    (plan : DifferentialExperimentPlan), buildDifferentialExperimentPlan digest coverage frozen = .ok plan →
      Explained coverage plan := by
  intro always
  obtain ⟨plan, built⟩ := sample_built textDigest ["tenant"]
  have member : sampleCase "case-deny" "joins" .DENY ["tenant"] ∈ ordinaryCases (sampleCoverage ["tenant"]) .DENY := by
    simp [ordinaryCases, sampleCoverage, sampleCase]
  have nearest := sample_nearest ["tenant"]
  have overwritten : Overwritten (sampleCase "case-allow" "owns" .ALLOW [])
      (sampleCase "case-deny" "joins" .DENY ["tenant"]) := by
    simp [Overwritten, sampleCase]
  have shown := always textDigest (sampleCoverage ["tenant"]) sampleFrozen plan built
  apply explained_not_gap built member nearest (variation_overwritten overwritten).1
  apply shown.gaps _ member _ nearest
  exact .inl ⟨fun same => overwritten.1 same.2, overwritten.2.1⟩

theorem sample_explained : ∃ plan,
    buildDifferentialExperimentPlan textDigest (sampleCoverage []) sampleFrozen = .ok plan ∧
      (Explained (sampleCoverage []) plan ↔ ∀ deny ∈ ordinaryCases (sampleCoverage []) .DENY, ∀ allow,
        Nearest (sampleCoverage []) deny allow → Explainable sampleFrozen allow deny) := by
  obtain ⟨plan, built⟩ := sample_built textDigest []
  exact ⟨plan, built, differences_explained built⟩

end Jiejian.Coverage.Twins
