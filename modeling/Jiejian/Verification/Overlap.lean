import Jiejian.Protocol.Relationships
import Jiejian.Protocol.Separation
import Jiejian.Verification.Decisions

namespace Jiejian.Verification.Overlap

open Library.Document Library.Outcome
open Protocol.Codec Protocol.Conditions Protocol.Relationships Protocol.Separation
open Models Decisions

/-- The published result of one observation, with what the report keeps of it. -/
structure RelationshipResult extends ObservedRelationship where
  observedAtUs : Nat
  path : List String
  reason : RelationshipReason
  deriving DecidableEq, Repr

def observeRelationship (digest : Digest) (requirement : RelationshipRequirement) (snapshot : RelationshipSnapshot) :
    RelationshipResult :=
  let result (status : MatchStatus) (reason : RelationshipReason) (path : List String) : RelationshipResult :=
    { requirementFingerprint := RelationshipRequirement.fingerprint digest requirement
      kind := requirement.kind
      status := status
      observedAtUs := snapshot.observedAtUs
      path := path
      reason := reason }
  match readSnapshot requirement snapshot with
  | .error reason => result .UNKNOWN reason []
  | .ok reading =>
    if reading.exhausted ∧ reading.path = [] then result .UNKNOWN .RELATIONSHIP_DEPTH_EXCEEDED []
    else if requirement.state ∈ reading.states then result .MATCH .RELATIONSHIP_MATCHED reading.path
    else result .MISMATCH .RELATIONSHIP_NOT_MATCHED []

theorem status_of_error {digest : Digest} {requirement : RelationshipRequirement} {snapshot : RelationshipSnapshot}
    {reason : RelationshipReason} (read : readSnapshot requirement snapshot = .error reason) :
    (observeRelationship digest requirement snapshot).status = .UNKNOWN := by
  simp only [observeRelationship, read]

theorem status_of_reading {digest : Digest} {requirement : RelationshipRequirement} {snapshot : RelationshipSnapshot}
    {reading : Reading} (read : readSnapshot requirement snapshot = .ok reading) :
    (observeRelationship digest requirement snapshot).status =
      if reading.exhausted ∧ reading.path = [] then .UNKNOWN
      else if requirement.state ∈ reading.states then .MATCH
      else .MISMATCH := by
  simp only [observeRelationship, read]
  by_cases deep : reading.exhausted ∧ reading.path = []
  · rw [if_pos deep, if_pos deep]
  · rw [if_neg deep, if_neg deep]
    by_cases shown : requirement.state ∈ reading.states
    · rw [if_pos shown, if_pos shown]
    · rw [if_neg shown, if_neg shown]

/-- The requirements differ in the asked state alone. -/
def exclusiveRequirements (a b : RelationshipRequirement) : Bool :=
  (a.kind, a.organizationScope, a.inheritedRole, a.maxDepth) = (b.kind, b.organizationScope, b.inheritedRole, b.maxDepth) ∧
    a.state ≠ b.state

def principalOf (conditions : Option PermissionConditions) : Principal :=
  match conditions with
  | none => .AUTHENTICATED
  | some conditions => conditions.principal

def permissionConditionsOverlap (left right : Option PermissionConditions) : Bool :=
  if principalOf left ≠ principalOf right then false
  else match left, right with
    | some left, some right =>
      if left.tenant ≠ none ∧ right.tenant ≠ none ∧ left.tenant ≠ right.tenant then false
      else if left.relationships.any fun a => right.relationships.any fun b => exclusiveRequirements a b then false
      else !(decide (left.resourceStates ≠ []) && decide (right.resourceStates ≠ []) &&
        left.resourceStates.all fun state => decide (state ∉ right.resourceStates))
    | _, _ => true

section Matching

variable {digest : Digest} {expected : PermissionConditions} {observed : ObservedPermissionConditions}

/-- The checks of a match all hold. -/
theorem match_checks (matched : matchPermissionConditions digest expected observed = .MATCH) :
    ∃ tenant state relationships, tenantChecks expected observed = some tenant ∧
      stateChecks expected observed = some state ∧
      expected.relationships.mapM (relationshipCheck digest observed) = some relationships ∧
      observed.principal = expected.principal ∧ (∀ check ∈ tenant, check = true) ∧ (∀ check ∈ state, check = true) ∧
      ∀ check ∈ relationships, check = true := by
  unfold matchPermissionConditions at matched
  cases checked : conditionChecks digest expected observed with
  | none =>
    rw [checked] at matched
    cases matched
  | some checks =>
    have all : checks.all id = true := by
      by_contra failed
      rw [checked] at matched
      simp only [if_neg failed] at matched
      cases matched
    simp only [conditionChecks, Option.bind_eq_bind, Option.bind_eq_some_iff, Option.pure_def, Option.some.injEq]
      at checked
    obtain ⟨tenant, tenants, state, states, relationships, related, same⟩ := checked
    rw [← same] at all
    simp only [List.cons_append, List.all_cons, id_eq, Bool.and_eq_true, decide_eq_true_eq, List.all_append,
      List.all_eq_true] at all
    exact ⟨tenant, state, relationships, tenants, states, related, all.1, all.2.1.1, all.2.1.2, all.2.2⟩

theorem match_tenant {tenant : Tenant} (matched : matchPermissionConditions digest expected observed = .MATCH)
    (asked : expected.tenant = some tenant) :
    observed.subjectTenant = observed.resourceTenant ↔ tenant = .SAME := by
  obtain ⟨checks, -, -, tenants, -, -, -, all, -⟩ := match_checks matched
  simp only [tenantChecks, asked, Option.bind_eq_bind, Option.bind_eq_some_iff, Option.pure_def, Option.some.injEq]
    at tenants
  obtain ⟨subject, subjects, owner, -, resource, resources, same⟩ := tenants
  have compared := all (decide (decide (subject = resource) = decide (tenant = .SAME))) (by rw [← same]; simp)
  rw [subjects, resources, Option.some.injEq]
  simpa using compared

theorem match_state (matched : matchPermissionConditions digest expected observed = .MATCH)
    (limited : expected.resourceStates ≠ []) :
    ∃ state ∈ expected.resourceStates, observed.resourceState = some state := by
  obtain ⟨-, checks, -, -, states, -, -, -, all, -⟩ := match_checks matched
  rw [stateChecks, if_neg limited, Option.map_eq_some_iff] at states
  obtain ⟨state, known, same⟩ := states
  have inside := all (decide (state ∈ expected.resourceStates)) (by rw [← same]; simp)
  exact ⟨state, of_decide_eq_true inside, known⟩

theorem mapM_some {α β : Type} {f : α → Option β} {items : List α} {results : List β}
    (mapped : items.mapM f = some results) : ∀ item ∈ items, ∃ result ∈ results, f item = some result := by
  induction items generalizing results with
  | nil => simp
  | cons head tail ih =>
    simp only [List.mapM_cons, Option.bind_eq_bind, Option.bind_eq_some_iff, Option.pure_def, Option.some.injEq] at mapped
    obtain ⟨first, found, rest, remaining, same⟩ := mapped
    intro item member
    rcases List.mem_cons.mp member with here | later
    · exact ⟨first, by rw [← same]; exact List.mem_cons_self, here ▸ found⟩
    · obtain ⟨result, inside, holds⟩ := ih remaining item later
      exact ⟨result, by rw [← same]; exact List.mem_cons_of_mem _ inside, holds⟩

/-- A matched requirement was observed, under its own fingerprint, to match. -/
theorem match_relationship {requirement : RelationshipRequirement}
    (matched : matchPermissionConditions digest expected observed = .MATCH)
    (asked : requirement ∈ expected.relationships) : ∃ item ∈ observed.relationships,
      item.requirementFingerprint = RelationshipRequirement.fingerprint digest requirement ∧ item.status = .MATCH := by
  obtain ⟨-, -, checks, -, -, related, -, -, -, all⟩ := match_checks matched
  obtain ⟨check, listed, checked⟩ := mapM_some related requirement asked
  rw [all check listed] at checked
  unfold relationshipCheck at checked
  split at checked
  · rename_i item found
    have member : item ∈ observed.relationships.filter fun item =>
        item.requirementFingerprint = RelationshipRequirement.fingerprint digest requirement ∧
          item.kind = requirement.kind := by rw [found]; exact List.mem_singleton_self item
    rw [List.mem_filter, decide_eq_true_eq] at member
    by_cases unknown : item.status = .UNKNOWN
    · rw [if_pos unknown] at checked
      cases checked
    · rw [if_neg unknown, Option.some.injEq, decide_eq_true_eq] at checked
      exact ⟨item, member.1, member.2.1, checked⟩
  · cases checked

end Matching

section Observing

variable {digest : Digest} {snapshot : RelationshipSnapshot}

theorem observe_match {requirement : RelationshipRequirement}
    (matched : (observeRelationship digest requirement snapshot).status = .MATCH) :
    relationState requirement snapshot = some requirement.state := by
  unfold observeRelationship at matched
  cases read : readSnapshot requirement snapshot with
  | error reason =>
    rw [read] at matched
    cases matched
  | ok reading =>
    rw [read] at matched
    dsimp only at matched
    by_cases deep : reading.exhausted ∧ reading.path = []
    · rw [if_pos deep] at matched
      cases matched
    · rw [if_neg deep] at matched
      by_cases shown : requirement.state ∈ reading.states
      · exact readSnapshot_current read shown
      · rw [if_neg shown] at matched
        cases matched

/-- Of two requirements that differ only in state, one snapshot matches one at most. -/
theorem observe_exclusive {a b : RelationshipRequirement} (exclusive : exclusiveRequirements a b = true)
    (first : (observeRelationship digest a snapshot).status = .MATCH)
    (second : (observeRelationship digest b snapshot).status = .MATCH) : False := by
  rw [exclusiveRequirements, decide_eq_true_eq] at exclusive
  obtain ⟨same, differ⟩ := exclusive
  simp only [Prod.mk.injEq] at same
  have restated : b = { a with state := b.state } := by
    cases a
    cases b
    simp_all
  have shown := observe_match first
  have shown' := observe_match second
  have state : relationState b snapshot = relationState a snapshot := by
    rw [restated]
    exact relationState_asked b.state
  rw [state, shown, Option.some.injEq] at shown'
  exact differ shown'

theorem fingerprint_injective {a b : RelationshipRequirement}
    (same : RelationshipRequirement.fingerprint digest a = RelationshipRequirement.fingerprint digest b) : a = b := by
  apply separating_relationship
  apply digest.collisionFree
  exact congrArg digest.short same

end Observing

/-- Every observed relationship is the observation of a requirement of the two rules on the snapshot. -/
def ObservedOn (digest : Digest) (snapshot : RelationshipSnapshot) (left right : PermissionConditions)
    (observed : ObservedPermissionConditions) : Prop :=
  ∀ item ∈ observed.relationships, ∃ requirement ∈ left.relationships ++ right.relationships,
    item = (observeRelationship digest requirement snapshot).toObservedRelationship

section Overlap

variable {digest : Digest} {snapshot : RelationshipSnapshot} {left right : PermissionConditions}
  {observed : ObservedPermissionConditions}

theorem matched_on_snapshot {expected : PermissionConditions} {requirement : RelationshipRequirement}
    (observedOn : ObservedOn digest snapshot left right observed)
    (matched : matchPermissionConditions digest expected observed = .MATCH)
    (asked : requirement ∈ expected.relationships) :
    (observeRelationship digest requirement snapshot).status = .MATCH := by
  obtain ⟨item, member, named, status⟩ := match_relationship matched asked
  obtain ⟨source, -, observation⟩ := observedOn item member
  have fingerprint : item.requirementFingerprint = RelationshipRequirement.fingerprint digest source := by
    rw [observation]
    unfold observeRelationship
    dsimp only
    split
    · rfl
    · split
      · rfl
      · split <;> rfl
  have same := fingerprint_injective (named.symm.trans fingerprint)
  rw [same, ← status, observation]

theorem overlap_of_match (observedOn : ObservedOn digest snapshot left right observed)
    (matchedLeft : matchPermissionConditions digest left observed = .MATCH)
    (matchedRight : matchPermissionConditions digest right observed = .MATCH) :
    permissionConditionsOverlap (some left) (some right) = true := by
  have principals : principalOf (some left) = principalOf (some right) := by
    obtain ⟨-, -, -, -, -, -, first, -⟩ := match_checks matchedLeft
    obtain ⟨-, -, -, -, -, -, second, -⟩ := match_checks matchedRight
    exact first.symm.trans second
  have tenants : ¬ (left.tenant ≠ none ∧ right.tenant ≠ none ∧ left.tenant ≠ right.tenant) := by
    rintro ⟨limited, limited', differ⟩
    obtain ⟨first, asked⟩ := Option.ne_none_iff_exists'.mp limited
    obtain ⟨second, asked'⟩ := Option.ne_none_iff_exists'.mp limited'
    have compared := (match_tenant matchedLeft asked).symm.trans (match_tenant matchedRight asked')
    rw [asked, asked'] at differ
    cases first <;> cases second <;> simp at compared differ
  have relationships : (left.relationships.any fun a => right.relationships.any fun b => exclusiveRequirements a b) =
      false := by
    by_contra exclusive
    rw [Bool.not_eq_false, List.any_eq_true] at exclusive
    obtain ⟨a, askedLeft, exclusive⟩ := exclusive
    obtain ⟨b, askedRight, exclusive⟩ := List.any_eq_true.mp exclusive
    exact observe_exclusive exclusive (matched_on_snapshot observedOn matchedLeft askedLeft)
      (matched_on_snapshot observedOn matchedRight askedRight)
  unfold permissionConditionsOverlap
  rw [if_neg (not_not.mpr principals)]
  dsimp only
  rw [if_neg tenants, relationships, if_neg Bool.false_ne_true]
  by_contra disjoint
  simp only [Bool.not_eq_true', Bool.not_eq_false, Bool.and_eq_true, decide_eq_true_eq, List.all_eq_true] at disjoint
  obtain ⟨⟨limited, limited'⟩, apart⟩ := disjoint
  obtain ⟨state, inside, known⟩ := match_state matchedLeft limited
  obtain ⟨other, inside', known'⟩ := match_state matchedRight limited'
  rw [known, Option.some.injEq] at known'
  exact apart state inside (known' ▸ inside')

end Overlap

/-- Conditions that one snapshot matches together overlap, and no snapshot matches two states of one relationship. -/
theorem matched_conditions_overlap (digest : Digest) :
    (∀ (snapshot : RelationshipSnapshot) (left right : PermissionConditions) (observed : ObservedPermissionConditions),
      ObservedOn digest snapshot left right observed → matchPermissionConditions digest left observed = .MATCH →
      matchPermissionConditions digest right observed = .MATCH →
      permissionConditionsOverlap (some left) (some right) = true) ∧
    ∀ (snapshot : RelationshipSnapshot) (a b : RelationshipRequirement), exclusiveRequirements a b = true →
      ¬ ((observeRelationship digest a snapshot).status = .MATCH ∧
        (observeRelationship digest b snapshot).status = .MATCH) :=
  ⟨fun _ _ _ _ observedOn first second => overlap_of_match observedOn first second,
    fun _ _ _ exclusive both => observe_exclusive exclusive both.1 both.2⟩

/-- A file that its owner shared with a group of the subject. -/
def sharedSnapshot : RelationshipSnapshot where
  subjectId := "reader"
  ownerId := "owner"
  resourceId := "file"
  action := "read"
  observedAtUs := 1000
  subjectGroups := some ["team"]
  grants := [{
    grantId := "grant"
    kind := .SHARING
    grantorId := "owner"
    granteeId := "team"
    granteeKind := .GROUP
    resourceId := "file"
    actions := ["read"]
    validFromUs := 0 }]

def sharedRequirement : RelationshipRequirement where
  kind := .SHARING

/-- A rule for the subjects that the file is shared with. -/
def sharedConditions : PermissionConditions where
  relationships := [sharedRequirement]

/-- The same rule for files in one state. -/
def sharedDrafts : PermissionConditions where
  resourceStates := ["draft"]
  relationships := [sharedRequirement]

theorem shared_read : readSnapshot sharedRequirement sharedSnapshot =
    .ok ⟨[.ACTIVE], ["owner", "team", "reader"], false⟩ := by
  rfl

def sharedObserved (digest : Digest) : ObservedPermissionConditions where
  proofFingerprint := "proof"
  sourceId := "source"
  sourceFingerprint := "source"
  principal := .AUTHENTICATED
  resourceState := some "draft"
  relationships := [(observeRelationship digest sharedRequirement sharedSnapshot).toObservedRelationship]

section Shared

variable {digest : Digest}

theorem shared_observed : observeRelationship digest sharedRequirement sharedSnapshot =
    { requirementFingerprint := RelationshipRequirement.fingerprint digest sharedRequirement
      kind := .SHARING
      status := .MATCH
      observedAtUs := 1000
      path := ["owner", "team", "reader"]
      reason := .RELATIONSHIP_MATCHED } := by
  unfold observeRelationship
  rw [shared_read]
  rfl

theorem shared_check : relationshipCheck digest (sharedObserved digest) sharedRequirement = some true := by
  have kind : sharedRequirement.kind = .SHARING := rfl
  simp [relationshipCheck, sharedObserved, shared_observed, kind]

theorem shared_matched : matchPermissionConditions digest sharedConditions (sharedObserved digest) = .MATCH := by
  have relationships : sharedConditions.relationships.mapM (relationshipCheck digest (sharedObserved digest)) =
      some [true] := by simp [sharedConditions, shared_check]
  simp [matchPermissionConditions, conditionChecks, relationships]
  simp [tenantChecks, stateChecks, sharedConditions, sharedObserved]

theorem shared_draft_matched : matchPermissionConditions digest sharedDrafts (sharedObserved digest) = .MATCH := by
  have relationships : sharedDrafts.relationships.mapM (relationshipCheck digest (sharedObserved digest)) =
      some [true] := by simp [sharedDrafts, shared_check]
  simp [matchPermissionConditions, conditionChecks, relationships]
  simp [tenantChecks, stateChecks, sharedDrafts, sharedObserved]

end Shared

/-- The requirement that the same sharing was revoked. -/
def revokedRequirement : RelationshipRequirement := { sharedRequirement with state := .REVOKED }

theorem shared_overlap : permissionConditionsOverlap (some sharedConditions) (some sharedDrafts) = true ∧
    ¬ ((observeRelationship textDigest sharedRequirement sharedSnapshot).status = .MATCH ∧
      (observeRelationship textDigest revokedRequirement sharedSnapshot).status = .MATCH) :=
  ⟨(matched_conditions_overlap textDigest).1 sharedSnapshot sharedConditions sharedDrafts (sharedObserved textDigest)
    (fun _ member => ⟨sharedRequirement, List.mem_cons_self, List.mem_singleton.mp member⟩)
    shared_matched shared_draft_matched,
    (matched_conditions_overlap textDigest).2 sharedSnapshot sharedRequirement revokedRequirement (by decide)⟩

end Jiejian.Verification.Overlap
