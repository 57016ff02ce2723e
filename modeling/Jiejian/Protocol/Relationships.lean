import Jiejian.Library.Outcome
import Jiejian.Library.Sorting
import Jiejian.Protocol.Conditions
import Mathlib.Data.List.Perm.Subperm

namespace Jiejian.Protocol.Relationships

open Library.Outcome Library.Sorting Conditions

structure RelationshipEdge where
  child : String
  parent : String
  deriving DecidableEq, Repr

inductive GranteeKind where
  | SUBJECT
  | GROUP
  deriving DecidableEq, Repr

structure RelationshipGrant where
  grantId : String
  kind : RelationshipKind
  grantorId : String
  granteeId : String
  granteeKind : GranteeKind := .SUBJECT
  resourceId : String
  actions : List String
  validFromUs : Nat
  validUntilUs : Option Nat := none
  revokedAtUs : Option Nat := none
  deriving DecidableEq, Repr

structure RelationshipSnapshot where
  subjectId : String
  ownerId : String
  resourceId : String
  action : String
  observedAtUs : Nat
  clockUncertaintyUs : Nat := 0
  sourceTimeUs : Option Nat := none
  scopeComplete : Bool := true
  subjectOrganizations : List String := []
  subjectGroups : Option (List String) := none
  resourceOrganization : Option String := none
  organizationParents : List RelationshipEdge := []
  subjectRoles : List String := []
  roleInheritance : List RelationshipEdge := []
  grants : List RelationshipGrant := []
  deriving DecidableEq, Repr

inductive RelationshipReason where
  | RELATIONSHIP_MATCHED
  | RELATIONSHIP_NOT_MATCHED
  | RELATIONSHIP_TIME_UNCERTAIN
  | RELATIONSHIP_SCOPE_INCOMPLETE
  | RELATIONSHIP_DEPTH_EXCEEDED
  deriving DecidableEq, Repr

section Paths

variable (edges : List RelationshipEdge)

/-- `sorted(graph.get(path[-1], set()) - seen)`. -/
def newParents (path seen : List String) : List String :=
  sortedSet (((edges.filter fun edge => path.getLast? = some edge.child).map (·.parent)).filter (· ∉ seen))

/-- The rounds of the breadth first search; the first result is the path found, empty when there is none. -/
def searchPaths (target : Option String) (maxDepth : Nat) :
    Nat → List (List String) → List String → Bool → List String × Bool
  | 0, _, _, exhausted => ([], exhausted)
  | _ + 1, [], _, exhausted => ([], exhausted)
  | rounds + 1, path :: pending, seen, exhausted =>
    let parents := newParents edges path seen
    if path.getLast? = target then (path, exhausted)
    else if path.length - 1 = maxDepth then
      searchPaths target maxDepth rounds pending seen (exhausted || decide (parents ≠ []))
    else searchPaths target maxDepth rounds (pending ++ parents.map fun parent => path ++ [parent])
      (seen ++ parents) exhausted

/-- The parents that no path has reached. -/
def unseenParents (seen : List String) : List String := (edges.map (·.parent)).dedup.filter (· ∉ seen)

/-- `_path`: every start and every parent is visited once at most. -/
def pathTo (starts : List String) (target : Option String) (maxDepth : Nat) : List String × Bool :=
  searchPaths edges target maxDepth (starts.length + edges.length) ((sortedBy id starts).map ([·])) starts false

variable {edges}

theorem newParents_unseen {path seen : List String} :
    (newParents edges path seen).length + (unseenParents edges (seen ++ newParents edges path seen)).length ≤
      (unseenParents edges seen).length := by
  have distinct : (newParents edges path seen).Nodup :=
    (sortedSet_increasing _).imp fun before => ne_of_lt before
  have among : newParents edges path seen ⊆ (unseenParents edges seen).filter (· ∈ newParents edges path seen) := by
    intro parent member
    have found := mem_sortedSet.mp member
    rw [List.mem_filter, decide_eq_true_eq] at found
    obtain ⟨edge, listed, same⟩ := List.mem_map.mp found.1
    refine List.mem_filter.mpr ⟨List.mem_filter.mpr ⟨?_, by simpa using found.2⟩, by simpa using member⟩
    rw [List.mem_dedup, ← same]
    exact List.mem_map_of_mem (List.mem_filter.mp listed).1
  have fewer := (List.subperm_of_subset distinct among).length_le
  have split := List.length_eq_length_filter_add (l := unseenParents edges seen) (· ∈ newParents edges path seen)
  have rest : unseenParents edges (seen ++ newParents edges path seen) =
      (unseenParents edges seen).filter fun parent => !decide (parent ∈ newParents edges path seen) := by
    unfold unseenParents
    rw [List.filter_filter]
    apply List.filter_congr
    intro parent _
    by_cases known : parent ∈ seen <;> by_cases new : parent ∈ newParents edges path seen <;> simp [known, new]
  rw [rest]
  omega

/-- A round for every waiting path and every unseen parent is enough: more rounds change nothing. -/
theorem searchPaths_settled {target : Option String} {maxDepth rounds : Nat} {pending : List (List String)}
    {seen : List String} {exhausted : Bool} (enough : pending.length + (unseenParents edges seen).length ≤ rounds)
    (more : Nat) :
    searchPaths edges target maxDepth (rounds + more) pending seen exhausted =
      searchPaths edges target maxDepth rounds pending seen exhausted := by
  induction rounds generalizing pending seen exhausted with
  | zero =>
    have done : pending = [] := List.eq_nil_of_length_eq_zero (by omega)
    subst done
    cases more with
    | zero => rfl
    | succ more => simp [searchPaths]
  | succ rounds ih =>
    rw [Nat.succ_add]
    cases pending with
    | nil => simp [searchPaths]
    | cons path pending =>
      have fewer := @newParents_unseen edges path seen
      simp only [List.length_cons] at enough
      simp only [searchPaths]
      by_cases found : path.getLast? = target
      · rw [if_pos found, if_pos found]
      · rw [if_neg found, if_neg found]
        by_cases deep : path.length - 1 = maxDepth
        · rw [if_pos deep, if_pos deep]
          exact ih (by omega)
        · rw [if_neg deep, if_neg deep]
          apply ih
          simp only [List.length_append, List.length_map]
          omega

theorem waiting_le (starts : List String) :
    ((sortedBy id starts).map ([·])).length + (unseenParents edges starts).length ≤ starts.length + edges.length := by
  have waiting : ((sortedBy id starts).map ([·])).length = starts.length := by
    rw [List.length_map]
    exact (sortedBy_perm id starts).length_eq
  have unseen : (unseenParents edges starts).length ≤ edges.length := by
    calc
      _ ≤ (edges.map (·.parent)).dedup.length := List.length_filter_le _ _
      _ ≤ (edges.map (·.parent)).length := (List.dedup_sublist _).length_le
      _ = edges.length := List.length_map _
  omega

/-- The search for a path always ends: no number of further rounds changes what it found. -/
theorem pathTo_settled (starts : List String) (target : Option String) (maxDepth more : Nat) :
    searchPaths edges target maxDepth (starts.length + edges.length + more) ((sortedBy id starts).map ([·])) starts
      false = pathTo edges starts target maxDepth :=
  searchPaths_settled (waiting_le starts) more

end Paths

/-- For each organization of the subject, a path from the organization of the resource; the first one ends the loop. -/
def firstAncestor (edges : List RelationshipEdge) (resource : String) (maxDepth : Nat) :
    List String → Bool → List String × Bool
  | [], exhausted => ([], exhausted)
  | organization :: organizations, exhausted =>
    let (found, beyond) := pathTo edges [resource] (some organization) maxDepth
    if found ≠ [] then (found, exhausted || beyond)
    else firstAncestor edges resource maxDepth organizations (exhausted || beyond)

def organizationPath (requirement : RelationshipRequirement) (snapshot : RelationshipSnapshot) (resource : String) :
    List String × Bool :=
  match requirement.organizationScope with
  | .SAME => (if resource ∈ snapshot.subjectOrganizations then [resource] else [], false)
  | .RESOURCE_ANCESTOR =>
    pathTo snapshot.organizationParents snapshot.subjectOrganizations (some resource) requirement.maxDepth
  | .SUBJECT_ANCESTOR =>
    firstAncestor snapshot.organizationParents resource requirement.maxDepth snapshot.subjectOrganizations false

/-- What a snapshot says before the state that was asked for is looked at. -/
structure Reading where
  states : List RelationState
  path : List String
  exhausted : Bool
  deriving DecidableEq, Repr

def membership (found : List String × Bool) : Reading :=
  ⟨[if found.1 ≠ [] then .ACTIVE else .ABSENT], found.1, found.2⟩

/-- The grant is for the action on the resource, by its owner. -/
def concerns (kind : RelationshipKind) (snapshot : RelationshipSnapshot) (grant : RelationshipGrant) : Bool :=
  grant.kind = kind ∧ grant.grantorId = snapshot.ownerId ∧ grant.resourceId = snapshot.resourceId ∧
    snapshot.action ∈ grant.actions

def addressed (snapshot : RelationshipSnapshot) (grant : RelationshipGrant) : Except RelationshipReason Bool :=
  match grant.granteeKind with
  | .GROUP => do
    let groups ← orRaise snapshot.subjectGroups .RELATIONSHIP_SCOPE_INCOMPLETE
    return grant.granteeId ∈ groups
  | .SUBJECT => return grant.granteeId = snapshot.subjectId

def RelationshipGrant.boundaries (grant : RelationshipGrant) : List Int :=
  [(grant.validFromUs : Int)] ++ (grant.validUntilUs.map fun value => (value : Int)).toList ++
    (grant.revokedAtUs.map fun value => (value : Int)).toList

def RelationshipGrant.stateAt (grant : RelationshipGrant) (lower : Int) : RelationState :=
  if grant.revokedAtUs.any fun value => (value : Int) ≤ lower then .REVOKED
  else if grant.validUntilUs.any fun value => (value : Int) ≤ lower then .EXPIRED
  else .ACTIVE

/-- One turn of the loop over the grants: the grant with its state, when it counts. -/
def readGrant (kind : RelationshipKind) (snapshot : RelationshipSnapshot) (lower upper : Int)
    (grant : RelationshipGrant) : Except RelationshipReason (Option (RelationshipGrant × RelationState)) :=
  if concerns kind snapshot grant = false then return none
  else do
    let reached ← addressed snapshot grant
    if reached = false then return none
    require (∀ value ∈ grant.boundaries, ¬ (lower < value ∧ value ≤ upper)) .RELATIONSHIP_TIME_UNCERTAIN
    return if lower < grant.validFromUs then none else some (grant, grant.stateAt lower)

def countedGrants (kind : RelationshipKind) (snapshot : RelationshipSnapshot) :
    Except RelationshipReason (List (RelationshipGrant × RelationState)) := do
  let observed : Int := snapshot.observedAtUs
  let sampled : Int := snapshot.sourceTimeUs.getD snapshot.observedAtUs
  require ((sampled - observed).natAbs ≤ 5000000 + snapshot.clockUncertaintyUs) .RELATIONSHIP_TIME_UNCERTAIN
  -- an interval that a boundary falls into decides nothing
  let lower := min sampled observed - snapshot.clockUncertaintyUs
  let upper := max sampled observed + snapshot.clockUncertaintyUs
  let counted ← snapshot.grants.mapM (readGrant kind snapshot lower upper)
  return counted.filterMap id

/-- With a grant in force, an old revocation or expiry proves nothing; without one, two old states leave it open. -/
def settleStates (asked : RelationState) (found : List RelationState) : Except RelationshipReason (List RelationState) :=
  let states := if found = [] then [.ABSENT] else found.dedup
  if .ACTIVE ∈ states ∧ (asked = .REVOKED ∨ asked = .EXPIRED ∨ asked = .ABSENT) then .ok [.ACTIVE]
  else if .ACTIVE ∉ states ∧ 1 < states.length then .error .RELATIONSHIP_SCOPE_INCOMPLETE
  else .ok states

def grantPath (snapshot : RelationshipSnapshot) (grant : RelationshipGrant) : List String :=
  match grant.granteeKind with
  | .GROUP => [grant.grantorId, grant.granteeId, snapshot.subjectId]
  | .SUBJECT => [grant.grantorId, grant.granteeId]

def grantReading (requirement : RelationshipRequirement) (snapshot : RelationshipSnapshot) :
    Except RelationshipReason Reading := do
  let counted ← countedGrants requirement.kind snapshot
  let states ← settleStates requirement.state (counted.map (·.2))
  let shown := (counted.filter (·.2 = requirement.state)).getLast?
  return ⟨states, (shown.map fun entry => grantPath snapshot entry.1).getD [], false⟩

def readSnapshot (requirement : RelationshipRequirement) (snapshot : RelationshipSnapshot) :
    Except RelationshipReason Reading := do
  require snapshot.scopeComplete .RELATIONSHIP_SCOPE_INCOMPLETE
  match requirement.kind with
  | .ORGANIZATION =>
    let resource ← orRaise snapshot.resourceOrganization .RELATIONSHIP_SCOPE_INCOMPLETE
    return membership (organizationPath requirement snapshot resource)
  | .ROLE_INHERITANCE =>
    return membership (pathTo snapshot.roleInheritance snapshot.subjectRoles requirement.inheritedRole
      requirement.maxDepth)
  | .SHARING | .DELEGATION => grantReading requirement snapshot

/-- The state of a relationship, if the found states settle it: a grant in force, or else the only one found. -/
def currentState (found : List RelationState) : Option RelationState :=
  if .ACTIVE ∈ found then some .ACTIVE
  else match found.dedup with
    | [] => some .ABSENT
    | [state] => some state
    | _ => none

/-- The state of the relationship a requirement is about, whatever state it asks for. -/
def relationState (requirement : RelationshipRequirement) (snapshot : RelationshipSnapshot) : Option RelationState :=
  match requirement.kind with
  | .ORGANIZATION => do
    let resource ← snapshot.resourceOrganization
    currentState (membership (organizationPath requirement snapshot resource)).states
  | .ROLE_INHERITANCE =>
    currentState (membership (pathTo snapshot.roleInheritance snapshot.subjectRoles requirement.inheritedRole
      requirement.maxDepth)).states
  | .SHARING | .DELEGATION => do
    let counted ← (countedGrants requirement.kind snapshot).toOption
    currentState (counted.map (·.2))

section States

variable {requirement : RelationshipRequirement} {snapshot : RelationshipSnapshot}

theorem settleStates_current {asked : RelationState} {found states : List RelationState}
    (settled : settleStates asked found = .ok states) (shown : asked ∈ states) : currentState found = some asked := by
  unfold settleStates at settled
  by_cases empty : found = []
  · subst empty
    simp only [if_true, List.mem_singleton, reduceCtorEq, false_and, if_false, not_false_eq_true, List.length_singleton,
      Nat.lt_irrefl, and_false, Except.ok.injEq] at settled
    rw [← settled, List.mem_singleton] at shown
    rw [shown]
    rfl
  · simp only [if_neg empty, List.mem_dedup] at settled
    unfold currentState
    by_cases active : .ACTIVE ∈ found
    · rw [if_pos active]
      by_cases other : asked = .REVOKED ∨ asked = .EXPIRED ∨ asked = .ABSENT
      · rw [if_pos ⟨active, other⟩, Except.ok.injEq] at settled
        rw [← settled, List.mem_singleton] at shown
        rw [shown]
      · cases asked with
        | ACTIVE => rfl
        | ABSENT => exact absurd (.inr (.inr rfl)) other
        | EXPIRED => exact absurd (.inr (.inl rfl)) other
        | REVOKED => exact absurd (.inl rfl) other
    · rw [if_neg fun both => active both.1] at settled
      rw [if_neg active]
      by_cases several : 1 < found.dedup.length
      · rw [if_pos ⟨active, several⟩] at settled
        cases settled
      · rw [if_neg fun both => several both.2, Except.ok.injEq] at settled
        rw [← settled] at shown
        cases distinct : found.dedup with
        | nil => rw [distinct] at shown; cases shown
        | cons state rest =>
          rw [distinct] at several shown
          have only : rest = [] := List.eq_nil_of_length_eq_zero (by simp only [List.length_cons] at several; omega)
          rw [only, List.mem_singleton] at shown
          rw [only, shown]

theorem membership_current {found : List String × Bool} {state : RelationState}
    (shown : state ∈ (membership found).states) : currentState (membership found).states = some state := by
  rw [membership, List.mem_singleton] at shown
  rw [shown]
  unfold membership currentState
  by_cases path : found.1 ≠ []
  · simp [path]
  · simp [path]

/-- The states of a reading contain the asked one only when it is the state of the relationship. -/
theorem readSnapshot_current {reading : Reading} (read : readSnapshot requirement snapshot = .ok reading)
    (shown : requirement.state ∈ reading.states) : relationState requirement snapshot = some requirement.state := by
  obtain ⟨-, -, read⟩ := bind_eq_ok.mp read
  unfold relationState
  have granted : grantReading requirement snapshot = .ok reading →
      (do
        let counted ← (countedGrants requirement.kind snapshot).toOption
        currentState (counted.map (·.2))) = some requirement.state := by
    intro granted
    obtain ⟨counted, collected, granted⟩ := bind_eq_ok.mp granted
    obtain ⟨states, settled, same⟩ := bind_eq_ok.mp granted
    cases same
    rw [collected]
    exact settleStates_current settled shown
  cases kind : requirement.kind with
  | ORGANIZATION =>
    rw [kind] at read
    obtain ⟨resource, known, same⟩ := bind_eq_ok.mp read
    rw [orRaise_eq_ok.mp known]
    cases same
    exact membership_current shown
  | ROLE_INHERITANCE =>
    rw [kind] at read
    cases read
    exact membership_current shown
  | SHARING =>
    rw [kind] at read granted
    exact granted read
  | DELEGATION =>
    rw [kind] at read granted
    exact granted read

/-- The state of a relationship does not depend on the state asked for. -/
theorem relationState_asked (state : RelationState) :
    relationState { requirement with state := state } snapshot = relationState requirement snapshot := rfl

end States

end Jiejian.Protocol.Relationships
