import Jiejian.Library.Walks
import Jiejian.Verification.Overlap

namespace Jiejian.Verification.Ancestry

open Library.Outcome Library.Sorting Library.Walks
open Protocol.Codec Protocol.Conditions Protocol.Relationships Overlap

def Ascends (edges : List RelationshipEdge) (child parent : String) : Prop :=
  ∃ edge ∈ edges, edge.child = child ∧ edge.parent = parent

/-- What a search says about a target: a shortest path within the depth, or why there is none. -/
structure Exact (edges : List RelationshipEdge) (starts : List String) (target : String) (maxDepth : Nat)
    (found : List String × Bool) : Prop where
  path : found.1 ≠ [] → Walk (Ascends edges) (· ∈ starts) found.1 target ∧ found.1.length ≤ maxDepth + 1 ∧
    ∀ other, Walk (Ascends edges) (· ∈ starts) other target → found.1.length ≤ other.length
  absent : found.1 = [] → ∀ other, Walk (Ascends edges) (· ∈ starts) other target →
    found.2 = true ∧ maxDepth + 1 < other.length

section Search

variable {edges : List RelationshipEdge} {starts : List String} {target : String} {maxDepth : Nat}

theorem mem_newParents {path seen : List String} {node parent : String} (last : path.getLast? = some node) :
    parent ∈ newParents edges path seen ↔ Ascends edges node parent ∧ parent ∉ seen := by
  unfold newParents Ascends
  rw [mem_sortedSet, List.mem_filter, List.mem_map, last, decide_eq_true_eq]
  apply and_congr_left
  intro _
  apply exists_congr
  intro edge
  rw [List.mem_filter, decide_eq_true_eq, Option.some.injEq, and_assoc, eq_comm]

/-- The loop keeps the order of length, so what it returns is exact. -/
theorem searchPaths_exact {rounds : Nat} {done pending : List (List String)} {seen : List String} {exhausted : Bool}
    (enough : pending.length + (unseenParents edges seen).length ≤ rounds)
    (explored : Explored (Ascends edges) (· ∈ starts) maxDepth (exhausted = true) done pending)
    (known : ∀ node, node ∈ seen ↔ ∃ path ∈ done ++ pending, path.getLast? = some node)
    (missed : ∀ path ∈ done, path.getLast? ≠ some target) :
    Exact edges starts target maxDepth (searchPaths edges (some target) maxDepth rounds pending seen exhausted) := by
  have ended : pending = [] → Exact edges starts target maxDepth ([], exhausted) := by
    intro nothing
    subst nothing
    exact ⟨fun found => absurd rfl found, fun _ other walk => explored.finished missed walk⟩
  induction rounds generalizing done pending seen exhausted with
  | zero => exact ended (List.eq_nil_of_length_eq_zero (by omega))
  | succ rounds ih =>
    cases pending with
    | nil => exact ended rfl
    | cons path pending =>
      have among : path ∈ done ++ path :: pending := List.mem_append_right _ List.mem_cons_self
      obtain ⟨node, walked⟩ := explored.walks path among
      have last := walked.getLast
      have short := explored.short path among
      have some' : 0 < path.length := List.length_pos_of_ne_nil walked.ne_nil
      have fewer := @newParents_unseen edges path seen
      simp only [List.length_cons] at enough
      simp only [searchPaths]
      by_cases found : path.getLast? = some target
      · rw [if_pos found]
        exact ⟨fun _ => explored.shortest found missed, fun empty => absurd empty walked.ne_nil⟩
      · rw [if_neg found]
        have missed' : ∀ other ∈ done ++ [path], other.getLast? ≠ some target := by
          intro other member
          cases List.mem_append.mp member with
          | inl old => exact missed other old
          | inr new => rw [List.mem_singleton.mp new]; exact found
        by_cases deep : path.length - 1 = maxDepth
        · rw [if_pos deep]
          have explored' : Explored (Ascends edges) (· ∈ starts) maxDepth
              ((exhausted || decide (newParents edges path seen ≠ [])) = true) (done ++ [path]) pending := by
            apply explored.stop last (by omega)
            · intro cut
              rw [cut, Bool.true_or]
            · intro next stepped
              by_cases listed : next ∈ seen
              · exact .inr ((known next).mp listed)
              · have new := (mem_newParents last).mpr ⟨stepped, listed⟩
                rw [Bool.or_eq_true, decide_eq_true_eq]
                exact .inl (.inr (List.ne_nil_of_mem new))
          apply ih (by omega) explored'
          · intro other
            rw [known other, List.append_assoc, List.singleton_append]
          · exact missed'
          · intro nothing
            subst nothing
            exact ⟨fun found => absurd rfl found, fun _ other walk => explored'.finished missed' walk⟩
        · rw [if_neg deep]
          have explored' : Explored (Ascends edges) (· ∈ starts) maxDepth (exhausted = true) (done ++ [path])
              (pending ++ (newParents edges path seen).map fun parent => path ++ [parent]) := by
            apply explored.expand last (by omega)
            · intro next new
              exact ((mem_newParents last).mp new).1
            · intro next stepped
              by_cases listed : next ∈ seen
              · exact .inr ((known next).mp listed)
              · exact .inl ((mem_newParents last).mpr ⟨stepped, listed⟩)
          apply ih _ explored'
          · intro other
            rw [List.mem_append, known other]
            constructor
            · intro either
              cases either with
              | inl old =>
                obtain ⟨path', member, ends⟩ := old
                refine ⟨path', ?_, ends⟩
                rw [Explored.popped]
                exact List.mem_append_left _ member
              | inr new =>
                refine ⟨path ++ [other], ?_, List.getLast?_concat⟩
                exact List.mem_append_right _ (List.mem_append_right _ (List.mem_map_of_mem new))
            · intro found
              obtain ⟨path', member, ends⟩ := found
              rw [Explored.popped] at member
              cases List.mem_append.mp member with
              | inl old => exact .inl ⟨path', old, ends⟩
              | inr new =>
                obtain ⟨parent, listed, eq⟩ := List.mem_map.mp new
                rw [← eq, List.getLast?_concat, Option.some.injEq] at ends
                exact .inr (ends ▸ listed)
          · exact missed'
          · intro nothing
            rw [nothing] at explored'
            exact ⟨fun found => absurd rfl found, fun _ other walk => explored'.finished missed' walk⟩
          · simp only [List.length_append, List.length_map]
            omega

theorem pathTo_exact : Exact edges starts target maxDepth (pathTo edges starts (some target) maxDepth) := by
  have same : ∀ node, node ∈ starts ↔ node ∈ sortedBy id starts := fun node => mem_sortedBy.symm
  apply searchPaths_exact (waiting_le starts) (Explored.initial same)
  · intro node
    rw [same node, List.nil_append]
    constructor
    · intro member
      exact ⟨[node], List.mem_map_of_mem member, rfl⟩
    · intro found
      obtain ⟨path, member, ends⟩ := found
      obtain ⟨start, listed, eq⟩ := List.mem_map.mp member
      rw [← eq] at ends
      exact Option.some.inj ends ▸ listed
  · exact fun path member => absurd member List.not_mem_nil

end Search

/-- The relation that a requirement about organizations asks for, at any depth. -/
def OrganizationRelated (requirement : RelationshipRequirement) (snapshot : RelationshipSnapshot) : Prop :=
  ∃ resource, snapshot.resourceOrganization = some resource ∧
    match requirement.organizationScope with
    | .SAME => resource ∈ snapshot.subjectOrganizations
    | .RESOURCE_ANCESTOR => ∃ organization ∈ snapshot.subjectOrganizations,
        Relation.ReflTransGen (Ascends snapshot.organizationParents) organization resource
    | .SUBJECT_ANCESTOR => ∃ organization ∈ snapshot.subjectOrganizations,
        Relation.ReflTransGen (Ascends snapshot.organizationParents) resource organization

/-- A role of the subject inherits the required one, at any depth. -/
def RoleInherited (requirement : RelationshipRequirement) (snapshot : RelationshipSnapshot) : Prop :=
  ∃ role, requirement.inheritedRole = some role ∧
    ∃ held ∈ snapshot.subjectRoles, Relation.ReflTransGen (Ascends snapshot.roleInheritance) held role

/-- The result says that the relation does not exist. -/
def Denies (requirement : RelationshipRequirement) (result : RelationshipResult) : Prop :=
  (requirement.state = .ABSENT ∧ result.status = .MATCH) ∨ (requirement.state = .ACTIVE ∧ result.status = .MISMATCH)

section Denied

variable {digest : Digest} {requirement : RelationshipRequirement} {snapshot : RelationshipSnapshot}

theorem pathTo_unreached {edges : List RelationshipEdge} {starts : List String} {target : String} {maxDepth : Nat}
    (found : pathTo edges starts (some target) maxDepth = ([], false)) :
    ∀ start ∈ starts, ¬ Relation.ReflTransGen (Ascends edges) start target := by
  intro start begun reached
  have exact' : Exact edges starts target maxDepth (pathTo edges starts (some target) maxDepth) := pathTo_exact
  rw [found] at exact'
  obtain ⟨path, walk⟩ := walk_iff_reached.mpr ⟨start, begun, reached⟩
  exact Bool.false_ne_true (exact'.absent rfl path walk).1

/-- The loop over the organizations of the subject ends without a path only when each of its searches did. -/
theorem firstAncestor_nothing {edges : List RelationshipEdge} {resource : String} {maxDepth : Nat}
    {organizations : List String} {exhausted : Bool}
    (found : firstAncestor edges resource maxDepth organizations exhausted = ([], false)) :
    exhausted = false ∧ ∀ organization ∈ organizations,
      pathTo edges [resource] (some organization) maxDepth = ([], false) := by
  induction organizations generalizing exhausted with
  | nil => exact ⟨congrArg Prod.snd found, fun _ member => absurd member List.not_mem_nil⟩
  | cons organization organizations ih =>
    simp only [firstAncestor] at found
    by_cases path : (pathTo edges [resource] (some organization) maxDepth).1 ≠ []
    · rw [if_pos path] at found
      exact absurd (congrArg Prod.fst found) path
    · rw [if_neg path] at found
      obtain ⟨kept, rest⟩ := ih found
      rw [Bool.or_eq_false_iff] at kept
      refine ⟨kept.1, ?_⟩
      intro other member
      cases List.mem_cons.mp member with
      | inl same => exact same ▸ Prod.ext (not_not.mp path) kept.2
      | inr later => exact rest other later

/-- A membership is denied only when nothing was found and nothing was left out. -/
theorem membership_denied {found : List String × Bool}
    (read : readSnapshot requirement snapshot = .ok (membership found))
    (denied : Denies requirement (observeRelationship digest requirement snapshot)) : found = ([], false) := by
  unfold Denies at denied
  rw [status_of_reading read] at denied
  by_cases deep : (membership found).exhausted = true ∧ (membership found).path = []
  · rw [if_pos deep] at denied
    cases denied with
    | inl denied => cases denied.2
    | inr denied => cases denied.2
  · rw [if_neg deep] at denied
    have absent : found.1 = [] := by
      by_cases path : found.1 = []
      · exact path
      · have states : (membership found).states = [.ACTIVE] := by
          unfold membership
          rw [if_pos path]
        rw [states] at denied
        cases denied with
        | inl denied =>
          rw [denied.1, if_neg (by decide)] at denied
          cases denied.2
        | inr denied =>
          rw [denied.1, if_pos (List.mem_singleton.mpr rfl)] at denied
          cases denied.2
    refine Prod.ext absent ?_
    cases beyond : found.2 with
    | false => rfl
    | true => exact absurd ⟨beyond, absent⟩ deep

/-- A refused snapshot denies nothing. -/
theorem denied_read (denied : Denies requirement (observeRelationship digest requirement snapshot)) :
    ∃ reading, readSnapshot requirement snapshot = .ok reading := by
  cases read : readSnapshot requirement snapshot with
  | ok reading => exact ⟨reading, rfl⟩
  | error reason =>
    unfold Denies at denied
    rw [status_of_error read] at denied
    cases denied with
    | inl denied => cases denied.2
    | inr denied => cases denied.2

theorem organization_denied (kind : requirement.kind = .ORGANIZATION)
    (denied : Denies requirement (observeRelationship digest requirement snapshot)) :
    ¬ OrganizationRelated requirement snapshot := by
  intro related
  obtain ⟨resource, known, related⟩ := related
  obtain ⟨reading, read⟩ := denied_read denied
  have reads : readSnapshot requirement snapshot =
      .ok (membership (organizationPath requirement snapshot resource)) := by
    obtain ⟨_, _, taken⟩ := bind_eq_ok.mp read
    rw [kind] at taken
    obtain ⟨found, listed, same⟩ := bind_eq_ok.mp taken
    have eq : found = resource := Option.some.inj ((orRaise_eq_ok.mp listed).symm.trans known)
    cases same
    rw [read, eq]
  have nothing := membership_denied reads denied
  unfold organizationPath at nothing
  cases scope : requirement.organizationScope with
  | SAME =>
    rw [scope] at nothing related
    have absent := congrArg Prod.fst nothing
    simp only at absent
    rw [if_pos related] at absent
    cases absent
  | RESOURCE_ANCESTOR =>
    rw [scope] at nothing related
    obtain ⟨organization, own, reached⟩ := related
    exact pathTo_unreached nothing organization own reached
  | SUBJECT_ANCESTOR =>
    rw [scope] at nothing related
    obtain ⟨organization, own, reached⟩ := related
    have missed := (firstAncestor_nothing nothing).2 organization own
    exact pathTo_unreached missed resource (List.mem_singleton.mpr rfl) reached

theorem role_denied (kind : requirement.kind = .ROLE_INHERITANCE)
    (denied : Denies requirement (observeRelationship digest requirement snapshot)) :
    ¬ RoleInherited requirement snapshot := by
  intro inherited
  obtain ⟨role, known, held, own, reached⟩ := inherited
  obtain ⟨reading, read⟩ := denied_read denied
  have reads : readSnapshot requirement snapshot = .ok (membership (pathTo snapshot.roleInheritance
      snapshot.subjectRoles requirement.inheritedRole requirement.maxDepth)) := by
    obtain ⟨_, _, taken⟩ := bind_eq_ok.mp read
    rw [kind] at taken
    cases taken
    exact read
  have nothing := membership_denied reads denied
  rw [known] at nothing
  exact pathTo_unreached nothing held own reached

end Denied

/-- The search is exact: a path is found when the target is near enough, it is a shortest one, and nothing found with
nothing left out means that the target cannot be reached. So a relation is denied only where there is none. -/
theorem search_exact (edges : List RelationshipEdge) (starts : List String) (target : String) (maxDepth : Nat)
    (digest : Digest) (requirement : RelationshipRequirement) (snapshot : RelationshipSnapshot) :
    ((pathTo edges starts (some target) maxDepth).1 ≠ [] ↔
      ∃ path, Walk (Ascends edges) (· ∈ starts) path target ∧ path.length - 1 ≤ maxDepth) ∧
    ((pathTo edges starts (some target) maxDepth).1 ≠ [] →
      Walk (Ascends edges) (· ∈ starts) (pathTo edges starts (some target) maxDepth).1 target ∧
        ∀ path, Walk (Ascends edges) (· ∈ starts) path target →
          (pathTo edges starts (some target) maxDepth).1.length ≤ path.length) ∧
    (pathTo edges starts (some target) maxDepth = ([], false) →
      ∀ start ∈ starts, ¬ Relation.ReflTransGen (Ascends edges) start target) ∧
    (Denies requirement (observeRelationship digest requirement snapshot) →
      (requirement.kind = .ORGANIZATION → ¬ OrganizationRelated requirement snapshot) ∧
      (requirement.kind = .ROLE_INHERITANCE → ¬ RoleInherited requirement snapshot)) := by
  have exact' : Exact edges starts target maxDepth (pathTo edges starts (some target) maxDepth) := pathTo_exact
  refine ⟨?_, ?_, pathTo_unreached, ?_⟩
  · constructor
    · intro found
      obtain ⟨walk, short, _⟩ := exact'.path found
      exact ⟨_, walk, by omega⟩
    · intro near nothing
      obtain ⟨path, walk, short⟩ := near
      have beyond := (exact'.absent nothing path walk).2
      omega
  · intro found
    exact ⟨(exact'.path found).1, (exact'.path found).2.2⟩
  · intro denied
    exact ⟨fun kind => organization_denied kind denied, fun kind => role_denied kind denied⟩

end Jiejian.Verification.Ancestry
