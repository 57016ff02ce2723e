import Jiejian.Verification.Overlap
import Mathlib.Data.List.Perm.Basic

namespace Jiejian.Verification.GrantWindows

open Library.Outcome Library.Sorting
open Protocol.Codec Protocol.Conditions Protocol.Relationships Overlap

def sampledUs (snapshot : RelationshipSnapshot) : Int := (snapshot.sourceTimeUs.getD snapshot.observedAtUs : Nat)

def lowerUs (snapshot : RelationshipSnapshot) : Int :=
  min (sampledUs snapshot) snapshot.observedAtUs - snapshot.clockUncertaintyUs

def upperUs (snapshot : RelationshipSnapshot) : Int :=
  max (sampledUs snapshot) snapshot.observedAtUs + snapshot.clockUncertaintyUs

/-- The grant is about the action on the resource and given by the owner to the subject, or to one of its groups. -/
structure Applicable (kind : RelationshipKind) (snapshot : RelationshipSnapshot) (groups : List String)
    (grant : RelationshipGrant) : Prop where
  kind : grant.kind = kind
  owner : grant.grantorId = snapshot.ownerId
  resource : grant.resourceId = snapshot.resourceId
  action : snapshot.action ∈ grant.actions
  given : (grant.granteeKind = .SUBJECT ∧ grant.granteeId = snapshot.subjectId) ∨
    (grant.granteeKind = .GROUP ∧ grant.granteeId ∈ groups)

/-- Validity and revocation are half open: the grant does not hold at the instant it ends. -/
def InForce (grant : RelationshipGrant) (instant : Int) : Prop :=
  grant.validFromUs ≤ instant ∧ (∀ value ∈ grant.validUntilUs, instant < value) ∧
    ∀ value ∈ grant.revokedAtUs, instant < value

/-- The groups a subject is in, where the snapshot names them. -/
def GroupsOf (snapshot : RelationshipSnapshot) (groups : List String) : Prop :=
  ∀ named ∈ snapshot.subjectGroups, named = groups

section Grants

variable {kind : RelationshipKind} {snapshot : RelationshipSnapshot} {groups : List String} {lower upper : Int}
  {grant : RelationshipGrant}

theorem mem_boundaries {value : Nat} :
    (value : Int) ∈ grant.boundaries ↔
      value = grant.validFromUs ∨ value ∈ grant.validUntilUs ∨ value ∈ grant.revokedAtUs := by
  unfold RelationshipGrant.boundaries
  cases grant.validUntilUs <;> cases grant.revokedAtUs <;> simp [Int.natCast_inj, eq_comm]

/-- One turn of the loop: what an accepted grant is, and what is left of it. -/
theorem readGrant_spec {read : Option (RelationshipGrant × RelationState)} (named : GroupsOf snapshot groups)
    (taken : readGrant kind snapshot lower upper grant = .ok read) :
    (¬ Applicable kind snapshot groups grant ∧ read = none) ∨
      (Applicable kind snapshot groups grant ∧
        (∀ value ∈ grant.boundaries, ¬ (lower < value ∧ value ≤ upper)) ∧
        read = if lower < grant.validFromUs then none else some (grant, grant.stateAt lower)) := by
  unfold readGrant at taken
  by_cases apart : concerns kind snapshot grant = false
  · rw [if_pos apart] at taken
    cases taken
    refine .inl ⟨?_, rfl⟩
    intro applies
    unfold concerns at apart
    rw [decide_eq_false_iff_not] at apart
    exact apart ⟨applies.kind, applies.owner, applies.resource, applies.action⟩
  · rw [if_neg apart] at taken
    rw [Bool.not_eq_false, concerns, decide_eq_true_eq] at apart
    obtain ⟨reached, known, taken⟩ := bind_eq_ok.mp taken
    have given : reached = true ↔ (grant.granteeKind = .SUBJECT ∧ grant.granteeId = snapshot.subjectId) ∨
        (grant.granteeKind = .GROUP ∧ grant.granteeId ∈ groups) := by
      unfold addressed at known
      cases grantee : grant.granteeKind with
      | SUBJECT =>
        rw [grantee] at known
        cases known
        simp
      | GROUP =>
        rw [grantee] at known
        obtain ⟨listed, found, known⟩ := bind_eq_ok.mp known
        rw [← named listed (orRaise_eq_ok.mp found)]
        cases known
        simp
    by_cases missed : reached = false
    · rw [if_pos missed] at taken
      cases taken
      refine .inl ⟨?_, rfl⟩
      intro applies
      exact Bool.false_ne_true (missed.symm.trans (given.mpr applies.given))
    · rw [if_neg missed] at taken
      obtain ⟨_, clear, taken⟩ := bind_eq_ok.mp taken
      have clear := require_eq_ok.mp clear
      cases taken
      exact .inr ⟨⟨apart.1, apart.2.1, apart.2.2.1, apart.2.2.2, given.mp (Bool.not_eq_false _ ▸ missed)⟩, clear, rfl⟩

theorem passed_iff {boundary : Option Nat} :
    (boundary.any fun value => decide ((value : Int) ≤ lower)) = false ↔ ∀ value ∈ boundary, lower < (value : Int) := by
  cases boundary <;> simp

theorem stateAt_active : grant.stateAt lower = .ACTIVE ↔
    (∀ value ∈ grant.validUntilUs, lower < (value : Int)) ∧ ∀ value ∈ grant.revokedAtUs, lower < (value : Int) := by
  unfold RelationshipGrant.stateAt
  rw [← passed_iff, ← passed_iff]
  cases revoked : grant.revokedAtUs.any fun value => decide ((value : Int) ≤ lower) with
  | true => simp
  | false =>
    cases ended : grant.validUntilUs.any fun value => decide ((value : Int) ≤ lower) with
    | true => simp
    | false => simp

theorem readGrant_own {source : RelationshipGrant} {state : RelationState}
    (taken : readGrant kind snapshot lower upper source = .ok (some (grant, state))) : source = grant := by
  have named : GroupsOf snapshot (snapshot.subjectGroups.getD []) := by
    intro listed found
    rw [Option.mem_def.mp found]
    rfl
  cases readGrant_spec named taken with
  | inl apart => cases apart.2
  | inr counted =>
    have read := counted.2.2
    by_cases future : lower < source.validFromUs
    · rw [if_pos future] at read
      cases read
    · rw [if_neg future] at read
      cases read
      rfl

theorem readGrant_active {state : RelationState} (named : GroupsOf snapshot groups)
    (taken : readGrant kind snapshot lower upper grant = .ok (some (grant, state))) :
    Applicable kind snapshot groups grant ∧ (grant.validFromUs : Int) ≤ lower ∧
      (state = .ACTIVE → (∀ value ∈ grant.validUntilUs, upper < (value : Int)) ∧
        ∀ value ∈ grant.revokedAtUs, upper < (value : Int)) := by
  cases readGrant_spec named taken with
  | inl apart => cases apart.2
  | inr counted =>
    obtain ⟨applies, clear, read⟩ := counted
    by_cases future : lower < grant.validFromUs
    · rw [if_pos future] at read
      cases read
    · rw [if_neg future] at read
      cases read
      refine ⟨applies, by omega, ?_⟩
      intro active
      obtain ⟨ends, revoked⟩ := stateAt_active.mp active
      constructor
      · intro value ended
        have after := ends value ended
        have outside := clear value (mem_boundaries.mpr (.inr (.inl ended)))
        omega
      · intro value ended
        have after := revoked value ended
        have outside := clear value (mem_boundaries.mpr (.inr (.inr ended)))
        omega

/-- An applicable grant that holds somewhere in the window holds in all of it, and is counted as active. -/
theorem readGrant_inForce {read : Option (RelationshipGrant × RelationState)} {instant : Int}
    (named : GroupsOf snapshot groups) (taken : readGrant kind snapshot lower upper grant = .ok read)
    (applies : Applicable kind snapshot groups grant) (after : lower ≤ instant) (before : instant ≤ upper)
    (inForce : InForce grant instant) : read = some (grant, .ACTIVE) := by
  cases readGrant_spec named taken with
  | inl apart => exact absurd applies apart.1
  | inr counted =>
    obtain ⟨_, clear, read⟩ := counted
    obtain ⟨started, ends, revoked⟩ := inForce
    have outside := clear grant.validFromUs (mem_boundaries.mpr (.inl rfl))
    have present : ¬ lower < (grant.validFromUs : Int) := by omega
    have active : grant.stateAt lower = .ACTIVE := by
      apply stateAt_active.mpr
      constructor
      · intro value ended
        have := ends value ended
        omega
      · intro value ended
        have := revoked value ended
        omega
    rw [read, if_neg present, active]

end Grants

section Observed

variable {digest : Digest} {requirement : RelationshipRequirement} {snapshot : RelationshipSnapshot}

theorem countedGrants_eq_ok {kind : RelationshipKind} {counted : List (RelationshipGrant × RelationState)} :
    countedGrants kind snapshot = .ok counted ↔
      (sampledUs snapshot - snapshot.observedAtUs).natAbs ≤ 5000000 + snapshot.clockUncertaintyUs ∧
        ∃ reads, snapshot.grants.mapM (readGrant kind snapshot (lowerUs snapshot) (upperUs snapshot)) = .ok reads ∧
          reads.filterMap id = counted := by
  constructor
  · intro collected
    obtain ⟨_, near, collected⟩ := bind_eq_ok.mp collected
    obtain ⟨reads, taken, same⟩ := bind_eq_ok.mp collected
    exact ⟨require_eq_ok.mp near, reads, taken, Except.ok.inj same⟩
  · intro collected
    obtain ⟨near, reads, taken, same⟩ := collected
    exact bind_eq_ok.mpr ⟨(), require_eq_ok.mpr near, bind_eq_ok.mpr ⟨reads, taken, congrArg Except.ok same⟩⟩

theorem readSnapshot_grants (granted : requirement.kind = .SHARING ∨ requirement.kind = .DELEGATION) {reading : Reading} :
    readSnapshot requirement snapshot = .ok reading ↔
      snapshot.scopeComplete = true ∧ grantReading requirement snapshot = .ok reading := by
  have same : readSnapshot requirement snapshot = (do
      require snapshot.scopeComplete .RELATIONSHIP_SCOPE_INCOMPLETE
      grantReading requirement snapshot) := by
    unfold readSnapshot
    cases granted with
    | inl kind => rw [kind]
    | inr kind => rw [kind]
  rw [same]
  constructor
  · intro read
    obtain ⟨_, complete, read⟩ := bind_eq_ok.mp read
    exact ⟨require_eq_ok.mp complete, read⟩
  · intro read
    exact bind_eq_ok.mpr ⟨(), require_eq_ok.mpr read.1, read.2⟩

theorem currentState_active {found : List RelationState} (current : currentState found = some .ACTIVE) :
    .ACTIVE ∈ found := by
  unfold currentState at current
  by_cases active : .ACTIVE ∈ found
  · exact active
  · rw [if_neg active] at current
    cases states : found.dedup with
    | nil =>
      rw [states] at current
      cases current
    | cons state rest =>
      rw [states] at current
      cases rest with
      | nil =>
        cases current
        exact List.mem_dedup.mp (states ▸ List.mem_cons_self)
      | cons _ _ => cases current

theorem currentState_inactive {found : List RelationState} {state : RelationState}
    (current : currentState found = some state) (inactive : state ≠ .ACTIVE) : .ACTIVE ∉ found := by
  intro active
  unfold currentState at current
  rw [if_pos active] at current
  exact inactive (Option.some.inj current).symm

theorem settleStates_perm {asked : RelationState} {found found' states : List RelationState}
    (perm : found.Perm found') (settled : settleStates asked found = .ok states) :
    ∃ states', settleStates asked found' = .ok states' ∧ ∀ state, state ∈ states' ↔ state ∈ states := by
  have merged : (if found = [] then [RelationState.ABSENT] else found.dedup).Perm
      (if found' = [] then [RelationState.ABSENT] else found'.dedup) := by
    by_cases empty : found = []
    · subst empty
      rw [List.nil_perm.mp perm]
    · rw [if_neg empty, if_neg fun nothing => empty (List.perm_nil.mp (by rw [← nothing]; exact perm))]
      exact perm.dedup
  unfold settleStates at settled ⊢
  generalize (if found = [] then [RelationState.ABSENT] else found.dedup) = before at settled merged
  generalize (if found' = [] then [RelationState.ABSENT] else found'.dedup) = after at merged ⊢
  simp only [merged.mem_iff, merged.length_eq] at settled
  by_cases active : .ACTIVE ∈ after ∧ (asked = .REVOKED ∨ asked = .EXPIRED ∨ asked = .ABSENT)
  · rw [if_pos active] at settled
    rw [if_pos active, ← Except.ok.inj settled]
    exact ⟨_, rfl, fun _ => Iff.rfl⟩
  · rw [if_neg active] at settled
    rw [if_neg active]
    by_cases several : .ACTIVE ∉ after ∧ 1 < after.length
    · rw [if_pos several] at settled
      cases settled
    · rw [if_neg several] at settled
      rw [if_neg several, ← Except.ok.inj settled]
      exact ⟨_, rfl, fun _ => merged.mem_iff.symm⟩

/-- A state is matched only when it is what the grants that count come to. -/
theorem matched_grants (granted : requirement.kind = .SHARING ∨ requirement.kind = .DELEGATION)
    (matched : (observeRelationship digest requirement snapshot).status = .MATCH) :
    ∃ counted, countedGrants requirement.kind snapshot = .ok counted ∧
      currentState (counted.map (·.2)) = some requirement.state := by
  cases read : readSnapshot requirement snapshot with
  | error reason =>
    rw [status_of_error read] at matched
    cases matched
  | ok reading =>
    rw [status_of_reading read] at matched
    have shown : requirement.state ∈ reading.states := by
      by_cases deep : reading.exhausted ∧ reading.path = []
      · rw [if_pos deep] at matched
        cases matched
      · rw [if_neg deep] at matched
        by_cases shown : requirement.state ∈ reading.states
        · exact shown
        · rw [if_neg shown] at matched
          cases matched
    obtain ⟨counted, collected, rest⟩ := bind_eq_ok.mp ((readSnapshot_grants granted).mp read).2
    obtain ⟨states, settled, same⟩ := bind_eq_ok.mp rest
    cases same
    exact ⟨counted, collected, settleStates_current settled shown⟩

theorem counted_read {kind : RelationshipKind} {counted : List (RelationshipGrant × RelationState)}
    (collected : countedGrants kind snapshot = .ok counted) {grant : RelationshipGrant} {state : RelationState}
    (member : (grant, state) ∈ counted) :
    grant ∈ snapshot.grants ∧
      readGrant kind snapshot (lowerUs snapshot) (upperUs snapshot) grant = .ok (some (grant, state)) := by
  obtain ⟨_, reads, taken, same⟩ := countedGrants_eq_ok.mp collected
  rw [← same, List.mem_filterMap] at member
  obtain ⟨read, among, eq⟩ := member
  have eq : read = some (grant, state) := eq
  subst eq
  obtain ⟨source, listed, read⟩ := partner_left (mapM_eq_ok_iff.mp taken) among
  have own : source = grant := readGrant_own read
  exact ⟨own ▸ listed, own ▸ read⟩

theorem read_counted {kind : RelationshipKind} {counted : List (RelationshipGrant × RelationState)}
    (collected : countedGrants kind snapshot = .ok counted) {grant : RelationshipGrant} (listed : grant ∈ snapshot.grants) :
    ∃ read, readGrant kind snapshot (lowerUs snapshot) (upperUs snapshot) grant = .ok read ∧
      ∀ entry, read = some entry → entry ∈ counted := by
  obtain ⟨_, reads, taken, same⟩ := countedGrants_eq_ok.mp collected
  obtain ⟨read, among, took⟩ := partner_right (mapM_eq_ok_iff.mp taken) listed
  refine ⟨read, took, ?_⟩
  intro entry eq
  rw [← same, List.mem_filterMap]
  exact ⟨read, among, eq⟩

/-- The order of the grants does not matter to what is read of them. -/
theorem countedGrants_perm {kind : RelationshipKind} {grants : List RelationshipGrant}
    {counted : List (RelationshipGrant × RelationState)} (perm : grants.Perm snapshot.grants)
    (collected : countedGrants kind snapshot = .ok counted) :
    ∃ counted', countedGrants kind { snapshot with grants := grants } = .ok counted' ∧ counted'.Perm counted := by
  obtain ⟨near, reads, taken, same⟩ := countedGrants_eq_ok.mp collected
  obtain ⟨reads', taken', perm'⟩ := List.perm_comp_forall₂ perm (mapM_eq_ok_iff.mp taken)
  refine ⟨reads'.filterMap id, countedGrants_eq_ok.mpr ⟨near, reads', mapM_eq_ok_iff.mpr taken', rfl⟩, ?_⟩
  rw [← same]
  exact perm'.filterMap id

theorem readSnapshot_perm (granted : requirement.kind = .SHARING ∨ requirement.kind = .DELEGATION)
    {grants : List RelationshipGrant} (perm : grants.Perm snapshot.grants) {reading : Reading}
    (read : readSnapshot requirement snapshot = .ok reading) :
    ∃ reading', readSnapshot requirement { snapshot with grants := grants } = .ok reading' ∧
      (reading'.exhausted = false ∧ reading.exhausted = false) ∧
      ∀ state, state ∈ reading'.states ↔ state ∈ reading.states := by
  obtain ⟨complete, taken⟩ := (readSnapshot_grants granted).mp read
  obtain ⟨counted, collected, rest⟩ := bind_eq_ok.mp taken
  obtain ⟨states, settled, same⟩ := bind_eq_ok.mp rest
  obtain ⟨counted', collected', perm'⟩ := countedGrants_perm perm collected
  obtain ⟨states', settled', among⟩ := settleStates_perm (perm'.symm.map (·.2)) settled
  cases same
  exact ⟨_, (readSnapshot_grants granted).mpr ⟨complete,
    bind_eq_ok.mpr ⟨counted', collected', bind_eq_ok.mpr ⟨states', settled', rfl⟩⟩⟩, ⟨rfl, rfl⟩, among⟩

theorem status_perm (granted : requirement.kind = .SHARING ∨ requirement.kind = .DELEGATION)
    {grants : List RelationshipGrant} (perm : grants.Perm snapshot.grants) :
    (observeRelationship digest requirement { snapshot with grants := grants }).status =
      (observeRelationship digest requirement snapshot).status := by
  cases read : readSnapshot requirement snapshot with
  | ok reading =>
    obtain ⟨reading', read', settled, same⟩ := readSnapshot_perm granted perm read
    rw [status_of_reading read, status_of_reading read', settled.1, settled.2]
    simp only [Bool.false_eq_true, false_and, if_false, same]
  | error reason =>
    rw [status_of_error read]
    cases read' : readSnapshot requirement { snapshot with grants := grants } with
    | error reason' => exact status_of_error read'
    | ok reading' =>
      have perm' : snapshot.grants.Perm ({ snapshot with grants := grants } : RelationshipSnapshot).grants := perm.symm
      obtain ⟨_, again, _⟩ := readSnapshot_perm granted perm' read'
      cases read.symm.trans again

end Observed

/-- A match with an active grant rests on one that holds in the whole window, a match with any other state on a window
without a grant in force; and the order of the grants plays no part. -/
theorem grants_observed (digest : Digest) (requirement : RelationshipRequirement) (snapshot : RelationshipSnapshot)
    (groups : List String) (grants : List RelationshipGrant)
    (granted : requirement.kind = .SHARING ∨ requirement.kind = .DELEGATION) (named : GroupsOf snapshot groups)
    (perm : grants.Perm snapshot.grants) :
    ((observeRelationship digest requirement snapshot).status = .MATCH → requirement.state = .ACTIVE →
      ∃ grant ∈ snapshot.grants, Applicable requirement.kind snapshot groups grant ∧
        (grant.validFromUs : Int) ≤ lowerUs snapshot ∧
        (∀ value ∈ grant.validUntilUs, upperUs snapshot < (value : Int)) ∧
        ∀ value ∈ grant.revokedAtUs, upperUs snapshot < (value : Int)) ∧
    ((observeRelationship digest requirement snapshot).status = .MATCH →
      requirement.state = .REVOKED ∨ requirement.state = .EXPIRED ∨ requirement.state = .ABSENT →
      ∀ grant ∈ snapshot.grants, Applicable requirement.kind snapshot groups grant →
        ∀ instant, lowerUs snapshot ≤ instant → instant ≤ upperUs snapshot → ¬ InForce grant instant) ∧
    (observeRelationship digest requirement { snapshot with grants := grants }).status =
      (observeRelationship digest requirement snapshot).status := by
  refine ⟨?_, ?_, status_perm granted perm⟩
  · intro matched active
    obtain ⟨counted, collected, current⟩ := matched_grants granted matched
    rw [active] at current
    obtain ⟨⟨grant, state⟩, member, same⟩ := List.mem_map.mp (currentState_active current)
    obtain ⟨listed, taken⟩ := counted_read collected member
    obtain ⟨applies, started, holds⟩ := readGrant_active named taken
    exact ⟨grant, listed, applies, started, holds same⟩
  · intro matched gone grant listed applies instant after before inForce
    obtain ⟨counted, collected, current⟩ := matched_grants granted matched
    have inactive : requirement.state ≠ .ACTIVE := by
      intro active
      rw [active] at gone
      simp at gone
    obtain ⟨read, taken, kept⟩ := read_counted collected listed
    have active := readGrant_inForce named taken applies after before inForce
    exact currentState_inactive current inactive (List.mem_map_of_mem (kept _ active))

section Sample

def sampleGrant (grantId : String) (validUntilUs : Option Nat) : RelationshipGrant where
  grantId := grantId
  kind := .SHARING
  grantorId := "owner"
  granteeId := "group"
  granteeKind := .GROUP
  resourceId := "document"
  actions := ["read"]
  validFromUs := 100
  validUntilUs := validUntilUs

def sampleGrants : RelationshipSnapshot where
  subjectId := "reader"
  ownerId := "owner"
  resourceId := "document"
  action := "read"
  observedAtUs := 1000
  clockUncertaintyUs := 10
  subjectGroups := some ["group"]
  grants := [sampleGrant "old" (some 500), sampleGrant "current" none]

/-- The old grant ends before the window and the current one holds in all of it. -/
theorem sample_observed :
    ∃ grant ∈ sampleGrants.grants, Applicable .SHARING sampleGrants ["group"] grant ∧
      (grant.validFromUs : Int) ≤ lowerUs sampleGrants ∧
      (∀ value ∈ grant.validUntilUs, upperUs sampleGrants < (value : Int)) ∧
      ∀ value ∈ grant.revokedAtUs, upperUs sampleGrants < (value : Int) := by
  refine (grants_observed textDigest { kind := .SHARING } sampleGrants ["group"] sampleGrants.grants (.inl rfl) ?_
    (.refl _)).1 rfl rfl
  intro listed found
  exact (Option.some.inj found).symm

end Sample

end Jiejian.Verification.GrantWindows
