import Jiejian.Boundaries.ReviewClosure

namespace Jiejian.Boundaries.ReviewPayload

open Library Library.Document Library.Schema Library.Outcome Library.Sorting Library.Saturation
open Protocol.Codec Protocol.Separation Preparation.Models
open Proposals Scenarios Candidates Scope Reviews ReviewClosure

section Separation

theorem separating_source : Separating RequirementSource.dump := by
  intro left right same
  have ids : left.requirementId = right.requirementId := separating_str.field same "requirement_id" (by simp) (by simp)
  have titles : left.title = right.title := separating_str.field same "title" (by simp) (by simp)
  have origins : left.origin = right.origin := separating_str.field same "origin" (by simp) (by simp)
  have excerpts : left.sourceExcerpt = right.sourceExcerpt :=
    separating_str.field same "source_excerpt" (by simp) (by simp)
  have interpretations : left.interpretation = right.interpretation :=
    separating_str.field same "interpretation" (by simp) (by simp)
  have permissions : left.permissionItemIds = right.permissionItemIds :=
    separating_strings.field same "permission_item_ids" (by simp) (by simp)
  cases left
  cases right
  simp_all

theorem separating_actor : Separating ProposedActorItem.dump := by
  intro left right same
  have modes : left.writeMode = right.writeMode :=
    (separating_word writeMode_injective).field same "write_mode" (by simp) (by simp)
  have revisions : left.expectedCurrentRevision = right.expectedCurrentRevision :=
    separating_nullable_natural.field same "expected_current_revision" (by simp) (by simp)
  have candidates : left.sourceCandidateIds = right.sourceCandidateIds :=
    separating_strings.field same "source_candidate_ids" (by simp) (by simp)
  have items : left.itemId = right.itemId := separating_str.field same "item_id" (by simp) (by simp)
  have actors : left.actorId = right.actorId := separating_nullable_str.field same "actor_id" (by simp) (by simp)
  have names : left.displayName = right.displayName := separating_str.field same "display_name" (by simp) (by simp)
  have descriptions : left.description = right.description :=
    separating_str.field same "description" (by simp) (by simp)
  have states : left.effectiveState = right.effectiveState :=
    (separating_word effectiveState_injective).field same "effective_state" (by simp) (by simp)
  cases left
  cases right
  simp_all

theorem disposition_injective : Function.Injective ScopeDisposition.value := by
  intro left right same
  cases left <;> cases right <;> simp [ScopeDisposition.value] at same ⊢

/-- Targets are told by their ids and by the fingerprints, listed one after the other. -/
theorem targets_ext {left right : List ScopeTarget}
    (ids : left.map (·.requirementId) = right.map (·.requirementId))
    (fingerprints : left.map (·.decisionFingerprint) = right.map (·.decisionFingerprint)) : left = right := by
  induction left generalizing right with
  | nil =>
    cases right with
    | nil => rfl
    | cons target rest => cases ids
  | cons target rest ih =>
    cases right with
    | nil => cases ids
    | cons other others =>
      rw [List.map_cons, List.map_cons, List.cons.injEq] at ids fingerprints
      have same : target = other := by
        cases target
        cases other
        simp_all
      rw [same, ih ids.2 fingerprints.2]

theorem separating_reference : Separating referenceDump := by
  intro left right same
  have ids : left.requirementId = right.requirementId := separating_str.field same "requirement_id" (by simp) (by simp)
  have fingerprints : left.requirementFingerprint = right.requirementFingerprint :=
    separating_str.field same "requirement_fingerprint" (by simp) (by simp)
  have requirements : left.requirement = right.requirement :=
    separating_str.field same "requirement" (by simp) (by simp)
  have reasons : left.reason = right.reason := separating_str.field same "reason" (by simp) (by simp)
  have times : left.timeScope = right.timeScope :=
    (separating_word timeScope_injective).field same "time_scope" (by simp) (by simp)
  have targets : left.related.map (·.requirementId) = right.related.map (·.requirementId) :=
    separating_strings.field same "related_requirement_ids" (by simp) (by simp)
  have decisions : left.related.map (·.decisionFingerprint) = right.related.map (·.decisionFingerprint) :=
    separating_strings.field same "related_decision_fingerprints" (by simp) (by simp)
  have operations : left.operationId = right.operationId :=
    separating_str.field same "operation_id" (by simp) (by simp)
  have bases : left.expectedBasisId = right.expectedBasisId :=
    separating_str.field same "expected_basis_id" (by simp) (by simp)
  have expected : left.expectedRevision = right.expectedRevision :=
    separating_natural.field same "expected_revision" (by simp [natural]) (by simp [natural])
  have outputs : left.outputRevision = right.outputRevision :=
    separating_natural.field same "output_revision" (by simp [natural]) (by simp [natural])
  have created : left.createdAtUs = right.createdAtUs :=
    separating_natural.field same "created_at_us" (by simp [natural]) (by simp [natural])
  have related := targets_ext targets decisions
  obtain ⟨⟨_, _, _, _, _⟩, ⟨_, _, _, _, _⟩, _⟩ := left
  obtain ⟨⟨_, _, _, _, _⟩, ⟨_, _, _, _, _⟩, _⟩ := right
  simp_all

/-- A decision and a reference are told apart: only a reference is written with its reason. -/
theorem decision_ne_reference (disposition : ScopeDisposition) (requirement : String) (timeScope : TimeScope)
    (record : ScopeReference) :
    (ScopeShown.decision disposition requirement timeScope).dump.canonical ≠
      (ScopeShown.reference record).dump.canonical := by
  intro same
  have reasons := field_of_canonical_eq same "reason"
  simp [ScopeShown.dump, referenceDump] at reasons

theorem separating_shown : Separating ScopeShown.dump := by
  intro left right same
  cases left with
  | decision disposition requirement timeScope =>
    cases right with
    | decision disposition' requirement' timeScope' =>
      have dispositions : disposition = disposition' :=
        (separating_word disposition_injective).field same "disposition" (by simp) (by simp)
      have requirements : requirement = requirement' := separating_str.field same "requirement" (by simp) (by simp)
      have times : timeScope = timeScope' :=
        (separating_word timeScope_injective).field same "time_scope" (by simp) (by simp)
      rw [dispositions, requirements, times]
    | reference record => exact absurd same (decision_ne_reference _ _ _ record)
  | reference record =>
    cases right with
    | decision disposition requirement timeScope => exact absurd same.symm (decision_ne_reference _ _ _ record)
    | reference record' => exact congrArg ScopeShown.reference (separating_reference record record' same)

theorem shown_not_null (shown : ScopeShown) : shown.dump.canonical ≠ .null := by
  intro empty
  cases shown with
  | decision disposition requirement timeScope => simp [ScopeShown.dump, Json.canonical] at empty
  | reference record => simp [ScopeShown.dump, referenceDump, Json.canonical] at empty

end Separation

section Rows

variable {β γ : Type} {key : β → String} {rows others : List β} {keys : List String}

theorem latest_of_mem {id : String} (present : id ∈ rows.map key) : ∃ row, Table.latest key rows id = some row := by
  cases found : Table.latest key rows id with
  | some row => exact ⟨row, rfl⟩
  | none =>
    obtain ⟨row, listed, same⟩ := List.mem_map.mp present
    exact absurd same (Table.lookup_none.mp found row (List.mem_reverse.mpr listed))

theorem mem_of_latest {id : String} {row : β} (found : Table.latest key rows id = some row) : id ∈ rows.map key := by
  obtain ⟨listed, same⟩ := Table.latest_some found
  exact same ▸ List.mem_map_of_mem listed

/-- Where nothing is missing, the rows show what is found under each key. -/
theorem rowsOf_map (image : β → γ) (present : keys ⊆ rows.map key) :
    (rowsOf key rows keys).map (fun row => some (image row)) =
      (sortedSet keys).map fun id => (Table.latest key rows id).map image := by
  have listed : ∀ id ∈ sortedSet keys, id ∈ rows.map key := fun id inside => present (mem_sortedSet.mp inside)
  unfold rowsOf
  generalize sortedSet keys = ordered at listed
  induction ordered with
  | nil => rfl
  | cons id rest ih =>
    obtain ⟨row, found⟩ := latest_of_mem (listed id List.mem_cons_self)
    have tail := ih fun other inside => listed other (List.mem_cons_of_mem _ inside)
    rw [List.filterMap_cons_some found, List.map_cons, List.map_cons, found, tail]
    rfl

theorem rowsOf_keys (present : keys ⊆ rows.map key) : (rowsOf key rows keys).map key = sortedSet keys := by
  have images := rowsOf_map key present
  have told : (sortedSet keys).map (fun id => (Table.latest key rows id).map key) = (sortedSet keys).map some := by
    apply List.map_congr_left
    intro id inside
    obtain ⟨row, found⟩ := latest_of_mem (present (mem_sortedSet.mp inside))
    rw [found, Option.map_some, (Table.latest_some found).2]
  have names : ((rowsOf key rows keys).map key).map some = (sortedSet keys).map some := by
    rw [List.map_map]
    exact images.trans told
  exact List.map_injective_iff.mpr (Option.some_injective _) names

/-- Equal images of the rows under the same keys are equal images of what is found under each of them. -/
theorem latest_of_rows {image : β → γ} (present : keys ⊆ rows.map key) (present' : keys ⊆ others.map key)
    (same : (rowsOf key rows keys).map image = (rowsOf key others keys).map image) {id : String} (inside : id ∈ keys) :
    (Table.latest key rows id).map image = (Table.latest key others id).map image := by
  have images := congrArg (List.map some) same
  rw [List.map_map, List.map_map] at images
  have listed := (rowsOf_map image present).symm.trans (images.trans (rowsOf_map image present'))
  exact List.map_inj_left.mp listed id (mem_sortedSet.mpr inside)

theorem rows_of_latest {image : β → γ} (present : keys ⊆ rows.map key) (present' : keys ⊆ others.map key)
    (same : ∀ id ∈ keys, (Table.latest key rows id).map image = (Table.latest key others id).map image) :
    (rowsOf key rows keys).map image = (rowsOf key others keys).map image := by
  have found : (sortedSet keys).map (fun id => (Table.latest key rows id).map image) =
      (sortedSet keys).map fun id => (Table.latest key others id).map image :=
    List.map_congr_left fun id inside => same id (mem_sortedSet.mp inside)
  have images := (rowsOf_map image present).trans (found.trans (rowsOf_map image present').symm)
  have mapped : ((rowsOf key rows keys).map image).map some = ((rowsOf key others keys).map image).map some := by
    rw [List.map_map, List.map_map]
    exact images
  exact List.map_injective_iff.mpr (Option.some_injective _) mapped

theorem rowsOf_congr (same : ∀ id ∈ keys, Table.latest key rows id = Table.latest key others id) :
    rowsOf key rows keys = rowsOf key others keys := by
  unfold rowsOf
  apply List.filterMap_congr
  intro id inside
  exact same id (mem_sortedSet.mp inside)

theorem sortedSet_congr {left right : List String} (same : ∀ id, id ∈ left ↔ id ∈ right) :
    sortedSet left = sortedSet right := by
  apply increasing_ext (sortedSet_increasing left) (sortedSet_increasing right)
  intro id
  rw [mem_sortedSet, mem_sortedSet, same]

end Rows

section Same

variable {α : Type} {content other : CandidateContent RuleScenario} {records others : ScopeRecords α}
  {dependencies : ReviewDependencies}

/-- The JSON form of an action: what a field is expected to hold is compared in that form. -/
def writtenAction (action : ProposedActionItem) : Json := action.dump.canonical

/-- Payloads are written alike when their parts are. -/
theorem written_iff {left right : DependencyPayload} : left.dump.canonical = right.dump.canonical ↔
    left.sources = right.sources ∧ left.scope = right.scope ∧ left.permissions = right.permissions ∧
      left.actors = right.actors ∧ left.actions.map writtenAction = right.actions.map writtenAction := by
  constructor
  · intro same
    have actions := field_of_canonical_eq same "actions"
    simp only [DependencyPayload.dump, field_dict, fieldOf_cons, String.reduceEq, if_false, if_true, Option.map_some,
      canonical_list, List.map_map, Option.some.injEq, Json.list.injEq] at actions
    exact ⟨(separating_list separating_source).field same "sources" (by simp) (by simp),
      (separating_list (separating_nullable separating_shown shown_not_null)).field same "scope" (by simp) (by simp),
      (separating_list separating_permissionItem).field same "permissions" (by simp) (by simp),
      (separating_list separating_actor).field same "actors" (by simp) (by simp), actions⟩
  · rintro ⟨sources, scope, permissions, actors, actions⟩
    have written : (left.actions.map (·.dump)).map Json.canonical = (right.actions.map (·.dump)).map Json.canonical := by
      rw [List.map_map, List.map_map]
      exact actions
    simp only [DependencyPayload.dump, Json.canonical, canonicalFields, canonicalItems_eq_map]
    rw [sources, scope, permissions, actors, written]

/-- What a review depends on is the same in two revisions: the closure of the dependencies, its requirements, what is
decided about their scope, its permissions, and their actions and actors. -/
structure SameDependencies (content : CandidateContent RuleScenario) (records : ScopeRecords α)
    (other : CandidateContent RuleScenario) (others : ScopeRecords α) (dependencies : ReviewDependencies) : Prop where
  closure : reachSets (closureOf content.requirementSources dependencies) =
    reachSets (closureOf other.requirementSources dependencies)
  sources : ∀ id ∈ (closureOf content.requirementSources dependencies).required,
    Table.latest (·.requirementId) content.requirementSources id =
      Table.latest (·.requirementId) other.requirementSources id
  scope : ∀ id ∈ (closureOf content.requirementSources dependencies).required,
    shownScope records id = shownScope others id
  permissions : ∀ id ∈ (closureOf content.requirementSources dependencies).ids,
    Table.latest (·.itemId) content.permissions id = Table.latest (·.itemId) other.permissions id
  actors : ∀ id ∈ actorIdsOf (rulesOf content dependencies),
    Table.latest (·.itemId) content.actors id = Table.latest (·.itemId) other.actors id
  actions : ∀ id ∈ actionIdsOf (rulesOf content dependencies),
    (Table.latest (·.itemId) content.actions id).map writtenAction =
      (Table.latest (·.itemId) other.actions id).map writtenAction

theorem mem_required_iff {left right : List RequirementSource}
    (same : reachSets (closureOf left dependencies) = reachSets (closureOf right dependencies)) (id : String) :
    id ∈ (closureOf left dependencies).required ↔ id ∈ (closureOf right dependencies).required :=
  Set.ext_iff.mp (congrArg Prod.fst same) id

theorem mem_ids_iff {left right : List RequirementSource}
    (same : reachSets (closureOf left dependencies) = reachSets (closureOf right dependencies)) (id : String) :
    id ∈ (closureOf left dependencies).ids ↔ id ∈ (closureOf right dependencies).ids :=
  Set.ext_iff.mp (congrArg Prod.snd same) id

theorem rowsOf_keys_congr {β : Type} {key : β → String} {rows : List β} {keys keys' : List String}
    (same : ∀ id, id ∈ keys ↔ id ∈ keys') : rowsOf key rows keys = rowsOf key rows keys' := by
  unfold rowsOf
  rw [sortedSet_congr same]

theorem SameDependencies.rules (same : SameDependencies content records other others dependencies) :
    rulesOf content dependencies = rulesOf other dependencies := by
  unfold rulesOf
  rw [rowsOf_congr same.permissions]
  exact rowsOf_keys_congr (mem_ids_iff same.closure)

theorem subset_keys_iff {β : Type} {key : β → String} {rows rows' : List β} {keys : List String}
    (same : ∀ id ∈ keys, (Table.latest key rows id).isSome = (Table.latest key rows' id).isSome) :
    keys ⊆ rows.map key ↔ keys ⊆ rows'.map key := by
  constructor
  · intro present id inside
    obtain ⟨row, found⟩ := latest_of_mem (present inside)
    have some' := same id inside
    rw [found, Option.isSome_some] at some'
    obtain ⟨row', found'⟩ := Option.isSome_iff_exists.mp some'.symm
    exact mem_of_latest found'
  · intro present id inside
    obtain ⟨row, found⟩ := latest_of_mem (present inside)
    have some' := same id inside
    rw [found, Option.isSome_some] at some'
    obtain ⟨row', found'⟩ := Option.isSome_iff_exists.mp some'
    exact mem_of_latest found'

theorem SameDependencies.complete (same : SameDependencies content records other others dependencies) :
    Complete content dependencies ↔ Complete other dependencies := by
  obtain ⟨named, named'⟩ := closureOf_named content.requirementSources dependencies
  have sources := @subset_keys_iff _ RequirementSource.requirementId _ _ dependencies.requirementIds
    fun id inside => congrArg Option.isSome (same.sources id (named inside))
  have permissions := @subset_keys_iff _ ProposedPermissionItem.itemId _ _ dependencies.permissionItemIds
    fun id inside => congrArg Option.isSome (same.permissions id (named' inside))
  have reached := @subset_keys_iff _ ProposedPermissionItem.itemId _ _ (closureOf content.requirementSources dependencies).ids
    fun id inside => congrArg Option.isSome (same.permissions id inside)
  have actors := @subset_keys_iff _ ProposedActorItem.itemId _ _ (actorIdsOf (rulesOf content dependencies))
    fun id inside => congrArg Option.isSome (same.actors id inside)
  have actions := @subset_keys_iff _ ProposedActionItem.itemId content.actions other.actions
    (actionIdsOf (rulesOf content dependencies)) fun id inside => by
      have written := congrArg Option.isSome (same.actions id inside)
      rw [Option.isSome_map, Option.isSome_map] at written
      exact written
  have reached' : (closureOf content.requirementSources dependencies).ids ⊆ other.permissions.map (·.itemId) ↔
      (closureOf other.requirementSources dependencies).ids ⊆ other.permissions.map (·.itemId) := by
    constructor
    · exact fun inside id listed => inside ((mem_ids_iff same.closure id).mpr listed)
    · exact fun inside id listed => inside ((mem_ids_iff same.closure id).mp listed)
  unfold Complete
  rw [sources, permissions, reached, reached', actors, actions, same.rules]

/-- The same dependencies are written alike. -/
theorem payload_of_same (same : SameDependencies content records other others dependencies) :
    (dependencyPayload content records dependencies).map (·.dump.canonical) =
      (dependencyPayload other others dependencies).map (·.dump.canonical) := by
  unfold dependencyPayload
  dsimp only
  by_cases complete : Complete content dependencies
  · rw [if_pos complete, if_pos (same.complete.mp complete), Option.map_some, Option.map_some, Option.some.injEq,
      written_iff]
    dsimp only
    obtain ⟨-, -, -, actions', -⟩ := same.complete.mp complete
    obtain ⟨-, -, -, actions, -⟩ := complete
    refine ⟨?_, ?_, same.rules, ?_, ?_⟩
    · rw [rowsOf_congr same.sources]
      exact rowsOf_keys_congr (mem_required_iff same.closure)
    · rw [← sortedSet_congr (mem_required_iff same.closure)]
      exact List.map_congr_left fun id inside => same.scope id (mem_sortedSet.mp inside)
    · rw [rowsOf_congr same.actors, same.rules]
    · rw [← same.rules] at actions' ⊢
      exact rows_of_latest actions actions' same.actions
  · rw [if_neg complete, if_neg fun held => complete (same.complete.mpr held)]

/-- The requirements of the closure are listed. -/
theorem required_listed (named : dependencies.requirementIds ⊆ content.requirementSources.map (·.requirementId)) :
    (closureOf content.requirementSources dependencies).required ⊆
      content.requirementSources.map (·.requirementId) := by
  have covering : Covering content.requirementSources dependencies
      ({id | id ∈ content.requirementSources.map (·.requirementId)}, Set.univ) := by
    refine ⟨fun id inside => named inside, fun _ _ => Set.mem_univ _, ?_⟩
    rintro requirementId permissionId ⟨source, listed, rfl, -⟩
    exact ⟨fun _ => Set.mem_univ _, fun _ => List.mem_map_of_mem listed⟩
  exact ((closureOf_least content.requirementSources dependencies).2 covering).1

/-- Equal rows stand under equal keys, with equal values. -/
theorem rows_told {β : Type} {key : β → String} {rows rows' : List β} {keys keys' : List String}
    (present : keys ⊆ rows.map key) (present' : keys' ⊆ rows'.map key) (same : rowsOf key rows keys = rowsOf key rows' keys') :
    (∀ id, id ∈ keys ↔ id ∈ keys') ∧ ∀ id ∈ keys, Table.latest key rows id = Table.latest key rows' id := by
  have ordered : sortedSet keys = sortedSet keys' := by
    rw [← rowsOf_keys present, same, rowsOf_keys present']
  have alike : ∀ id, id ∈ keys ↔ id ∈ keys' := by
    intro id
    rw [← mem_sortedSet, ordered, mem_sortedSet]
  refine ⟨alike, ?_⟩
  intro wanted inside
  have images : (rowsOf key rows keys).map id = (rowsOf key rows' keys).map id := by
    rw [same]
    exact congrArg (List.map id) (rowsOf_keys_congr fun other => (alike other).symm)
  have found := latest_of_rows present (fun other listed => present' ((alike other).mp listed)) images inside
  rwa [Option.map_id, id_eq, id_eq] at found

/-- Payloads that are written alike tell the same dependencies. -/
theorem same_of_payload {payload payload' : DependencyPayload}
    (here : dependencyPayload content records dependencies = some payload)
    (there : dependencyPayload other others dependencies = some payload')
    (written : payload.dump.canonical = payload'.dump.canonical) :
    SameDependencies content records other others dependencies := by
  unfold dependencyPayload at here there
  dsimp only at here there
  split at here
  · rename_i complete
    split at there
    · rename_i complete'
      cases here
      cases there
      obtain ⟨named, -, reached, actionIds, actorIds⟩ := complete
      obtain ⟨named', -, reached', actionIds', actorIds'⟩ := complete'
      obtain ⟨sources, scope, rules, actors, actions⟩ := written_iff.mp written
      dsimp only at sources scope rules actors actions
      obtain ⟨required, sourcesAt⟩ := rows_told (required_listed named) (required_listed named') sources
      obtain ⟨ids, permissionsAt⟩ := rows_told reached reached' rules
      have closure : reachSets (closureOf content.requirementSources dependencies) =
          reachSets (closureOf other.requirementSources dependencies) := Prod.ext (Set.ext required) (Set.ext ids)
      rw [← rules] at actorIds' actionIds' actors actions
      refine ⟨closure, sourcesAt, ?_, permissionsAt, (rows_told actorIds actorIds' actors).2, ?_⟩
      · intro id inside
        rw [← sortedSet_congr required] at scope
        exact List.map_inj_left.mp scope id (mem_sortedSet.mpr inside)
      · exact fun id inside => latest_of_rows actionIds actionIds' actions inside
    · cases there
  · cases here

/-- An edit outside the closure: its requirements, its permissions and their actions and actors stay, and no other
requirement is linked to a permission of it. -/
structure OutsideEdit (content other : CandidateContent RuleScenario) (dependencies : ReviewDependencies) : Prop where
  sources : ∀ id ∈ (closureOf content.requirementSources dependencies).required,
    Table.latest (·.requirementId) content.requirementSources id =
      Table.latest (·.requirementId) other.requirementSources id
  apart : ∀ source ∈ other.requirementSources,
    source.requirementId ∉ (closureOf content.requirementSources dependencies).required →
    ∀ permissionId ∈ source.permissionItemIds, permissionId ∉ (closureOf content.requirementSources dependencies).ids
  permissions : ∀ id ∈ (closureOf content.requirementSources dependencies).ids,
    Table.latest (·.itemId) content.permissions id = Table.latest (·.itemId) other.permissions id
  actors : ∀ id ∈ actorIdsOf (rulesOf content dependencies),
    Table.latest (·.itemId) content.actors id = Table.latest (·.itemId) other.actors id
  actions : ∀ id ∈ actionIdsOf (rulesOf content dependencies),
    (Table.latest (·.itemId) content.actions id).map writtenAction =
      (Table.latest (·.itemId) other.actions id).map writtenAction

theorem links_iff {sources : List RequirementSource} (keyed : Table.Keyed RequirementSource.requirementId sources)
    {requirementId permissionId : String} : Links sources requirementId permissionId ↔
      ∃ source, Table.latest (·.requirementId) sources requirementId = some source ∧
        permissionId ∈ source.permissionItemIds := by
  constructor
  · rintro ⟨source, listed, rfl, inside⟩
    exact ⟨source, keyed.latest_mem listed, inside⟩
  · rintro ⟨source, found, inside⟩
    obtain ⟨listed, same⟩ := Table.latest_some found
    exact ⟨source, listed, same, inside⟩

/-- An edit outside the closure leaves the closure as it was. -/
theorem OutsideEdit.closure (edit : OutsideEdit content other dependencies)
    (keyed : Table.Keyed RequirementSource.requirementId content.requirementSources)
    (keyed' : Table.Keyed RequirementSource.requirementId other.requirementSources) :
    reachSets (closureOf content.requirementSources dependencies) =
      reachSets (closureOf other.requirementSources dependencies) := by
  have least := closureOf_least content.requirementSources dependencies
  have least' := closureOf_least other.requirementSources dependencies
  have links : ∀ requirementId ∈ (closureOf content.requirementSources dependencies).required, ∀ permissionId,
      Links content.requirementSources requirementId permissionId ↔
        Links other.requirementSources requirementId permissionId := by
    intro requirementId inside permissionId
    rw [links_iff keyed, links_iff keyed', edit.sources requirementId inside]
  -- the old closure covers the new links, so the new closure is inside it
  have smaller : reachSets (closureOf other.requirementSources dependencies) ≤
      reachSets (closureOf content.requirementSources dependencies) := by
    apply least'.2
    refine ⟨least.1.requirements, least.1.permissions, ?_⟩
    intro requirementId permissionId linked
    constructor
    · intro inside
      exact (least.1.closed _ _ ((links _ inside _).mpr linked)).mp inside
    · intro inside
      by_contra outside
      obtain ⟨source, listed, rfl, carried⟩ := linked
      exact edit.apart source listed outside permissionId carried inside
  -- inside the old closure the links are the old ones, so the new closure covers those
  have larger : reachSets (closureOf content.requirementSources dependencies) ≤
      reachSets (closureOf other.requirementSources dependencies) := by
    apply least.2
    refine ⟨least'.1.requirements, least'.1.permissions, ?_⟩
    intro requirementId permissionId linked
    constructor
    · intro inside
      exact (least'.1.closed _ _ ((links _ (smaller.1 inside) _).mp linked)).mp inside
    · intro inside
      have reached := (least.1.closed _ _ linked).mpr (smaller.2 inside)
      exact (least'.1.closed _ _ ((links _ reached _).mp linked)).mpr inside
  exact le_antisymm larger smaller

theorem same_of_outside (edit : OutsideEdit content other dependencies)
    (keyed : Table.Keyed RequirementSource.requirementId content.requirementSources)
    (keyed' : Table.Keyed RequirementSource.requirementId other.requirementSources)
    (scope : ∀ id, shownScope records id = shownScope others id) :
    SameDependencies content records other others dependencies :=
  ⟨edit.closure keyed keyed', edit.sources, fun id _ => scope id, edit.permissions, edit.actors, edit.actions⟩

end Same

end Jiejian.Boundaries.ReviewPayload
