import Mathlib.Order.Bounds.Basic
import Jiejian.Boundaries.Reviews

namespace Jiejian.Boundaries.ReviewClosure

open Library Library.Document Library.Schema Library.Outcome Library.Sorting Library.Saturation
open Protocol.Codec Protocol.Separation Preparation.Models
open Proposals Scenarios Candidates Scope Reviews

section Closure

variable {sources others : List RequirementSource} {dependencies : ReviewDependencies} {reach : Reach}

theorem mem_linkedPermissions {required : List String} {permissionId : String} :
    permissionId ∈ linkedPermissions sources required ↔
      ∃ requirementId ∈ required, Links sources requirementId permissionId := by
  unfold linkedPermissions
  constructor
  · intro linked
    obtain ⟨source, listed, inside⟩ := List.mem_flatMap.mp linked
    obtain ⟨known, chosen⟩ := List.mem_filter.mp listed
    exact ⟨source.requirementId, of_decide_eq_true chosen, source, known, rfl, inside⟩
  · rintro ⟨requirementId, chosen, source, known, rfl, inside⟩
    exact List.mem_flatMap.mpr ⟨source, List.mem_filter.mpr ⟨known, decide_eq_true chosen⟩, inside⟩

theorem mem_linkedRequirements {ids : List String} {requirementId : String} :
    requirementId ∈ linkedRequirements sources ids ↔ ∃ permissionId ∈ ids, Links sources requirementId permissionId := by
  unfold linkedRequirements
  constructor
  · intro linked
    obtain ⟨source, listed, rfl⟩ := List.mem_map.mp linked
    obtain ⟨known, shared⟩ := List.mem_filter.mp listed
    obtain ⟨permissionId, inside, chosen⟩ := List.any_eq_true.mp shared
    exact ⟨permissionId, of_decide_eq_true chosen, source, known, rfl, inside⟩
  · rintro ⟨permissionId, chosen, source, known, rfl, inside⟩
    refine List.mem_map.mpr ⟨source, List.mem_filter.mpr ⟨known, ?_⟩, rfl⟩
    exact List.any_eq_true.mpr ⟨permissionId, inside, decide_eq_true chosen⟩

/-- Sets of requirements and permissions that contain what is named and are closed under the links both ways. -/
structure Covering (sources : List RequirementSource) (dependencies : ReviewDependencies)
    (sets : Set String × Set String) : Prop where
  requirements : ∀ requirementId ∈ dependencies.requirementIds, requirementId ∈ sets.1
  permissions : ∀ permissionId ∈ dependencies.permissionItemIds, permissionId ∈ sets.2
  closed : ∀ requirementId permissionId, Links sources requirementId permissionId →
    (requirementId ∈ sets.1 ↔ permissionId ∈ sets.2)

def reachSets (reach : Reach) : Set String × Set String := ({id | id ∈ reach.required}, {id | id ∈ reach.ids})

/-- What a round of the loop keeps: sets without repetition, of ids that were named or that a source mentions. -/
structure Bounded (sources : List RequirementSource) (dependencies : ReviewDependencies) (reach : Reach) : Prop where
  required : reach.required.Nodup
  ids : reach.ids.Nodup
  known : reach.required ⊆ dependencies.requirementIds.dedup ++ sources.map (·.requirementId)
  linked : reach.ids ⊆ dependencies.permissionItemIds.dedup ++ sources.flatMap (·.permissionItemIds)

theorem widen_bounded (bounded : Bounded sources dependencies reach) :
    Bounded sources dependencies (widen sources reach) where
  required := nodup_merge bounded.required
  ids := nodup_merge bounded.ids
  known := by
    intro id reached
    rcases mem_merge.mp reached with before | now
    · exact bounded.known before
    · obtain ⟨source, listed, rfl⟩ := List.mem_map.mp now
      exact List.mem_append_right _ (List.mem_map_of_mem (List.mem_filter.mp listed).1)
  linked := by
    intro id reached
    rcases mem_merge.mp reached with before | now
    · exact bounded.linked before
    · obtain ⟨source, listed, inside⟩ := List.mem_flatMap.mp now
      exact List.mem_append_right _ (List.mem_flatMap.mpr ⟨source, (List.mem_filter.mp listed).1, inside⟩)

theorem widen_grows (changes : widen sources reach ≠ reach) :
    reach.required.length + reach.ids.length <
      (widen sources reach).required.length + (widen sources reach).ids.length := by
  have requirements := @length_merge _ _ reach.required
    (linkedRequirements sources (merge reach.ids (linkedPermissions sources reach.required)))
  have permissions := @length_merge _ _ reach.ids (linkedPermissions sources reach.required)
  unfold widen at changes ⊢
  dsimp only at changes ⊢
  by_cases same : merge reach.ids (linkedPermissions sources reach.required) = reach.ids
  · have more : merge reach.required (linkedRequirements sources
        (merge reach.ids (linkedPermissions sources reach.required))) ≠ reach.required := by
      intro equal
      apply changes
      rw [equal, same]
    have longer := length_merge_lt more
    omega
  · have longer := length_merge_lt same
    omega

theorem initial_bounded (sources : List RequirementSource) (dependencies : ReviewDependencies) :
    Bounded sources dependencies ⟨dependencies.requirementIds.dedup, dependencies.permissionItemIds.dedup⟩ where
  required := List.nodup_dedup _
  ids := List.nodup_dedup _
  known := List.subset_append_left _ _
  linked := List.subset_append_left _ _

/-- The loop ends: another round would change nothing. -/
theorem closureOf_fixed (sources : List RequirementSource) (dependencies : ReviewDependencies) :
    widen sources (closureOf sources dependencies) = closureOf sources dependencies := by
  unfold closureOf
  apply saturate_fixed (Bounded sources dependencies) (fun reach => reach.required.length + reach.ids.length)
    ((dependencies.requirementIds.dedup ++ sources.map (·.requirementId)).length +
      (dependencies.permissionItemIds.dedup ++ sources.flatMap (·.permissionItemIds)).length)
  · exact fun _ => widen_bounded
  · intro reach bounded
    have requirements := bounded.required.length_le_of_subset bounded.known
    have permissions := bounded.ids.length_le_of_subset bounded.linked
    omega
  · exact fun _ _ => widen_grows
  · exact initial_bounded sources dependencies
  · simp only [List.length_append, List.length_map]
    omega

/-- The closure holds what is named. -/
theorem closureOf_named (sources : List RequirementSource) (dependencies : ReviewDependencies) :
    dependencies.requirementIds ⊆ (closureOf sources dependencies).required ∧
      dependencies.permissionItemIds ⊆ (closureOf sources dependencies).ids := by
  unfold closureOf
  apply saturate_invariant fun reach : Reach =>
    dependencies.requirementIds ⊆ reach.required ∧ dependencies.permissionItemIds ⊆ reach.ids
  · rintro reach ⟨requirements, permissions⟩
    exact ⟨fun _ named => subset_merge (requirements named), fun _ named => subset_merge (permissions named)⟩
  · exact ⟨fun _ named => List.mem_dedup.mpr named, fun _ named => List.mem_dedup.mpr named⟩

theorem closureOf_covering (sources : List RequirementSource) (dependencies : ReviewDependencies) :
    Covering sources dependencies (reachSets (closureOf sources dependencies)) := by
  have fixed := closureOf_fixed sources dependencies
  have permissions := merge_eq_self.mp (congrArg Reach.ids fixed)
  have requirements := congrArg Reach.required fixed
  unfold widen at requirements
  dsimp only at requirements
  rw [merge_eq_self.mpr permissions] at requirements
  have closedUp := merge_eq_self.mp requirements
  obtain ⟨named, named'⟩ := closureOf_named sources dependencies
  refine ⟨fun _ inside => named inside, fun _ inside => named' inside, ?_⟩
  intro requirementId permissionId linked
  constructor
  · intro inside
    exact permissions (mem_linkedPermissions.mpr ⟨requirementId, inside, linked⟩)
  · intro inside
    exact closedUp (mem_linkedRequirements.mpr ⟨permissionId, inside, linked⟩)

/-- A round stays inside every covering. -/
theorem widen_inside {sets : Set String × Set String} (covering : Covering sources dependencies sets)
    (inside : reachSets reach ≤ sets) : reachSets (widen sources reach) ≤ sets := by
  obtain ⟨requirements, permissions⟩ := inside
  have ids : ∀ id ∈ (widen sources reach).ids, id ∈ sets.2 := by
    intro id reached
    rcases mem_merge.mp reached with before | now
    · exact permissions before
    · obtain ⟨requirementId, chosen, linked⟩ := mem_linkedPermissions.mp now
      exact (covering.closed requirementId id linked).mp (requirements chosen)
  refine ⟨?_, ids⟩
  intro id reached
  rcases mem_merge.mp reached with before | now
  · exact requirements before
  · obtain ⟨permissionId, chosen, linked⟩ := mem_linkedRequirements.mp now
    exact (covering.closed id permissionId linked).mpr (ids permissionId chosen)

/-- The closure is the least covering. -/
theorem closureOf_least (sources : List RequirementSource) (dependencies : ReviewDependencies) :
    IsLeast {sets | Covering sources dependencies sets} (reachSets (closureOf sources dependencies)) := by
  refine ⟨closureOf_covering sources dependencies, ?_⟩
  intro sets covering
  unfold closureOf
  apply saturate_invariant (fun reach => reachSets reach ≤ sets) (fun _ => widen_inside covering)
  exact ⟨fun _ named => covering.requirements _ (List.mem_dedup.mp named),
    fun _ named => covering.permissions _ (List.mem_dedup.mp named)⟩

/-- Nothing but the links and the names matters to the closure, in whatever order they are listed. -/
theorem closureOf_sets {named : ReviewDependencies}
    (links : ∀ requirementId permissionId, Links sources requirementId permissionId ↔ Links others requirementId permissionId)
    (requirements : ∀ id, id ∈ dependencies.requirementIds ↔ id ∈ named.requirementIds)
    (permissions : ∀ id, id ∈ dependencies.permissionItemIds ↔ id ∈ named.permissionItemIds) :
    reachSets (closureOf sources dependencies) = reachSets (closureOf others named) := by
  have alike : ∀ sets, Covering sources dependencies sets ↔ Covering others named sets := by
    intro sets
    constructor
    · intro covering
      exact ⟨fun id inside => covering.requirements id ((requirements id).mpr inside),
        fun id inside => covering.permissions id ((permissions id).mpr inside),
        fun left right linked => covering.closed left right ((links left right).mpr linked)⟩
    · intro covering
      exact ⟨fun id inside => covering.requirements id ((requirements id).mp inside),
        fun id inside => covering.permissions id ((permissions id).mp inside),
        fun left right linked => covering.closed left right ((links left right).mp linked)⟩
  have least := closureOf_least sources dependencies
  have least' := closureOf_least others named
  apply le_antisymm
  · exact least.2 ((alike _).mpr least'.1)
  · exact least'.2 ((alike _).mp least.1)

end Closure

end Jiejian.Boundaries.ReviewClosure
