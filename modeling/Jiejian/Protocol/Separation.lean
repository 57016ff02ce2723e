import Jiejian.Library.Schema
import Jiejian.Protocol.Cases

namespace Jiejian.Protocol.Separation

open Library.Document Library.Schema Codec Conditions Cases

@[simp] theorem fieldOf_optionalField {α : Type} (name : String) (write : α → Json) (value : Option α)
    (wanted : String) :
    fieldOf (optionalField name write value) wanted = if name = wanted then value.map write else none := by
  cases value with
  | none => simp [optionalField]
  | some value => simp [optionalField]

theorem separating_nullable {α : Type} {write : α → Json} (separating : Separating write)
    (written : ∀ value, (write value).canonical ≠ .null) : Separating (nullable write) := by
  intro left right same
  cases left with
  | none =>
    cases right with
    | none => rfl
    | some right => exact absurd same.symm (by simpa [nullable] using written right)
  | some left =>
    cases right with
    | none => exact absurd same (by simpa [nullable] using written left)
    | some right => exact congrArg some (separating left right same)

theorem separating_nullable_str : Separating (nullable Json.str) :=
  separating_nullable separating_str fun value => by simp

theorem separating_strings : Separating strings :=
  separating_list separating_str

theorem relationshipKind_injective : Function.Injective RelationshipKind.value := by
  intro left right same
  cases left <;> cases right <;> simp [RelationshipKind.value] at same ⊢

theorem relationState_injective : Function.Injective RelationState.value := by
  intro left right same
  cases left <;> cases right <;> simp [RelationState.value] at same ⊢

theorem organizationScope_injective : Function.Injective OrganizationScope.value := by
  intro left right same
  cases left <;> cases right <;> simp [OrganizationScope.value] at same ⊢

theorem principal_injective : Function.Injective Principal.value := by
  intro left right same
  cases left <;> cases right <;> simp [Principal.value] at same ⊢

theorem tenant_injective : Function.Injective Tenant.value := by
  intro left right same
  cases left <;> cases right <;> simp [Tenant.value] at same ⊢

theorem expectation_injective : Function.Injective Expectation.value := by
  intro left right same
  cases left <;> cases right <;> simp [Expectation.value] at same ⊢

theorem relation_injective : Function.Injective Relation.value := by
  intro left right same
  cases left <;> cases right <;> simp [Relation.value] at same ⊢

theorem separating_relationship : Separating RelationshipRequirement.dump := by
  intro left right same
  have kinds : left.kind = right.kind :=
    (separating_word relationshipKind_injective).field same "kind" (by simp) (by simp)
  have states : left.state = right.state :=
    (separating_word relationState_injective).field same "state" (by simp) (by simp)
  have scopes : left.organizationScope = right.organizationScope :=
    (separating_word organizationScope_injective).field same "organization_scope" (by simp) (by simp)
  have roles : left.inheritedRole = right.inheritedRole :=
    separating_nullable_str.field same "inherited_role" (by simp) (by simp)
  have depths : left.maxDepth = right.maxDepth :=
    separating_natural.field same "max_depth" (by simp [natural]) (by simp [natural])
  cases left
  cases right
  simp_all

theorem fieldOf_relationships (relationships : List RelationshipRequirement) :
    fieldOf (if relationships = [] then [] else [("relationships", .list (relationships.map (·.dump)))]) "relationships" =
      (if relationships = [] then none else some relationships).map fun items => .list (items.map (·.dump)) := by
  by_cases empty : relationships = []
  · rw [if_pos empty, if_pos empty]
    rfl
  · rw [if_neg empty, if_neg empty]
    simp

theorem separating_conditions : Separating PermissionConditions.dump := by
  intro left right same
  have principals : left.principal = right.principal :=
    (separating_word principal_injective).field same "principal" (by simp) (by simp)
  have tenants : left.tenant = right.tenant :=
    (separating_nullable (separating_word tenant_injective) fun _ => by simp).field same "tenant" (by simp) (by simp)
  have states : left.resourceStates = right.resourceStates :=
    separating_strings.field same "resource_states" (by simp) (by simp)
  have relationships := (separating_list separating_relationship).optional same "relationships"
    (by rw [← fieldOf_relationships left.relationships]; simp)
    (by rw [← fieldOf_relationships right.relationships]; simp)
  have listed : left.relationships = right.relationships := by
    by_cases none : left.relationships = [] <;> by_cases none' : right.relationships = [] <;> simp_all
  cases left
  cases right
  simp_all

theorem separating_permission : Separating FrozenPermission.dump := by
  intro left right same
  have intents : left.intentId = right.intentId := separating_str.field same "intent_id" (by simp) (by simp)
  have revisions : left.revision = right.revision :=
    separating_natural.field same "revision" (by simp [natural]) (by simp [natural])
  have hashes : left.intentHash = right.intentHash := separating_str.field same "intent_hash" (by simp) (by simp)
  have expectations : left.expectation = right.expectation :=
    (separating_word expectation_injective).field same "expectation" (by simp) (by simp)
  have relations : left.relation = right.relation :=
    (separating_word relation_injective).field same "relation" (by simp) (by simp)
  have subjects : left.subjectActorId = right.subjectActorId :=
    separating_str.field same "subject_actor_id" (by simp) (by simp)
  have subjectRevisions : left.subjectActorRevision = right.subjectActorRevision :=
    separating_natural.field same "subject_actor_revision" (by simp [natural]) (by simp [natural])
  have owners : left.resourceOwnerActorId = right.resourceOwnerActorId :=
    separating_str.field same "resource_owner_actor_id" (by simp) (by simp)
  have ownerRevisions : left.resourceOwnerActorRevision = right.resourceOwnerActorRevision :=
    separating_natural.field same "resource_owner_actor_revision" (by simp [natural]) (by simp [natural])
  have effects : left.protectedEffectIds = right.protectedEffectIds :=
    separating_strings.field same "protected_effect_ids" (by simp) (by simp)
  have conditions : left.conditions = right.conditions :=
    separating_conditions.optional same "conditions" (by simp) (by simp)
  cases left with
  | mk leftReference =>
    cases leftReference
    cases right with
    | mk rightReference =>
      cases rightReference
      simp_all

end Jiejian.Protocol.Separation
