import Jiejian.Library.Table
import Jiejian.Preparation.Models
import Jiejian.Protocol.Runtime
import Jiejian.Protocol.Separation

namespace Jiejian.Boundaries.Proposals

open Library Library.Document Library.Schema
open Protocol.Codec Protocol.Conditions Protocol.Cases Protocol.Runtime Protocol.Separation Preparation.Models

inductive ProposalWriteMode where
  | CREATE
  | REFERENCE
  | APPEND_REVISION
  deriving DecidableEq, Repr

def ProposalWriteMode.value : ProposalWriteMode → String
  | .CREATE => "CREATE"
  | .REFERENCE => "REFERENCE"
  | .APPEND_REVISION => "APPEND_REVISION"

def effectiveStateValue : EffectiveState → String
  | .ACTIVE => "ACTIVE"
  | .RETIRED => "RETIRED"

def effectKindValue : BusinessEffectKind → String
  | .STATE_MUTATION => "STATE_MUTATION"
  | .DATA_DISCLOSURE => "DATA_DISCLOSURE"
  | .FILE_CONTENT_DELIVERY => "FILE_CONTENT_DELIVERY"
  | .OBJECT_CREATION => "OBJECT_CREATION"
  | .EXTERNAL_DISPATCH => "EXTERNAL_DISPATCH"
  | .RESTRICTED_FUNCTION_INVOCATION => "RESTRICTED_FUNCTION_INVOCATION"
  | .CREDENTIAL_ACCESS => "CREDENTIAL_ACCESS"

inductive BusinessActionOperationKind where
  | READ
  | CHANGE
  | DELETE
  | EXPORT
  | ADMIN
  | CUSTOM
  deriving DecidableEq, Repr

def BusinessActionOperationKind.value : BusinessActionOperationKind → String
  | .READ => "READ"
  | .CHANGE => "CHANGE"
  | .DELETE => "DELETE"
  | .EXPORT => "EXPORT"
  | .ADMIN => "ADMIN"
  | .CUSTOM => "CUSTOM"

/-- What an effect says of the business, apart from the ids it goes by. -/
structure EffectMeaning where
  businessLabel : String
  effectKind : BusinessEffectKind
  resourceConcept : String
  expectedState : Option String := none
  fieldMutation : Option FieldMutationRequirement := none
  protectedProjection : List String := []
  description : String := ""

def EffectMeaning.fields (meaning : EffectMeaning) : List (String × Json) :=
  [("business_label", .str meaning.businessLabel), ("effect_kind", .str (effectKindValue meaning.effectKind)),
    ("resource_concept", .str meaning.resourceConcept), ("expected_state", nullable .str meaning.expectedState)] ++
    optionalField "field_mutation" (·.dump) meaning.fieldMutation ++
    [("protected_projection", strings meaning.protectedProjection), ("description", .str meaning.description)]

structure ProposedEffectItem extends EffectMeaning where
  itemId : String
  effectId : Option String := none

def ProposedEffectItem.dump (item : ProposedEffectItem) : Json :=
  .dict ([("item_id", .str item.itemId), ("effect_id", nullable .str item.effectId)] ++ item.fields)

structure ProposedActorItem where
  writeMode : ProposalWriteMode
  expectedCurrentRevision : Option Nat := none
  sourceCandidateIds : List String := []
  itemId : String
  actorId : Option String := none
  displayName : String
  description : String := ""
  effectiveState : EffectiveState
  deriving DecidableEq, Repr

def ProposedActorItem.dump (item : ProposedActorItem) : Json :=
  .dict [("write_mode", .str item.writeMode.value),
    ("expected_current_revision", nullable natural item.expectedCurrentRevision),
    ("source_candidate_ids", strings item.sourceCandidateIds), ("item_id", .str item.itemId),
    ("actor_id", nullable .str item.actorId), ("display_name", .str item.displayName),
    ("description", .str item.description), ("effective_state", .str (effectiveStateValue item.effectiveState))]

structure ProposedActionItem where
  writeMode : ProposalWriteMode
  expectedCurrentRevision : Option Nat := none
  sourceCandidateIds : List String := []
  itemId : String
  actionId : Option String := none
  displayName : String
  description : String := ""
  primaryResourceConcept : String
  operationKind : BusinessActionOperationKind
  stateChanging : Bool
  effectCatalog : List ProposedEffectItem
  effectiveState : EffectiveState

def ProposedActionItem.dump (item : ProposedActionItem) : Json :=
  .dict [("write_mode", .str item.writeMode.value),
    ("expected_current_revision", nullable natural item.expectedCurrentRevision),
    ("source_candidate_ids", strings item.sourceCandidateIds), ("item_id", .str item.itemId),
    ("action_id", nullable .str item.actionId), ("display_name", .str item.displayName),
    ("description", .str item.description), ("primary_resource_concept", .str item.primaryResourceConcept),
    ("operation_kind", .str item.operationKind.value), ("state_changing", .bool item.stateChanging),
    ("effect_catalog", .list (item.effectCatalog.map (·.dump))),
    ("effective_state", .str (effectiveStateValue item.effectiveState))]

structure ProposedPermissionItem where
  itemId : String
  writeMode : ProposalWriteMode
  intentId : Option String := none
  expectedCurrentRevision : Option Nat := none
  effectiveState : EffectiveState
  subjectActorItemId : String
  businessActionItemId : String
  resourceOwnerActorItemId : String
  relation : Relation
  expectation : Expectation
  protectedEffectItemIds : List String
  conditions : Option PermissionConditions := none
  deriving DecidableEq, Repr

def ProposedPermissionItem.dump (item : ProposedPermissionItem) : Json :=
  .dict ([("item_id", .str item.itemId), ("write_mode", .str item.writeMode.value),
    ("intent_id", nullable .str item.intentId),
    ("expected_current_revision", nullable natural item.expectedCurrentRevision),
    ("effective_state", .str (effectiveStateValue item.effectiveState)),
    ("subject_actor_item_id", .str item.subjectActorItemId),
    ("business_action_item_id", .str item.businessActionItemId),
    ("resource_owner_actor_item_id", .str item.resourceOwnerActorItemId), ("relation", .str item.relation.value),
    ("expectation", .str item.expectation.value),
    ("protected_effect_item_ids", strings item.protectedEffectItemIds)] ++
    optionalField "conditions" (·.dump) item.conditions)

theorem writeMode_injective : Function.Injective ProposalWriteMode.value := by
  intro left right same
  cases left <;> cases right <;> simp [ProposalWriteMode.value] at same ⊢

theorem effectiveState_injective : Function.Injective effectiveStateValue := by
  intro left right same
  cases left <;> cases right <;> simp [effectiveStateValue] at same ⊢

theorem separating_nullable_natural : Separating (nullable natural) :=
  separating_nullable separating_natural fun value => by simp [natural]

/-- Two permission items that are written alike are the same. -/
theorem separating_permissionItem : Separating ProposedPermissionItem.dump := by
  intro left right same
  have items : left.itemId = right.itemId := separating_str.field same "item_id" (by simp) (by simp)
  have modes : left.writeMode = right.writeMode :=
    (separating_word writeMode_injective).field same "write_mode" (by simp) (by simp)
  have intents : left.intentId = right.intentId :=
    separating_nullable_str.field same "intent_id" (by simp) (by simp)
  have revisions : left.expectedCurrentRevision = right.expectedCurrentRevision :=
    separating_nullable_natural.field same "expected_current_revision" (by simp) (by simp)
  have states : left.effectiveState = right.effectiveState :=
    (separating_word effectiveState_injective).field same "effective_state" (by simp) (by simp)
  have subjects : left.subjectActorItemId = right.subjectActorItemId :=
    separating_str.field same "subject_actor_item_id" (by simp) (by simp)
  have actions : left.businessActionItemId = right.businessActionItemId :=
    separating_str.field same "business_action_item_id" (by simp) (by simp)
  have owners : left.resourceOwnerActorItemId = right.resourceOwnerActorItemId :=
    separating_str.field same "resource_owner_actor_item_id" (by simp) (by simp)
  have relations : left.relation = right.relation :=
    (separating_word relation_injective).field same "relation" (by simp) (by simp)
  have expectations : left.expectation = right.expectation :=
    (separating_word expectation_injective).field same "expectation" (by simp) (by simp)
  have effects : left.protectedEffectItemIds = right.protectedEffectItemIds :=
    separating_strings.field same "protected_effect_item_ids" (by simp) (by simp)
  have conditions : left.conditions = right.conditions :=
    separating_conditions.optional same "conditions" (by simp) (by simp)
  cases left
  cases right
  simp_all

end Jiejian.Boundaries.Proposals
