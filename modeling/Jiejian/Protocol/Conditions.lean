import Jiejian.Protocol.Codec

namespace Jiejian.Protocol.Conditions

open Library.Document Codec

inductive RelationshipKind where
  | ORGANIZATION
  | ROLE_INHERITANCE
  | SHARING
  | DELEGATION
  deriving DecidableEq, Repr

def RelationshipKind.value : RelationshipKind → String
  | .ORGANIZATION => "ORGANIZATION"
  | .ROLE_INHERITANCE => "ROLE_INHERITANCE"
  | .SHARING => "SHARING"
  | .DELEGATION => "DELEGATION"

inductive RelationState where
  | ACTIVE
  | ABSENT
  | EXPIRED
  | REVOKED
  deriving DecidableEq, Repr

def RelationState.value : RelationState → String
  | .ACTIVE => "ACTIVE"
  | .ABSENT => "ABSENT"
  | .EXPIRED => "EXPIRED"
  | .REVOKED => "REVOKED"

inductive OrganizationScope where
  | SAME
  | SUBJECT_ANCESTOR
  | RESOURCE_ANCESTOR
  deriving DecidableEq, Repr

def OrganizationScope.value : OrganizationScope → String
  | .SAME => "SAME"
  | .SUBJECT_ANCESTOR => "SUBJECT_ANCESTOR"
  | .RESOURCE_ANCESTOR => "RESOURCE_ANCESTOR"

structure RelationshipRequirement where
  kind : RelationshipKind
  state : RelationState := .ACTIVE
  organizationScope : OrganizationScope := .SAME
  inheritedRole : Option String := none
  maxDepth : Nat := 1
  deriving DecidableEq, Repr

def RelationshipRequirement.dump (requirement : RelationshipRequirement) : Json :=
  .dict [("kind", .str requirement.kind.value), ("state", .str requirement.state.value),
    ("organization_scope", .str requirement.organizationScope.value),
    ("inherited_role", nullable .str requirement.inheritedRole), ("max_depth", natural requirement.maxDepth)]

inductive Principal where
  | AUTHENTICATED
  | ANONYMOUS
  deriving DecidableEq, Repr

def Principal.value : Principal → String
  | .AUTHENTICATED => "AUTHENTICATED"
  | .ANONYMOUS => "ANONYMOUS"

inductive Tenant where
  | SAME
  | DIFFERENT
  deriving DecidableEq, Repr

def Tenant.value : Tenant → String
  | .SAME => "SAME"
  | .DIFFERENT => "DIFFERENT"

structure PermissionConditions where
  principal : Principal := .AUTHENTICATED
  tenant : Option Tenant := none
  resourceStates : List String := []
  relationships : List RelationshipRequirement := []
  deriving DecidableEq, Repr

/-- Relationships are written only when there are some. -/
def PermissionConditions.dump (conditions : PermissionConditions) : Json :=
  .dict ([("principal", .str conditions.principal.value),
    ("tenant", nullable (fun tenant => .str tenant.value) conditions.tenant),
    ("resource_states", strings conditions.resourceStates)] ++
    if conditions.relationships = [] then [] else [("relationships", .list (conditions.relationships.map (·.dump)))])

end Jiejian.Protocol.Conditions
