import Jiejian.Preparation.Identities

namespace Jiejian.Preparation.Requirements

open Library Library.Document Library.Outcome Library.Sorting Errors
open Protocol.Codec Protocol.Conditions Protocol.Cases Protocol.Actions Models Identities

/-- A human choice among the candidate controls of one DENY permission. -/
structure ActionAllowControlBinding where
  projectId : String
  denyPermission : PermissionReference
  selectedAllowPermission : PermissionReference
  selectionFingerprint : String
  deriving DecidableEq, Repr

structure ActionResourceRequirement where
  ownerSlotId : String
  requiredByIntentIds : List String
  deriving DecidableEq, Repr

def ActionResourceRequirement.dump (resource : ActionResourceRequirement) : Json :=
  .dict [("owner_slot_id", .str resource.ownerSlotId),
    ("required_by_intent_ids", strings resource.requiredByIntentIds)]

structure EffectEvidenceRequirement where
  effectId : String
  requiredByIntentIds : List String
  deriving DecidableEq, Repr

def EffectEvidenceRequirement.dump (evidence : EffectEvidenceRequirement) : Json :=
  .dict [("effect_id", .str evidence.effectId), ("required_by_intent_ids", strings evidence.requiredByIntentIds)]

inductive AssuranceStatus where
  | READY
  | BLOCKED
  deriving DecidableEq, Repr

def AssuranceStatus.value : AssuranceStatus → String
  | .READY => "READY"
  | .BLOCKED => "BLOCKED"

structure ActionAssuranceContract where
  actionId : String
  actionRevision : Nat
  actionSemanticFingerprint : String
  permissions : List PermissionReference
  allowControls : List AllowControlRequirement
  identityRequirements : IdentityRequirementPlan
  resources : List ActionResourceRequirement
  effectEvidence : List EffectEvidenceRequirement
  recoveryRequired : Bool
  status : AssuranceStatus
  reasonCodes : List String
  fingerprint : String
  deriving DecidableEq, Repr

/-- The document whose digest is the fingerprint: every field but the fingerprint. -/
def ActionAssuranceContract.facts (contract : ActionAssuranceContract) : Json :=
  .dict [("action_id", .str contract.actionId), ("action_revision", natural contract.actionRevision),
    ("action_semantic_fingerprint", .str contract.actionSemanticFingerprint),
    ("permissions", .list (contract.permissions.map (·.dump))),
    ("allow_controls", .list (contract.allowControls.map (·.dump))),
    ("identity_requirements", contract.identityRequirements.dump),
    ("resources", .list (contract.resources.map (·.dump))),
    ("effect_evidence", .list (contract.effectEvidence.map (·.dump))),
    ("recovery_required", .bool contract.recoveryRequired), ("status", .str contract.status.value),
    ("reason_codes", strings contract.reasonCodes)]

/-- One rule asks for an active grant where the other asks for a different state of the same kind. -/
def exclusiveRelationshipStates (left right : FrozenPermission) : Bool :=
  match left.conditions, right.conditions with
  | some first, some second => first.relationships.any fun a => second.relationships.any fun b =>
      a.kind = b.kind ∧ (a.kind = .SHARING ∨ a.kind = .DELEGATION) ∧ a.state ≠ b.state
  | _, _ => false

/-- An ALLOW permission that can stand as the control of a DENY permission. -/
def controlCandidate (deny allow : PermissionIntentRevision) : Bool :=
  relationValid deny.toFrozenPermission ∧
    exclusiveRelationshipStates deny.toFrozenPermission allow.toFrozenPermission = false ∧
    (allow.resourceOwnerActorId, allow.resourceOwnerActorRevision) =
      (deny.resourceOwnerActorId, deny.resourceOwnerActorRevision) ∧
    deny.protectedEffectIds ⊆ allow.protectedEffectIds

/-- A candidate with the subject of the DENY permission ranks before the others. -/
def rank (deny allow : PermissionIntentRevision) : Nat :=
  if (allow.subjectActorId, allow.subjectActorRevision) = (deny.subjectActorId, deny.subjectActorRevision) then 0
  else 1

/-- The identities of the candidates of the best rank. -/
def bestCandidates (deny : PermissionIntentRevision) (candidates : List PermissionIntentRevision) :
    List PermissionReference :=
  let best := if candidates.any fun allow => rank deny allow = 0 then 0 else 1
  (candidates.filter fun allow => rank deny allow = best).map (·.toPermissionReference)

def selectionFingerprintOf (digest : Digest) (deny : PermissionReference) (effects : List String)
    (identities : List PermissionReference) : String :=
  canonicalSha256 digest (.dict [("kind", .str "ActionAllowControlSelection"), ("deny_permission", deny.dump),
    ("protected_effect_ids", strings effects),
    ("candidate_allow_permissions", .list (identities.map (·.dump)))])

/-- The choices recorded for these candidates. -/
def selectedControls (action : BusinessActionRevision) (bindings : List ActionAllowControlBinding)
    (deny : PermissionReference) (fingerprint : String) : List PermissionReference :=
  (bindings.filter fun item => item.projectId = action.projectId ∧ item.denyPermission = deny ∧
    item.selectionFingerprint = fingerprint).map (·.selectedAllowPermission)

/-- A single candidate resolves itself; several are resolved by exactly one recorded choice. -/
def resolveControl (identities selected : List PermissionReference) : Option PermissionReference :=
  match identities with
  | [] => none
  | [identity] => some identity
  | _ =>
    match identities.filter fun item => item ∈ selected with
    | [identity] => some identity
    | _ => none

/-- `_compile_allow_control`. -/
def compileAllowControl (digest : Digest) (action : BusinessActionRevision) (allows : List PermissionIntentRevision)
    (bindings : List ActionAllowControlBinding) (deny : PermissionIntentRevision) : AllowControlRequirement :=
  let identities := bestCandidates deny (allows.filter (controlCandidate deny))
  let denyIdentity := deny.toPermissionReference
  let effects := sortedSet deny.protectedEffectIds
  let fingerprint := selectionFingerprintOf digest denyIdentity effects identities
  { denyPermission := denyIdentity
    protectedEffectIds := effects
    candidateAllowPermissions := identities
    resolvedAllowPermission := resolveControl identities (selectedControls action bindings denyIdentity fingerprint)
    selectionFingerprint := fingerprint }

/-- The permissions of the action's present revision that are in force. -/
def currentPermissions (action : BusinessActionRevision) (permissions : List PermissionIntentRevision) :
    List PermissionIntentRevision :=
  orderedPermissions (permissions.filter fun item => item.projectId = action.projectId ∧
    item.businessActionId = action.actionId ∧ item.actionRevision = action.revision ∧ item.effectiveState = .ACTIVE)

def allowPermissions (current : List PermissionIntentRevision) : List PermissionIntentRevision :=
  current.filter fun item => item.expectation = .ALLOW ∧ relationValid item.toFrozenPermission = true

def compileAllowControls (digest : Digest) (action : BusinessActionRevision) (current : List PermissionIntentRevision)
    (bindings : List ActionAllowControlBinding) : List AllowControlRequirement :=
  (current.filter fun item => item.expectation = .DENY).map
    (compileAllowControl digest action (allowPermissions current) bindings)

def allValid (current : List PermissionIntentRevision) : Bool :=
  current.all fun item => relationValid item.toFrozenPermission

/-- The reasons found before identities are planned. -/
def permissionReasons (action : BusinessActionRevision) (current : List PermissionIntentRevision)
    (controls : List AllowControlRequirement) : List String :=
  (if current = [] then ["PERMISSION_SEMANTICS_REQUIRED"] else []) ++
  (if allValid current then [] else ["PERMISSION_RELATION_REVIEW_REQUIRED"]) ++
  (if ∀ item ∈ current, item.protectedEffectIds ⊆ action.effectCatalog.map (·.effectId) then []
    else ["PERMISSION_REVISION_REVIEW_REQUIRED"]) ++
  (if allowPermissions current = [] ∨ ∃ item ∈ controls, item.candidateAllowPermissions = [] then
    ["ALLOW_CONTROL_REQUIRED"] else []) ++
  (if ∃ item ∈ controls, item.candidateAllowPermissions ≠ [] ∧ item.resolvedAllowPermission = none then
    ["ALLOW_CONTROL_SELECTION_REQUIRED"] else [])

/-- The identity plan, or an empty plan and the reason why there is none. -/
def planIdentities (digest : Digest) (current : List PermissionIntentRevision)
    (controls : List AllowControlRequirement) : Except Raised (IdentityRequirementPlan × List String) :=
  match plan digest (if allValid current then current else []) (if allValid current then controls else []) with
  | .ok identities => .ok (identities, [])
  | .error (.ValueError text) =>
    if text = "CHECK_TWIN_INVARIANT_REQUIRED" ∨ text = "IDENTITY_DISTINCT_REQUIRED" then
      (plan digest [] []).map fun identities => (identities, [text])
    else .error (.ValueError text)
  | .error other => .error other

def resourceRequirements (identities : IdentityRequirementPlan) : List ActionResourceRequirement :=
  (sortedSet (identities.permissions.map (·.resourceOwnerSlotId))).map fun slotId =>
    { ownerSlotId := slotId
      requiredByIntentIds := sortedSet ((identities.permissions.filter fun item =>
        item.resourceOwnerSlotId = slotId).map fun item => item.permission.intentId) }

def evidenceRequirements (current : List PermissionIntentRevision) : List EffectEvidenceRequirement :=
  (sortedSet (current.flatMap fun item => item.protectedEffectIds)).map fun effectId =>
    { effectId := effectId
      requiredByIntentIds := (current.filter fun item => effectId ∈ item.protectedEffectIds).map fun item =>
        item.intentId }

def compileActionAssurance (digest : Digest) (action : BusinessActionRevision)
    (permissions : List PermissionIntentRevision) (allowControlBindings : List ActionAllowControlBinding) :
    Except Raised ActionAssuranceContract := do
  let current := currentPermissions action permissions
  let controls := compileAllowControls digest action current allowControlBindings
  let (identities, identityReasons) ← planIdentities digest current controls
  let reasons := permissionReasons action current controls ++ identityReasons
  let contract : ActionAssuranceContract := {
    actionId := action.actionId
    actionRevision := action.revision
    actionSemanticFingerprint := action.semanticFingerprint
    permissions := current.map (·.toPermissionReference)
    allowControls := controls
    identityRequirements := identities
    resources := resourceRequirements identities
    effectEvidence := evidenceRequirements current
    recoveryRequired := action.stateChanging
    status := if reasons = [] then .READY else .BLOCKED
    reasonCodes := reasons
    fingerprint := "" }
  return { contract with fingerprint := canonicalSha256 digest contract.facts }

end Jiejian.Preparation.Requirements
