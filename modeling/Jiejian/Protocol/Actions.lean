import Jiejian.Library.Table
import Jiejian.Protocol.Cases

namespace Jiejian.Protocol.Actions

open Library Library.Document Library.Outcome Library.Sorting Errors Codec Conditions Cases

structure TwinInvariants where
  resourceId : String
  resourceOwnerTestIdentityId : String
  ownerIdentityFingerprint : String
  execution : ExecutionAssetReference
  proofFingerprints : List String
  recoveryFingerprint : Option String
  sourceFingerprint : Option String
  configFingerprint : String
  deriving DecidableEq, Repr

def TwinInvariants.dump (invariants : TwinInvariants) : Json :=
  .dict [("resource_id", .str invariants.resourceId),
    ("resource_owner_test_identity_id", .str invariants.resourceOwnerTestIdentityId),
    ("owner_identity_fingerprint", .str invariants.ownerIdentityFingerprint),
    ("execution", invariants.execution.dump), ("proof_fingerprints", strings invariants.proofFingerprints),
    ("recovery_fingerprint", nullable .str invariants.recoveryFingerprint),
    ("source_fingerprint", nullable .str invariants.sourceFingerprint),
    ("config_fingerprint", .str invariants.configFingerprint)]

/-- The only difference a twin may have in its conditions. -/
inductive ConditionDifference where
  | RESOURCE_STATE
  deriving DecidableEq, Repr

structure ExecutionTwin where
  twinId : String
  denyCaseId : String
  allowCaseId : String
  selectedAllowPermission : PermissionReference
  protectedEffectIds : List String
  invariants : TwinInvariants
  fingerprint : String
  conditionDifference : Option ConditionDifference := none
  deriving DecidableEq, Repr

/-- The facts of a twin besides its id and fingerprint. -/
def ExecutionTwin.content (twin : ExecutionTwin) : List (String × Json) :=
  [("deny_case_id", .str twin.denyCaseId), ("allow_case_id", .str twin.allowCaseId),
    ("selected_allow_permission", twin.selectedAllowPermission.dump),
    ("protected_effect_ids", strings twin.protectedEffectIds), ("invariants", twin.invariants.dump)]

def conditionField (twin : ExecutionTwin) : List (String × Json) :=
  optionalField "condition_difference" (fun _ => .str "RESOURCE_STATE") twin.conditionDifference

/-- The facts a twin fingerprint covers: every field but `fingerprint`. -/
def ExecutionTwin.facts (twin : ExecutionTwin) : List (String × Json) :=
  ("twin_id", .str twin.twinId) :: twin.content ++ conditionField twin

def ExecutionTwin.dump (twin : ExecutionTwin) : Json :=
  .dict (("twin_id", .str twin.twinId) :: twin.content ++ [("fingerprint", .str twin.fingerprint)] ++
    conditionField twin)

def caseInvariants (case : ExecutionCase) : TwinInvariants where
  resourceId := case.resourceId
  resourceOwnerTestIdentityId := case.resourceOwnerTestIdentityId
  ownerIdentityFingerprint := case.ownerIdentityFingerprint
  execution := case.execution
  proofFingerprints := sortedBy id (case.proofRequirements.map (·.proofFingerprint))
  recoveryFingerprint := case.recovery.map (·.bindingFingerprint)
  sourceFingerprint := case.sourceFingerprint
  configFingerprint := case.configFingerprint

/-- How a proof is made, whatever resource it is about. -/
def proofMethod (proof : EffectProofRequirement) : String × ProofLevel × ProofRule × String × ProofReference :=
  (proof.effectId, proof.level, proof.rule, proof.bindingFingerprint, proof.reference)

def proofMethods (case : ExecutionCase) : List (String × ProofLevel × ProofRule × String × ProofReference) :=
  (sortedBy EffectProofRequirement.order case.proofRequirements).map proofMethod

def resourceStates (case : ExecutionCase) : List String :=
  match case.permission.conditions with
  | none => []
  | some conditions => conditions.resourceStates

/-- The two cases differ in nothing but resources in disjoint declared states. -/
def conditionalResourceTwin (deny allow : ExecutionCase) : Bool :=
  let left := resourceStates deny
  let right := resourceStates allow
  left ≠ [] ∧ right ≠ [] ∧ (∀ state ∈ left, state ∉ right) ∧ deny.resourceId ≠ allow.resourceId ∧
    { caseInvariants deny with resourceId := "", proofFingerprints := [] } =
      { caseInvariants allow with resourceId := "", proofFingerprints := [] } ∧
    proofMethods deny = proofMethods allow

structure ExecutionAction where
  actionId : String
  actionRevision : Nat
  actionSemanticFingerprint : String
  cases : List ExecutionCase
  twins : List ExecutionTwin
  deriving DecidableEq, Repr

/-- The content id a reader gives a case, with its proofs in the reader's order. -/
def caseContentId (digest : Digest) (actionId : String) (actionRevision : Nat) (case : ExecutionCase) : String :=
  contentId digest "case_" "CheckCase" (.dict [("action_id", .str actionId), ("revision", natural actionRevision),
    ("facts", .dict { case with
      proofRequirements := sortedBy EffectProofRequirement.order case.proofRequirements }.facts)])

def validateTwin (digest : Digest) (cases : List ExecutionCase) (twin : ExecutionTwin) : Except Raised Unit := do
  let deny ← orRaise (Table.latest ExecutionCase.caseId cases twin.denyCaseId)
    (.ValueError "invalid twin case reference")
  let allow ← orRaise (Table.latest ExecutionCase.caseId cases twin.allowCaseId)
    (.ValueError "invalid twin case reference")
  require (deny.permission.expectation = .DENY ∧ .ALLOW_CONTROL ∈ allow.roles)
    (.ValueError "invalid twin case reference")
  require (allow.permissionKey = twin.selectedAllowPermission) (.ValueError "twin selected permission")
  require (deny.protectedEffectIds = allow.protectedEffectIds ∧
      deny.protectedEffectIds = twin.protectedEffectIds)
    (.ValueError "twin effect mismatch")
  require (caseInvariants deny = twin.invariants ∧
      (twin.conditionDifference = some .RESOURCE_STATE → conditionalResourceTwin deny allow = true) ∧
      (twin.conditionDifference = none → caseInvariants deny = caseInvariants allow))
    (.ValueError "twin invariant mismatch")
  require (twin.fingerprint = contentHash digest "CheckTwin" (.dict twin.facts)) (.ValueError "twin fingerprint")

/-- The DENY cases that need a twin: those outside a scenario, and those a twin names. -/
def denyCaseIds (action : ExecutionAction) : List String :=
  (action.cases.filter fun case => case.permission.expectation = .DENY ∧
    (case.occurrenceId = none ∨ ∃ twin ∈ action.twins, twin.denyCaseId = case.caseId)).map (·.caseId)

def controlCaseIds (action : ExecutionAction) : List String :=
  (action.cases.filter fun case => .ALLOW_CONTROL ∈ case.roles).map (·.caseId)

def ExecutionAction.validateTwins (digest : Digest) (action : ExecutionAction) : Except Raised Unit := do
  require ((action.cases.map (·.caseId)).Nodup ∧ (action.twins.map (·.twinId)).Nodup)
    (.ValueError "duplicate case or twin")
  action.cases.forM fun case =>
    require (case.caseId = caseContentId digest action.actionId action.actionRevision case)
      (.ValueError "case content identity")
  action.twins.forM (validateTwin digest action.cases)
  require (action.twins.length = (denyCaseIds action).dedup.length ∧
      SameSet (action.twins.map (·.denyCaseId)) (denyCaseIds action))
    (.ValueError "deny requires exactly one complete control")
  require (SameSet (controlCaseIds action) (action.twins.map (·.allowCaseId)))
    (.ValueError "orphan allow control")

end Jiejian.Protocol.Actions
