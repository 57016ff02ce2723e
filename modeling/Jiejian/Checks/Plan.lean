import Jiejian.Preparation.Requirements

namespace Jiejian.Checks.Plan

open Library Library.Document Library.Outcome Library.Sorting Errors
open Protocol.Codec Protocol.Conditions Protocol.Cases Protocol.Actions
open Preparation.Models Preparation.Identities Preparation.Requirements

structure RegisteredEffectProofCapability where
  descriptorId : String
  descriptorFingerprint : String
  observerId : String
  effectId : String
  closureSupported : Bool
  resourceCorrelationSupported : Bool
  createdResourceSupported : Bool := false
  deriving DecidableEq, Repr

structure PreparedIdentityAssignment where
  slotId : String
  identityId : String
  actorId : String
  actorRevision : Nat
  identityFingerprint : String
  deriving DecidableEq, Repr

structure CheckPlanGap where
  actionId : String
  actionRevision : Nat
  reason : String
  intentId : Option String := none
  effectId : Option String := none
  deriving DecidableEq, Repr

def CheckPlanGap.dump (gap : CheckPlanGap) : Json :=
  .dict [("action_id", .str gap.actionId), ("action_revision", natural gap.actionRevision),
    ("reason", .str gap.reason), ("intent_id", nullable .str gap.intentId), ("effect_id", nullable .str gap.effectId)]

structure ActionCheckPlan where
  actionId : String
  actionRevision : Nat
  actionSemanticFingerprint : String
  cases : List ExecutionCase
  twins : List ExecutionTwin
  gaps : List CheckPlanGap
  deriving DecidableEq, Repr

def ActionCheckPlan.dump (action : ActionCheckPlan) : Json :=
  .dict [("action_id", .str action.actionId), ("action_revision", natural action.actionRevision),
    ("action_semantic_fingerprint", .str action.actionSemanticFingerprint),
    ("cases", .list (action.cases.map (·.dump))), ("twins", .list (action.twins.map (·.dump))),
    ("gaps", .list (action.gaps.map (·.dump)))]

structure PreparedActionInput where
  action : BusinessActionRevision
  permissions : List PermissionIntentRevision
  assurance : ActionAssuranceContract
  identities : List PreparedIdentityAssignment
  execution : Option ActionExecutionBinding := none
  resources : List ActionResourceBinding := []
  caseData : List RuleCaseDataBinding := []
  evidence : List ActionEvidenceBinding := []
  recovery : Option ActionRecoveryBinding := none
  observerCapabilities : List RegisteredEffectProofCapability := []
  reasonCodes : List String := []

def resourceSlot : List Char := "{case_resource_id}".toList

/-- `urlsplit(path).path` and `.query` of a relative path. -/
def urlPath (target : List Char) : List Char :=
  target.takeWhile fun char => char ≠ '?' ∧ char ≠ '#'

def urlQuery (target : List Char) : List Char :=
  match target.dropWhile fun char => char ≠ '?' ∧ char ≠ '#' with
  | '?' :: query => query.takeWhile fun char => char ≠ '#'
  | _ => []

def hexDigit (char : Char) : Option Nat :=
  if '0' ≤ char ∧ char ≤ '9' then some (char.toNat - '0'.toNat)
  else if 'a' ≤ char ∧ char ≤ 'f' then some (char.toNat - 'a'.toNat + 10)
  else if 'A' ≤ char ∧ char ≤ 'F' then some (char.toNat - 'A'.toNat + 10)
  else none

/-- The character a percent escape stands for; bytes beyond ASCII are only told apart from ASCII. -/
def escapedChar (high low : Char) : Option Char := do
  let first ← hexDigit high
  let second ← hexDigit low
  let byte := first * 16 + second
  return if byte < 128 then Char.ofNat byte else '\uFFFD'

/-- `unquote_plus` as `parse_qsl` applies it to a query value. -/
def unquotePlus : List Char → List Char
  | [] => []
  | '+' :: rest => ' ' :: unquotePlus rest
  | '%' :: high :: low :: rest =>
    match escapedChar high low with
    | some char => char :: unquotePlus rest
    | none => '%' :: unquotePlus (high :: low :: rest)
  | char :: rest => char :: unquotePlus rest
  termination_by text => text.length

/-- The values of `parse_qsl(query, keep_blank_values=True)`. -/
def queryValues (query : List Char) : List (List Char) :=
  (query.splitOn '&').filter (· ≠ []) |>.map fun part =>
    unquotePlus ((part.dropWhile fun char => char ≠ '=').drop 1)

def occurrences (pattern text : List Char) : Nat :=
  text.tails.countP fun rest => pattern.isPrefixOf rest

/-- How many path segments and query values are the resource slot and nothing else. -/
def exactSlots (target : List Char) : Nat :=
  ((urlPath target).splitOn '/').countP (· = resourceSlot) +
    (queryValues (urlQuery target)).countP (· = resourceSlot)

/-- A read-only GET that addresses the case resource once decides whether a resource exists. -/
def presenceTemplate (kind : BusinessEffectKind) (template : RecordedRequestTemplate) : Bool :=
  kind = .OBJECT_CREATION ∧ template.method = "GET" ∧ template.jsonBody.isEmpty ∧
    exactSlots template.relativePath.toList = 1 ∧ occurrences resourceSlot template.relativePath.toList = 1

/-- `EffectProofRequirement(…, proof_fingerprint=content_hash(…))`. -/
def sealProof (digest : Digest) (proof : EffectProofRequirement) : EffectProofRequirement :=
  { proof with proofFingerprint := contentHash digest "EffectProofRequirement" (.dict proof.facts) }

def capabilityFor (capabilities : List RegisteredEffectProofCapability) (reference : RegisteredObserverReference)
    (effectId : String) : Option RegisteredEffectProofCapability :=
  capabilities.find? fun item => item.descriptorId = reference.descriptorId ∧
    item.descriptorFingerprint = reference.descriptorFingerprint ∧ item.observerId = reference.observerId ∧
    item.effectId = effectId

def observerLevel (capability : Option RegisteredEffectProofCapability) : ProofLevel :=
  match capability with
  | some item => if item.closureSupported && item.resourceCorrelationSupported then .VERDICT_REQUIRED else .SUPPORTING
  | none => .SUPPORTING

def proofFor (digest : Digest) (effect : BusinessEffectDefinition) (binding : ActionEvidenceBinding)
    (resourceId : String) (level : ProofLevel) (rule : ProofRule) (reference : ProofReference) :
    EffectProofRequirement :=
  sealProof digest {
    effectId := effect.effectId
    level := level
    rule := rule
    bindingFingerprint := binding.bindingFingerprint
    resourceId := resourceId
    reference := reference
    proofFingerprint := "" }

def deriveEffectProof (digest : Digest) (effect : BusinessEffectDefinition) (binding : ActionEvidenceBinding)
    (resourceId : String) (capabilities : List RegisteredEffectProofCapability) :
    Except Raised EffectProofRequirement :=
  let proof := proofFor digest effect binding resourceId
  match binding.source with
  | .HTTP_ENTITY_QUERY flowId flowRevision entityQuery =>
    if effect.effectKind = .DATA_DISCLOSURE then
      .ok (proof .VERDICT_REQUIRED .HTTP_ENTITY_QUERY
        (.OPERATION_HTTP_ENTITY flowId flowRevision (contentHash digest "HttpEntityQuery" entityQuery)))
    else .error (.ValueError "HTTP entity queries only prove declared field disclosure")
  | .REGISTERED_OBSERVER reference =>
    .ok (proof (observerLevel (capabilityFor capabilities reference effect.effectId)) .REGISTERED_EFFECT
      (.REGISTERED_OBSERVER reference.descriptorId reference.descriptorFingerprint reference.observerId))
  | .RECORDED_OBSERVATION recordingId draftRevision draftSha256 stepId template =>
    let reference := ProofReference.RECORDED_OBSERVATION recordingId draftRevision draftSha256 stepId
      (contentHash digest "RecordedRequestTemplate" template.dump)
    if presenceTemplate effect.effectKind template then
      .ok (proof .VERDICT_REQUIRED .HTTP_RESOURCE_PRESENCE reference)
    else .ok (proof .SUPPORTING .RECORDED_SUPPORT reference)

/-- `getattr(reference, 'descriptor_fingerprint', None)`. -/
def descriptorFingerprintOf : ProofReference → Option String
  | .REGISTERED_OBSERVER _ descriptorFingerprint _ => some descriptorFingerprint
  | _ => none

/-- Some observer can find the object this run creates. -/
def createdProofSupported (effect : BusinessEffectDefinition) (proof : EffectProofRequirement) (effectId : String)
    (capabilities : List RegisteredEffectProofCapability) : Bool :=
  effect.effectKind = .OBJECT_CREATION ∧ capabilities.any fun capability =>
    capability.createdResourceSupported ∧
      some capability.descriptorFingerprint = descriptorFingerprintOf proof.reference ∧ capability.effectId = effectId

/-- What `_compile_action` accumulates: the gaps, the cases by id and the twins. -/
structure Compiled where
  gaps : List CheckPlanGap := []
  cases : List ExecutionCase := []
  twins : List ExecutionTwin := []

def Compiled.gap (state : Compiled) (action : BusinessActionRevision) (reason : String) (intentId : Option String)
    (effectId : Option String) : Compiled :=
  let item : CheckPlanGap := {
    actionId := action.actionId
    actionRevision := action.revision
    reason := reason
    intentId := intentId
    effectId := effectId }
  if item ∈ state.gaps then state else { state with gaps := state.gaps ++ [item] }

section Cases

variable (digest : Digest) (prepared : PreparedActionInput) (permission : PermissionIntentRevision)

/-- The identity, resource and execution facts of a case, or the gap that stands in their way. -/
structure CaseMaterial where
  subject : Option PreparedIdentityAssignment
  owner : PreparedIdentityAssignment
  resource : ActionResourceBinding
  execution : ActionExecutionBinding

/-- `identities.get(slot_id)`. -/
def assignedIdentity (slotId : Option String) : Option PreparedIdentityAssignment :=
  slotId.bind (Table.latest PreparedIdentityAssignment.slotId prepared.identities)

def positionFor : Option PermissionIdentitySlots :=
  Table.latest (fun item : PermissionIdentitySlots => item.permission.intentId)
    prepared.assurance.identityRequirements.permissions permission.intentId

def subjectOf : Option PreparedIdentityAssignment :=
  (positionFor prepared permission).bind fun position => assignedIdentity prepared position.subjectSlotId

def ownerOf : Option PreparedIdentityAssignment :=
  (positionFor prepared permission).bind fun position =>
    assignedIdentity prepared (some position.resourceOwnerSlotId)

def resourceFor (owner : PreparedIdentityAssignment) : Option ActionResourceBinding :=
  match prepared.resources.find? fun item => item.resourceOwnerTestIdentityId = owner.identityId with
  | some resource => if resource.ownerIdentityFingerprint = owner.identityFingerprint then some resource else none
  | none => none

/-- The resource of the case: the owner's, or the data chosen for this rule. -/
def caseResource (resource : ActionResourceBinding) : Option ActionResourceBinding :=
  match prepared.caseData.find? fun item => item.permission.intentId = permission.intentId with
  | none => some resource
  | some selection => ruleCaseResource digest resource permission.toPermissionReference selection

/-- The first half of `make_case`; an error is the reason of the gap it leaves. -/
def caseMaterial : Except String CaseMaterial := do
  let anonymous := anonymousCondition permission.conditions
  let subject := subjectOf prepared permission
  require (subject.isSome ∨ anonymous = true) "TEST_IDENTITY_REQUIRED"
  let owner ← orRaise (ownerOf prepared permission) "TEST_IDENTITY_REQUIRED"
  let base ← orRaise (resourceFor prepared owner) "ACTION_RESOURCE_REQUIRED"
  let resource ← orRaise (caseResource digest prepared permission base) "RULE_CASE_DATA_STALE"
  let execution ← orRaise prepared.execution "ACTION_EXECUTION_REQUIRED"
  require (resource.resourceInjection = execution.resourceInjection) "ACTION_EXECUTION_REQUIRED"
  require (prepared.action.stateChanging = true → prepared.recovery.isSome) "ACTION_RECOVERY_REQUIRED"
  return { subject := subject, owner := owner, resource := resource, execution := execution }

/-- One effect of the proof loop: the gaps it leaves and the proof it adds. -/
def proveEffect (resource : ActionResourceBinding) (entry : Compiled × List EffectProofRequirement)
    (effectId : String) : Except Raised (Compiled × List EffectProofRequirement) :=
  let (state, proofs) := entry
  let created := resource.resourceInjection.fromResponse
  let intent := some permission.intentId
  match prepared.evidence.find? (fun item => item.effectId = effectId),
      prepared.action.effectCatalog.find? (fun item => item.effectId = effectId) with
  | some binding, some effect => do
    let proof ← deriveEffectProof digest effect binding resource.actualResourceId prepared.observerCapabilities
    if created ∧ ¬ createdProofSupported effect proof effectId prepared.observerCapabilities then
      return (state.gap prepared.action "CREATED_RESOURCE_PROOF_REQUIRED" intent (some effectId), proofs)
    else if proof.level ≠ .VERDICT_REQUIRED then
      return (state.gap prepared.action "EFFECT_VERDICT_PROOF_REQUIRED" intent (some effectId), proofs ++ [proof])
    else return (state, proofs ++ [proof])
  | _, _ =>
    .ok (state.gap prepared.action
      (if created then "CREATED_RESOURCE_PROOF_REQUIRED" else "EFFECT_VERDICT_PROOF_REQUIRED") intent (some effectId),
      proofs)

def recoveryReference (binding : ActionRecoveryBinding) : RecoveryReference where
  origin := binding.origin
  stepId := binding.stepId
  bindingFingerprint := binding.bindingFingerprint
  requestTemplateFingerprint := contentHash digest "RecordedRequestTemplate" binding.requestTemplate.dump

/-- The payload of a case, before its id and roles are known. -/
def casePayload (material : CaseMaterial) (effects : List String) (proofs : List EffectProofRequirement)
    (sourceFingerprint : Option String) (configFingerprint : String) : ExecutionCase :=
  let anonymous := anonymousCondition permission.conditions
  { caseId := ""
    roles := []
    permission := permission.toFrozenPermission
    subjectTestIdentityId := if anonymous then none else material.subject.map (·.identityId)
    subjectActorId := permission.subjectActorId
    subjectActorRevision := permission.subjectActorRevision
    subjectIdentityFingerprint := if anonymous then none else material.subject.map (·.identityFingerprint)
    resourceOwnerTestIdentityId := material.owner.identityId
    resourceOwnerActorId := material.owner.actorId
    resourceOwnerActorRevision := material.owner.actorRevision
    ownerIdentityFingerprint := material.owner.identityFingerprint
    resourceId := material.resource.actualResourceId
    resourceBindingFingerprint := material.resource.bindingFingerprint
    execution := {
      flowId := material.execution.flowId
      flowSha256 := material.execution.flowSha256
      executionBindingFingerprint := material.execution.bindingFingerprint }
    protectedEffectIds := sortedBy id effects
    proofRequirements := proofs
    recovery := prepared.recovery.map (recoveryReference digest)
    sourceFingerprint := sourceFingerprint
    configFingerprint := configFingerprint }

/-- The id the compiler gives a case: the hash of the payload as it stands. -/
def payloadId (action : BusinessActionRevision) (payload : ExecutionCase) : String :=
  contentId digest "case_" "CheckCase" (.dict [("action_id", .str action.actionId),
    ("revision", natural action.revision), ("facts", .dict payload.facts)])

/-- The case of a payload in one more role; roles already given to the same case are kept. -/
def roleCase (cases : List ExecutionCase) (caseId : String) (role : CaseRole) (payload : ExecutionCase) :
    ExecutionCase :=
  let earlier := ((Table.lookup ExecutionCase.caseId cases caseId).map (·.roles)).getD []
  { payload with caseId := caseId, roles := sortedRoles (role :: earlier) }

/-- The second half of `make_case`, once the material and all the proofs are there. -/
def recordCase (state : Compiled) (payload : ExecutionCase) (role : CaseRole) : Compiled × Option ExecutionCase :=
  let caseId := payloadId digest prepared.action payload
  let case := roleCase state.cases caseId role payload
  match case.validateCase with
  | .ok _ => ({ state with cases := Table.put ExecutionCase.caseId state.cases case }, some case)
  | .error _ =>
    (state.gap prepared.action "CHECK_TWIN_INVARIANT_REQUIRED" (some permission.intentId) none, none)

def makeCase (sourceFingerprint : Option String) (configFingerprint : String) (state : Compiled)
    (effects : List String) (role : CaseRole) : Except Raised (Compiled × Option ExecutionCase) :=
  match caseMaterial digest prepared permission with
  | .error reason => .ok (state.gap prepared.action reason (some permission.intentId) none, none)
  | .ok material => do
    let (proved, proofs) ← effects.foldlM (proveEffect digest prepared permission material.resource) (state, [])
    if ¬ SameSet (verdictEffects proofs) effects then
      return (proved, none)
    else do
      permission.toFrozenPermission.validateSemantics
      return recordCase digest prepared permission proved
        (casePayload digest prepared permission material effects proofs sourceFingerprint configFingerprint) role

end Cases

/-- A twin under its id and fingerprint, hashed in the order the compiler writes its facts. -/
def sealTwin (digest : Digest) (twin : ExecutionTwin) : ExecutionTwin :=
  let raw := twin.content ++ conditionField twin
  let twinId := contentId digest "twin_" "CheckTwinIdentity" (.dict raw)
  { twin with
    twinId := twinId
    fingerprint := contentHash digest "CheckTwin" (.dict (raw ++ [("twin_id", .str twinId)])) }

def pairCases (digest : Digest) (action : BusinessActionRevision) (control : AllowControlRequirement)
    (resolved : PermissionReference) (state : Compiled) (deny allow : ExecutionCase) : Compiled :=
  let difference := if conditionalResourceTwin deny allow then some ConditionDifference.RESOURCE_STATE else none
  if caseInvariants deny ≠ caseInvariants allow ∧ difference = none then
    state.gap action "CHECK_TWIN_INVARIANT_REQUIRED" (some deny.permission.intentId) none
  else
    let twin := sealTwin digest {
      twinId := ""
      denyCaseId := deny.caseId
      allowCaseId := allow.caseId
      selectedAllowPermission := resolved
      protectedEffectIds := control.protectedEffectIds
      invariants := caseInvariants deny
      fingerprint := ""
      conditionDifference := difference }
    { state with twins := state.twins ++ [twin] }

/-- `permissions[intent_id]`; of two revisions of one intent the later listed stands. -/
def permissionOf (prepared : PreparedActionInput) (intentId : String) : Except Raised PermissionIntentRevision :=
  orRaise (Table.latest (fun item : PermissionIntentRevision => item.intentId) prepared.permissions intentId) .KeyError

section Loops

variable (digest : Digest) (prepared : PreparedActionInput) (sourceFingerprint : Option String)
  (configFingerprint : String)

def regressionStep (state : Compiled) (permission : PermissionIntentRevision) : Except Raised Compiled :=
  if permission.expectation = .ALLOW then
    (makeCase digest prepared permission sourceFingerprint configFingerprint state permission.protectedEffectIds
      .ALLOW_REGRESSION).map Prod.fst
  else .ok state

def controlStep (state : Compiled) (control : AllowControlRequirement) : Except Raised Compiled := do
  let denyPermission ← permissionOf prepared control.denyPermission.intentId
  let (denied, deny) ← makeCase digest prepared denyPermission sourceFingerprint configFingerprint state
    control.protectedEffectIds .DENY_CHALLENGE
  match control.resolvedAllowPermission with
  | none => return denied
  | some resolved => do
    let allowPermission ← permissionOf prepared resolved.intentId
    let (allowed, allow) ← makeCase digest prepared allowPermission sourceFingerprint configFingerprint denied
      control.protectedEffectIds .ALLOW_CONTROL
    match deny, allow with
    | some deny, some allow => return pairCases digest prepared.action control resolved allowed deny allow
    | _, _ => return allowed

def reasonGaps : Compiled :=
  (sortedSet (prepared.reasonCodes ++ prepared.assurance.reasonCodes)).foldl
    (fun state reason => state.gap prepared.action reason none none) {}

/-- `(reason, intent_id or "", effect_id or "")`. -/
def gapOrder (gap : CheckPlanGap) : String ×ₗ String ×ₗ String :=
  toLex (gap.reason, toLex (gap.intentId.getD "", gap.effectId.getD ""))

def compileAction : Except Raised ActionCheckPlan := do
  let ordered := sortedBy (fun item : PermissionIntentRevision => item.intentId) prepared.permissions
  let regressed ← ordered.foldlM (regressionStep digest prepared sourceFingerprint configFingerprint)
    (reasonGaps prepared)
  let state ← prepared.assurance.allowControls.foldlM
    (controlStep digest prepared sourceFingerprint configFingerprint) regressed
  return {
    actionId := prepared.action.actionId
    actionRevision := prepared.action.revision
    actionSemanticFingerprint := prepared.action.semanticFingerprint
    cases := sortedBy ExecutionCase.caseId state.cases
    twins := sortedBy ExecutionTwin.twinId state.twins
    gaps := sortedBy gapOrder state.gaps }

end Loops

end Jiejian.Checks.Plan
