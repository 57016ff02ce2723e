import Jiejian.Protocol.Requests

namespace Jiejian.Protocol.Pairs

open Library Library.Document Library.Outcome Library.Sorting Errors
open Codec Conditions Cases Actions Scenarios Requests

/-- The case under the id that a reader computes for it. -/
def identified (digest : Digest) (actionId : String) (actionRevision : Nat) (case : ExecutionCase) : ExecutionCase :=
  { case with caseId := caseContentId digest actionId actionRevision case }

/-- The twin of a denied case and its control, before its fingerprint. -/
def plainTwin (deny allow : ExecutionCase) : ExecutionTwin where
  twinId := "twin"
  denyCaseId := deny.caseId
  allowCaseId := allow.caseId
  selectedAllowPermission := allow.permissionKey
  protectedEffectIds := deny.protectedEffectIds
  invariants := caseInvariants deny
  fingerprint := ""

def sealedTwin (digest : Digest) (deny allow : ExecutionCase) : ExecutionTwin :=
  { plainTwin deny allow with fingerprint := contentHash digest "CheckTwin" (.dict (plainTwin deny allow).facts) }

/-- The action whose only cases are a denied one and its control. -/
def pairAction (digest : Digest) (actionId : String) (deny allow : ExecutionCase) : ExecutionAction where
  actionId := actionId
  actionRevision := 1
  actionSemanticFingerprint := "semantic"
  cases := [identified digest actionId 1 deny, identified digest actionId 1 allow]
  twins := [sealedTwin digest (identified digest actionId 1 deny) (identified digest actionId 1 allow)]

def plainRequest (digest : Digest) (actionId : String) (deny allow : ExecutionCase)
    (change : Option ChangeContext) : ExecutionRequest where
  projectId := "project"
  sourceFingerprint := deny.sourceFingerprint
  policyEpoch := 0
  engineVersion := "1"
  planFingerprint := ""
  actions := [pairAction digest actionId deny allow]
  configFingerprint := deny.configFingerprint
  budgetFingerprint := "budget"
  changeContext := change

def pairRequest (digest : Digest) (actionId : String) (deny allow : ExecutionCase)
    (change : Option ChangeContext) : ExecutionRequest :=
  { plainRequest digest actionId deny allow change with
    planFingerprint := contentHash digest "ProjectCheckPlan"
      (planDocument (plainRequest digest actionId deny allow change)) }

/-- Two cases that may stand as a denied case and its control. -/
structure Opposed (digest : Digest) (deny allow : ExecutionCase) : Prop where
  denied : deny.permission.expectation = .DENY
  allowed : allow.permission.expectation = .ALLOW
  challenged : deny.roles = [.DENY_CHALLENGE]
  control : .ALLOW_CONTROL ∈ allow.roles
  effects : deny.protectedEffectIds = allow.protectedEffectIds
  invariants : caseInvariants deny = caseInvariants allow
  distinct : deny.permission.intentId ≠ allow.permission.intentId
  sourced : deny.sourceFingerprint ≠ none
  plain : deny.occurrenceId = none ∧ allow.occurrenceId = none
  recorded : ∀ case ∈ [deny, allow], ∀ proof ∈ case.proofRequirements, proof.rule ≠ .HTTP_ENTITY_QUERY
  accounts : ((identityFacts deny ++ identityFacts allow).foldlM setDefault []).isOk = true

section Accepted

variable {digest : Digest} {actionId : String} {deny allow : ExecutionCase} {change : Option ChangeContext}

theorem identified_valid {case : ExecutionCase} (valid : validateActionCase digest case = .ok ()) :
    validateActionCase digest (identified digest actionId 1 case) = .ok () := valid

/-- Cases about different permissions have different ids. -/
theorem identified_ne (distinct : deny.permission.intentId ≠ allow.permission.intentId) :
    (identified digest actionId 1 deny).caseId ≠ (identified digest actionId 1 allow).caseId := by
  intro same
  have documents := contentId_injective same
  have facts := field_of_canonical_eq documents "facts"
  simp only [field_dict, fieldOf_cons, String.reduceEq, if_false, if_true, Option.map_some, Option.some.injEq] at facts
  have permissions := field_of_canonical_eq facts "permission"
  simp only [ExecutionCase.facts, field_dict, List.cons_append, fieldOf_cons, if_true, Option.map_some,
    Option.some.injEq] at permissions
  have intents := field_of_canonical_eq permissions "intent_id"
  simp only [FrozenPermission.dump, field_dict, List.cons_append, fieldOf_cons, if_true, Option.map_some,
    canonical_str, Option.some.injEq, Json.str.injEq] at intents
  exact distinct intents

theorem pair_keyed (opposed : Opposed digest deny allow) :
    Table.Keyed ExecutionCase.caseId (pairAction digest actionId deny allow).cases := by
  have differ := @identified_ne digest actionId deny allow opposed.distinct
  simpa [Table.Keyed, pairAction] using differ

theorem pairAction_accepted (opposed : Opposed digest deny allow) :
    (pairAction digest actionId deny allow).validateTwins digest = .ok () := by
  have keyed := @pair_keyed digest actionId deny allow opposed
  have denyFound : Table.latest ExecutionCase.caseId (pairAction digest actionId deny allow).cases
      (identified digest actionId 1 deny).caseId = some (identified digest actionId 1 deny) :=
    keyed.latest_mem (by simp [pairAction])
  have allowFound : Table.latest ExecutionCase.caseId (pairAction digest actionId deny allow).cases
      (identified digest actionId 1 allow).caseId = some (identified digest actionId 1 allow) :=
    keyed.latest_mem (by simp [pairAction])
  have twin : validateTwin digest (pairAction digest actionId deny allow).cases
      (sealedTwin digest (identified digest actionId 1 deny) (identified digest actionId 1 allow)) = .ok () := by
    unfold validateTwin
    refine bind_eq_ok.mpr ⟨_, orRaise_eq_ok.mpr denyFound, bind_eq_ok.mpr ⟨_, orRaise_eq_ok.mpr allowFound, ?_⟩⟩
    refine bind_eq_ok.mpr ⟨(), require_eq_ok.mpr ⟨opposed.denied, opposed.control⟩, ?_⟩
    refine bind_eq_ok.mpr ⟨(), require_eq_ok.mpr rfl, ?_⟩
    refine bind_eq_ok.mpr ⟨(), require_eq_ok.mpr ⟨opposed.effects, rfl⟩, ?_⟩
    refine bind_eq_ok.mpr ⟨(), require_eq_ok.mpr ⟨rfl, ?_, fun _ => opposed.invariants⟩, require_eq_ok.mpr rfl⟩
    intro conditional
    cases conditional
  have denies : denyCaseIds (pairAction digest actionId deny allow) = [(identified digest actionId 1 deny).caseId] := by
    simp [denyCaseIds, pairAction, identified, opposed.denied, opposed.allowed, opposed.plain.1]
  have controls : controlCaseIds (pairAction digest actionId deny allow) =
      [(identified digest actionId 1 allow).caseId] := by
    simp [controlCaseIds, pairAction, identified, opposed.challenged, opposed.control]
  unfold ExecutionAction.validateTwins
  refine bind_eq_ok.mpr ⟨(), require_eq_ok.mpr ⟨keyed, by simp [pairAction]⟩, ?_⟩
  refine bind_eq_ok.mpr ⟨(), forM_eq_ok.mpr ?_, ?_⟩
  · intro case member
    have listed : case = identified digest actionId 1 deny ∨ case = identified digest actionId 1 allow := by
      simpa [pairAction] using member
    rcases listed with rfl | rfl
    · exact require_eq_ok.mpr rfl
    · exact require_eq_ok.mpr rfl
  refine bind_eq_ok.mpr ⟨(), forM_eq_ok.mpr ?_, ?_⟩
  · intro other member
    have same := List.mem_singleton.mp member
    rw [same]
    exact twin
  refine bind_eq_ok.mpr ⟨(), require_eq_ok.mpr ?_, require_eq_ok.mpr ?_⟩
  · rw [denies]
    exact ⟨rfl, List.Subset.refl _, List.Subset.refl _⟩
  · rw [controls]
    exact ⟨List.Subset.refl _, List.Subset.refl _⟩

/-- A denied case with its control makes an accepted request. -/
theorem pairRequest_accepted (opposed : Opposed digest deny allow)
    (denyValid : validateActionCase digest deny = .ok ()) (allowValid : validateActionCase digest allow = .ok ()) :
    (pairRequest digest actionId deny allow change).validate digest = .ok () := by
  have keyed := @pair_keyed digest actionId deny allow opposed
  have cases' : (pairRequest digest actionId deny allow change).cases =
      [identified digest actionId 1 deny, identified digest actionId 1 allow] := rfl
  have sources : allow.sourceFingerprint = deny.sourceFingerprint :=
    congrArg TwinInvariants.sourceFingerprint opposed.invariants.symm
  have configs : allow.configFingerprint = deny.configFingerprint :=
    congrArg TwinInvariants.configFingerprint opposed.invariants.symm
  have actions : ((pairRequest digest actionId deny allow change).actions.forM fun action => do
      action.cases.forM (validateActionCase digest)
      action.validateTwins digest) = .ok () := by
    apply forM_eq_ok.mpr
    intro action member
    rw [List.mem_singleton.mp member]
    refine bind_eq_ok.mpr ⟨(), forM_eq_ok.mpr ?_, pairAction_accepted opposed⟩
    intro case inside
    have listed : case = identified digest actionId 1 deny ∨ case = identified digest actionId 1 allow := by
      simpa [pairAction] using inside
    rcases listed with rfl | rfl
    · exact identified_valid denyValid
    · exact identified_valid allowValid
  have accounts : ∃ identities, [identified digest actionId 1 deny, identified digest actionId 1 allow].foldlM
      (validateCaseFacts (pairRequest digest actionId deny allow change)) [] = .ok identities := by
    have walked := opposed.accounts
    rw [List.foldlM_append] at walked
    cases first : (identityFacts deny).foldlM setDefault [] with
    | error raised =>
      rw [first] at walked
      cases walked
    | ok middle =>
      rw [first] at walked
      cases second : (identityFacts allow).foldlM setDefault middle with
      | error raised =>
        have failed : (identityFacts allow).foldlM setDefault middle = .error raised := second
        simp [bind, Except.bind, failed, Except.isOk, Except.toBool] at walked
      | ok identities =>
        refine ⟨identities, ?_⟩
        rw [List.foldlM_cons]
        refine bind_eq_ok.mpr ⟨middle, bind_eq_ok.mpr ⟨(), require_eq_ok.mpr ⟨rfl, rfl⟩, first⟩, ?_⟩
        rw [List.foldlM_cons]
        exact bind_eq_ok.mpr ⟨identities, bind_eq_ok.mpr ⟨(), require_eq_ok.mpr ⟨sources, configs⟩, second⟩, rfl⟩
  have project : (pairRequest digest actionId deny allow change).validateProject digest = .ok () := by
    unfold ExecutionRequest.validateProject
    refine bind_eq_ok.mpr ⟨(), require_eq_ok.mpr (by simp [pairRequest, plainRequest]), ?_⟩
    refine bind_eq_ok.mpr ⟨(), require_eq_ok.mpr ?_, ?_⟩
    · intro missing
      exact absurd missing opposed.sourced
    refine bind_eq_ok.mpr ⟨(), require_eq_ok.mpr (by simp [pairRequest, plainRequest]), ?_⟩
    refine bind_eq_ok.mpr ⟨(), require_eq_ok.mpr ?_, ?_⟩
    · intro _ case member proof inside
      rw [cases'] at member
      have listed : case = identified digest actionId 1 deny ∨ case = identified digest actionId 1 allow := by
        simpa using member
      rcases listed with rfl | rfl
      · exact opposed.recorded deny (by simp) proof inside
      · exact opposed.recorded allow (by simp) proof inside
    refine bind_eq_ok.mpr ⟨(), require_eq_ok.mpr (by simp [pairRequest, plainRequest]), ?_⟩
    refine bind_eq_ok.mpr ⟨(), require_eq_ok.mpr ?_, ?_⟩
    · rw [cases']
      exact keyed
    obtain ⟨identities, walked⟩ := accounts
    refine bind_eq_ok.mpr ⟨identities, walked, ?_⟩
    refine bind_eq_ok.mpr ⟨(), require_eq_ok.mpr ?_, require_eq_ok.mpr rfl⟩
    intro case member
    rw [cases'] at member
    have listed : case = identified digest actionId 1 deny ∨ case = identified digest actionId 1 allow := by
      simpa using member
    rcases listed with rfl | rfl
    · exact opposed.plain.1
    · exact opposed.plain.2
  have requirements : (pairRequest digest actionId deny allow change).requirementsMatchCases = .ok () := rfl
  unfold ExecutionRequest.validate
  exact bind_eq_ok.mpr ⟨(), actions, bind_eq_ok.mpr ⟨(), project, requirements⟩⟩

end Accepted

/-- A proof about the resource, under the fingerprint of its own facts. -/
def sealedProof (digest : Digest) (resourceId : String) (level : ProofLevel) (rule : ProofRule)
    (reference : ProofReference) : EffectProofRequirement :=
  let proof : EffectProofRequirement :=
    { effectId := "effect"
      level := level
      rule := rule
      bindingFingerprint := level.value
      resourceId := resourceId
      reference := reference
      proofFingerprint := "" }
  { proof with proofFingerprint := contentHash digest "EffectProofRequirement" (.dict proof.facts) }

def decisiveProof (digest : Digest) (resourceId : String) : EffectProofRequirement :=
  sealedProof digest resourceId .VERDICT_REQUIRED .REGISTERED_EFFECT
    (.REGISTERED_OBSERVER "source" "descriptor" "observer")

def supportingProof (digest : Digest) (resourceId : String) : EffectProofRequirement :=
  sealedProof digest resourceId .SUPPORTING .RECORDED_SUPPORT
    (.RECORDED_OBSERVATION "recording" 1 "draft" "step" "template")

def sampleRule (intentId : String) (expectation : Expectation) (relation : Relation) (subject : String) :
    FrozenPermission where
  intentId := intentId
  revision := 1
  intentHash := "hash"
  expectation := expectation
  relation := relation
  subjectActorId := subject
  subjectActorRevision := 1
  resourceOwnerActorId := "owner"
  resourceOwnerActorRevision := 1
  protectedEffectIds := ["effect"]
  conditions := none

def sampleCase (rule : FrozenPermission) (roles : List CaseRole) (resourceId : String)
    (proofs : List EffectProofRequirement) : ExecutionCase where
  caseId := ""
  roles := roles
  permission := rule
  subjectTestIdentityId := some rule.subjectActorId
  subjectActorId := rule.subjectActorId
  subjectActorRevision := 1
  subjectIdentityFingerprint := some rule.subjectActorId
  resourceOwnerTestIdentityId := "owner"
  resourceOwnerActorId := "owner"
  resourceOwnerActorRevision := 1
  ownerIdentityFingerprint := "owner"
  resourceId := resourceId
  resourceBindingFingerprint := "binding"
  execution := { flowId := "flow", flowSha256 := "sha256", executionBindingFingerprint := "execution" }
  protectedEffectIds := ["effect"]
  proofRequirements := proofs
  recovery := none
  sourceFingerprint := some "source"
  configFingerprint := "config"

/-- Another account may not do what the owner may. -/
def deniedCase (resourceId : String) (proofs : List EffectProofRequirement) : ExecutionCase :=
  sampleCase (sampleRule "intent_deny" .DENY .OTHER_ROLE "member") [.DENY_CHALLENGE] resourceId proofs

def ownersCase (resourceId : String) (proofs : List EffectProofRequirement) : ExecutionCase :=
  sampleCase (sampleRule "intent_allow" .ALLOW .OWNS "owner") [.ALLOW_CONTROL] resourceId proofs

/-- Proofs of the one effect about the resource, of which one is decisive. -/
structure SampleProofs (digest : Digest) (resourceId : String) (proofs : List EffectProofRequirement) : Prop where
  valid : proofs.forM (·.validateProof digest) = .ok ()
  about : ∀ proof ∈ proofs, proof.resourceId = resourceId ∧ proof.effectId = "effect"
  distinct : (proofs.map fun proof => (proof.effectId, proof.level)).Nodup
  decisive : SameSet (verdictEffects proofs) ["effect"]
  recorded : ∀ proof ∈ proofs, proof.rule ≠ .HTTP_ENTITY_QUERY

section Samples

variable {digest : Digest} {resourceId : String} {proofs : List EffectProofRequirement}

theorem sealedProof_valid {level : ProofLevel} {rule : ProofRule} {reference : ProofReference}
    (kind : referenceKindMatches rule reference = true) (support : rule = .RECORDED_SUPPORT → level = .SUPPORTING) :
    (sealedProof digest resourceId level rule reference).validateProof digest = .ok () := by
  unfold EffectProofRequirement.validateProof
  refine bind_eq_ok.mpr ⟨(), require_eq_ok.mpr kind, ?_⟩
  exact bind_eq_ok.mpr ⟨(), require_eq_ok.mpr support, require_eq_ok.mpr rfl⟩

theorem decisiveProof_valid : (decisiveProof digest resourceId).validateProof digest = .ok () := by
  apply sealedProof_valid rfl
  intro support
  cases support

theorem supportingProof_valid : (supportingProof digest resourceId).validateProof digest = .ok () :=
  sealedProof_valid rfl fun _ => rfl

theorem sample_decisive : SampleProofs digest resourceId [decisiveProof digest resourceId] where
  valid := forM_eq_ok.mpr (by simp [decisiveProof_valid])
  about := by simp [decisiveProof, sealedProof]
  distinct := by simp
  decisive := by simp [verdictEffects, decisiveProof, sealedProof, SameSet]
  recorded := by simp [decisiveProof, sealedProof]

theorem sample_supported :
    SampleProofs digest resourceId [supportingProof digest resourceId, decisiveProof digest resourceId] where
  valid := forM_eq_ok.mpr (by simp [decisiveProof_valid, supportingProof_valid])
  about := by simp [decisiveProof, supportingProof, sealedProof]
  distinct := by simp [decisiveProof, supportingProof, sealedProof]
  decisive := by simp [verdictEffects, decisiveProof, supportingProof, sealedProof, SameSet]
  recorded := by simp [decisiveProof, supportingProof, sealedProof]

theorem sampleCase_valid {intentId subject : String} {expectation : Expectation} {relation : Relation}
    {roles : List CaseRole} (sample : SampleProofs digest resourceId proofs)
    (semantics : (sampleRule intentId expectation relation subject).validateSemantics = .ok ())
    (sorted : roles.Nodup ∧ sortedBy CaseRole.value roles = roles)
    (challenged : expectation = .DENY ↔ roles = [.DENY_CHALLENGE]) (owns : subject = "owner" ↔ relation = .OWNS) :
    validateActionCase digest (sampleCase (sampleRule intentId expectation relation subject) roles resourceId proofs) =
      .ok () := by
  unfold validateActionCase
  refine bind_eq_ok.mpr ⟨(), semantics, bind_eq_ok.mpr ⟨(), sample.valid, ?_⟩⟩
  have effects : sortedSet ["effect"] = ["effect"] := by decide
  unfold ExecutionCase.validateCase
  simp only [bind_eq_ok, require_eq_ok]
  refine ⟨(), ?_, (), ?_, (), ?_, (), sorted, (), challenged, (), ?_, (), ?_, (), ?_, (), ?_, (), ?_, (), ?_, (),
    sample.distinct, sample.decisive⟩
  · simp [sampleCase]
  · simp [sampleCase, sampleRule, anonymousCondition]
  · simp [sampleCase]
  · simp [sampleCase, sampleRule]
  · simpa [sampleCase, sampleRule] using owns
  · simp [sampleCase, sampleRule]
  · simp [sampleCase, sampleRule, effects]
  · simp [sampleCase, sampleRule]
  · simpa [sampleCase] using sample.about

theorem deniedCase_valid (sample : SampleProofs digest resourceId proofs) :
    validateActionCase digest (deniedCase resourceId proofs) = .ok () :=
  sampleCase_valid sample (by decide) (by decide) (by decide) (by decide)

theorem ownersCase_valid (sample : SampleProofs digest resourceId proofs) :
    validateActionCase digest (ownersCase resourceId proofs) = .ok () :=
  sampleCase_valid sample (by decide) (by decide) (by decide) (by decide)

theorem sample_opposed (sample : SampleProofs digest resourceId proofs) :
    Opposed digest (deniedCase resourceId proofs) (ownersCase resourceId proofs) where
  denied := rfl
  allowed := rfl
  challenged := rfl
  control := by simp [ownersCase, sampleCase]
  effects := rfl
  invariants := rfl
  distinct := by simp [deniedCase, ownersCase, sampleCase, sampleRule]
  sourced := by simp [deniedCase, sampleCase]
  plain := ⟨rfl, rfl⟩
  recorded := by
    intro case listed proof member
    rcases List.mem_pair.mp listed with rfl | rfl
    · exact sample.recorded proof member
    · exact sample.recorded proof member
  accounts := rfl

end Samples

end Jiejian.Protocol.Pairs
