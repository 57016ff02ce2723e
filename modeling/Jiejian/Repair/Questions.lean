import Jiejian.Protocol.Pairs
import Jiejian.Protocol.Separation
import Jiejian.Repair.Standards

namespace Jiejian.Repair.Questions

open Library Library.Document Library.Outcome Library.Schema Library.Sorting Errors
open Protocol.Codec Protocol.Cases Protocol.Actions Protocol.Pairs Protocol.Requests Protocol.Separation Protocol.Sources
open Protocol.Runtime Standards

theorem invocationKind_injective : Function.Injective InvocationKind.value := by
  intro left right same
  cases left <;> cases right <;> simp [InvocationKind.value] at same ⊢

theorem batchEffectExpectation_injective : Function.Injective BatchEffectExpectation.value := by
  intro left right same
  cases left <;> cases right <;> simp [BatchEffectExpectation.value] at same ⊢

theorem separating_identity : Separating RepairCaseIdentity.dump := by
  intro left right same
  have occurrences : left.occurrenceId = right.occurrenceId :=
    separating_str.optional same "occurrence_id" (by simp) (by simp)
  have kinds : left.invocationKind = right.invocationKind :=
    (separating_word invocationKind_injective).optional same "invocation_kind" (by simp) (by simp)
  have batches : left.batchEffectExpectation = right.batchEffectExpectation :=
    (separating_word batchEffectExpectation_injective).optional same "batch_effect_expectation"
      (by simp) (by simp)
  have actions : left.actionId = right.actionId :=
    separating_str.field same "action_id" (by simp) (by simp)
  have revisions : left.actionRevision = right.actionRevision :=
    separating_natural.field same "action_revision" (by simp [natural]) (by simp [natural])
  have semantics : left.actionSemanticFingerprint = right.actionSemanticFingerprint :=
    separating_str.field same "action_semantic_fingerprint" (by simp) (by simp)
  have permissions : left.permission = right.permission :=
    separating_permission.field same "permission" (by simp) (by simp)
  have subjects : left.subjectTestIdentityId = right.subjectTestIdentityId :=
    separating_nullable_str.field same "subject_test_identity_id" (by simp) (by simp)
  have subjectActors : left.subjectActorId = right.subjectActorId :=
    separating_str.field same "subject_actor_id" (by simp) (by simp)
  have subjectRevisions : left.subjectActorRevision = right.subjectActorRevision :=
    separating_natural.field same "subject_actor_revision" (by simp [natural]) (by simp [natural])
  have subjectAccounts : left.subjectIdentityFingerprint = right.subjectIdentityFingerprint :=
    separating_nullable_str.field same "subject_identity_fingerprint" (by simp) (by simp)
  have owners : left.resourceOwnerTestIdentityId = right.resourceOwnerTestIdentityId :=
    separating_str.field same "resource_owner_test_identity_id" (by simp) (by simp)
  have ownerActors : left.resourceOwnerActorId = right.resourceOwnerActorId :=
    separating_str.field same "resource_owner_actor_id" (by simp) (by simp)
  have ownerRevisions : left.resourceOwnerActorRevision = right.resourceOwnerActorRevision :=
    separating_natural.field same "resource_owner_actor_revision" (by simp [natural]) (by simp [natural])
  have ownerAccounts : left.ownerIdentityFingerprint = right.ownerIdentityFingerprint :=
    separating_str.field same "owner_identity_fingerprint" (by simp) (by simp)
  have resources : left.resourceId = right.resourceId :=
    separating_str.field same "resource_id" (by simp) (by simp)
  have effects : left.protectedEffectIds = right.protectedEffectIds :=
    separating_strings.field same "protected_effect_ids" (by simp) (by simp)
  cases left
  cases right
  simp_all

/-- Equal fingerprints are made from equal identities. -/
theorem fingerprint_injective {digest : Digest} {left right : RepairCaseIdentity}
    (same : left.fingerprint digest = right.fingerprint digest) : left = right :=
  separating_identity left right (contentHash_injective same)

/-- A case with its action, in the bundle it was prepared in. -/
structure PreparedCase where
  action : ExecutionAction
  case : ExecutionCase
  bundle : CheckRuntimeBundle

namespace PreparedCase

def identity (digest : Digest) (prepared : PreparedCase) : Except Raised String :=
  (repairCaseIdentity prepared.action prepared.case prepared.bundle).map fun identity => identity.fingerprint digest

def standards (digest : Digest) (prepared : PreparedCase) : Except Raised (List String) :=
  repairEvidenceStandards digest prepared.action prepared.case prepared.bundle

def configured (prepared : PreparedCase) : Option CheckActionConfig :=
  configuredAction prepared.bundle prepared.action

/-- How the action names the object it creates, when it creates one. -/
def created (prepared : PreparedCase) : Option Json :=
  prepared.configured.bind (·.createdResource)

def decisive (prepared : PreparedCase) : List EffectProofRequirement :=
  decisiveProofs prepared.case

/-- The configuration of a proof, under the fingerprint of its binding. -/
def proofFor (prepared : PreparedCase) (requirement : EffectProofRequirement) : Option CheckProofConfig :=
  prepared.configured.bind fun configured =>
    Table.latest CheckProofConfig.bindingFingerprint configured.proofs requirement.bindingFingerprint

def sourcesFor (prepared : PreparedCase) (requirement : EffectProofRequirement) : List FrozenProofSource :=
  effectSources prepared.bundle prepared.action requirement.effectId

def verificationOf (prepared : PreparedCase) (identityId : String) : Option (Option CheckIdentityVerification) :=
  (Table.latest CheckIdentity.identityId prepared.bundle.identities identityId).map (·.verification)

end PreparedCase

/-- A file source without the way its reference came in. -/
def withoutOrigin : SourceDetail → SourceDetail
  | .REFERENCE_FILE file => .REFERENCE_FILE { file with referenceOrigin := none }
  | detail => detail

/-- A configuration without its bindings, its files and the revision of its action. -/
def withoutPreparation (config : ProofSourceConfig) : ProofSourceConfig :=
  { config with
    actionRevision := 0
    resourceBindingId := ""
    readScopeId := none
    sourceFiles := []
    detail := withoutOrigin config.detail }

/-- Sources that read the same, whatever their ids, revisions, preflights and files. -/
structure SameSource (left right : FrozenProofSource) : Prop where
  config : withoutPreparation left.config = withoutPreparation right.config
  contract : left.contract = right.contract
  owner : left.ownerSubjectId = right.ownerSubjectId
  roles : left.identityRoles = right.identityRoles

/-- A proof configuration without its labels, its binding and the ids of its source. -/
def withoutBinding (proof : CheckProofConfig) : CheckProofConfig :=
  { proof with
    businessLabel := ""
    bindingFingerprint := ""
    observerId := none
    descriptorFingerprint := none
    sourceLabel := ""
    auxiliarySources := [] }

/-- One decisive proof of two prepared cases, read in the same way. -/
structure SameProof (left right : PreparedCase) (proof other : EffectProofRequirement) : Prop where
  effect : proof.effectId = other.effectId
  level : proof.level = other.level
  config : (left.proofFor proof).map withoutBinding = (right.proofFor other).map withoutBinding
  sources : List.Forall₂ SameSource (left.sourcesFor proof) (right.sourcesFor other)
  sealed : ∀ config ∈ left.proofFor proof, ∀ config' ∈ right.proofFor other,
    ∀ source ∈ left.sourcesFor proof, ∀ source' ∈ right.sourcesFor other,
      (some source.sourceFingerprint = config.descriptorFingerprint ↔
        some source'.sourceFingerprint = config'.descriptorFingerprint)
  plain : left.bundle.proofSources = [] → ∀ config ∈ left.proofFor proof, ∀ config' ∈ right.proofFor other,
    config.descriptorFingerprint = config'.descriptorFingerprint ∧
      observerDump left.bundle config = observerDump right.bundle config'

/-- Two preparations of one question. Recordings, flows, sources, bindings, files and labels may all
differ, and so may the object that was there for the demonstration when the action creates its own. -/
structure TechnicalVariant (left right : PreparedCase) : Prop where
  identity : { caseIdentity left.action left.case left.bundle with resourceId := "" } =
    { caseIdentity right.action right.case right.bundle with resourceId := "" }
  created : left.configured.map (·.createdResource) = right.configured.map (·.createdResource)
  resource : left.created = none → left.case.resourceId = right.case.resourceId
  accounts : ∀ identityId, left.verificationOf identityId = right.verificationOf identityId
  adopted : left.bundle.proofSources = [] ↔ right.bundle.proofSources = []
  proofs : List.Forall₂ (SameProof left right) left.decisive right.decisive

/-- The source is read under the name of the object that was there for the demonstration. -/
def namesDemonstration : SourceDetail → Bool
  | .CREATED_OBJECT_RECORDS => false
  | _ => true

/-- A decisive proof of the case names the demonstrated object. -/
def NamesDemonstration (prepared : PreparedCase) : Prop :=
  ∃ proof ∈ prepared.decisive, ∃ source ∈ prepared.sourcesFor proof, namesDemonstration source.config.detail = true

def SameMutation (left right : FieldMutationRequirement) : Prop :=
  left.path = right.path ∧ left.operation = right.operation ∧
    left.expectedValue.canonical = right.expectedValue.canonical

/-- Two configurations that compare the same fields of the same effect. -/
structure SameComparison (left right : CheckProofConfig) : Prop where
  effect : left.effectId = right.effectId
  kind : left.effectKind = right.effectKind
  state : left.expectedState = right.expectedState
  mutation : Option.Rel SameMutation left.fieldMutation right.fieldMutation
  projection : sortedBy id left.protectedProjection = sortedBy id right.protectedProjection

/-- Every decisive comparison of one case is made by the other. -/
def Compares (left right : PreparedCase) : Prop :=
  ∀ proof ∈ left.decisive, ∀ config ∈ left.proofFor proof,
    ∃ other ∈ right.decisive, ∃ config' ∈ right.proofFor other, SameComparison config config'

/-- What a repair must not change about a case. -/
structure SameQuestion (left right : PreparedCase) : Prop where
  subject : left.case.subjectTestIdentityId = right.case.subjectTestIdentityId ∧
    left.case.subjectActorId = right.case.subjectActorId ∧
    left.case.subjectActorRevision = right.case.subjectActorRevision ∧
    left.case.subjectIdentityFingerprint = right.case.subjectIdentityFingerprint
  owner : left.case.resourceOwnerTestIdentityId = right.case.resourceOwnerTestIdentityId ∧
    left.case.resourceOwnerActorId = right.case.resourceOwnerActorId ∧
    left.case.resourceOwnerActorRevision = right.case.resourceOwnerActorRevision ∧
    left.case.ownerIdentityFingerprint = right.case.ownerIdentityFingerprint
  permission : left.case.permission = right.case.permission
  effects : left.case.protectedEffectIds = right.case.protectedEffectIds
  resource : left.created = none → right.created = none → left.case.resourceId = right.case.resourceId
  compared : Compares left right ∧ Compares right left

section Variants

variable {digest : Digest} {left right : PreparedCase}

theorem standardConfig_withoutPreparation (config : ProofSourceConfig) :
    standardConfig (withoutPreparation config) = standardConfig config := by
  have fields : (withoutPreparation config).methodFields.filter (fun field => field.1 ≠ "reference_origin") =
      config.methodFields.filter fun field => field.1 ≠ "reference_origin" := by
    unfold ProofSourceConfig.methodFields withoutPreparation
    cases config.detail <;> simp [withoutOrigin, SourceDetail.sourceKind, SourceDetail.fields]
  unfold standardConfig
  rw [fields]
  rfl

theorem SameSource.standardConfig {source other : FrozenProofSource} (same : SameSource source other) :
    standardConfig source.config = standardConfig other.config := by
  rw [← standardConfig_withoutPreparation, same.config, standardConfig_withoutPreparation]

theorem SameSource.detail {source other : FrozenProofSource} (same : SameSource source other) :
    withoutOrigin source.config.detail = withoutOrigin other.config.detail :=
  congrArg ProofSourceConfig.detail same.config

theorem SameSource.claims {source other : FrozenProofSource} (same : SameSource source other) :
    source.config.identityClaims = other.config.identityClaims :=
  congrArg (fun config => config.identityClaims) same.config

theorem missingReference_withoutOrigin (detail : SourceDetail) :
    missingReference (withoutOrigin detail) = missingReference detail := by
  cases detail <;> rfl

theorem isReferenceFile_withoutOrigin (detail : SourceDetail) :
    isReferenceFile (withoutOrigin detail) = isReferenceFile detail := by
  cases detail <;> rfl

theorem namesDemonstration_withoutOrigin (detail : SourceDetail) :
    namesDemonstration (withoutOrigin detail) = namesDemonstration detail := by
  cases detail <;> rfl

theorem resourceFields_withoutOrigin (configured : CheckActionConfig) (case : ExecutionCase) (detail : SourceDetail) :
    resourceFields configured case (withoutOrigin detail) = resourceFields configured case detail := by
  cases detail <;> rfl

/-- The resource of a standard depends on the object only where the source names it. -/
theorem resourceFields_congr {configured configured' : CheckActionConfig} {case case' : ExecutionCase}
    {detail : SourceDetail} (created : configured.createdResource = configured'.createdResource)
    (same : case.resourceId = case'.resourceId ∨ namesDemonstration detail = false) :
    resourceFields configured case detail = resourceFields configured' case' detail := by
  cases detail with
  | CREATED_OBJECT_RECORDS => simp only [resourceFields, created]
  | _ =>
    rcases same with same | same
    · simp only [resourceFields, same]
    · cases same

theorem TechnicalVariant.sameCreated (variant : TechnicalVariant left right) : left.created = right.created := by
  have created := variant.created
  unfold PreparedCase.created
  cases here : left.configured with
  | none =>
    cases there : right.configured with
    | none => rfl
    | some other => simp [here, there] at created
  | some configured =>
    cases there : right.configured with
    | none => simp [here, there] at created
    | some other => simpa [here, there] using created

/-- The identities of two preparations are equal. -/
theorem TechnicalVariant.identities (variant : TechnicalVariant left right) :
    caseIdentity left.action left.case left.bundle = caseIdentity right.action right.case right.bundle := by
  have resources : identityResource left.bundle left.action left.case =
      identityResource right.bundle right.action right.case := by
    have created := variant.sameCreated
    unfold identityResource
    cases here : left.created with
    | none =>
      have left' : (configuredAction left.bundle left.action).bind (·.createdResource) = none := here
      have right' : (configuredAction right.bundle right.action).bind (·.createdResource) = none :=
        created.symm.trans here
      rw [left', right', variant.resource here]
    | some object =>
      have left' : (configuredAction left.bundle left.action).bind (·.createdResource) = some object := here
      have right' : (configuredAction right.bundle right.action).bind (·.createdResource) = some object :=
        created.symm.trans here
      rw [left', right']
      rfl
  have others := variant.identity
  calc caseIdentity left.action left.case left.bundle
      = { { caseIdentity left.action left.case left.bundle with resourceId := "" } with
          resourceId := identityResource left.bundle left.action left.case } := rfl
    _ = { { caseIdentity right.action right.case right.bundle with resourceId := "" } with
          resourceId := identityResource right.bundle right.action right.case } := by rw [others, resources]
    _ = caseIdentity right.action right.case right.bundle := rfl

theorem TechnicalVariant.identityStandard_eq (variant : TechnicalVariant left right) {source other : FrozenProofSource}
    (same : SameSource source other) (claim : ManagedIdentityClaim) :
    identityStandard left.bundle source claim = identityStandard right.bundle other claim := by
  have accounts := variant.accounts claim.identityId
  unfold PreparedCase.verificationOf at accounts
  have roles : source.roleOf claim.identityId = other.roleOf claim.identityId := by
    unfold FrozenProofSource.roleOf
    rw [same.roles]
  unfold identityStandard
  cases here : Table.latest CheckIdentity.identityId left.bundle.identities claim.identityId with
  | none =>
    cases there : Table.latest CheckIdentity.identityId right.bundle.identities claim.identityId with
    | none => rfl
    | some actual => simp [here, there] at accounts
  | some actual =>
    cases there : Table.latest CheckIdentity.identityId right.bundle.identities claim.identityId with
    | none => simp [here, there] at accounts
    | some actual' =>
      have verifications : actual.verification = actual'.verification := by simpa [here, there] using accounts
      simp only [verifications, roles]

/-- Proof configurations that differ in their binding only. -/
theorem withoutBinding_eq {config config' : CheckProofConfig} (same : withoutBinding config = withoutBinding config') :
    config.effectId = config'.effectId ∧ config.effectKind = config'.effectKind ∧
    config.expectedState = config'.expectedState ∧ config.fieldMutation = config'.fieldMutation ∧
    config.protectedProjection = config'.protectedProjection ∧ config.rule = config'.rule ∧
    config.entityQuery = config'.entityQuery ∧ config.observationIdentityId = config'.observationIdentityId ∧
    config.request = config'.request ∧ config.exclusiveResourceWindow = config'.exclusiveResourceWindow := by
  simpa [withoutBinding] using same

/-- The standard read from adopted sources is the same, unless it names the demonstrated object. -/
theorem TechnicalVariant.sourceStandard_eq (variant : TechnicalVariant left right)
    {proof other : EffectProofRequirement} (same : SameProof left right proof other)
    {configured configured' : CheckActionConfig} (created : configured.createdResource = configured'.createdResource)
    {config config' : CheckProofConfig} (found : left.proofFor proof = some config)
    (found' : right.proofFor other = some config')
    (object : left.case.resourceId = right.case.resourceId ∨
      ∀ source ∈ left.sourcesFor proof, namesDemonstration source.config.detail = false) :
    sourceStandard digest left.action left.case left.bundle configured proof config =
      sourceStandard digest right.action right.case right.bundle configured' other config' := by
  have configs := same.config
  rw [found, found', Option.map_some, Option.map_some] at configs
  obtain ⟨effects, kinds, states, mutations, projections, rules, -, -, -, windows⟩ :=
    withoutBinding_eq (Option.some.inj configs)
  have owners : left.case.resourceOwnerTestIdentityId = right.case.resourceOwnerTestIdentityId :=
    congrArg RepairCaseIdentity.resourceOwnerTestIdentityId variant.identity
  have sources := same.sources
  have sealed := same.sealed config (by simp [found]) config' (by simp [found'])
  unfold PreparedCase.sourcesFor at sources sealed object
  unfold sourceStandard
  cases here : effectSources left.bundle left.action proof.effectId with
  | nil =>
    rw [here] at sources
    rw [List.forall₂_nil_left_iff.mp sources]
  | cons source rest =>
    rw [here] at sources sealed object
    cases there : effectSources right.bundle right.action other.effectId with
    | nil =>
      rw [there] at sources
      cases sources
    | cons source' rest' =>
      rw [there] at sources sealed
      obtain ⟨alike, later⟩ := List.forall₂_cons.mp sources
      cases rest with
      | cons second more =>
        cases later
        rfl
      | nil =>
        cases later
        have attached := sealed source (by simp) source' (by simp)
        have identities : (sortedBy ManagedIdentityClaim.identityId source.config.identityClaims).mapM
            (identityStandard left.bundle source) =
            (sortedBy ManagedIdentityClaim.identityId source'.config.identityClaims).mapM
              (identityStandard right.bundle source') := by
          rw [alike.claims, funext (variant.identityStandard_eq alike)]
        have missing : missingReference source.config.detail = missingReference source'.config.detail := by
          rw [← missingReference_withoutOrigin, alike.detail, missingReference_withoutOrigin]
        have reference : isReferenceFile source.config.detail = isReferenceFile source'.config.detail := by
          rw [← isReferenceFile_withoutOrigin, alike.detail, isReferenceFile_withoutOrigin]
        have resources : resourceFields configured left.case source.config.detail =
            resourceFields configured' right.case source'.config.detail := by
          rw [← resourceFields_withoutOrigin configured' right.case source'.config.detail, ← alike.detail,
            resourceFields_withoutOrigin]
          apply resourceFields_congr created
          exact object.imp_right fun unnamed => unnamed source (by simp)
        have payloads : ∀ items resource, sourcePayload left.case proof config source items resource =
            sourcePayload right.case other config' source' items resource := by
          intro items resource
          simp only [sourcePayload, mutationField, effects, kinds, states, mutations, projections, rules, windows,
            owners, same.level, alike.contract, alike.owner, alike.standardConfig, reference]
        simp only [require, attached, identities, missing, resources, payloads]

theorem TechnicalVariant.evidenceStandard_eq (variant : TechnicalVariant left right)
    {proof other : EffectProofRequirement} (same : SameProof left right proof other)
    {configured configured' : CheckActionConfig} (here : left.configured = some configured)
    (there : right.configured = some configured')
    (object : left.case.resourceId = right.case.resourceId ∨
      ∀ source ∈ left.sourcesFor proof, namesDemonstration source.config.detail = false) :
    evidenceStandard digest left.action left.case left.bundle configured proof =
      evidenceStandard digest right.action right.case right.bundle configured' other := by
  have created : configured.createdResource = configured'.createdResource := by
    have both := variant.created
    simpa [here, there] using both
  have leftFound : left.proofFor proof =
      Table.latest CheckProofConfig.bindingFingerprint configured.proofs proof.bindingFingerprint := by
    simp [PreparedCase.proofFor, here]
  have rightFound : right.proofFor other =
      Table.latest CheckProofConfig.bindingFingerprint configured'.proofs other.bindingFingerprint := by
    simp [PreparedCase.proofFor, there]
  have configs := same.config
  unfold evidenceStandard
  cases found : left.proofFor proof with
  | none =>
    cases found' : right.proofFor other with
    | none =>
      rw [← leftFound, ← rightFound, found, found']
      rfl
    | some config' => simp [found, found'] at configs
  | some config =>
    cases found' : right.proofFor other with
    | none => simp [found, found'] at configs
    | some config' =>
      have alike : withoutBinding config = withoutBinding config' := by simpa [found, found'] using configs
      have standard : sourceStandard digest left.action left.case left.bundle configured proof config =
          sourceStandard digest right.action right.case right.bundle configured' other config' :=
        variant.sourceStandard_eq same created found found' object
      obtain ⟨effects, kinds, states, mutations, projections, rules, queries, observers, requests, windows⟩ :=
        withoutBinding_eq alike
      have accounts := variant.accounts config.observationIdentityId
      unfold PreparedCase.verificationOf at accounts
      rw [← leftFound, ← rightFound, found, found']
      simp only [orRaise, bind, Except.bind]
      rw [← observers]
      cases identity : Table.latest CheckIdentity.identityId left.bundle.identities config.observationIdentityId with
      | none =>
        cases identity' : Table.latest CheckIdentity.identityId right.bundle.identities config.observationIdentityId with
        | none => rfl
        | some actual' => simp [identity, identity'] at accounts
      | some actual =>
        cases identity' : Table.latest CheckIdentity.identityId right.bundle.identities config.observationIdentityId with
        | none => simp [identity, identity'] at accounts
        | some actual' =>
          have verifications : actual.verification = actual'.verification := by
            simpa [identity, identity'] using accounts
          have entities : entityFields config = entityFields config' := by
            unfold entityFields
            rw [rules, queries]
          by_cases plain : left.bundle.proofSources = []
          · obtain ⟨descriptors, reads⟩ := same.plain plain config (by simp [found]) config' (by simp [found'])
            have payloads : ∀ verification entity observer, plainPayload config verification entity observer =
                plainPayload config' verification entity observer := by
              intro verification entity observer
              simp only [plainPayload, mutationField, effects, kinds, states, mutations, projections, rules, windows,
                observers, requests, descriptors]
            simp only [rules, verifications, plain, variant.adopted.mp plain, entities, reads, payloads, standard]
          · have plain' : right.bundle.proofSources ≠ [] := fun empty => plain (variant.adopted.mpr empty)
            simp only [rules, verifications, standard, List.isEmpty_iff, plain, plain', if_false]

/-- The standards of a configured action. -/
theorem standards_of_configured {prepared : PreparedCase} {configured : CheckActionConfig}
    (here : prepared.configured = some configured) :
    prepared.standards digest = (prepared.decisive.mapM
      (evidenceStandard digest prepared.action prepared.case prepared.bundle configured) >>= fun standards => do
        require (standards ≠ [] ∧ standards.Nodup) (.ValueError "repair decisive standards missing or duplicated")
        return sortedBy id standards) := by
  have found : configuredAction prepared.bundle prepared.action = some configured := here
  unfold PreparedCase.standards repairEvidenceStandards
  rw [found]
  rfl

theorem standards_of_unconfigured {prepared : PreparedCase} (here : prepared.configured = none) :
    prepared.standards digest = .error .StopIteration := by
  have missing : configuredAction prepared.bundle prepared.action = none := here
  unfold PreparedCase.standards repairEvidenceStandards
  rw [missing]
  rfl

/-- The standards of two preparations are the same, unless they name the demonstrated object. -/
theorem TechnicalVariant.standards_eq (variant : TechnicalVariant left right)
    (object : left.case.resourceId = right.case.resourceId ∨ ¬ NamesDemonstration left) :
    left.standards digest = right.standards digest := by
  have created := variant.created
  cases here : left.configured with
  | none =>
    cases there : right.configured with
    | none => rw [standards_of_unconfigured here, standards_of_unconfigured there]
    | some configured' => simp [here, there] at created
  | some configured =>
    cases there : right.configured with
    | none => simp [here, there] at created
    | some configured' =>
      have passes : left.decisive.mapM (evidenceStandard digest left.action left.case left.bundle configured) =
          right.decisive.mapM (evidenceStandard digest right.action right.case right.bundle configured') := by
        apply mapM_congr
        have listed := (List.forall₂_and_left _ _).mpr ⟨fun proof member => member, variant.proofs⟩
        refine listed.imp ?_
        intro proof other alike
        apply variant.evidenceStandard_eq alike.2 here there
        apply object.imp_right
        intro unnamed source member
        by_contra named
        exact unnamed ⟨proof, alike.1, source, member, by simpa using named⟩
      rw [standards_of_configured here, standards_of_configured there, passes]

theorem mutationOperation_injective : Function.Injective MutationOperation.value := by
  intro left right same
  cases left <;> cases right <;> simp [MutationOperation.value] at same ⊢

/-- Equal documents about mutations are about the same mutation. -/
theorem sameMutation {first second : Option FieldMutationRequirement}
    (same : (first.map (·.dump)).map Json.canonical = (second.map (·.dump)).map Json.canonical) :
    Option.Rel SameMutation first second := by
  cases first with
  | none =>
    cases second with
    | none => exact .none
    | some second => cases same
  | some first =>
    cases second with
    | none => cases same
    | some second =>
      have documents : first.dump.canonical = second.dump.canonical := by simpa using same
      have paths : first.path = second.path := separating_strings.field documents "path" (by simp) (by simp)
      have operations : first.operation = second.operation :=
        (separating_word mutationOperation_injective).field documents "operation" (by simp) (by simp)
      have values : first.expectedValue.canonical = second.expectedValue.canonical := by
        have fields := field_of_canonical_eq documents "expected_value"
        simpa [FieldMutationRequirement.dump] using fields
      exact .some ⟨paths, operations, values⟩

theorem fieldOf_entity {config : CheckProofConfig} {entity : List (String × Json)}
    (written : entityFields config = .ok entity) : fieldOf entity "field_mutation" = none := by
  unfold entityFields at written
  by_cases query : config.rule = .HTTP_ENTITY_QUERY
  · rw [if_pos query] at written
    obtain ⟨_, -, same⟩ := bind_eq_ok.mp written
    rw [← Except.ok.inj same]
    simp
  · rw [if_neg query] at written
    rw [← Except.ok.inj written]
    rfl

/-- The resource fields of a standard, for a source that names the object and for one that does not. -/
theorem resourceFields_eq_ok {configured : CheckActionConfig} {case : ExecutionCase} {detail : SourceDetail}
    {resource : List (String × Json)} (written : resourceFields configured case detail = .ok resource) :
    fieldOf resource "field_mutation" = none ∧
      (namesDemonstration detail = true → fieldOf resource "resource_id" = some (.str case.resourceId)) := by
  cases detail with
  | CREATED_OBJECT_RECORDS =>
    obtain ⟨_, -, same⟩ := bind_eq_ok.mp written
    rw [← Except.ok.inj same]
    simp [namesDemonstration]
  | _ =>
    rw [← Except.ok.inj written]
    simp

theorem plainPayload_compares {config config' : CheckProofConfig} {verification verification' : CheckIdentityVerification}
    {entity entity' : List (String × Json)} {observer observer' : Json} (written : entityFields config = .ok entity)
    (written' : entityFields config' = .ok entity')
    (same : (plainPayload config verification entity observer).canonical =
      (plainPayload config' verification' entity' observer').canonical) : SameComparison config config' where
  effect := separating_str.field same "effect_id" (by simp) (by simp)
  kind := separating_str.field same "effect_kind" (by simp) (by simp)
  state := separating_nullable_str.field same "expected_state" (by simp) (by simp)
  mutation := by
    apply sameMutation
    have fields := field_of_canonical_eq same "field_mutation"
    simpa [plainPayload, mutationField, fieldOf_entity written, fieldOf_entity written'] using fields
  projection := by
    have projections : config.protectedProjection = config'.protectedProjection :=
      separating_strings.field same "protected_projection" (by simp) (by simp)
    rw [projections]

theorem sourcePayload_compares {case case' : ExecutionCase} {proof other : EffectProofRequirement}
    {config config' : CheckProofConfig} {source source' : FrozenProofSource} {items items' : List Json}
    {resource resource' : List (String × Json)} (unchanged : fieldOf resource "field_mutation" = none)
    (unchanged' : fieldOf resource' "field_mutation" = none)
    (same : (sourcePayload case proof config source items resource).canonical =
      (sourcePayload case' other config' source' items' resource').canonical) : SameComparison config config' where
  effect := separating_str.field same "effect_id" (by simp) (by simp)
  kind := separating_str.field same "effect_kind" (by simp) (by simp)
  state := separating_nullable_str.field same "expected_state" (by simp) (by simp)
  mutation := by
    apply sameMutation
    have fields := field_of_canonical_eq same "field_mutation"
    simpa [sourcePayload, mutationField, unchanged, unchanged'] using fields
  projection := separating_strings.field same "protected_projection" (by simp) (by simp)

/-- What a computed standard was made from. -/
inductive Standard (digest : Digest) (prepared : PreparedCase) (proof : EffectProofRequirement)
    (config : CheckProofConfig) : String → Prop where
  | plain (verification : CheckIdentityVerification) (entity : List (String × Json)) (observer : Json)
      (unadopted : prepared.bundle.proofSources = []) (written : entityFields config = .ok entity) :
      Standard digest prepared proof config
        (contentHash digest "RepairEvidenceStandard" (plainPayload config verification entity observer))
  | source (configured : CheckActionConfig) (source : FrozenProofSource) (items : List Json)
      (resource : List (String × Json)) (listed : prepared.sourcesFor proof = [source])
      (written : resourceFields configured prepared.case source.config.detail = .ok resource) :
      Standard digest prepared proof config
        (contentHash digest "CurrentProofRepairStandard"
          (sourcePayload prepared.case proof config source items resource))

theorem evidenceStandard_eq_ok {prepared : PreparedCase} {proof : EffectProofRequirement} {fingerprint : String}
    {configured : CheckActionConfig} (here : prepared.configured = some configured)
    (computed : evidenceStandard digest prepared.action prepared.case prepared.bundle configured proof = .ok fingerprint) :
    ∃ config ∈ prepared.proofFor proof, Standard digest prepared proof config fingerprint := by
  unfold evidenceStandard at computed
  obtain ⟨config, found, later⟩ := bind_eq_ok.mp computed
  obtain ⟨identity, -, later⟩ := bind_eq_ok.mp later
  obtain ⟨verification, -, later⟩ := bind_eq_ok.mp later
  refine ⟨config, by simpa [PreparedCase.proofFor, here] using found, ?_⟩
  by_cases plain : prepared.bundle.proofSources.isEmpty = true
  · rw [if_pos plain] at later
    obtain ⟨entity, written, later⟩ := bind_eq_ok.mp later
    obtain ⟨observer, -, last⟩ := bind_eq_ok.mp later
    rw [← Except.ok.inj last]
    exact .plain verification entity observer (List.isEmpty_iff.mp plain) written
  · rw [if_neg plain] at later
    unfold sourceStandard at later
    split at later
    · rename_i source listed
      obtain ⟨_, -, later⟩ := bind_eq_ok.mp later
      obtain ⟨identities, -, later⟩ := bind_eq_ok.mp later
      obtain ⟨_, -, later⟩ := bind_eq_ok.mp later
      obtain ⟨resource, written, last⟩ := bind_eq_ok.mp later
      rw [← Except.ok.inj last]
      exact .source configured source identities.reduceOption resource listed written
    · cases later

/-- Equal standards compare the same fields. -/
theorem Standard.compares {proof other : EffectProofRequirement} {config config' : CheckProofConfig} {fingerprint : String}
    (here : Standard digest left proof config fingerprint) (there : Standard digest right other config' fingerprint) :
    SameComparison config config' := by
  generalize same : fingerprint = shared at there
  cases here with
  | plain verification entity observer _ written =>
    cases there with
    | plain verification' entity' observer' _ written' =>
      exact plainPayload_compares written written' (contentHash_injective same)
    | source => exact absurd (contentHash_domain same) (by simp)
  | source configured source items resource listed written =>
    cases there with
    | plain => exact absurd (contentHash_domain same) (by simp)
    | source configured' source' items' resource' listed' written' =>
      exact sourcePayload_compares (resourceFields_eq_ok written).1 (resourceFields_eq_ok written').1
        (contentHash_injective same)

/-- The standards of a case are those of its decisive proofs. -/
theorem mem_standards {prepared : PreparedCase} {standards : List String}
    (computed : prepared.standards digest = .ok standards) :
    (∀ proof ∈ prepared.decisive, ∃ fingerprint ∈ standards, ∃ config ∈ prepared.proofFor proof,
      Standard digest prepared proof config fingerprint) ∧
    (∀ fingerprint ∈ standards, ∃ proof ∈ prepared.decisive, ∃ config ∈ prepared.proofFor proof,
      Standard digest prepared proof config fingerprint) := by
  unfold PreparedCase.standards repairEvidenceStandards at computed
  obtain ⟨configured, found, later⟩ := bind_eq_ok.mp computed
  obtain ⟨fingerprints, passed, later⟩ := bind_eq_ok.mp later
  obtain ⟨_, -, last⟩ := bind_eq_ok.mp later
  have here : prepared.configured = some configured := orRaise_eq_ok.mp found
  have related := mapM_eq_ok_iff.mp passed
  rw [← Except.ok.inj last]
  constructor
  · intro proof member
    obtain ⟨fingerprint, inside, computed⟩ := partner_right related member
    exact ⟨fingerprint, mem_sortedBy.mpr inside, evidenceStandard_eq_ok here computed⟩
  · intro fingerprint member
    obtain ⟨proof, inside, computed⟩ := partner_left related (mem_sortedBy.mp member)
    exact ⟨proof, inside, evidenceStandard_eq_ok here computed⟩

theorem compares_of_standards {standards : List String} (here : left.standards digest = .ok standards)
    (there : right.standards digest = .ok standards) : Compares left right := by
  intro proof member config found
  obtain ⟨fingerprint, inside, config', found', made⟩ := (mem_standards here).1 proof member
  obtain ⟨other, member', config'', found'', made'⟩ := (mem_standards there).2 fingerprint inside
  have same : config' = config := Option.mem_unique found' found
  subst same
  exact ⟨other, member', config'', found'', made.compares made'⟩

theorem identity_eq_ok {prepared : PreparedCase} {fingerprint : String}
    (computed : prepared.identity digest = .ok fingerprint) :
    (caseIdentity prepared.action prepared.case prepared.bundle).fingerprint digest = fingerprint := by
  unfold PreparedCase.identity repairCaseIdentity at computed
  obtain ⟨identity, built, same⟩ := map_eq_ok.mp computed
  obtain ⟨_, -, last⟩ := bind_eq_ok.mp built
  rw [← same, ← Except.ok.inj last]

/-- A question that keeps its identity and its standards is the same question. -/
theorem sameQuestion {fingerprint : String} {standards : List String}
    (here : left.identity digest = .ok fingerprint) (there : right.identity digest = .ok fingerprint)
    (computed : left.standards digest = .ok standards) (computed' : right.standards digest = .ok standards) :
    SameQuestion left right := by
  have identities := fingerprint_injective ((identity_eq_ok here).trans (identity_eq_ok there).symm)
  simp only [caseIdentity, RepairCaseIdentity.mk.injEq] at identities
  obtain ⟨-, -, -, -, -, -, permission, subject, subjectActor, subjectRevision, subjectAccount, owner, ownerActor,
    ownerRevision, ownerAccount, resource, effects⟩ := identities
  refine ⟨⟨subject, subjectActor, subjectRevision, subjectAccount⟩, ⟨owner, ownerActor, ownerRevision, ownerAccount⟩,
    permission, effects, ?_, compares_of_standards computed computed', compares_of_standards computed' computed⟩
  intro present present'
  unfold identityResource at resource
  have left' : (configuredAction left.bundle left.action).bind (·.createdResource) = none := present
  have right' : (configuredAction right.bundle right.action).bind (·.createdResource) = none := present'
  simpa [left', right'] using resource

theorem namesDemonstration_kind (detail : SourceDetail) :
    namesDemonstration detail = decide (detail.sourceKind ≠ "CREATED_OBJECT_RECORDS") := by
  cases detail <;> simp [namesDemonstration, SourceDetail.sourceKind]

/-- Equal standards that name an object name the same object. -/
theorem sourcePayload_resource {case case' : ExecutionCase} {configured configured' : CheckActionConfig}
    {proof other : EffectProofRequirement} {config config' : CheckProofConfig} {source source' : FrozenProofSource}
    {items items' : List Json} {resource resource' : List (String × Json)}
    (written : resourceFields configured case source.config.detail = .ok resource)
    (written' : resourceFields configured' case' source'.config.detail = .ok resource')
    (named : namesDemonstration source.config.detail = true)
    (same : (sourcePayload case proof config source items resource).canonical =
      (sourcePayload case' other config' source' items' resource').canonical) :
    case.resourceId = case'.resourceId := by
  have configs : (standardConfig source.config).canonical = (standardConfig source'.config).canonical := by
    have fields := field_of_canonical_eq same "config"
    simpa [sourcePayload] using fields
  have kinds : source.config.detail.sourceKind = source'.config.detail.sourceKind :=
    separating_str.field configs "source_kind" (by simp [ProofSourceConfig.methodFields])
      (by simp [ProofSourceConfig.methodFields])
  have named' : namesDemonstration source'.config.detail = true := by
    rw [namesDemonstration_kind, ← kinds, ← namesDemonstration_kind]
    exact named
  have fields := field_of_canonical_eq same "resource_id"
  simpa [sourcePayload, (resourceFields_eq_ok written).2 named, (resourceFields_eq_ok written').2 named'] using fields

/-- Standards that name the demonstrated object notice another object. -/
theorem TechnicalVariant.object_of_standards (variant : TechnicalVariant left right) {standards : List String}
    (computed : left.standards digest = .ok standards) (kept : right.standards digest = .ok standards)
    (named : NamesDemonstration left) : left.case.resourceId = right.case.resourceId := by
  obtain ⟨proof, decisive, source, listed, names⟩ := named
  obtain ⟨other, decisive', alike⟩ := partner_right variant.proofs decisive
  obtain ⟨source', listed', same⟩ := partner_right alike.sources listed
  have names' : namesDemonstration source'.config.detail = true := by
    rw [← namesDemonstration_withoutOrigin, ← same.detail, namesDemonstration_withoutOrigin]
    exact names
  obtain ⟨fingerprint, inside, config', -, made⟩ := (mem_standards kept).1 other decisive'
  obtain ⟨third, -, config, -, made'⟩ := (mem_standards computed).2 fingerprint inside
  generalize shared : fingerprint = value at made'
  cases made with
  | plain verification entity observer unadopted _ =>
    have none : right.sourcesFor other = [] := by simp [PreparedCase.sourcesFor, effectSources, unadopted]
    rw [none] at listed'
    cases listed'
  | source configured' only items' resource' single written' =>
    rw [single] at listed'
    have here := List.mem_singleton.mp listed'
    subst here
    cases made' with
    | plain => exact absurd (contentHash_domain shared) (by simp)
    | source configured first items resource _ written =>
      exact (sourcePayload_resource written' written names' (contentHash_injective shared)).symm

end Variants

/-- A source of created objects, read from the table in which the action stores them. -/
def tableSource (resourceId : String) : FrozenProofSource where
  sourceId := "psr_1"
  revision := 1
  sourceFingerprint := "descriptor"
  config :=
    { actionId := "action"
      actionRevision := 1
      effectId := "effect"
      detail := .SQLITE_OBJECTS
        { databasePath := "app.db"
          table := "orders"
          resourceColumn := "id"
          ownerColumn := "owner_id"
          protectedColumn := "state" }
      observationIdentityId := "owner"
      resourceBindingId := resourceId
      relativePathTemplate := "/collections/orders/{resource_id}"
      mappings := [("resource_id", ["resource_id"]), ("owner_id", ["owner_id"])]
      targetOperationPath := ["operation_id"]
      sourceContractId := "OBJECT_CREATION_V1"
      identityClaims := []
      sourceFiles := []
      maxResponseBytes := 262144
      timeoutUs := 5000000
      collection := "orders"
      targetResourcePath := ["resource_id"]
      targetOwnerPath := ["owner_id"]
      targetDataPath := ["data"]
      protectedProjection := [] }
  contract :=
    { contractId := "OBJECT_CREATION_V1"
      implementationProfile := "profile"
      fingerprint := "contract"
      approvedEffectKind := "OBJECT_CREATION" }
  ownerSubjectId := "owner"
  identityRoles := []

def creationProof : CheckProofConfig where
  effectId := "effect"
  businessLabel := "order"
  effectKind := "OBJECT_CREATION"
  bindingFingerprint := "VERDICT_REQUIRED"
  rule := .REGISTERED_EFFECT
  observationIdentityId := "owner"
  observerId := some "json_1"
  descriptorFingerprint := some "descriptor"
  sourceLabel := "orders"

def ownersAccount : CheckIdentity where
  identityId := "owner"
  actorId := "owner"
  actorRevision := 1
  identityFingerprint := "owner"
  label := "owner"
  actorLabel := "owner"
  verification := some
    { nameSpace := "accounts"
      expectedApplicationSubjectId := "owner"
      expectedActorId := "owner"
      expectedActorRevision := 1
      request := .str "/me"
      subjectJsonPath := "$.id" }

/-- An action that creates its own object, prepared with a demonstration of another one. -/
def creation (resourceId : String) : PreparedCase where
  action :=
    { actionId := "action"
      actionRevision := 1
      actionSemanticFingerprint := "semantic"
      cases := []
      twins := [] }
  case := deniedCase resourceId [decisiveProof textDigest resourceId]
  bundle :=
    { proofSources := [tableSource resourceId]
      identities := [ownersAccount]
      actions :=
        [{ actionId := "action"
           actionRevision := 1
           actionSemanticFingerprint := "semantic"
           displayName := "create"
           stateChanging := true
           proofs := [creationProof]
           createdResource := some (.str "$.id") }] }

theorem creation_covered (resourceId : String) : coversProof (creation resourceId).bundle (tableSource resourceId) = true := by
  have observer : sourceObserverId "psr_1" = "json_1" := by decide
  have found : (creation resourceId).bundle.proofOf (tableSource resourceId).config =
      some ((creation resourceId).bundle.actions.head (by simp [creation]), creationProof) := rfl
  unfold coversProof
  rw [found]
  simp [creation, tableSource, creationProof, observer]

theorem creation_observed (resourceId : String) : observesCreation (creation resourceId).bundle creationProof = true := by
  have observer : sourceObserverId "psr_1" = "json_1" := by decide
  have keyed : some (sourceObserverId (tableSource resourceId).sourceId) = creationProof.observerId := by
    simp [tableSource, creationProof, observer]
  have found : Table.latest (fun source : FrozenProofSource => some (sourceObserverId source.sourceId))
      (creation resourceId).bundle.proofSources creationProof.observerId = some (tableSource resourceId) := by
    simp [creation, Table.latest, Table.lookup, keyed]
  unfold observesCreation
  rw [found]
  rfl

theorem creation_valid (resourceId : String) : (creation resourceId).bundle.validate = .ok () := by
  unfold CheckRuntimeBundle.validate
  refine bind_eq_ok.mpr ⟨(), require_eq_ok.mpr (by simp [creation]), bind_eq_ok.mpr ⟨(), rfl, ?_⟩⟩
  refine bind_eq_ok.mpr ⟨(), require_eq_ok.mpr (by simp [creation]), ?_⟩
  refine bind_eq_ok.mpr ⟨(), require_eq_ok.mpr ?_, require_eq_ok.mpr ?_⟩
  · intro source listed
    rw [List.mem_singleton.mp listed]
    exact creation_covered resourceId
  · intro action listed proof member
    rw [List.mem_singleton.mp listed] at member
    have same := List.mem_singleton.mp member
    rw [List.mem_singleton.mp listed, same, creation_observed]
    rfl

theorem creation_variant (first second : String) : TechnicalVariant (creation first) (creation second) where
  identity := rfl
  created := rfl
  resource := by
    intro missing
    cases missing
  accounts := fun _ => rfl
  adopted := by simp [creation]
  proofs := by
    refine .cons ⟨rfl, rfl, rfl, .cons ⟨rfl, rfl, rfl, rfl⟩ .nil, ?_, ?_⟩ .nil
    · intro config found config' found' source listed source' listed'
      cases found
      cases found'
      rw [List.mem_singleton.mp listed, List.mem_singleton.mp listed']
      rfl
    · intro plain
      cases plain

theorem creation_standards (resourceId : String) :
    ∃ standards, (creation resourceId).standards textDigest = .ok standards :=
  ⟨_, rfl⟩

end Jiejian.Repair.Questions
