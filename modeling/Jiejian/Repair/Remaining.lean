import Jiejian.Protocol.Pairs
import Jiejian.Repair.Contracts
import Jiejian.Repair.Questions
import Jiejian.Verification.Evaluation

namespace Jiejian.Repair.Remaining

open Library Library.Document Library.Outcome Library.Sorting Errors
open Protocol.Codec Protocol.Conditions Protocol.Cases Protocol.Actions Protocol.Pairs Protocol.Runtime Protocol.Requests
open Verification.Models Verification.Decisions Verification.Evaluation Verification.Results Standards Contracts Questions

theorem effectiveCase_accepted {digest : Digest} {documents : List CheckEvidence} {case effective : ExecutionCase}
    (accepted : validateActionCase digest case = .ok ())
    (published : ∀ document ∈ documents, validateActionCase digest document.case = .ok ())
    (resolved : effectiveCase digest documents case = .ok effective) :
    validateActionCase digest effective = .ok () := by
  cases documents with
  | nil =>
    have same : case = effective := Except.ok.inj resolved
    rw [← same]
    exact accepted
  | cons document rest =>
    have recorded := published document (by simp)
    have resolved' : document.effectiveCase digest = .ok effective := resolved
    unfold CheckEvidence.effectiveCase at resolved'
    cases binding : document.resourceBinding with
    | none =>
      rw [binding] at resolved'
      rw [← Except.ok.inj resolved']
      exact recorded
    | some bound =>
      rw [binding] at resolved'
      unfold bindResource at resolved'
      obtain ⟨_, semantics, later⟩ := bind_eq_ok.mp resolved'
      obtain ⟨_, proofs, later⟩ := bind_eq_ok.mp later
      obtain ⟨_, checked, last⟩ := bind_eq_ok.mp later
      have same := Except.ok.inj last
      rw [← same]
      unfold validateActionCase
      exact bind_eq_ok.mpr ⟨_, semantics, bind_eq_ok.mpr ⟨_, proofs, checked⟩⟩

section Review

variable (digest : Digest) (contract : CurrentRepairContract) (request : ExecutionRequest)
  (bundle : CheckRuntimeBundle) (result : CheckRunnerResult) (evidence : List CheckEvidence)
  (expectedChangeContext : Option ChangeContext) (linkedRepairReferences : List CurrentRepairReference)

/-- One case of the request, and no other, has the identity. -/
def UniqueCase (identity : RepairCaseIdentity) (pair : ExecutionAction × ExecutionCase) : Prop :=
  (requestPairs request).filter (fun other =>
    decide ((caseIdentity other.1 other.2 bundle).fingerprint digest = identity.fingerprint digest)) = [pair]

def resultOf (case : ExecutionCase) : Option CheckCaseResult :=
  Table.latest CheckCaseResult.caseId result.caseResults case.caseId

/-- The verdict of each case is the one its outcome and its observations give. -/
def VerdictsFollow : Prop :=
  ∀ pair ∈ requestPairs request, ∀ caseResult, resultOf result pair.2 = some caseResult →
    ∃ effective control decision,
      effectiveCase digest (caseDocuments evidence caseResult) pair.2 = .ok effective ∧
      decideCase digest effective caseResult.outcome (caseObservations (caseDocuments evidence caseResult)) control =
        .ok decision ∧ decision.verdict = caseResult.verdict

/-- The policy and the context of the run are those of the contract. -/
def GuardsPass : Prop :=
  policyUnchanged contract request = true ∧
    contextMatches digest contract request result expectedChangeContext linkedRepairReferences = true

/-- The one case of the request with the contract's deny identity is vulnerable. -/
def DenyVulnerable : Prop :=
  ∃ pair caseResult, UniqueCase digest request bundle contract.deny.identity pair ∧
    resultOf result pair.2 = some caseResult ∧ caseResult.verdict = .VULNERABLE

/-- One requirement of the contract, matched by one case that is safe, attributed, recovered and
checked by the same standards. -/
def RequirementMet (requirement : RepairCaseRequirement) : Prop :=
  ∃ pair caseResult, UniqueCase digest request bundle requirement.identity pair ∧
    resultOf result pair.2 = some caseResult ∧ caseResult.verdict = .SAFE ∧
    recovered caseResult.outcome = true ∧
    repairEvidenceStandards digest pair.1 pair.2 bundle = .ok requirement.evidenceStandardFingerprints

def Answers (status : RepairStatus) : Prop :=
  ∃ verification, verifyCurrentRepair digest contract request bundle result evidence expectedChangeContext
    linkedRepairReferences = .ok verification ∧ verification.status = status

/-- Whenever the guards pass and an attributed observation confirms any proof of the unique deny
case, the conditions of the case hold, it expects absence and a decisive proof is confirmed. -/
def RemainsDecisively : Prop :=
  GuardsPass digest contract request result expectedChangeContext linkedRepairReferences →
  ∀ pair caseResult effective, UniqueCase digest request bundle contract.deny.identity pair →
    resultOf result pair.2 = some caseResult →
    effectiveCase digest (caseDocuments evidence caseResult) pair.2 = .ok effective →
    caseResult.outcome.attributed = true →
    (∃ proof ∈ effective.proofRequirements,
      confirmedFact (effectFact (caseObservations (caseDocuments evidence caseResult)) proof) = true) →
    collectedConditionsStatus digest effective.permission.conditions caseResult.outcome.conditionObservations =
        .MATCH ∧ effective.expectsAbsence = true ∧
      DecisivelyConfirmed effective (caseObservations (caseDocuments evidence caseResult))

variable {digest contract request bundle result evidence expectedChangeContext linkedRepairReferences}

def candidateOf (digest : Digest) (bundle : CheckRuntimeBundle) (pair : ExecutionAction × ExecutionCase) :
    RepairCandidate where
  fingerprint := (caseIdentity pair.1 pair.2 bundle).fingerprint digest
  action := pair.1
  case := pair.2

/-- The cases of an accepted request are accepted one by one. -/
theorem accepted_case (accepted : request.validate digest = .ok ()) {pair : ExecutionAction × ExecutionCase}
    (listed : pair ∈ requestPairs request) : validateActionCase digest pair.2 = .ok () := by
  unfold ExecutionRequest.validate at accepted
  obtain ⟨_, actions, -⟩ := bind_eq_ok.mp accepted
  obtain ⟨action, member, inside⟩ := List.mem_flatMap.mp listed
  obtain ⟨case, inCases, same⟩ := List.mem_map.mp inside
  obtain ⟨_, cases', -⟩ := bind_eq_ok.mp (forM_eq_ok.mp actions action member)
  rw [← same]
  exact forM_eq_ok.mp cases' case inCases

theorem sorted_effects {case : ExecutionCase} (accepted : validateActionCase digest case = .ok ()) :
    sortedSet case.protectedEffectIds = case.protectedEffectIds := by
  unfold validateActionCase at accepted
  obtain ⟨_, -, later⟩ := bind_eq_ok.mp accepted
  obtain ⟨_, -, case'⟩ := bind_eq_ok.mp later
  unfold ExecutionCase.validateCase at case'
  simp only [bind_eq_ok, require_eq_ok] at case'
  obtain ⟨_, -, _, -, _, -, _, -, _, -, _, -, _, -, _, -, _, effects, -⟩ := case'
  exact effects.1

/-- Every case of an accepted request is a candidate. -/
theorem repairCandidates_eq (accepted : request.validate digest = .ok ()) :
    repairCandidates digest request bundle = .ok ((requestPairs request).map (candidateOf digest bundle)) := by
  apply mapM_eq_ok
  intro pair listed
  have sorted := sorted_effects (accepted_case accepted listed)
  have valid : (caseIdentity pair.1 pair.2 bundle).validateEffectSet = .ok () := require_eq_ok.mpr sorted
  unfold repairCaseIdentity
  rw [valid]
  rfl

theorem matchesOf_singleton {identity : RepairCaseIdentity} {candidate : RepairCandidate} :
    matchesOf ((requestPairs request).map (candidateOf digest bundle)) (identity.fingerprint digest) = [candidate] ↔
      ∃ pair, UniqueCase digest request bundle identity pair ∧ candidateOf digest bundle pair = candidate := by
  unfold matchesOf UniqueCase
  rw [List.filter_map, List.map_eq_singleton_iff]
  rfl

theorem effectRemains_eq_true {pair : ExecutionAction × ExecutionCase} {caseResult : CheckCaseResult} :
    effectRemains digest evidence pair.2 caseResult = .ok true ↔ ∃ effective,
      effectiveCase digest (caseDocuments evidence caseResult) pair.2 = .ok effective ∧
      caseResult.outcome.attributed = true ∧ ∃ proof ∈ effective.proofRequirements,
        confirmedFact (effectFact (caseObservations (caseDocuments evidence caseResult)) proof) = true := by
  unfold effectRemains
  rw [bind_eq_ok]
  apply exists_congr
  intro effective
  apply and_congr_right
  intro _
  simp only [pure, Except.pure, Except.ok.injEq, Bool.and_eq_true, projectCheckEffectFacts, List.any_map,
    List.any_eq_true, Function.comp_apply]

/-- The first check sees an effect exactly for the one deny case. -/
theorem forbiddenEffect_eq_true :
    forbiddenEffect digest contract ((requestPairs request).map (candidateOf digest bundle)) result evidence =
      .ok true ↔ ∃ pair caseResult effective, UniqueCase digest request bundle contract.deny.identity pair ∧
        resultOf result pair.2 = some caseResult ∧
        effectiveCase digest (caseDocuments evidence caseResult) pair.2 = .ok effective ∧
        caseResult.outcome.attributed = true ∧ ∃ proof ∈ effective.proofRequirements,
          confirmedFact (effectFact (caseObservations (caseDocuments evidence caseResult)) proof) = true := by
  constructor
  · intro remains
    unfold forbiddenEffect at remains
    split at remains
    · rename_i candidate found
      obtain ⟨pair, unique, same⟩ := matchesOf_singleton.mp found
      cases stored : Table.latest CheckCaseResult.caseId result.caseResults candidate.case.caseId with
      | none =>
        rw [stored] at remains
        cases remains
      | some caseResult =>
        rw [stored] at remains
        rw [← same] at stored remains
        obtain ⟨effective, resolved, attributed, confirmed⟩ := effectRemains_eq_true.mp remains
        exact ⟨pair, caseResult, effective, unique, stored, resolved, attributed, confirmed⟩
    · cases remains
  · rintro ⟨pair, caseResult, effective, unique, stored, resolved, attributed, confirmed⟩
    have found := matchesOf_singleton.mpr ⟨pair, unique, rfl⟩
    have stored' : Table.latest CheckCaseResult.caseId result.caseResults (candidateOf digest bundle pair).case.caseId =
        some caseResult := stored
    unfold forbiddenEffect
    rw [found]
    dsimp only
    rw [stored']
    exact effectRemains_eq_true.mpr ⟨effective, resolved, attributed, confirmed⟩

theorem compareRequirement_eq_none {requirement : RepairCaseRequirement}
    (compared : compareRequirement digest ((requestPairs request).map (candidateOf digest bundle)) bundle result evidence
      requirement = .ok none) : RequirementMet digest request bundle result requirement := by
  unfold compareRequirement at compared
  split at compared
  · rename_i candidate found
    obtain ⟨pair, unique, same⟩ := matchesOf_singleton.mp found
    cases stored : Table.latest CheckCaseResult.caseId result.caseResults candidate.case.caseId with
    | none =>
      rw [stored] at compared
      cases compared
    | some current =>
      rw [stored] at compared
      dsimp only at compared
      by_cases safe : current.verdict ≠ .SAFE
      · rw [if_pos safe] at compared
        cases compared
      rw [if_neg safe] at compared
      by_cases missing : current.evidenceIds = [] ∨ ∃ ref ∈ current.evidenceIds,
          (Table.latest CheckEvidence.evidenceId evidence ref).isNone = true
      · rw [if_pos missing] at compared
        cases compared
      rw [if_neg missing] at compared
      by_cases incomplete : recovered current.outcome = false
      · rw [if_pos incomplete] at compared
        cases compared
      rw [if_neg incomplete] at compared
      rw [← same] at stored compared
      cases computed : repairEvidenceStandards digest pair.1 pair.2 bundle with
      | error raised =>
        have raises : repairEvidenceStandards digest (candidateOf digest bundle pair).action
            (candidateOf digest bundle pair).case bundle = .error raised := computed
        rw [raises] at compared
        cases raised <;> cases compared
      | ok standards =>
        have returns : repairEvidenceStandards digest (candidateOf digest bundle pair).action
            (candidateOf digest bundle pair).case bundle = .ok standards := computed
        rw [returns] at compared
        dsimp only at compared
        by_cases changed : standards ≠ requirement.evidenceStandardFingerprints
        · rw [if_pos changed] at compared
          cases compared
        · refine ⟨pair, current, unique, stored, not_not.mp safe, by simpa using incomplete, ?_⟩
          rw [computed, not_not.mp changed]
  · cases compared

/-- A comparison without a reason has met every requirement. -/
theorem compareRequirements_eq_none {requirements : List RepairCaseRequirement}
    (compared : compareRequirements digest ((requestPairs request).map (candidateOf digest bundle)) bundle result evidence
      requirements = .ok none) : ∀ requirement ∈ requirements, RequirementMet digest request bundle result requirement := by
  induction requirements with
  | nil => simp
  | cons requirement rest ih =>
    rw [compareRequirements] at compared
    obtain ⟨first, here, later⟩ := bind_eq_ok.mp compared
    cases first with
    | some reason => cases later
    | none =>
      intro other member
      rcases List.mem_cons.mp member with rfl | there
      · exact compareRequirement_eq_none here
      · exact ih later other there

theorem answers_iff {status : RepairStatus} :
    Answers digest contract request bundle result evidence expectedChangeContext linkedRepairReferences status ↔
      ∃ reason, currentRepairAnswer digest contract request bundle result evidence expectedChangeContext
        linkedRepairReferences = .ok (status, reason) := by
  unfold Answers verifyCurrentRepair
  constructor
  · rintro ⟨verification, answered, same⟩
    obtain ⟨⟨given, reason⟩, computed, last⟩ := bind_eq_ok.mp answered
    have built := Except.ok.inj last
    rw [← built] at same
    exact ⟨reason, by rw [computed, ← same]⟩
  · rintro ⟨reason, computed⟩
    exact ⟨_, bind_eq_ok.mpr ⟨(status, reason), computed, rfl⟩, rfl⟩

/-- An answer that is neither stale nor about another context comes from the comparison. -/
theorem currentRepairAnswer_eq_ok {status : RepairStatus} {reason : String}
    (decided : status = .NOT_VERIFIED ∨ status = .VERIFIED) :
    currentRepairAnswer digest contract request bundle result evidence expectedChangeContext linkedRepairReferences =
      .ok (status, reason) ↔
        GuardsPass digest contract request result expectedChangeContext linkedRepairReferences ∧
          compareRepairCases digest contract request bundle result evidence true = .ok (status, reason) := by
  unfold currentRepairAnswer GuardsPass
  by_cases policy : policyUnchanged contract request = false
  · rw [if_pos policy]
    constructor
    · intro answered
      have same := (Prod.mk.inj (Except.ok.inj answered)).1
      rcases decided with here | here <;> rw [here] at same <;> cases same
    · intro holds
      rw [policy] at holds
      cases holds.1.1
  · rw [if_neg policy]
    by_cases context : contextMatches digest contract request result expectedChangeContext linkedRepairReferences = false
    · rw [if_pos context]
      constructor
      · intro answered
        have same := (Prod.mk.inj (Except.ok.inj answered)).1
        rcases decided with here | here <;> rw [here] at same <;> cases same
      · intro holds
        rw [context] at holds
        cases holds.1.2
    · rw [if_neg context]
      simp only [Bool.not_eq_false] at policy context
      exact ⟨fun answered => ⟨⟨policy, context⟩, answered⟩, fun holds => holds.2⟩

/-- The answer that the effect remains is the first check's. -/
theorem notVerified_iff (accepted : request.validate digest = .ok ()) :
    Answers digest contract request bundle result evidence expectedChangeContext linkedRepairReferences .NOT_VERIFIED ↔
      GuardsPass digest contract request result expectedChangeContext linkedRepairReferences ∧
        forbiddenEffect digest contract ((requestPairs request).map (candidateOf digest bundle)) result evidence =
          .ok true := by
  rw [answers_iff]
  constructor
  · rintro ⟨reason, answered⟩
    obtain ⟨guards, compared⟩ := (currentRepairAnswer_eq_ok (.inl rfl)).mp answered
    refine ⟨guards, ?_⟩
    unfold compareRepairCases at compared
    rw [repairCandidates_eq accepted] at compared
    obtain ⟨_, same, later⟩ := bind_eq_ok.mp compared
    rw [← Except.ok.inj same] at later
    obtain ⟨remains, checked, rest⟩ := bind_eq_ok.mp later
    cases remains with
    | true => exact checked
    | false =>
      rw [if_neg (by decide)] at rest
      by_cases unconfirmed : true = true ∧ runtimeConfirmed result = false
      · rw [if_pos unconfirmed] at rest
        cases (Prod.mk.inj (Except.ok.inj rest)).1
      · rw [if_neg unconfirmed] at rest
        obtain ⟨first, _, last⟩ := bind_eq_ok.mp rest
        cases first with
        | none => cases (Prod.mk.inj (Except.ok.inj last)).1
        | some reason => cases (Prod.mk.inj (Except.ok.inj last)).1
  · rintro ⟨guards, checked⟩
    refine ⟨"REPAIR_FORBIDDEN_EFFECT_REMAINS", (currentRepairAnswer_eq_ok (.inl rfl)).mpr ⟨guards, ?_⟩⟩
    unfold compareRepairCases
    rw [repairCandidates_eq accepted]
    exact bind_eq_ok.mpr ⟨_, rfl, bind_eq_ok.mpr ⟨true, checked, rfl⟩⟩

theorem verified_met (accepted : request.validate digest = .ok ())
    (verified : Answers digest contract request bundle result evidence expectedChangeContext linkedRepairReferences
      .VERIFIED) : ∀ requirement ∈ contract.requirements, RequirementMet digest request bundle result requirement := by
  obtain ⟨reason, answered⟩ := answers_iff.mp verified
  obtain ⟨-, compared⟩ := (currentRepairAnswer_eq_ok (.inr rfl)).mp answered
  unfold compareRepairCases at compared
  rw [repairCandidates_eq accepted] at compared
  obtain ⟨_, same, later⟩ := bind_eq_ok.mp compared
  rw [← Except.ok.inj same] at later
  obtain ⟨remains, _, rest⟩ := bind_eq_ok.mp later
  cases remains with
  | true => cases (Prod.mk.inj (Except.ok.inj rest)).1
  | false =>
    rw [if_neg (by decide)] at rest
    by_cases unconfirmed : true = true ∧ runtimeConfirmed result = false
    · rw [if_pos unconfirmed] at rest
      cases (Prod.mk.inj (Except.ok.inj rest)).1
    · rw [if_neg unconfirmed] at rest
      obtain ⟨first, done, last⟩ := bind_eq_ok.mp rest
      cases first with
      | none => exact compareRequirements_eq_none done
      | some reason => cases (Prod.mk.inj (Except.ok.inj last)).1

theorem UniqueCase.listed {identity : RepairCaseIdentity} {pair : ExecutionAction × ExecutionCase}
    (unique : UniqueCase digest request bundle identity pair) : pair ∈ requestPairs request := by
  have member : pair ∈ [pair] := List.mem_singleton.mpr rfl
  unfold UniqueCase at unique
  rw [← unique] at member
  exact List.mem_of_mem_filter member

theorem UniqueCase.same {identity : RepairCaseIdentity} {first second : ExecutionAction × ExecutionCase}
    (left : UniqueCase digest request bundle identity first) (right : UniqueCase digest request bundle identity second) :
    first = second := by
  unfold UniqueCase at left right
  rw [left] at right
  exact List.singleton_inj.mp right

theorem mem_caseDocuments {caseResult : CheckCaseResult} {document : CheckEvidence}
    (member : document ∈ caseDocuments evidence caseResult) : document ∈ evidence := by
  obtain ⟨ref, -, found⟩ := List.mem_filterMap.mp member
  exact (Table.latest_some found).1

/-- The verdict of the one deny case, read from its observations. -/
theorem vulnerable_iff (accepted : request.validate digest = .ok ())
    (published : ∀ document ∈ evidence, validateActionCase digest document.case = .ok ())
    (follows : VerdictsFollow digest request result evidence) {pair : ExecutionAction × ExecutionCase}
    (listed : pair ∈ requestPairs request) {caseResult : CheckCaseResult}
    (stored : resultOf result pair.2 = some caseResult) :
    caseResult.verdict = .VULNERABLE ↔ ∃ effective,
      effectiveCase digest (caseDocuments evidence caseResult) pair.2 = .ok effective ∧
      collectedConditionsStatus digest effective.permission.conditions caseResult.outcome.conditionObservations =
        .MATCH ∧ effective.expectsAbsence = true ∧ caseResult.outcome.attributed = true ∧
      DecisivelyConfirmed effective (caseObservations (caseDocuments evidence caseResult)) := by
  obtain ⟨effective, control, decision, resolved, decided, same⟩ := follows pair listed caseResult stored
  have valid := effectiveCase_accepted (accepted_case accepted listed)
    (fun document member => published document (mem_caseDocuments member)) resolved
  rw [← same, decideCase_vulnerable valid decided]
  constructor
  · exact fun holds => ⟨effective, resolved, holds⟩
  · rintro ⟨other, resolved', holds⟩
    rw [resolved] at resolved'
    rw [← Except.ok.inj resolved'] at holds
    exact holds

/-- The reader of a repair agrees with the verdict exactly when nothing but a decisive proof, under
the conditions of its rule, is confirmed; and what it verifies is safe and complete. -/
theorem verifyCurrentRepair_follows (accepted : request.validate digest = .ok ())
    (published : ∀ document ∈ evidence, validateActionCase digest document.case = .ok ())
    (follows : VerdictsFollow digest request result evidence) :
    ((Answers digest contract request bundle result evidence expectedChangeContext linkedRepairReferences .NOT_VERIFIED ↔
        GuardsPass digest contract request result expectedChangeContext linkedRepairReferences ∧
          DenyVulnerable digest contract request bundle result) ↔
      RemainsDecisively digest contract request bundle result evidence expectedChangeContext linkedRepairReferences) ∧
    (Answers digest contract request bundle result evidence expectedChangeContext linkedRepairReferences .VERIFIED →
      ∀ requirement ∈ contract.requirements, RequirementMet digest request bundle result requirement) ∧
    ¬ (Answers digest contract request bundle result evidence expectedChangeContext linkedRepairReferences .VERIFIED ∧
      DenyVulnerable digest contract request bundle result) := by
  refine ⟨?_, verified_met accepted, ?_⟩
  · rw [notVerified_iff accepted, forbiddenEffect_eq_true]
    constructor
    · intro agrees guards pair caseResult effective unique stored resolved attributed confirmed
      have remains := agrees.mp ⟨guards, pair, caseResult, effective, unique, stored, resolved, attributed, confirmed⟩
      obtain ⟨-, other, otherResult, unique', stored', vulnerable⟩ := remains
      have same := unique'.same unique
      subst same
      have results : otherResult = caseResult := Option.some.inj (stored'.symm.trans stored)
      subst results
      obtain ⟨effective', resolved', conditions, absence, -, decisive⟩ :=
        (vulnerable_iff accepted published follows unique.listed stored).mp vulnerable
      have cases' : effective' = effective := Except.ok.inj (resolved'.symm.trans resolved)
      subst cases'
      exact ⟨conditions, absence, decisive⟩
    · intro decisively
      constructor
      · rintro ⟨guards, pair, caseResult, effective, unique, stored, resolved, attributed, confirmed⟩
        obtain ⟨conditions, absence, decisive⟩ :=
          decisively guards pair caseResult effective unique stored resolved attributed confirmed
        refine ⟨guards, pair, caseResult, unique, stored, ?_⟩
        exact (vulnerable_iff accepted published follows unique.listed stored).mpr
          ⟨effective, resolved, conditions, absence, attributed, decisive⟩
      · rintro ⟨guards, pair, caseResult, unique, stored, vulnerable⟩
        obtain ⟨effective, resolved, -, -, attributed, proof, member, -, confirmed⟩ :=
          (vulnerable_iff accepted published follows unique.listed stored).mp vulnerable
        exact ⟨guards, pair, caseResult, effective, unique, stored, resolved, attributed, proof, member, confirmed⟩
  · rintro ⟨verified, pair, caseResult, unique, stored, vulnerable⟩
    obtain ⟨other, otherResult, unique', stored', safe, -⟩ :=
      verified_met accepted verified contract.deny (by simp [CurrentRepairContract.requirements])
    have same := unique'.same unique
    subst same
    have results : otherResult = caseResult := Option.some.inj (stored'.symm.trans stored)
    subst results
    rw [safe] at vulnerable
    cases vulnerable

end Review

section Supported

def supportedProofs : List EffectProofRequirement :=
  [supportingProof textDigest "resource", decisiveProof textDigest "resource"]

def supportedAction : ExecutionAction :=
  pairAction textDigest "action" (deniedCase "resource" supportedProofs) (ownersCase "resource" supportedProofs)

def supportedDenied : ExecutionCase :=
  identified textDigest "action" 1 (deniedCase "resource" supportedProofs)

def supportedAllowed : ExecutionCase :=
  identified textDigest "action" 1 (ownersCase "resource" supportedProofs)

def supportedChange : ChangeContext where
  changeId := "change"
  impactFingerprint := "impact"
  requiredIntentIds := []

/-- A denied case and its control, each with a decisive proof and a supporting one. -/
def supportedRequest : ExecutionRequest :=
  pairRequest textDigest "action" (deniedCase "resource" supportedProofs) (ownersCase "resource" supportedProofs)
    (some supportedChange)

def supportedBundle : CheckRuntimeBundle where
  identities := []
  actions := []

def supportedRequirement (case : ExecutionCase) : RepairCaseRequirement where
  sourceCaseId := case.caseId
  identity := caseIdentity supportedAction case supportedBundle
  evidenceStandardFingerprints := ["standard"]
  evidenceRefs := ["evidence"]

def unsealedContract : CurrentRepairContract where
  projectId := "project"
  sourceRunId := "run_1"
  sourceCaseId := supportedDenied.caseId
  originalPolicyEpoch := 0
  originalIntents := [⟨"intent_allow", 1, "hash"⟩, ⟨"intent_deny", 1, "hash"⟩]
  deny := supportedRequirement supportedDenied
  selectedControl := supportedRequirement supportedAllowed
  regressions := []
  repairFingerprint := ""

def supportedContract : CurrentRepairContract :=
  { unsealedContract with
    repairFingerprint := contentHash textDigest "CurrentRepairContract" (.dict unsealedContract.payload) }

/-- The supporting proof is confirmed; of the decisive one nothing was observed. -/
def supportingObservation : CheckObservation where
  effectId := "effect"
  proofFingerprint := (supportingProof textDigest "resource").proofFingerprint
  observerId := "observer"
  level := .SUPPORTING
  phase := .AFTER
  state := .CONFIRMED
  closure := .CLOSED
  complete := true
  reliable := true
  correlated := true
  authoritative := true
  windowStartUs := 0
  windowEndUs := 1

def refusedOutcome : CheckCaseOutcome where
  executionOutcome := .DENIED
  actualIdentityStatus := .MATCH
  baselineTrusted := true
  recoveryVerified := true
  runCorrelated := true
  resourceCorrelated := true

def supportedEvidence : CheckEvidence where
  evidenceId := "evidence"
  actionId := "action"
  actionRevision := 1
  case := supportedDenied
  outcome := refusedOutcome
  observations := [supportingObservation]

def supportedCaseResult : CheckCaseResult where
  caseId := supportedDenied.caseId
  actionId := "action"
  verdict := .INCONCLUSIVE
  reasonCodes := ["ALLOW_CONTROL_INVALID", "REQUIRED_EFFECT_NOT_ABSENT", "REQUIRED_EFFECT_UNKNOWN",
    "TEMPORAL_CLOSURE_INCOMPLETE"]
  evidenceIds := ["evidence"]
  outcome := refusedOutcome

def supportedResult : CheckRunnerResult where
  runId := "run_2"
  resultType := .SUCCESS
  lifecycle := .completed
  caseResults := [supportedCaseResult]
  verdict := some .inconclusive
  startedAtUs := 0
  completedAtUs := 1

theorem supportedContract_valid : supportedContract.validateContract textDigest = .ok () := by
  have payloads : supportedContract.payload = unsealedContract.payload := by
    simp only [CurrentRepairContract.payload, supportedContract]
  unfold CurrentRepairContract.validateContract
  simp only [bind_eq_ok, require_eq_ok, payloads]
  refine ⟨(), ⟨rfl, .inl rfl⟩, (), ⟨rfl, ?_⟩, (), ⟨rfl, ?_⟩, (), ?_, rfl⟩
  · intro absent
    cases absent
  · intro item member
    cases member
  · decide

theorem supportedRequest_accepted : supportedRequest.validate textDigest = .ok () :=
  pairRequest_accepted (sample_opposed sample_supported) (deniedCase_valid sample_supported)
    (ownersCase_valid sample_supported)

theorem supported_published : ∀ document ∈ [supportedEvidence], validateActionCase textDigest document.case = .ok () := by
  intro document member
  rw [List.mem_singleton.mp member]
  exact identified_valid (deniedCase_valid sample_supported)

theorem supported_pairs : requestPairs supportedRequest =
    [(supportedAction, supportedDenied), (supportedAction, supportedAllowed)] := rfl

theorem supported_guards : GuardsPass textDigest supportedContract supportedRequest supportedResult
    (some supportedChange) [supportedContract.reference] := by
  constructor
  · rfl
  · simp [contextMatches, supportedRequest, pairRequest, plainRequest, supportedResult, supportedContract,
      unsealedContract]

/-- The denied case and its control have different identities. -/
theorem supported_unique : UniqueCase textDigest supportedRequest supportedBundle supportedContract.deny.identity
    (supportedAction, supportedDenied) := by
  have differ : ¬ (caseIdentity supportedAction supportedAllowed supportedBundle).fingerprint textDigest =
      (caseIdentity supportedAction supportedDenied supportedBundle).fingerprint textDigest := by
    intro same
    have permissions := congrArg RepairCaseIdentity.permission (fingerprint_injective same)
    have intents := congrArg (fun permission => permission.intentId) permissions
    revert intents
    decide
  unfold UniqueCase
  rw [supported_pairs]
  simp [supportedContract, unsealedContract, supportedRequirement, differ]

theorem supported_stored {pair : ExecutionAction × ExecutionCase} {caseResult : CheckCaseResult}
    (stored : resultOf supportedResult pair.2 = some caseResult) :
    caseResult = supportedCaseResult ∧ pair.2.caseId = supportedDenied.caseId := by
  obtain ⟨member, same⟩ := Table.latest_some stored
  have here := List.mem_singleton.mp member
  rw [here] at same
  exact ⟨here, same.symm⟩

theorem supported_documents : caseDocuments [supportedEvidence] supportedCaseResult = [supportedEvidence] := by
  simp [caseDocuments, Table.latest, Table.lookup, supportedCaseResult, supportedEvidence]

theorem supported_effective (case : ExecutionCase) :
    effectiveCase textDigest [supportedEvidence] case = .ok supportedDenied := by
  simp only [effectiveCase, CheckEvidence.effectiveCase, supportedEvidence]

/-- Nothing was observed about the decisive proof. -/
theorem supported_unconfirmed : ¬ DecisivelyConfirmed supportedDenied [supportingObservation] := by
  rintro ⟨proof, member, level, confirmed⟩
  have observed : observedAfter proof [supportingObservation] = [] := by
    simp [observedAfter, supportingObservation, level]
  simp [effectFact, observed, confirmedFact] at confirmed

def supportedFacts : CheckDecisionInput where
  case := supportedDenied
  execution := .DENIED
  actualIdentity := .MATCH
  runCorrelated := true
  resourceCorrelated := true
  baselineTrusted := true
  recoveryVerified := true
  allowControlVerdict := none
  effects := projectCheckEffectFacts supportedDenied [supportingObservation]
  conditionObservations := []

theorem supported_keyed : Table.Keyed EffectProofRequirement.proofFingerprint supportedDenied.proofRequirements := by
  have accepted : validateActionCase textDigest supportedDenied = .ok () :=
    identified_valid (deniedCase_valid sample_supported)
  exact proofs_keyed accepted

theorem supported_associated : supportedFacts.validateProofAssociations = .ok () := by
  have pairs : supportedFacts.effects.map (fun fact => (fact.effectId, fact.proofFingerprint)) =
      supportedFacts.case.proofRequirements.map fun proof => (proof.effectId, proof.proofFingerprint) := by
    simp only [supportedFacts, projectCheckEffectFacts, List.map_map]
    apply List.map_congr_left
    intro proof _
    simp only [Function.comp_apply, effectFact]
  unfold CheckDecisionInput.validateProofAssociations
  dsimp only
  rw [pairs]
  refine bind_eq_ok.mpr ⟨(), require_eq_ok.mpr ⟨?_, fun _ => id⟩, require_eq_ok.mpr ?_⟩
  · apply List.Nodup.of_map Prod.snd
    rw [List.map_map]
    exact supported_keyed
  · simp [supportedFacts]

theorem supported_verdict : (evaluateCheckCase textDigest supportedFacts).verdict = .INCONCLUSIVE := by
  apply evaluateCheckCase_uncontrolled
  · simp [supportedFacts, supportedDenied, identified, deniedCase, sampleCase, sampleRule, collectedConditionsStatus]
  · simp [supportedFacts, supportedDenied, identified, deniedCase, sampleCase, sampleRule, ExecutionCase.expectsAbsence]
  · by_contra confirmed
    obtain ⟨-, fact, required, holds⟩ := confirmedEffects_ne_nil.mp confirmed
    obtain ⟨proof, member, level, same⟩ := (mem_requiredFacts supported_keyed rfl).mp required
    exact supported_unconfirmed ⟨proof, member, level, same ▸ holds⟩
  · simp [supportedFacts]

theorem supported_result : resultOf supportedResult supportedDenied = some supportedCaseResult := by
  simp [resultOf, Table.latest, Table.lookup, supportedResult, supportedCaseResult]

theorem supported_follows : VerdictsFollow textDigest supportedRequest supportedResult [supportedEvidence] := by
  intro pair listed caseResult stored
  obtain ⟨here, -⟩ := supported_stored stored
  rw [here, supported_documents]
  refine ⟨supportedDenied, none, evaluateCheckCase textDigest supportedFacts, supported_effective _, ?_, supported_verdict⟩
  exact bind_eq_ok.mpr ⟨(), supported_associated, rfl⟩

theorem supported_remains : Answers textDigest supportedContract supportedRequest supportedBundle supportedResult
    [supportedEvidence] (some supportedChange) [supportedContract.reference] .NOT_VERIFIED := by
  apply (notVerified_iff supportedRequest_accepted).mpr
  refine ⟨supported_guards, forbiddenEffect_eq_true.mpr ?_⟩
  refine ⟨_, supportedCaseResult, supportedDenied, supported_unique, ?_, ?_, rfl, supportingProof textDigest "resource", ?_, ?_⟩
  · exact supported_result
  · rw [supported_documents]
    exact supported_effective _
  · exact List.mem_cons_self
  · rw [supported_documents]
    simp [effectFact, observedAfter, caseObservations, supportedEvidence, supportingObservation, supportingProof, sealedProof,
      confirmedObservation, CheckObservation.trusted, confirmedFact, CheckEffectFact.trusted]

theorem supported_not_vulnerable :
    ¬ DenyVulnerable textDigest supportedContract supportedRequest supportedBundle supportedResult := by
  rintro ⟨pair, caseResult, -, stored, vulnerable⟩
  rw [(supported_stored stored).1] at vulnerable
  cases vulnerable

/-- A confirmed supporting proof makes the reader report a remaining effect that no verdict shows. -/
theorem supporting_proof_remains : ¬ ∀ digest contract request bundle result evidence expectedChangeContext
      linkedRepairReferences,
    CurrentRepairContract.validateContract digest contract = .ok () → request.validate digest = .ok () →
    (∀ document ∈ evidence, validateActionCase digest document.case = .ok ()) →
    VerdictsFollow digest request result evidence →
    (Answers digest contract request bundle result evidence expectedChangeContext linkedRepairReferences .NOT_VERIFIED ↔
      GuardsPass digest contract request result expectedChangeContext linkedRepairReferences ∧
        DenyVulnerable digest contract request bundle result) := by
  intro agrees
  have answers := agrees textDigest supportedContract supportedRequest supportedBundle supportedResult
    [supportedEvidence] (some supportedChange) [supportedContract.reference] supportedContract_valid
    supportedRequest_accepted supported_published supported_follows
  exact supported_not_vulnerable (answers.mp supported_remains).2

/-- The sample meets the conditions of the comparison, and not its right side. -/
theorem supported_disagrees : ¬ RemainsDecisively textDigest supportedContract supportedRequest supportedBundle
    supportedResult [supportedEvidence] (some supportedChange) [supportedContract.reference] := by
  intro decisively
  have sound : (_ ↔ RemainsDecisively textDigest supportedContract supportedRequest supportedBundle supportedResult
      [supportedEvidence] (some supportedChange) [supportedContract.reference]) ∧ _ :=
    verifyCurrentRepair_follows supportedRequest_accepted supported_published supported_follows
  exact supported_not_vulnerable ((sound.1.mpr decisively).mp supported_remains).2

end Supported

end Jiejian.Repair.Remaining
