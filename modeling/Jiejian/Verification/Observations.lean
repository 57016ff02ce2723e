import Jiejian.Protocol.Pairs
import Jiejian.Verification.Evaluation

namespace Jiejian.Verification.Observations

open Library Library.Outcome Errors
open Protocol.Codec Protocol.Conditions Protocol.Cases Protocol.Actions Protocol.Requests Protocol.Pairs
open Models Decisions Evaluation

/-- Each observer reports each phase of a proof once. -/
def UniqueKeys (observations : List CheckObservation) : Prop :=
  (observations.map fun item => (item.proofFingerprint, item.observerId, item.phase)).Nodup

/-- Of the listed observations, the last word of its observer: the final one, or else the first after the request. -/
def Latest (listed : List CheckObservation) (item : CheckObservation) : Prop :=
  item ∈ listed ∧ (item.phase = .EVENTUAL ∨
    ∀ other ∈ listed, other.observerId = item.observerId → other.phase ≠ .EVENTUAL)

section Latest

variable {observations : List CheckObservation} {proof : EffectProofRequirement}

theorem mem_observedAfter {item : CheckObservation} :
    item ∈ observedAfter proof observations ↔ item ∈ observations ∧ item.proofFingerprint = proof.proofFingerprint ∧
      item.level = proof.level ∧ (item.phase = .AFTER ∨ item.phase = .EVENTUAL) := by
  unfold observedAfter
  rw [List.mem_filter, decide_eq_true_eq]

/-- The observers that were heard are the observers of the latest observations. -/
theorem exists_latest {listed : List CheckObservation} {item : CheckObservation} (member : item ∈ listed) :
    ∃ last, Latest listed last ∧ last.observerId = item.observerId := by
  by_cases final : ∃ other ∈ listed, other.observerId = item.observerId ∧ other.phase = .EVENTUAL
  · obtain ⟨other, inside, same, eventual⟩ := final
    exact ⟨other, ⟨inside, .inl eventual⟩, same⟩
  · refine ⟨item, ⟨member, .inr ?_⟩, rfl⟩
    intro other inside same eventual
    exact final ⟨other, inside, same, eventual⟩

/-- The walk over the observations after a request keeps the last word of each observer. -/
theorem mem_keepLatest {listed : List CheckObservation}
    (phases : ∀ item ∈ listed, item.phase = .AFTER ∨ item.phase = .EVENTUAL)
    (unique : (listed.map fun item => (item.observerId, item.phase)).Nodup) {item : CheckObservation} :
    item ∈ listed.foldl keepLatest [] ↔ Latest listed item := by
  induction listed using List.reverseRecOn generalizing item with
  | nil => simp [Latest]
  | append_singleton before new ih =>
    rw [List.map_append, List.nodup_append] at unique
    obtain ⟨uniqueBefore, -, fresh⟩ := unique
    have known : ∀ {other}, other ∈ before.foldl keepLatest [] ↔ Latest before other :=
      ih (fun other member => phases other (List.mem_append_left _ member)) uniqueBefore
    have newPhase := phases new (List.mem_append_right _ (List.mem_singleton_self new))
    have apart : ∀ other ∈ before, other.observerId = new.observerId → other.phase ≠ new.phase := by
      intro other member sameObserver samePhase
      exact fresh _ (List.mem_map.mpr ⟨other, member, rfl⟩) _ (List.mem_map.mpr ⟨new, List.mem_singleton_self new, rfl⟩)
        (Prod.ext sameObserver samePhase)
    rw [List.foldl_append, List.foldl_cons, List.foldl_nil]
    generalize before.foldl keepLatest [] = kept at known ⊢
    unfold keepLatest
    by_cases eventual : new.phase = .EVENTUAL
    · -- a final observation replaces what its observer said before
      rw [if_pos (.inr eventual), Table.mem_put, known]
      unfold Latest
      constructor
      · rintro (rfl | ⟨⟨member, last⟩, other⟩)
        · exact ⟨by simp, .inl eventual⟩
        · refine ⟨by simp [member], last.imp_right fun none entry inside same => ?_⟩
          rcases List.mem_append.mp inside with early | late
          · exact none entry early same
          · rw [List.mem_singleton.mp late] at same
            exact absurd same.symm other
      · rintro ⟨member, last⟩
        rcases List.mem_append.mp member with early | late
        · by_cases same : item.observerId = new.observerId
          · rcases last with final | none
            · exact absurd (final.trans eventual.symm) (apart item early same)
            · exact absurd eventual (none new (by simp) same.symm)
          · refine .inr ⟨⟨early, last.imp_right fun none entry inside => none entry (by simp [inside])⟩, same⟩
        · exact .inl (List.mem_singleton.mp late)
    · have after : new.phase = .AFTER := newPhase.resolve_right eventual
      cases heard : Table.lookup CheckObservation.observerId kept new.observerId with
      | none =>
        -- the observer is heard for the first time
        have silent : ∀ other ∈ before, other.observerId ≠ new.observerId := by
          intro other member same
          obtain ⟨last, latest, sameLast⟩ := exists_latest member
          exact Table.lookup_none.mp heard last (known.mpr latest) (sameLast.trans same)
        rw [if_pos (.inl rfl), Table.mem_put, known]
        unfold Latest
        constructor
        · rintro (rfl | ⟨⟨member, last⟩, other⟩)
          · refine ⟨by simp, .inr fun entry inside same => ?_⟩
            rcases List.mem_append.mp inside with early | late
            · exact absurd same (silent entry early)
            · rw [List.mem_singleton.mp late]
              exact eventual
          · refine ⟨by simp [member], last.imp_right fun none entry inside same => ?_⟩
            rcases List.mem_append.mp inside with early | late
            · exact none entry early same
            · rw [List.mem_singleton.mp late] at same
              exact absurd same.symm other
        · rintro ⟨member, last⟩
          rcases List.mem_append.mp member with early | late
          · refine .inr ⟨⟨early, last.imp_right fun none entry inside => none entry (by simp [inside])⟩, silent item early⟩
          · exact .inl (List.mem_singleton.mp late)
      | some old =>
        -- the observer has said its last word already
        obtain ⟨stored, same⟩ := Table.lookup_some heard
        have latest := known.mp stored
        have final : old.phase = .EVENTUAL := by
          rcases phases old (by simp [latest.1]) with early | late
          · exact absurd (early.trans after.symm) (apart old latest.1 same)
          · exact late
        rw [if_neg (by simp [eventual]), known]
        unfold Latest
        constructor
        · rintro ⟨member, last⟩
          refine ⟨by simp [member], last.imp_right fun none entry inside sameObserver => ?_⟩
          rcases List.mem_append.mp inside with early | late
          · exact none entry early sameObserver
          · rw [List.mem_singleton.mp late]
            exact eventual
        · rintro ⟨member, last⟩
          rcases List.mem_append.mp member with early | late
          · exact ⟨early, last.imp_right fun none entry inside => none entry (by simp [inside])⟩
          · have itself := List.mem_singleton.mp late
            rw [itself] at last
            rcases last with now | none
            · exact absurd now eventual
            · exact absurd final (none old (by simp [latest.1]) same)

theorem unique_observedAfter (unique : UniqueKeys observations) :
    ((observedAfter proof observations).map fun item => (item.observerId, item.phase)).Nodup := by
  have kept := unique.sublist ((List.filter_sublist (p := fun item => item.proofFingerprint = proof.proofFingerprint ∧
    item.level = proof.level ∧ (item.phase = .AFTER ∨ item.phase = .EVENTUAL)) (l := observations)).map _)
  rw [List.Nodup, List.pairwise_map] at kept ⊢
  refine kept.imp_of_mem ?_
  intro first second inFirst inSecond differ same
  apply differ
  have firstProof := (mem_observedAfter.mp inFirst).2.1
  have secondProof := (mem_observedAfter.mp inSecond).2.1
  obtain ⟨observer, phase⟩ := Prod.mk.inj same
  rw [firstProof, secondProof, observer, phase]

theorem effectFact_confirmed {item : CheckObservation} (member : item ∈ observedAfter proof observations)
    (confirmed : confirmedObservation item = true) : confirmedFact (effectFact observations proof) = true := by
  have found : (observedAfter proof observations).any confirmedObservation = true :=
    List.any_eq_true.mpr ⟨item, member, confirmed⟩
  simp [confirmedFact, effectFact, CheckEffectFact.trusted, found]

/-- A trusted and closed absence was the last word of every observer, and there was one. -/
theorem effectFact_absent (unique : UniqueKeys observations)
    (state : (effectFact observations proof).state = .ABSENT) (closure : (effectFact observations proof).closure = .CLOSED) :
    observedAfter proof observations ≠ [] ∧ ∀ item, Latest (observedAfter proof observations) item →
      item.state = .ABSENT ∧ item.trusted = true ∧ item.closure = .CLOSED := by
  have latest : ∀ {item}, item ∈ (observedAfter proof observations).foldl keepLatest [] ↔
      Latest (observedAfter proof observations) item :=
    mem_keepLatest (fun item member => (mem_observedAfter.mp member).2.2.2) (unique_observedAfter unique)
  unfold effectFact at state closure
  dsimp only at state closure
  generalize (observedAfter proof observations).foldl keepLatest [] = values at latest state closure
  have unconfirmed : (observedAfter proof observations).any confirmedObservation = false := by
    by_contra some
    rw [Bool.not_eq_false] at some
    simp [some] at state
  rw [unconfirmed] at state
  have absent : (decide (values ≠ []) && values.all (·.trusted)) = true ∧
      values.all (fun item => item.state = .ABSENT) = true := by
    by_contra some
    rw [← Bool.and_eq_true] at some
    simp only [Bool.false_eq_true, if_false, some] at state
    cases state
  have closed : (decide (values ≠ []) && values.all fun item => item.closure = .CLOSED) = true := by
    by_contra some
    rw [if_neg some] at closure
    cases closure
  rw [Bool.and_eq_true, decide_eq_true_eq, List.all_eq_true, List.all_eq_true] at absent
  rw [Bool.and_eq_true, decide_eq_true_eq, List.all_eq_true] at closed
  obtain ⟨⟨filled, reliable⟩, gone⟩ := absent
  constructor
  · intro silent
    obtain ⟨item, member⟩ := List.exists_mem_of_ne_nil _ filled
    have heard := (latest.mp member).1
    rw [silent] at heard
    cases heard
  · intro item last
    have member := latest.mpr last
    exact ⟨of_decide_eq_true (gone item member), reliable item member, of_decide_eq_true (closed.2 item member)⟩

end Latest

/-- One observation of a decisive proof after the request confirms its effect. -/
def Confirms (case : ExecutionCase) (observations : List CheckObservation) : Prop :=
  ∃ proof ∈ case.proofRequirements, proof.level = .VERDICT_REQUIRED ∧
    ∃ item ∈ observedAfter proof observations, item.state = .CONFIRMED ∧ item.trusted = true

/-- Every decisive proof was observed after the request, and the last word of every observer it lists is a
trusted and closed absence. -/
def AllAbsent (case : ExecutionCase) (listed : EffectProofRequirement → List CheckObservation) : Prop :=
  ∀ proof ∈ case.proofRequirements, proof.level = .VERDICT_REQUIRED →
    listed proof ≠ [] ∧ ∀ item, Latest (listed proof) item →
      item.state = .ABSENT ∧ item.trusted = true ∧ item.closure = .CLOSED

/-- A decision input about the observations of an attributed case that expects absence. -/
structure Observed (digest : Digest) (facts : CheckDecisionInput) (observations : List CheckObservation) : Prop where
  accepted : validateActionCase digest facts.case = .ok ()
  absence : facts.case.expectsAbsence = true
  unique : UniqueKeys observations
  projected : facts.effects = projectCheckEffectFacts facts.case observations
  associated : facts.validateProofAssociations = .ok ()
  identity : facts.actualIdentity = .MATCH
  run : facts.runCorrelated = true
  resource : facts.resourceCorrelated = true
  matched : collectedConditionsStatus digest facts.case.permission.conditions facts.conditionObservations = .MATCH

section Verdicts

variable {digest : Digest} {facts : CheckDecisionInput} {observations : List CheckObservation}

/-- One confirmation decides, whatever else was observed. -/
theorem confirmed_vulnerable (observed : Observed digest facts observations)
    (confirms : Confirms facts.case observations) : (evaluateCheckCase digest facts).verdict = .VULNERABLE := by
  obtain ⟨proof, member, level, item, listed, state, trusted⟩ := confirms
  apply evaluateCheckCase_vulnerable.mpr
  refine ⟨observed.matched, observed.absence, confirmedEffects_ne_nil.mpr ⟨?_, effectFact observations proof, ?_, ?_⟩⟩
  · simp [CheckDecisionInput.attributed, observed.identity, observed.run, observed.resource]
  · exact (mem_requiredFacts (proofs_keyed observed.accepted) observed.projected).mpr ⟨proof, member, level, rfl⟩
  · apply effectFact_confirmed listed
    simp [confirmedObservation, state, trusted]

/-- A safe verdict needs the absence of every decisive effect. -/
theorem safe_absent (observed : Observed digest facts observations)
    (safe : (evaluateCheckCase digest facts).verdict = .SAFE) :
    AllAbsent facts.case (fun proof => observedAfter proof observations) ∧ facts.allowControlVerdict = some .SAFE ∧
      (facts.case.invocationKind = none → facts.execution = .DENIED) := by
  have shown := evaluateCheckCase_safe safe observed.absence
  refine ⟨?_, shown.control, ?_⟩
  · intro proof member level
    have required := (mem_requiredFacts (proofs_keyed observed.accepted) observed.projected).mpr
      ⟨proof, member, level, rfl⟩
    obtain ⟨fact, same, -, state, closure⟩ := shown.required _ required
    cases Option.some.inj same
    exact effectFact_absent observed.unique state closure
  · intro single
    have rejected := shown.unaccepted single
    have run := shown.execution
    cases execution : facts.execution with
    | ACCEPTED => exact absurd execution rejected
    | DENIED => rfl
    | FAILED => exact absurd execution run.1
    | UNKNOWN => exact absurd execution run.2

/-- One confirmation blocks; a pass needs the absence of every decisive effect in every last word. -/
theorem verdict_from_observations (observed : Observed digest facts observations) :
    (Confirms facts.case observations → (evaluateCheckCase digest facts).verdict = .VULNERABLE) ∧
      ((evaluateCheckCase digest facts).verdict = .SAFE →
        AllAbsent facts.case (fun proof => observedAfter proof observations) ∧
          facts.allowControlVerdict = some .SAFE ∧
          (facts.case.invocationKind = none → facts.execution = .DENIED)) :=
  ⟨confirmed_vulnerable observed, safe_absent observed⟩

end Verdicts

/-- The observations of a proof after the request, of whatever level. -/
def heardAfter (proof : EffectProofRequirement) (observations : List CheckObservation) : List CheckObservation :=
  observations.filter fun item => item.proofFingerprint = proof.proofFingerprint ∧
    (item.phase = .AFTER ∨ item.phase = .EVENTUAL)

def sampleProofs : List EffectProofRequirement := [decisiveProof textDigest "resource"]

/-- What an observer of the given level reports of the effect at the end. -/
def finalObservation (observerId : String) (level : ProofLevel) (state : EffectState) : CheckObservation where
  effectId := "effect"
  proofFingerprint := (decisiveProof textDigest "resource").proofFingerprint
  observerId := observerId
  level := level
  phase := .EVENTUAL
  state := state
  closure := .CLOSED
  complete := true
  reliable := true
  correlated := true
  authoritative := true
  windowStartUs := 0
  windowEndUs := 1

/-- The decisive observer saw nothing; an auxiliary observer of the same proof claims to have seen the effect. -/
def mixedObservations : List CheckObservation :=
  [finalObservation "main" .VERDICT_REQUIRED .ABSENT, finalObservation "auxiliary" .SUPPORTING .CONFIRMED]

def mixedFacts : CheckDecisionInput where
  case := identified textDigest "action" 1 (deniedCase "resource" sampleProofs)
  execution := .DENIED
  actualIdentity := .MATCH
  runCorrelated := true
  resourceCorrelated := true
  baselineTrusted := true
  recoveryVerified := true
  allowControlVerdict := some .SAFE
  effects := projectCheckEffectFacts (identified textDigest "action" 1 (deniedCase "resource" sampleProofs))
    mixedObservations
  conditionObservations := []

theorem mixed_fact : effectFact mixedObservations (decisiveProof textDigest "resource") =
    ⟨"effect", (decisiveProof textDigest "resource").proofFingerprint, .ABSENT, true, true, true, true, .CLOSED⟩ := by
  have level : (decisiveProof textDigest "resource").level = .VERDICT_REQUIRED := rfl
  have heard : observedAfter (decisiveProof textDigest "resource") mixedObservations =
      [finalObservation "main" .VERDICT_REQUIRED .ABSENT] := by
    simp [observedAfter, mixedObservations, finalObservation, level]
  unfold effectFact
  rw [heard]
  rfl

theorem mixed_observed : Observed textDigest mixedFacts mixedObservations where
  accepted := identified_valid (deniedCase_valid sample_decisive)
  absence := rfl
  unique := by simp [UniqueKeys, mixedObservations, finalObservation]
  projected := rfl
  associated := by
    unfold CheckDecisionInput.validateProofAssociations
    refine bind_eq_ok.mpr ⟨(), require_eq_ok.mpr ⟨List.nodup_singleton _, ?_⟩, require_eq_ok.mpr ⟨?_, List.nodup_nil⟩⟩
    · intro pair member
      have same := List.mem_singleton.mp member
      rw [same]
      exact List.mem_singleton.mpr rfl
    · intro observation member
      cases member
  identity := rfl
  run := rfl
  resource := rfl
  matched := rfl

theorem mixed_safe : (evaluateCheckCase textDigest mixedFacts).verdict = .SAFE := by
  apply evaluateCheckCase_of_safe rfl rfl
  refine ⟨rfl, rfl, rfl, by decide, fun _ => by decide, rfl, ?_⟩
  intro entry member
  obtain ⟨proof, listed, -, found⟩ := mem_requiredEntries.mp member
  rw [latest_projected (proofs_keyed mixed_observed.accepted) rfl listed] at found
  have same : proof = decisiveProof textDigest "resource" := List.mem_singleton.mp listed
  rw [same, mixed_fact] at found
  exact ⟨_, found.symm, rfl, rfl, rfl⟩

/-- An auxiliary observer of a proof has no say in its absence. -/
theorem auxiliary_unheard : ¬ ∀ (digest : Digest) (facts : CheckDecisionInput) (observations : List CheckObservation),
    Observed digest facts observations →
      (Confirms facts.case observations → (evaluateCheckCase digest facts).verdict = .VULNERABLE) ∧
      ((evaluateCheckCase digest facts).verdict = .SAFE →
        AllAbsent facts.case (fun proof => heardAfter proof observations) ∧ facts.allowControlVerdict = some .SAFE ∧
          (facts.case.invocationKind = none → facts.execution = .DENIED)) := by
  intro always
  obtain ⟨absent, -⟩ := (always textDigest mixedFacts mixedObservations mixed_observed).2 mixed_safe
  have heard := (absent (decisiveProof textDigest "resource") (List.mem_singleton.mpr rfl) rfl).2
  have last : Latest (heardAfter (decisiveProof textDigest "resource") mixedObservations)
      (finalObservation "auxiliary" .SUPPORTING .CONFIRMED) := by
    refine ⟨?_, .inl rfl⟩
    simp [heardAfter, mixedObservations, finalObservation]
  have gone := (heard _ last).1
  cases gone

theorem mixed_verdict : (Confirms mixedFacts.case mixedObservations →
      (evaluateCheckCase textDigest mixedFacts).verdict = .VULNERABLE) ∧
    ((evaluateCheckCase textDigest mixedFacts).verdict = .SAFE →
      AllAbsent mixedFacts.case (fun proof => observedAfter proof mixedObservations) ∧
        mixedFacts.allowControlVerdict = some .SAFE ∧
        (mixedFacts.case.invocationKind = none → mixedFacts.execution = .DENIED)) :=
  verdict_from_observations mixed_observed

end Jiejian.Verification.Observations
