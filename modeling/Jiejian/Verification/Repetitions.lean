import Jiejian.Verification.Observations

namespace Jiejian.Verification.Repetitions

open Library Library.Outcome Errors
open Protocol.Codec Protocol.Conditions Protocol.Cases Protocol.Requests Protocol.Pairs
open Models Decisions Evaluation Observations

/-- What one observer says about one proof in one phase. -/
def observationKey (item : CheckObservation) : String × String × ObservationPhase :=
  (item.proofFingerprint, item.observerId, item.phase)

/-- A repetition replaces what stands under its key, but never a confirmation. -/
def keepConfirmed (unique : List CheckObservation) (item : CheckObservation) : List CheckObservation :=
  match Table.lookup observationKey unique (observationKey item) with
  | none => Table.put observationKey unique item
  | some prior => if prior.state ≠ .CONFIRMED then Table.put observationKey unique item else unique

def uniqueObservations (observations : List CheckObservation) : List CheckObservation :=
  observations.foldl keepConfirmed []

/-- An observation whose facts exceed the budget of the evidence becomes unknown. -/
def exceeded (item : CheckObservation) : CheckObservation :=
  { item with
    state := .UNKNOWN
    closure := .OPEN
    complete := false
    reliable := false
    correlated := false
    authoritative := false
    reasonCodes := ["FACT_BUDGET_EXCEEDED"] }

/-- The observations that `finalize_facts` hands back; `exceeds` says whose facts were dropped. -/
def finalizeFacts (exceeds : CheckObservation → Bool) (observations : List CheckObservation) : List CheckObservation :=
  observations.map fun item => if exceeds item then exceeded item else item

/-- `_complete_case`: the decision from the observations of a run. -/
def completeCase (digest : Digest) (exceeds : CheckObservation → Bool) (case : ExecutionCase)
    (outcome : CheckCaseOutcome) (observations : List CheckObservation) (allowVerdict : Option CaseVerdict) :
    Except Raised CheckDecision :=
  decideCase digest case outcome (finalizeFacts exceeds (uniqueObservations observations)) allowVerdict

/-- The first confirmation under a key, trusted or not. -/
def firstConfirmed (observations : List CheckObservation) (key : String × String × ObservationPhase) :
    Option CheckObservation :=
  observations.find? fun item => observationKey item = key ∧ item.state = .CONFIRMED

section Merge

variable {observations : List CheckObservation}

theorem finalizeFacts_untouched {exceeds : CheckObservation → Bool}
    (kept : ∀ item ∈ observations, exceeds item = false) : finalizeFacts exceeds observations = observations := by
  calc
    _ = observations.map id := by
      apply List.map_congr_left
      intro item member
      simp [kept item member]
    _ = observations := List.map_id observations

theorem unique_snoc (observations : List CheckObservation) (new : CheckObservation) :
    uniqueObservations (observations ++ [new]) = keepConfirmed (uniqueObservations observations) new := by
  simp only [uniqueObservations, List.foldl_append, List.foldl_cons, List.foldl_nil]

/-- What is confirmed is not replaced by its repetition. -/
theorem unique_repeated {first second : CheckObservation} (same : observationKey second = observationKey first)
    (confirmed : first.state = .CONFIRMED) : uniqueObservations [first, second] = [first] := by
  have start : keepConfirmed [] first = [first] := by simp [keepConfirmed, Table.lookup, Table.put]
  have found : Table.lookup observationKey [first] (observationKey second) = some first := by
    simp [Table.lookup, same]
  calc
    uniqueObservations [first, second] = keepConfirmed [first] second := congrArg (keepConfirmed · second) start
    _ = [first] := by
      unfold keepConfirmed
      rw [found]
      exact if_neg (not_not.mpr confirmed)

theorem keepConfirmed_keyed {unique : List CheckObservation} (keyed : Table.Keyed observationKey unique)
    (new : CheckObservation) : Table.Keyed observationKey (keepConfirmed unique new) := by
  unfold keepConfirmed
  cases found : Table.lookup observationKey unique (observationKey new) with
  | none => exact keyed.put new
  | some prior =>
    dsimp only
    by_cases open' : prior.state ≠ .CONFIRMED
    · rw [if_pos open']
      exact keyed.put new
    · rw [if_neg open']
      exact keyed

/-- One observation remains under a key. -/
theorem unique_keyed (observations : List CheckObservation) :
    Table.Keyed observationKey (uniqueObservations observations) := by
  induction observations using List.reverseRecOn with
  | nil => exact List.nodup_nil
  | append_singleton before new ih =>
    rw [unique_snoc]
    exact keepConfirmed_keyed ih new

/-- The merge adds nothing. -/
theorem mem_of_unique {item : CheckObservation} (member : item ∈ uniqueObservations observations) :
    item ∈ observations := by
  induction observations using List.reverseRecOn with
  | nil => exact member
  | append_singleton before new ih =>
    rw [unique_snoc] at member
    have arrived : item ∈ Table.put observationKey (uniqueObservations before) new → item ∈ before ++ [new] := by
      intro stored
      rcases Table.mem_put.mp stored with same | ⟨old, -⟩
      · exact List.mem_append_right _ (List.mem_singleton.mpr same)
      · exact List.mem_append_left _ (ih old)
    unfold keepConfirmed at member
    cases found : Table.lookup observationKey (uniqueObservations before) (observationKey new) with
    | none =>
      rw [found] at member
      exact arrived member
    | some prior =>
      simp only [found] at member
      by_cases open' : prior.state ≠ .CONFIRMED
      · rw [if_pos open'] at member
        exact arrived member
      · rw [if_neg open'] at member
        exact List.mem_append_left _ (ih member)

theorem firstConfirmed_some {key : String × String × ObservationPhase} {item : CheckObservation}
    (found : firstConfirmed observations key = some item) :
    item ∈ observations ∧ observationKey item = key ∧ item.state = .CONFIRMED := by
  have holds := List.find?_some found
  exact ⟨List.mem_of_find?_eq_some found, of_decide_eq_true holds⟩

theorem firstConfirmed_snoc (observations : List CheckObservation) (new : CheckObservation)
    (key : String × String × ObservationPhase) :
    firstConfirmed (observations ++ [new]) key = (firstConfirmed observations key).or
      (if observationKey new = key ∧ new.state = .CONFIRMED then some new else none) := by
  simp only [firstConfirmed, List.find?_append, List.find?_singleton, decide_eq_true_eq]

/-- An assignment under a key that was not confirmed before. -/
theorem mem_put_confirmed {before unique : List CheckObservation} {new : CheckObservation}
    (known : ∀ item : CheckObservation, item.state = .CONFIRMED →
      (item ∈ unique ↔ firstConfirmed before (observationKey item) = some item))
    (silent : firstConfirmed before (observationKey new) = none) {item : CheckObservation}
    (confirmed : item.state = .CONFIRMED) :
    item ∈ Table.put observationKey unique new ↔
      firstConfirmed (before ++ [new]) (observationKey item) = some item := by
  rw [Table.mem_put, known item confirmed, firstConfirmed_snoc]
  by_cases same : observationKey new = observationKey item
  · rw [← same, silent, Option.none_or]
    constructor
    · rintro (equal | ⟨found, -⟩)
      · rw [if_pos ⟨rfl, equal ▸ confirmed⟩, equal]
      · cases found
    · intro found
      by_cases now : new.state = .CONFIRMED
      · rw [if_pos ⟨rfl, now⟩] at found
        exact .inl (Option.some.inj found).symm
      · rw [if_neg (fun both => now both.2)] at found
        cases found
  · rw [if_neg (fun both => same both.1), Option.or_none]
    constructor
    · rintro (equal | ⟨found, -⟩)
      · exact absurd (congrArg observationKey equal.symm) same
      · exact found
    · intro found
      exact .inr ⟨found, fun equal => same equal.symm⟩

/-- Exactly the first confirmations of the keys are the confirmations that remain. -/
theorem mem_unique_confirmed (item : CheckObservation) (confirmed : item.state = .CONFIRMED) :
    item ∈ uniqueObservations observations ↔ firstConfirmed observations (observationKey item) = some item := by
  induction observations using List.reverseRecOn generalizing item with
  | nil => simp [uniqueObservations, firstConfirmed]
  | append_singleton before new ih =>
    rw [unique_snoc]
    -- a confirmation under the key of the new observation is what the merge finds there
    have stands : ∀ {first}, firstConfirmed before (observationKey new) = some first →
        Table.lookup observationKey (uniqueObservations before) (observationKey new) = some first := by
      intro first found
      obtain ⟨-, key, state⟩ := firstConfirmed_some found
      have stored := (ih first state).mpr (key ▸ found)
      rw [← key]
      exact (unique_keyed before).lookup_mem stored
    unfold keepConfirmed
    cases held : Table.lookup observationKey (uniqueObservations before) (observationKey new) with
    | none =>
      have silent : firstConfirmed before (observationKey new) = none := by
        cases found : firstConfirmed before (observationKey new) with
        | none => rfl
        | some first => exact absurd (held.symm.trans (stands found)) (by simp)
      exact mem_put_confirmed ih silent confirmed
    | some prior =>
      dsimp only
      by_cases standing : prior.state = .CONFIRMED
      · rw [if_neg (not_not.mpr standing), ih item confirmed, firstConfirmed_snoc]
        by_cases same : observationKey new = observationKey item
        · obtain ⟨stored, key⟩ := Table.lookup_some held
          have first := (ih prior standing).mp stored
          rw [key, same] at first
          rw [first, Option.some_or]
        · rw [if_neg (fun both => same both.1), Option.or_none]
      · have silent : firstConfirmed before (observationKey new) = none := by
          cases found : firstConfirmed before (observationKey new) with
          | none => rfl
          | some first =>
            have equal := Option.some.inj (held.symm.trans (stands found))
            exact absurd (equal ▸ (firstConfirmed_some found).2.2) standing
        rw [if_pos standing]
        exact mem_put_confirmed ih silent confirmed

end Merge

/-- A trusted confirmation of a proof after the request. -/
def Confirmation (proof : EffectProofRequirement) (observations : List CheckObservation)
    (item : CheckObservation) : Prop :=
  item ∈ observedAfter proof observations ∧ item.state = .CONFIRMED ∧ item.trusted = true

/-- A decisive proof with a trusted confirmation has one before which nothing was confirmed under its key. -/
def TrustedFirst (case : ExecutionCase) (observations : List CheckObservation) : Prop :=
  ∀ proof ∈ case.proofRequirements, proof.level = .VERDICT_REQUIRED →
    (∃ item, Confirmation proof observations item) →
    ∃ item, Confirmation proof observations item ∧
      firstConfirmed observations (observationKey item) = some item

def Vulnerable (result : Except Raised CheckDecision) : Prop :=
  ∃ decision, result = .ok decision ∧ decision.verdict = .VULNERABLE

/-- The merge loses no trusted confirmation of a decisive proof and no verdict that rests on one. -/
structure Lossless (digest : Digest) (exceeds : CheckObservation → Bool) (case : ExecutionCase)
    (observations : List CheckObservation) : Prop where
  kept : ∀ proof ∈ case.proofRequirements, proof.level = .VERDICT_REQUIRED →
    (∃ item, Confirmation proof observations item) → ∃ item, Confirmation proof (uniqueObservations observations) item
  decided : ∀ (outcome : CheckCaseOutcome) (allowVerdict : Option CaseVerdict), outcome.attributed = true →
    collectedConditionsStatus digest case.permission.conditions outcome.conditionObservations = .MATCH →
    (Vulnerable (completeCase digest exceeds case outcome observations allowVerdict) ↔
      Vulnerable (decideCase digest case outcome observations allowVerdict))

section Verdicts

variable {digest : Digest} {case : ExecutionCase} {observations others : List CheckObservation}
  {proof : EffectProofRequirement}

theorem confirmedFact_iff : confirmedFact (effectFact observations proof) = true ↔
    ∃ item, Confirmation proof observations item := by
  constructor
  · intro fact
    by_contra none
    have unconfirmed : (observedAfter proof observations).any confirmedObservation = false := by
      rw [List.any_eq_false]
      intro item listed confirmed
      simp only [confirmedObservation, Bool.and_eq_true, decide_eq_true_eq] at confirmed
      exact none ⟨item, listed, confirmed⟩
    simp only [confirmedFact, effectFact, unconfirmed, Bool.false_eq_true, if_false, Bool.and_eq_true,
      decide_eq_true_eq] at fact
    obtain ⟨state, -⟩ := fact
    split at state <;> cases state
  · rintro ⟨item, listed, state, trusted⟩
    apply effectFact_confirmed listed
    simp [confirmedObservation, state, trusted]

/-- A proof is confirmed by what remains exactly when the first confirmation of one of its keys is trusted. -/
theorem confirmation_unique {item : CheckObservation} : Confirmation proof (uniqueObservations observations) item ↔
    Confirmation proof observations item ∧ firstConfirmed observations (observationKey item) = some item := by
  constructor
  · rintro ⟨listed, state, trusted⟩
    obtain ⟨remains, about⟩ := mem_observedAfter.mp listed
    exact ⟨⟨mem_observedAfter.mpr ⟨mem_of_unique remains, about⟩, state, trusted⟩,
      (mem_unique_confirmed item state).mp remains⟩
  · rintro ⟨⟨listed, state, trusted⟩, first⟩
    obtain ⟨-, about⟩ := mem_observedAfter.mp listed
    exact ⟨mem_observedAfter.mpr ⟨(mem_unique_confirmed item state).mpr first, about⟩, state, trusted⟩

/-- Whether a case can be decided does not depend on what was observed. -/
theorem associations_alike {outcome : CheckCaseOutcome} {allowVerdict : Option CaseVerdict} {decision : CheckDecision}
    (decided : decideCase digest case outcome observations allowVerdict = .ok decision) :
    ∃ other, decideCase digest case outcome others allowVerdict = .ok other := by
  unfold decideCase at decided ⊢
  obtain ⟨_, associated, -⟩ := bind_eq_ok.mp decided
  refine ⟨_, bind_eq_ok.mpr ⟨(), ?_, rfl⟩⟩
  unfold CheckDecisionInput.validateProofAssociations at associated ⊢
  simp only [projectCheckEffectFacts, List.map_map] at associated ⊢
  exact associated

theorem vulnerable_iff (accepted : validateActionCase digest case = .ok ()) (absence : case.expectsAbsence = true)
    {outcome : CheckCaseOutcome} {allowVerdict : Option CaseVerdict} (attributed : outcome.attributed = true)
    (matched : collectedConditionsStatus digest case.permission.conditions outcome.conditionObservations = .MATCH) :
    Vulnerable (decideCase digest case outcome observations allowVerdict) ↔
      (∃ decision, decideCase digest case outcome observations allowVerdict = .ok decision) ∧
        DecisivelyConfirmed case observations := by
  constructor
  · rintro ⟨decision, decided, verdict⟩
    exact ⟨⟨decision, decided⟩, ((decideCase_vulnerable accepted decided).mp verdict).2.2.2⟩
  · rintro ⟨⟨decision, decided⟩, confirmed⟩
    exact ⟨decision, decided, (decideCase_vulnerable accepted decided).mpr ⟨matched, absence, attributed, confirmed⟩⟩

theorem decisivelyConfirmed_unique (first : TrustedFirst case observations) :
    DecisivelyConfirmed case (uniqueObservations observations) ↔ DecisivelyConfirmed case observations := by
  constructor
  · rintro ⟨proof, member, level, fact⟩
    obtain ⟨item, remains⟩ := confirmedFact_iff.mp fact
    exact ⟨proof, member, level, confirmedFact_iff.mpr ⟨item, (confirmation_unique.mp remains).1⟩⟩
  · rintro ⟨proof, member, level, fact⟩
    obtain ⟨item, remains⟩ := first proof member level (confirmedFact_iff.mp fact)
    exact ⟨proof, member, level, confirmedFact_iff.mpr ⟨item, confirmation_unique.mpr remains⟩⟩

/-- The merge of repeated observations is lossless exactly when a trusted confirmation comes first. -/
theorem merge_lossless {exceeds : CheckObservation → Bool} (accepted : validateActionCase digest case = .ok ())
    (absence : case.expectsAbsence = true)
    (untouched : ∀ item ∈ uniqueObservations observations, exceeds item = false) :
    Lossless digest exceeds case observations ↔ TrustedFirst case observations := by
  constructor
  · intro lossless proof member level confirmed
    obtain ⟨item, remains⟩ := lossless.kept proof member level confirmed
    exact ⟨item, confirmation_unique.mp remains⟩
  · intro first
    constructor
    · intro proof member level confirmed
      obtain ⟨item, kept⟩ := first proof member level confirmed
      exact ⟨item, confirmation_unique.mpr kept⟩
    · intro outcome allowVerdict attributed matched
      unfold completeCase
      rw [finalizeFacts_untouched untouched, vulnerable_iff accepted absence attributed matched,
        vulnerable_iff accepted absence attributed matched, decisivelyConfirmed_unique first]
      apply and_congr_left
      intro _
      constructor
      · rintro ⟨decision, decided⟩
        exact associations_alike decided
      · rintro ⟨decision, decided⟩
        exact associations_alike decided

end Verdicts

/-- The observer confirms the effect, but its source could not be relied on. -/
def doubtfulObservation : CheckObservation :=
  { finalObservation "main" .VERDICT_REQUIRED .CONFIRMED with reliable := false }

/-- The observer was read twice, and only the second reading can be trusted. -/
def repeatedObservations : List CheckObservation :=
  [doubtfulObservation, finalObservation "main" .VERDICT_REQUIRED .CONFIRMED]

def sampleCase : ExecutionCase := identified textDigest "action" 1 (deniedCase "resource" sampleProofs)

theorem sample_merged : uniqueObservations repeatedObservations = [doubtfulObservation] :=
  unique_repeated rfl rfl

/-- An untrusted confirmation hides the trusted one that follows it. -/
theorem doubtful_hides : ¬ ∀ (digest : Digest) (exceeds : CheckObservation → Bool) (case : ExecutionCase)
    (observations : List CheckObservation), validateActionCase digest case = .ok () → case.expectsAbsence = true →
      (∀ item ∈ uniqueObservations observations, exceeds item = false) → Lossless digest exceeds case observations := by
  intro always
  have lossless := always textDigest (fun _ => false) sampleCase repeatedObservations
    (identified_valid (deniedCase_valid sample_decisive)) rfl (fun _ _ => rfl)
  obtain ⟨item, listed, -, trusted⟩ := lossless.kept (decisiveProof textDigest "resource") (List.mem_singleton.mpr rfl) rfl
    ⟨finalObservation "main" .VERDICT_REQUIRED .CONFIRMED, by
      refine ⟨mem_observedAfter.mpr ⟨?_, rfl, rfl, .inr rfl⟩, rfl, rfl⟩
      exact List.mem_cons_of_mem _ (List.mem_singleton.mpr rfl)⟩
  have remains := (mem_observedAfter.mp listed).1
  rw [sample_merged, List.mem_singleton] at remains
  rw [remains] at trusted
  cases trusted

theorem sample_lossless :
    Lossless textDigest (fun _ => false) sampleCase [finalObservation "main" .VERDICT_REQUIRED .CONFIRMED] ↔
      TrustedFirst sampleCase [finalObservation "main" .VERDICT_REQUIRED .CONFIRMED] :=
  merge_lossless (identified_valid (deniedCase_valid sample_decisive)) rfl (fun _ _ => rfl)

end Jiejian.Verification.Repetitions
