import Jiejian.Library.Sorting
import Jiejian.Library.Table
import Jiejian.Preparation.Models
import Jiejian.Verification.Models

namespace Jiejian.Verification.Effects

open Library Library.Outcome Library.Sorting Errors Models

abbrev ObservedEffect := EffectState

abbrev TemporalClosure := Closure

abbrev SecurityEffectKind := Preparation.Models.BusinessEffectKind

structure SecurityEffectDefinition where
  effectId : String
  kind : SecurityEffectKind
  deriving DecidableEq, Repr

structure ObservationFact where
  effectId : String
  requirementId : String
  resourceId : String
  effect : ObservedEffect
  complete : Bool
  reliable : Bool
  correlated : Bool
  temporalClosure : TemporalClosure
  reasonCodes : List String := []
  deriving DecidableEq, Repr

/-- `item.complete and item.reliable and item.correlated`. -/
def ObservationFact.trusted (item : ObservationFact) : Bool := item.complete && item.reliable && item.correlated

def ObservationFact.validateObservation (item : ObservationFact) : Except Raised Unit := do
  require item.reasonCodes.Nodup (.ValueError "reason_codes must contain unique stable codes")
  require (¬(item.effect = .UNKNOWN ∧ item.trusted))
    (.ValueError "unknown observation cannot be complete, reliable, and correlated")
  if ¬item.trusted ∨ item.temporalClosure ≠ .CLOSED then
    require (item.reasonCodes ≠ [])
      (.ValueError "incomplete, unreliable, uncorrelated, or open observations require a reason")
  else
    require (item.reasonCodes = []) (.ValueError "complete reliable observations cannot contain failure reasons")

structure DisclosureProof where
  projectionVersion : String
  projectionComplete : Bool
  ownerDigest : String
  responseDigest : String
  matched : Bool
  correlationDigest : String
  deriving DecidableEq, Repr

structure SecurityEffectFact where
  effectId : String
  kind : SecurityEffectKind
  resourceId : String
  state : ObservedEffect
  complete : Bool
  reliable : Bool
  correlated : Bool
  temporalClosure : TemporalClosure
  baselineIntegrity : Bool
  sourceRequirementIds : List String
  disclosureProof : Option DisclosureProof := none
  reasonCodes : List String := []
  deriving DecidableEq, Repr

def DisclosureProof.confirms (proof : DisclosureProof) : Bool := proof.projectionComplete && proof.matched

/-- A disclosure fact, and no other, carries the digests that prove it. -/
def SecurityEffectFact.validateDisclosure (fact : SecurityEffectFact) : Except Raised Unit :=
  if fact.kind = .DATA_DISCLOSURE then do
    let proof ← orRaise fact.disclosureProof (.ValueError "DATA_DISCLOSURE requires a digest proof")
    require (¬(fact.state = .CONFIRMED ∧ proof.confirms = false))
      (.ValueError "confirmed disclosure requires a matching digest")
  else require (fact.disclosureProof = none) (.ValueError "disclosure proof is only valid for DATA_DISCLOSURE")

def SecurityEffectFact.validateState (fact : SecurityEffectFact) : Except Raised Unit :=
  match fact.state with
  | .CONFIRMED => require (fact.complete && fact.reliable && fact.correlated)
      (.ValueError "confirmed effect requires an authoritative complete source")
  | .ABSENT => require ((fact.complete && fact.reliable && fact.correlated) ∧ fact.temporalClosure = .CLOSED ∧
        fact.baselineIntegrity)
      (.ValueError "absent effect requires complete closed evidence and a valid baseline")
  | .UNKNOWN => require (fact.reasonCodes ≠ []) (.ValueError "unknown effect requires a reason")

/-- The constructor: the bounds of the fields, the validator, and the two sorted fields. -/
def SecurityEffectFact.create (fact : SecurityEffectFact) : Except Raised SecurityEffectFact := do
  require (1 ≤ fact.sourceRequirementIds.length ∧ fact.sourceRequirementIds.length ≤ 64)
    (.ValueError "source_requirement_ids")
  require (fact.reasonCodes.length ≤ 32) (.ValueError "reason_codes")
  require fact.reasonCodes.Nodup (.ValueError "reason_codes must contain unique stable codes")
  require fact.sourceRequirementIds.Nodup (.ValueError "source requirement IDs must be unique")
  fact.validateDisclosure
  fact.validateState
  return { fact with
    sourceRequirementIds := sortedSet fact.sourceRequirementIds
    reasonCodes := sortedSet fact.reasonCodes }

def aggregateClosure (values : List TemporalClosure) : TemporalClosure :=
  if values ≠ [] ∧ ∀ value ∈ values, value = .CLOSED then .CLOSED
  else if ∃ value ∈ values, value = .OPEN then .OPEN
  else .UNKNOWN

/-- The keyword arguments of an aggregation, except the observations. -/
structure EffectQuestion where
  effect : SecurityEffectDefinition
  resourceId : String
  requiredRequirementIds : List String
  corroboratingRequirementIds : List String
  baselineIntegrity : Bool
  disclosureProof : Option DisclosureProof := none
  deriving DecidableEq, Repr

section Aggregation

variable (question : EffectQuestion) (observations : List ObservationFact)

def relevantIds : List String := question.requiredRequirementIds ++ question.corroboratingRequirementIds

def selected : List ObservationFact :=
  observations.filter fun item => item.effectId = question.effect.effectId ∧ item.resourceId = question.resourceId ∧
    item.requirementId ∈ relevantIds question

def authoritative : List ObservationFact :=
  (selected question observations).filter fun item => item.requirementId ∈ question.requiredRequirementIds

def confirmedItem (item : ObservationFact) : Bool := decide (item.effect = .CONFIRMED) && item.trusted

/-- A matching digest confirms through every required observation, or else through every selected one. -/
def confirmed : List ObservationFact :=
  if question.disclosureProof.any DisclosureProof.confirms then
    if authoritative question observations ≠ [] then authoritative question observations
    else selected question observations
  else (authoritative question observations).filter confirmedItem

/-- The last observation of each required requirement. -/
def byRequirement : List ObservationFact :=
  (authoritative question observations).foldl (Table.put ObservationFact.requirementId) []

def confirmedEffect : SecurityEffectFact where
  effectId := question.effect.effectId
  kind := question.effect.kind
  resourceId := question.resourceId
  state := .CONFIRMED
  complete := true
  reliable := true
  correlated := true
  temporalClosure := aggregateClosure ((confirmed question observations).map (·.temporalClosure))
  baselineIntegrity := question.baselineIntegrity
  sourceRequirementIds :=
    if confirmed question observations ≠ [] then sortedSet ((confirmed question observations).map (·.requirementId))
    else sortedSet (relevantIds question)
  disclosureProof := question.disclosureProof

def complete : Bool :=
  decide (SameSet ((byRequirement question observations).map (·.requirementId)) question.requiredRequirementIds) &&
    (byRequirement question observations).all (·.complete)

def reliable : Bool := complete question observations && (byRequirement question observations).all (·.reliable)

def correlated : Bool := reliable question observations && (byRequirement question observations).all (·.correlated)

def allAbsent : Bool :=
  correlated question observations && (byRequirement question observations).all fun item => item.effect = .ABSENT

def closure : TemporalClosure := aggregateClosure ((byRequirement question observations).map (·.temporalClosure))

/-- `disclosure_proof is None or (disclosure_proof.projection_complete and not disclosure_proof.matched)`. -/
def disclosureAbsent : Bool :=
  question.disclosureProof.all fun proof => proof.projectionComplete && !proof.matched

def absentEffect : SecurityEffectFact where
  effectId := question.effect.effectId
  kind := question.effect.kind
  resourceId := question.resourceId
  state := .ABSENT
  complete := true
  reliable := true
  correlated := true
  temporalClosure := .CLOSED
  baselineIntegrity := true
  sourceRequirementIds := question.requiredRequirementIds
  disclosureProof := question.disclosureProof

def missingReasons : List String :=
  (if complete question observations = false then ["REQUIRED_EFFECT_CHANNEL_INCOMPLETE"] else []) ++
  (if complete question observations ∧ reliable question observations = false
    then ["REQUIRED_EFFECT_CHANNEL_UNRELIABLE"] else []) ++
  (if reliable question observations ∧ correlated question observations = false
    then ["REQUIRED_EFFECT_CHANNEL_UNCORRELATED"] else []) ++
  (if closure question observations ≠ .CLOSED then ["TEMPORAL_CLOSURE_INCOMPLETE"] else []) ++
  (if question.baselineIntegrity = false then ["BASELINE_INTEGRITY_INVALID"] else []) ++
  (if question.disclosureProof.any (fun proof => !proof.projectionComplete)
    then ["DISCLOSURE_PROJECTION_INCOMPLETE"] else [])

def unknownReasons : List String :=
  if missingReasons question observations = [] then ["EFFECT_STATE_UNKNOWN"] else missingReasons question observations

def unknownSources : List String :=
  if question.requiredRequirementIds ≠ [] then sortedSet question.requiredRequirementIds
  else sortedSet (relevantIds question)

def unknownEffect : SecurityEffectFact where
  effectId := question.effect.effectId
  kind := question.effect.kind
  resourceId := question.resourceId
  state := .UNKNOWN
  complete := complete question observations
  reliable := reliable question observations
  correlated := correlated question observations
  temporalClosure := closure question observations
  baselineIntegrity := question.baselineIntegrity
  sourceRequirementIds := unknownSources question
  disclosureProof := question.disclosureProof
  reasonCodes := unknownReasons question observations

def absentShown : Prop :=
  allAbsent question observations ∧ disclosureAbsent question ∧ closure question observations = .CLOSED ∧
    question.baselineIntegrity

instance : Decidable (absentShown question observations) := inferInstanceAs (Decidable (_ ∧ _))

def aggregateSecurityEffect : Except Raised SecurityEffectFact :=
  if confirmed question observations ≠ [] then (confirmedEffect question observations).create
  else if absentShown question observations then (absentEffect question).create
  else (unknownEffect question observations).create

end Aggregation

/-- The state an aggregation gives, if it gives one. -/
def effectState (question : EffectQuestion) (observations : List ObservationFact) : Option ObservedEffect :=
  (aggregateSecurityEffect question observations).toOption.map (·.state)

/-- A trusted and closed absence. -/
def absentItem (item : ObservationFact) : Bool :=
  decide (item.effect = .ABSENT) && item.trusted && decide (item.temporalClosure = .CLOSED)

section Records

variable {fact result : SecurityEffectFact}

theorem create_eq_ok : fact.create = .ok result ↔
    (1 ≤ fact.sourceRequirementIds.length ∧ fact.sourceRequirementIds.length ≤ 64) ∧ fact.reasonCodes.length ≤ 32 ∧
      fact.reasonCodes.Nodup ∧ fact.sourceRequirementIds.Nodup ∧ fact.validateDisclosure = .ok () ∧
      fact.validateState = .ok () ∧
      { fact with
        sourceRequirementIds := sortedSet fact.sourceRequirementIds
        reasonCodes := sortedSet fact.reasonCodes } = result := by
  simp only [SecurityEffectFact.create, bind_eq_ok, require_eq_ok, exists_const, pure, Except.pure, Except.ok.injEq]
  constructor
  · rintro ⟨fits, short, reasons, sources, ⟨⟩, disclosure, ⟨⟩, state, same⟩
    exact ⟨fits, short, reasons, sources, disclosure, state, same⟩
  · rintro ⟨fits, short, reasons, sources, disclosure, state, same⟩
    exact ⟨fits, short, reasons, sources, (), disclosure, (), state, same⟩

theorem create_state (created : fact.create = .ok result) : result.state = fact.state := by
  obtain ⟨-, -, -, -, -, -, same⟩ := create_eq_ok.mp created
  rw [← same]

/-- What is not confirmed needs a proof of its digests exactly when it is a disclosure. -/
theorem validateDisclosure_unconfirmed (state : fact.state ≠ .CONFIRMED) : fact.validateDisclosure = .ok () ↔
    (fact.kind = .DATA_DISCLOSURE ↔ fact.disclosureProof.isSome) := by
  unfold SecurityEffectFact.validateDisclosure
  by_cases kind : fact.kind = .DATA_DISCLOSURE
  · cases proof : fact.disclosureProof with
    | none => simp [kind, orRaise, bind, Except.bind]
    | some digests => simp [kind, orRaise, bind, Except.bind, state]
  · cases proof : fact.disclosureProof with
    | none => simp [kind]
    | some digests => simp [kind]

end Records

section Closures

variable {values others : List TemporalClosure}

theorem aggregateClosure_closed : aggregateClosure values = .CLOSED ↔ values ≠ [] ∧ ∀ value ∈ values, value = .CLOSED := by
  unfold aggregateClosure
  by_cases closed : values ≠ [] ∧ ∀ value ∈ values, value = .CLOSED
  · simp only [if_pos closed, true_iff]
    exact closed
  · rw [if_neg closed]
    refine ⟨fun same => ?_, fun holds => absurd holds closed⟩
    split at same <;> cases same

theorem aggregateClosure_perm (perm : values.Perm others) : aggregateClosure values = aggregateClosure others := by
  have empty : values = [] ↔ others = [] := ⟨fun same => (same ▸ perm).nil_eq.symm, fun same => (same ▸ perm).eq_nil⟩
  simp only [aggregateClosure, ne_eq, empty, perm.mem_iff]

end Closures

/-- The observation is of the effect on the resource, for a required requirement. -/
def Asked (question : EffectQuestion) (item : ObservationFact) : Prop :=
  item.effectId = question.effect.effectId ∧ item.resourceId = question.resourceId ∧
    item.requirementId ∈ question.requiredRequirementIds

section Reordered

variable {question : EffectQuestion} {observations reordered : List ObservationFact}

theorem mem_authoritative {item : ObservationFact} : item ∈ authoritative question observations ↔
    item ∈ observations ∧ Asked question item := by
  simp only [authoritative, selected, relevantIds, Asked, List.mem_filter, decide_eq_true_eq, List.mem_append]
  tauto

theorem authoritative_append (first second : List ObservationFact) :
    authoritative question (first ++ second) = authoritative question first ++ authoritative question second := by
  simp only [authoritative, selected, List.filter_append]

theorem selected_perm (perm : reordered.Perm observations) :
    (selected question reordered).Perm (selected question observations) := perm.filter _

theorem authoritative_perm (perm : reordered.Perm observations) :
    (authoritative question reordered).Perm (authoritative question observations) := (selected_perm perm).filter _

theorem confirmed_perm (perm : reordered.Perm observations) :
    (confirmed question reordered).Perm (confirmed question observations) := by
  have required := @authoritative_perm question observations reordered perm
  have empty : authoritative question reordered = [] ↔ authoritative question observations = [] :=
    ⟨fun same => (same ▸ required).nil_eq.symm, fun same => (same ▸ required).eq_nil⟩
  unfold confirmed
  simp only [ne_eq, empty]
  split
  · split
    · exact required
    · exact selected_perm perm
  · exact required.filter _

theorem confirmed_nil (perm : reordered.Perm observations) :
    confirmed question reordered = [] ↔ confirmed question observations = [] := by
  have same := @confirmed_perm question observations reordered perm
  exact ⟨fun none => (none ▸ same).nil_eq.symm, fun none => (none ▸ same).eq_nil⟩

/-- The confirmed fact does not depend on the order. -/
theorem confirmedEffect_perm (perm : reordered.Perm observations) :
    confirmedEffect question reordered = confirmedEffect question observations := by
  have same := @confirmed_perm question observations reordered perm
  have closures := aggregateClosure_perm (same.map (·.temporalClosure))
  have sources : sortedSet ((confirmed question reordered).map (·.requirementId)) =
      sortedSet ((confirmed question observations).map (·.requirementId)) := by
    apply increasing_ext (sortedSet_increasing _) (sortedSet_increasing _)
    intro name
    rw [mem_sortedSet, mem_sortedSet]
    exact (same.map _).mem_iff
  simp only [confirmedEffect, closures, sources, ne_eq, confirmed_nil perm]

end Reordered

section States

variable {question : EffectQuestion} {observations : List ObservationFact}

theorem mem_byRequirement {item : ObservationFact} (member : item ∈ byRequirement question observations) :
    item ∈ authoritative question observations := by
  rcases Table.mem_foldl_put member with found | ⟨nothing, -⟩
  · exact found
  · cases nothing

theorem byRequirement_keys {name : String} : name ∈ (byRequirement question observations).map (·.requirementId) ↔
    name ∈ (authoritative question observations).map (·.requirementId) := by
  rw [byRequirement, Table.keys_foldl_put]
  simp

theorem byRequirement_nil : byRequirement question observations = [] ↔ authoritative question observations = [] := by
  constructor
  · intro silent
    rw [List.eq_nil_iff_forall_not_mem]
    intro item member
    have known := byRequirement_keys.mpr (List.mem_map.mpr ⟨item, member, rfl⟩)
    rw [silent] at known
    cases known
  · intro silent
    rw [List.eq_nil_iff_forall_not_mem]
    intro item member
    have heard := mem_byRequirement member
    rw [silent] at heard
    cases heard

/-- Every required requirement was observed. -/
def Covered (question : EffectQuestion) (observations : List ObservationFact) : Prop :=
  ∀ name ∈ question.requiredRequirementIds, ∃ item ∈ authoritative question observations, item.requirementId = name

theorem sameSet_required : SameSet ((byRequirement question observations).map (·.requirementId))
    question.requiredRequirementIds ↔ Covered question observations := by
  constructor
  · intro same name required
    exact List.mem_map.mp (byRequirement_keys.mp (same.2 required))
  · intro covered
    constructor
    · intro name known
      obtain ⟨item, member, rfl⟩ := List.mem_map.mp (byRequirement_keys.mp known)
      exact (mem_authoritative.mp member).2.2.2
    · intro name required
      exact byRequirement_keys.mpr (List.mem_map.mpr (covered name required))

/-- The absence is shown by the last observations alone. -/
theorem absentShown_iff : absentShown question observations ↔
    question.baselineIntegrity = true ∧ disclosureAbsent question = true ∧ authoritative question observations ≠ [] ∧
      Covered question observations ∧ ∀ item ∈ byRequirement question observations, absentItem item = true := by
  have filled : (byRequirement question observations).map (·.temporalClosure) = [] ↔
      authoritative question observations = [] := by rw [List.map_eq_nil_iff, byRequirement_nil]
  have values : ∀ property : ObservationFact → Bool, (byRequirement question observations).all property = true ↔
      ∀ item ∈ byRequirement question observations, property item = true := fun property => List.all_eq_true
  simp only [absentShown, allAbsent, correlated, reliable, complete, closure, aggregateClosure_closed, ne_eq, filled,
    Bool.and_eq_true, decide_eq_true_eq, sameSet_required, values, List.mem_map, forall_exists_index, and_imp,
    forall_apply_eq_imp_iff₂, absentItem, ObservationFact.trusted]
  constructor
  · rintro ⟨⟨⟨⟨⟨covered, complete⟩, reliable⟩, correlated⟩, absent⟩, disclosure, ⟨some, closed⟩, baseline⟩
    refine ⟨baseline, disclosure, some, covered, fun item member => ?_⟩
    exact ⟨⟨absent item member, ⟨complete item member, reliable item member⟩, correlated item member⟩,
      closed item member⟩
  · rintro ⟨baseline, disclosure, some, covered, holds⟩
    exact ⟨⟨⟨⟨⟨covered, fun item member => (holds item member).1.2.1.1⟩, fun item member => (holds item member).1.2.1.2⟩,
      fun item member => (holds item member).1.2.2⟩, fun item member => (holds item member).1.1⟩, disclosure,
      ⟨some, fun item member => (holds item member).2⟩, baseline⟩

theorem missingReasons_listed : (missingReasons question observations).Sublist
    ["REQUIRED_EFFECT_CHANNEL_INCOMPLETE", "REQUIRED_EFFECT_CHANNEL_UNRELIABLE", "REQUIRED_EFFECT_CHANNEL_UNCORRELATED",
      "TEMPORAL_CLOSURE_INCOMPLETE", "BASELINE_INTEGRITY_INVALID", "DISCLOSURE_PROJECTION_INCOMPLETE"] := by
  have optional : ∀ (condition : Prop) [Decidable condition] (reason : String),
      (if condition then [reason] else []).Sublist [reason] := by
    intro condition _ reason
    split
    · exact List.Sublist.refl _
    · exact List.nil_sublist _
  exact (((((optional _ _).append (optional _ _)).append (optional _ _)).append (optional _ _)).append
    (optional _ _)).append (optional _ _)

theorem unknownReasons_valid : unknownReasons question observations ≠ [] ∧
    (unknownReasons question observations).length ≤ 32 ∧ (unknownReasons question observations).Nodup := by
  have listed := @missingReasons_listed question observations
  unfold unknownReasons
  by_cases settled : missingReasons question observations = []
  · rw [if_pos settled]
    decide
  · rw [if_neg settled]
    exact ⟨settled, listed.length_le.trans (by decide), listed.nodup (by decide)⟩

/-- A disclosure question, and no other, brings digests. -/
def Consistent (question : EffectQuestion) : Prop :=
  question.effect.kind = .DATA_DISCLOSURE ↔ question.disclosureProof.isSome

theorem unknown_created : (∃ fact, (unknownEffect question observations).create = .ok fact) ↔
    (1 ≤ (unknownSources question).length ∧ (unknownSources question).length ≤ 64) ∧ Consistent question := by
  have distinct : (unknownSources question).Nodup := by
    unfold unknownSources
    split
    · exact (sortedSet_increasing _).imp fun before => ne_of_lt before
    · exact (sortedSet_increasing _).imp fun before => ne_of_lt before
  have reasons := @unknownReasons_valid question observations
  have disclosure := @validateDisclosure_unconfirmed (unknownEffect question observations) nofun
  constructor
  · rintro ⟨fact, created⟩
    obtain ⟨fits, -, -, -, valid, -⟩ := create_eq_ok.mp created
    exact ⟨fits, disclosure.mp valid⟩
  · rintro ⟨fits, consistent⟩
    refine ⟨_, create_eq_ok.mpr ⟨fits, reasons.2.1, reasons.2.2, distinct, disclosure.mpr consistent, ?_, rfl⟩⟩
    exact require_eq_ok.mpr reasons.1

theorem absent_created {fact : SecurityEffectFact} (created : (absentEffect question).create = .ok fact) :
    question.requiredRequirementIds.length ≤ 64 ∧ question.requiredRequirementIds.Nodup ∧ Consistent question := by
  obtain ⟨fits, -, -, distinct, valid, -⟩ := create_eq_ok.mp created
  exact ⟨fits.2, distinct, (@validateDisclosure_unconfirmed (absentEffect question) nofun).mp valid⟩

theorem effectState_eq_some {state : ObservedEffect} : effectState question observations = some state ↔
    ∃ fact, aggregateSecurityEffect question observations = .ok fact ∧ fact.state = state := by
  unfold effectState
  cases aggregateSecurityEffect question observations with
  | error raised => simp [Except.toOption]
  | ok fact => simp [Except.toOption]

theorem effectState_absent (absent : effectState question observations = some .ABSENT) :
    confirmed question observations = [] ∧ absentShown question observations ∧
      question.requiredRequirementIds.length ≤ 64 ∧ question.requiredRequirementIds.Nodup ∧ Consistent question := by
  obtain ⟨fact, aggregated, state⟩ := effectState_eq_some.mp absent
  unfold aggregateSecurityEffect at aggregated
  by_cases seen : confirmed question observations ≠ []
  · rw [if_pos seen] at aggregated
    rw [create_state aggregated] at state
    cases state
  · rw [if_neg seen] at aggregated
    by_cases shown : absentShown question observations
    · rw [if_pos shown] at aggregated
      exact ⟨not_not.mp seen, shown, absent_created aggregated⟩
    · rw [if_neg shown] at aggregated
      rw [create_state aggregated] at state
      cases state

/-- Nothing was confirmed, and the observations alone decide between an absence and an open answer. -/
theorem effectState_unconfirmed (unconfirmed : confirmed question observations = [])
    (unshown : ¬ absentShown question observations)
    (fits : 1 ≤ (unknownSources question).length ∧ (unknownSources question).length ≤ 64)
    (consistent : Consistent question) : effectState question observations = some .UNKNOWN := by
  obtain ⟨fact, created⟩ := (@unknown_created question observations).mpr ⟨fits, consistent⟩
  apply effectState_eq_some.mpr
  refine ⟨fact, ?_, create_state created⟩
  unfold aggregateSecurityEffect
  rw [if_neg (not_not.mpr unconfirmed), if_neg unshown]
  exact created

end States

/-- The properties of one aggregation: any order of the observations gives the same state, and an absence rests on
every required observation. -/
def OrderIndependent (question : EffectQuestion) (observations : List ObservationFact) : Prop :=
  (∀ reordered : List ObservationFact, reordered.Perm observations →
    effectState question reordered = effectState question observations) ∧
  (effectState question observations = some .ABSENT →
    (∀ item ∈ observations, Asked question item → absentItem item = true) ∧
    ∀ name ∈ question.requiredRequirementIds, ∃ item ∈ observations, Asked question item ∧ item.requirementId = name)

/-- Everything but the order speaks for an absence: each required requirement has a trusted and closed absence, and
some requirement has another observation that is none. -/
structure Contested (question : EffectQuestion) (observations : List ObservationFact) : Prop where
  consistent : question.effect.kind = .DATA_DISCLOSURE ↔ question.disclosureProof.isSome
  bounded : question.requiredRequirementIds.dedup.length ≤ 64
  baseline : question.baselineIntegrity = true
  undisclosed : ∀ proof ∈ question.disclosureProof, proof.projectionComplete = true ∧ proof.matched = false
  unconfirmed : ∀ item ∈ observations, Asked question item → confirmedItem item = false
  covered : ∀ name ∈ question.requiredRequirementIds, ∃ item ∈ observations,
    Asked question item ∧ item.requirementId = name ∧ absentItem item = true
  doubted : ∃ item ∈ observations, Asked question item ∧ absentItem item = false

section Contests

variable {question : EffectQuestion} {observations reordered : List ObservationFact}

theorem disclosureAbsent_iff : disclosureAbsent question = true ↔
    ∀ proof ∈ question.disclosureProof, proof.projectionComplete = true ∧ proof.matched = false := by
  unfold disclosureAbsent
  cases question.disclosureProof with
  | none => simp
  | some proof => simp

/-- Without a matching digest only the required observations confirm. -/
theorem confirmed_of_undisclosed (undisclosed : disclosureAbsent question = true) :
    confirmed question observations = [] ↔
      ∀ item ∈ observations, Asked question item → confirmedItem item = false := by
  have unmatched : question.disclosureProof.any DisclosureProof.confirms = false := by
    rw [disclosureAbsent_iff] at undisclosed
    cases proof : question.disclosureProof with
    | none => rfl
    | some digests => simp [DisclosureProof.confirms, (undisclosed digests proof).2]
  unfold confirmed
  rw [unmatched, if_neg Bool.false_ne_true, List.filter_eq_nil_iff]
  simp only [mem_authoritative, Bool.not_eq_true, and_imp]

theorem unknownSources_fit (required : question.requiredRequirementIds ≠ []) :
    1 ≤ (unknownSources question).length ∧ (unknownSources question).length = question.requiredRequirementIds.dedup.length := by
  unfold unknownSources
  rw [if_pos required]
  have same : (sortedSet question.requiredRequirementIds).length = question.requiredRequirementIds.dedup.length :=
    (List.perm_insertionSort _ _).length_eq
  refine ⟨?_, same⟩
  obtain ⟨name, member⟩ := List.exists_mem_of_ne_nil _ required
  exact List.length_pos_of_mem (mem_sortedSet.mpr member)

theorem required_of_asked {item : ObservationFact} (asked : Asked question item) :
    question.requiredRequirementIds ≠ [] := List.ne_nil_of_mem asked.2.2

/-- An absence that only one order of the observations shows leaves a doubtful observation behind. -/
theorem doubted_of_shown (perm : reordered.Perm observations) (unconfirmed : confirmed question observations = [])
    (shown : absentShown question reordered)
    (doubted : ∃ item ∈ observations, Asked question item ∧ absentItem item = false)
    (consistent : Consistent question) (bounded : question.requiredRequirementIds.dedup.length ≤ 64) :
    Contested question observations := by
  obtain ⟨baseline, undisclosed, -, covered, absent⟩ := absentShown_iff.mp shown
  refine ⟨consistent, bounded, baseline, disclosureAbsent_iff.mp undisclosed,
    (confirmed_of_undisclosed undisclosed).mp unconfirmed, ?_, doubted⟩
  intro name required
  have known := (sameSet_required.mpr covered).2 required
  obtain ⟨item, member, same⟩ := List.mem_map.mp known
  obtain ⟨stored, asked⟩ := mem_authoritative.mp (mem_byRequirement member)
  exact ⟨item, perm.mem_iff.mp stored, asked, same, absent item member⟩

/-- What does not fit the record gives no state. -/
theorem effectState_unfit (unconfirmed : confirmed question observations = [])
    (required : question.requiredRequirementIds ≠ [])
    (unfit : ¬ (Consistent question ∧ question.requiredRequirementIds.dedup.length ≤ 64)) :
    effectState question observations = none := by
  cases given : effectState question observations with
  | none => rfl
  | some state =>
    exfalso
    apply unfit
    obtain ⟨fact, aggregated, -⟩ := effectState_eq_some.mp given
    unfold aggregateSecurityEffect at aggregated
    rw [if_neg (not_not.mpr unconfirmed)] at aggregated
    by_cases shown : absentShown question observations
    · rw [if_pos shown] at aggregated
      obtain ⟨bounded, distinct, consistent⟩ := absent_created aggregated
      rw [distinct.dedup]
      exact ⟨consistent, bounded⟩
    · rw [if_neg shown] at aggregated
      obtain ⟨fits, consistent⟩ := unknown_created.mp ⟨fact, aggregated⟩
      rw [(unknownSources_fit required).2] at fits
      exact ⟨consistent, fits.2⟩

/-- Observations that are all absences show it in any order. -/
theorem absentShown_of_all (perm : reordered.Perm observations) (shown : absentShown question reordered)
    (all : ∀ item ∈ observations, Asked question item → absentItem item = true) :
    absentShown question observations := by
  obtain ⟨baseline, undisclosed, some, covered, -⟩ := absentShown_iff.mp shown
  have same := @authoritative_perm question observations reordered perm
  refine absentShown_iff.mpr ⟨baseline, undisclosed, ?_, ?_, ?_⟩
  · intro silent
    exact some ((silent ▸ same).eq_nil)
  · intro name required
    obtain ⟨item, member, named⟩ := covered name required
    exact ⟨item, same.mem_iff.mp member, named⟩
  · intro item member
    obtain ⟨stored, asked⟩ := mem_authoritative.mp (mem_byRequirement member)
    exact all item stored asked

/-- A reordering that shows an absence gives the state of the original order, unless the observations are contested. -/
theorem effectState_of_shown (perm : reordered.Perm observations) (unconfirmed : confirmed question observations = [])
    (shown : absentShown question reordered) (uncontested : ¬ Contested question observations) :
    effectState question reordered = effectState question observations := by
  have unconfirmed' := (@confirmed_nil question observations reordered perm).mpr unconfirmed
  by_cases all : ∀ item ∈ observations, Asked question item → absentItem item = true
  · have shown' := absentShown_of_all perm shown all
    unfold effectState aggregateSecurityEffect
    rw [if_neg (not_not.mpr unconfirmed'), if_pos shown, if_neg (not_not.mpr unconfirmed), if_pos shown']
  · have doubted : ∃ item ∈ observations, Asked question item ∧ absentItem item = false := by
      by_contra clear
      apply all
      intro item member asked
      by_contra doubtful
      exact clear ⟨item, member, asked, Bool.not_eq_true _ ▸ doubtful⟩
    have unfit : ¬ (Consistent question ∧ question.requiredRequirementIds.dedup.length ≤ 64) :=
      fun fits => uncontested (doubted_of_shown perm unconfirmed shown doubted fits.1 fits.2)
    obtain ⟨item, -, asked, -⟩ := doubted
    rw [effectState_unfit unconfirmed (required_of_asked asked) unfit,
      effectState_unfit unconfirmed' (required_of_asked asked) unfit]

theorem Contested.reorder (contested : Contested question observations) (perm : reordered.Perm observations) :
    Contested question reordered where
  consistent := contested.consistent
  bounded := contested.bounded
  baseline := contested.baseline
  undisclosed := contested.undisclosed
  unconfirmed item member := contested.unconfirmed item (perm.mem_iff.mp member)
  covered name required := by
    obtain ⟨item, member, found⟩ := contested.covered name required
    exact ⟨item, perm.mem_iff.mpr member, found⟩
  doubted := by
    obtain ⟨item, member, found⟩ := contested.doubted
    exact ⟨item, perm.mem_iff.mpr member, found⟩

/-- Any other order gives the same state. -/
theorem effectState_perm (uncontested : ¬ Contested question observations) (perm : reordered.Perm observations) :
    effectState question reordered = effectState question observations := by
  by_cases unconfirmed : confirmed question observations = []
  · have unconfirmed' := (@confirmed_nil question observations reordered perm).mpr unconfirmed
    by_cases shown : absentShown question reordered
    · exact effectState_of_shown perm unconfirmed shown uncontested
    · by_cases shown' : absentShown question observations
      · symm
        exact effectState_of_shown perm.symm unconfirmed' shown' fun contested => uncontested (contested.reorder perm.symm)
      · -- neither order shows an absence: both answers are open, and the records fit alike
        have same : (∃ fact, (unknownEffect question reordered).create = .ok fact) ↔
            ∃ fact, (unknownEffect question observations).create = .ok fact := by
          rw [unknown_created, unknown_created]
        unfold effectState aggregateSecurityEffect
        rw [if_neg (not_not.mpr unconfirmed'), if_neg shown, if_neg (not_not.mpr unconfirmed), if_neg shown']
        cases first : (unknownEffect question reordered).create with
        | ok fact =>
          obtain ⟨other, second⟩ := same.mp ⟨fact, first⟩
          rw [second]
          simp only [Except.toOption, Option.map_some, create_state first, create_state second]
          rfl
        | error raised =>
          cases second : (unknownEffect question observations).create with
          | ok fact =>
            obtain ⟨other, created⟩ := same.mpr ⟨fact, second⟩
            rw [first] at created
            cases created
          | error other => rfl
  · have confirming : confirmed question reordered ≠ [] := fun none => unconfirmed ((confirmed_nil perm).mp none)
    unfold effectState aggregateSecurityEffect
    rw [if_pos confirming, if_pos unconfirmed, confirmedEffect_perm perm]

/-- An absence rests on every required observation. -/
theorem effectState_absent_all (uncontested : ¬ Contested question observations)
    (absent : effectState question observations = some .ABSENT) :
    (∀ item ∈ observations, Asked question item → absentItem item = true) ∧
      ∀ name ∈ question.requiredRequirementIds, ∃ item ∈ observations,
        Asked question item ∧ item.requirementId = name := by
  obtain ⟨unconfirmed, shown, bounded, distinct, consistent⟩ := effectState_absent absent
  constructor
  · intro item member asked
    by_contra doubtful
    apply uncontested
    refine doubted_of_shown (List.Perm.refl _) unconfirmed shown
      ⟨item, member, asked, Bool.not_eq_true _ ▸ doubtful⟩ consistent ?_
    rw [distinct.dedup]
    exact bounded
  · intro name required
    obtain ⟨item, member, named⟩ := (absentShown_iff.mp shown).2.2.2.1 name required
    obtain ⟨stored, asked⟩ := mem_authoritative.mp member
    exact ⟨item, stored, asked, named⟩

theorem byRequirement_append (before after : List ObservationFact) : byRequirement question (before ++ after) =
    (authoritative question after).foldl (Table.put ObservationFact.requirementId) (byRequirement question before) := by
  unfold byRequirement
  rw [authoritative_append, List.foldl_append]

/-- With the absences at the end every requirement ends on one. -/
theorem Contested.shown (contested : Contested question observations) : ∃ reordered : List ObservationFact,
    reordered.Perm observations ∧ absentShown question reordered := by
  let absences := observations.filter absentItem
  let others := observations.filter fun item => !absentItem item
  have perm : (others ++ absences).Perm observations :=
    List.perm_append_comm.trans (List.filter_append_perm absentItem observations)
  refine ⟨others ++ absences, perm, absentShown_iff.mpr ⟨contested.baseline,
    disclosureAbsent_iff.mpr contested.undisclosed, ?_, ?_, ?_⟩⟩
  · obtain ⟨item, member, asked, -⟩ := contested.doubted
    exact List.ne_nil_of_mem (mem_authoritative.mpr ⟨perm.mem_iff.mpr member, asked⟩)
  · intro name required
    obtain ⟨item, member, asked, named, -⟩ := contested.covered name required
    exact ⟨item, mem_authoritative.mpr ⟨perm.mem_iff.mpr member, asked⟩, named⟩
  · intro item member
    rw [byRequirement_append] at member
    rcases Table.mem_foldl_put member with late | ⟨early, silent⟩
    · exact (List.mem_filter.mp (mem_authoritative.mp late).1).2
    · -- an earlier observation would have been replaced by the absence of its requirement
      exfalso
      obtain ⟨-, asked⟩ := mem_authoritative.mp (mem_byRequirement early)
      obtain ⟨other, stored, askedOther, named, absent⟩ := contested.covered item.requirementId asked.2.2
      have listed : other ∈ absences := List.mem_filter.mpr ⟨stored, absent⟩
      exact silent other (mem_authoritative.mpr ⟨listed, askedOther⟩) named

/-- With the doubtful observation at the end its requirement ends on it. -/
theorem Contested.unshown (contested : Contested question observations) : ∃ reordered : List ObservationFact,
    reordered.Perm observations ∧ ¬ absentShown question reordered := by
  obtain ⟨item, member, asked, doubtful⟩ := contested.doubted
  obtain ⟨before, after, split⟩ := List.append_of_mem member
  have perm : ((before ++ after) ++ [item]).Perm observations := by
    rw [split]
    exact (List.perm_append_singleton item (before ++ after)).trans List.perm_middle.symm
  refine ⟨(before ++ after) ++ [item], perm, fun shown => ?_⟩
  have last : item ∈ byRequirement question ((before ++ after) ++ [item]) := by
    have itself : authoritative question [item] = [item] := by
      have filtered := mem_authoritative.mpr ⟨List.mem_singleton_self item, asked⟩
      have listed : (authoritative question [item]).Sublist [item] :=
        List.filter_sublist.trans List.filter_sublist
      exact listed.eq_of_length (Nat.le_antisymm listed.length_le (List.length_pos_of_mem filtered))
    rw [byRequirement_append, itself]
    exact Table.mem_put.mpr (.inl rfl)
  have absent := (absentShown_iff.mp shown).2.2.2.2 item last
  rw [doubtful] at absent
  cases absent

theorem Contested.dependent (contested : Contested question observations) :
    ¬ OrderIndependent question observations := by
  rintro ⟨same, -⟩
  obtain ⟨goodLast, goodPerm, shown⟩ := contested.shown
  obtain ⟨badLast, badPerm, unshown⟩ := contested.unshown
  have required : question.requiredRequirementIds ≠ [] := by
    obtain ⟨item, -, asked, -⟩ := contested.doubted
    exact required_of_asked asked
  have sources := unknownSources_fit required
  have unconfirmed : confirmed question observations = [] :=
    (confirmed_of_undisclosed (disclosureAbsent_iff.mpr contested.undisclosed)).mpr contested.unconfirmed
  have unknown : effectState question badLast = some .UNKNOWN :=
    effectState_unconfirmed ((confirmed_nil badPerm).mpr unconfirmed) unshown
      ⟨sources.1, sources.2 ▸ contested.bounded⟩ contested.consistent
  have equal : effectState question goodLast = some .UNKNOWN :=
    (same goodLast goodPerm).trans ((same badLast badPerm).symm.trans unknown)
  obtain ⟨fact, aggregated, state⟩ := effectState_eq_some.mp equal
  unfold aggregateSecurityEffect at aggregated
  rw [if_neg (not_not.mpr ((confirmed_nil goodPerm).mpr unconfirmed)), if_pos shown] at aggregated
  rw [create_state aggregated] at state
  cases state

/-- The order of the observations decides exactly when they are contested. -/
theorem aggregation_order_independent : OrderIndependent question observations ↔ ¬ Contested question observations :=
  ⟨fun independent contested => contested.dependent independent,
    fun uncontested => ⟨fun _ perm => effectState_perm uncontested perm, effectState_absent_all uncontested⟩⟩

end Contests

/-- A mutation of one document, judged by one requirement. -/
def mutationQuestion : EffectQuestion where
  effect := ⟨"changed", .STATE_MUTATION⟩
  resourceId := "document"
  requiredRequirementIds := ["state"]
  corroboratingRequirementIds := []
  baselineIntegrity := true

/-- An observation that could not be completed. -/
def brokenObservation : ObservationFact where
  effectId := "changed"
  requirementId := "state"
  resourceId := "document"
  effect := .UNKNOWN
  complete := false
  reliable := true
  correlated := true
  temporalClosure := .UNKNOWN
  reasonCodes := ["OBSERVER_TIMEOUT"]

/-- A later observation of the same requirement. -/
def quietObservation : ObservationFact where
  effectId := "changed"
  requirementId := "state"
  resourceId := "document"
  effect := .ABSENT
  complete := true
  reliable := true
  correlated := true
  temporalClosure := .CLOSED

example : brokenObservation.validateObservation = .ok () ∧ quietObservation.validateObservation = .ok () := ⟨rfl, rfl⟩

/-- The last writer decides. -/
theorem lastObservation_decides : ¬ ∀ (question : EffectQuestion) (observations : List ObservationFact),
    OrderIndependent question observations := by
  intro always
  refine Contested.dependent ?_ (always mutationQuestion [brokenObservation, quietObservation])
  refine ⟨?_, by decide, rfl, ?_, ?_, ?_, ?_⟩
  · exact ⟨nofun, nofun⟩
  · intro proof member
    cases member
  · intro item member _
    rcases List.mem_pair.mp member with same | same
    · rw [same]; rfl
    · rw [same]; rfl
  · intro name required
    refine ⟨quietObservation, by simp, ⟨rfl, rfl, List.mem_singleton.mpr rfl⟩, ?_, rfl⟩
    exact (List.mem_singleton.mp required).symm
  · exact ⟨brokenObservation, by simp, ⟨rfl, rfl, List.mem_singleton.mpr rfl⟩, rfl⟩

end Jiejian.Verification.Effects
