import Jiejian.Boundaries.Proposals
import Jiejian.Library.Builtins
import Jiejian.Observers.Envelopes
import Jiejian.Protocol.Runtime
import Jiejian.Verification.Effects

namespace Jiejian.Observers.EffectProjector

open Library.Document Library.Outcome Library.Sorting Library.Builtins Errors Envelopes Verification.Effects

/-- The order that a history is read in; the first phase has no place in it. -/
def phaseOrder : ObservationPhase → Option Nat
  | .INITIAL => none
  | .BASELINE => some 0
  | .BEFORE => some 1
  | .AFTER => some 2
  | .EVENTUAL => some 3

def absentStates : List String := ["ABSENT", "DELETED", "MISSING", "NOT_CREATED", "REVOKED"]

structure CheckEffect where
  effectId : String
  kind : SecurityEffectKind
  expectedState : Option String := none
  deriving DecidableEq, Repr

/-- The arguments of a projection, except the envelopes. -/
structure Requirement where
  caseId : String
  resourceId : String
  effect : CheckEffect
  projectionVersion : String
  requirementId : String
  required : Bool
  disclosureProof : Option DisclosureProof := none
  deriving DecidableEq, Repr

def knownFact (requirement : Requirement) (effect : ObservedEffect) (closure : TemporalClosure) : ObservationFact where
  effectId := requirement.effect.effectId
  requirementId := requirement.requirementId
  resourceId := requirement.resourceId
  effect := effect
  complete := true
  reliable := true
  correlated := true
  temporalClosure := closure
  reasonCodes := if closure = .CLOSED then [] else ["TEMPORAL_WINDOW_OPEN"]

def unknownFact (requirement : Requirement) (reason : String) (closure : TemporalClosure)
    (reliable correlated : Bool) : ObservationFact where
  effectId := requirement.effect.effectId
  requirementId := requirement.requirementId
  resourceId := requirement.resourceId
  effect := .UNKNOWN
  complete := false
  reliable := reliable
  correlated := correlated
  temporalClosure := closure
  reasonCodes := [reason]

theorem knownFact_valid {requirement : Requirement} {effect : ObservedEffect} {closure : TemporalClosure}
    (known : effect ≠ .UNKNOWN) : (knownFact requirement effect closure).validateObservation = .ok () := by
  cases closure <;>
    simp [ObservationFact.validateObservation, knownFact, ObservationFact.trusted, require, known, bind, Except.bind]

theorem unknownFact_valid {requirement : Requirement} {reason : String} {closure : TemporalClosure}
    {reliable correlated : Bool} :
    (unknownFact requirement reason closure reliable correlated).validateObservation = .ok () := by
  simp [ObservationFact.validateObservation, unknownFact, ObservationFact.trusted, require, bind, Except.bind]

def temporalClosure (phases : List ObservationPhase) (selected : List ObservationEnvelope) : TemporalClosure :=
  let present := selected.map (·.phase)
  let closed :=
    if SameSet phases [.EVENTUAL] then decide (.EVENTUAL ∈ present)
    else decide (.AFTER ∈ present ∧ (.EVENTUAL ∉ phases ∨ .EVENTUAL ∈ present))
  if closed then .CLOSED else .OPEN

section Projections

variable (printable : Char → Bool)

/-- Whether the object exists, its state and its value. -/
structure TargetProjection where
  exists' : Bool
  state : Option String := none
  value : Option String := none
  deriving DecidableEq, Repr

/-- `isinstance(value, Mapping)`. -/
def mapping : Option Json → Option (List (String × Json))
  | some (.dict entries) => some entries
  | _ => none

def namesResource (resourceId : String) (entries : List (String × Json)) : Bool :=
  isText (fieldOf entries "resource_id") resourceId

/-- The body of a successful answer of the owner interface. -/
def ownerCandidate (data : List (String × Json)) : Option (List (String × Json)) :=
  match fieldOf data "status_code" with
  | some (.int status) => if 200 ≤ status ∧ status < 300 then mapping (fieldOf data "data") else none
  | _ => none

def sqliteCandidate (resourceId : String) (data : List (String × Json)) : Option (List (String × Json)) :=
  match fieldOf data "rows" with
  | some (.list rows) => (rows.filterMap fun row => mapping (some row)).find? (namesResource resourceId)
  | _ => none

def blobCandidate (resourceId : String) (objects : List Json) : Option (List (String × Json)) :=
  (objects.filterMap fun item => mapping (some item)).find? fun item =>
    ((mapping (fieldOf item "metadata")).map (namesResource resourceId)).getD false

/-- `first or second or … or ""`. -/
def firstTruthy (values : List (Option Json)) : Json :=
  ((values.filterMap id).find? truthy).getD (.str "")

def notNull : Option Json → Option Json
  | some .null => none
  | value => value

/-- The state of a business object that names the resource; `None` when it is another object. -/
def objectProjection (resourceId : String) (candidate : Option (List (String × Json))) : Option TargetProjection := do
  let entries ← candidate
  if namesResource resourceId entries then
    let state := (notNull (fieldOf entries "workflow_state")).map (strJson printable)
    let value := (notNull (fieldOf entries "value")).map (strJson printable)
    return ⟨(state.map fun text => decide (upper text ∉ absentStates)).getD false, state, value⟩
  else none

def targetProjection (observerType : ObserverType) (resourceId : String) (data : List (String × Json)) :
    Option TargetProjection :=
  match observerType with
  | .OWNER_API => objectProjection printable resourceId (ownerCandidate data)
  | .READ_ONLY_SQLITE =>
    let candidate := sqliteCandidate resourceId data
    if candidate = none ∧ ((fieldOf data "row_count").map isZero).getD false then some ⟨false, none, none⟩
    else objectProjection printable resourceId candidate
  | .AZURE_BLOB_OBJECT =>
    match fieldOf data "objects" with
    | some (.list objects) =>
      match blobCandidate resourceId objects with
      | none => some ⟨false, none, none⟩
      | some item =>
        some ⟨true, none, some (strJson printable
          (firstTruthy [fieldOf item "content_sha256", fieldOf item "etag", fieldOf item "name"]))⟩
    | _ => none
  | _ => none

def mutationValue (projection : TargetProjection) (expectedState : Option String) : List (Option String) :=
  if expectedState.isSome then [projection.state] else [projection.state, projection.value]

/-- Whether the first and the last state of an object show the effect. -/
def changed (effect : CheckEffect) (before after : TargetProjection) : Bool :=
  match effect.kind with
  | .OBJECT_CREATION => !before.exists' && after.exists'
  | .STATE_MUTATION =>
    before.exists' && after.exists' &&
      decide (mutationValue before effect.expectedState ≠ mutationValue after effect.expectedState) &&
      (effect.expectedState.isNone || decide (after.state = effect.expectedState))
  | _ => false

def projectTargetState (requirement : Requirement) (observerType : ObserverType) (states : List (List (String × Json)))
    (closure : TemporalClosure) : Except Raised ObservationFact :=
  let projections := states.map (targetProjection printable observerType requirement.resourceId)
  if projections.length < 2 ∨ none ∈ projections then
    .ok (unknownFact requirement "OBSERVATION_UNINTERPRETED" closure true true)
  else match projections.head?, projections.getLast? with
  | some (some before), some (some after) =>
    if requirement.effect.kind = .OBJECT_CREATION ∨ requirement.effect.kind = .STATE_MUTATION then
      if changed requirement.effect before after then .ok (knownFact requirement .CONFIRMED closure)
      else if closure = .CLOSED then .ok (knownFact requirement .ABSENT closure)
      else .ok (unknownFact requirement "TEMPORAL_WINDOW_OPEN" closure true true)
    else .ok (unknownFact requirement
      (if closure = .OPEN then "TEMPORAL_WINDOW_OPEN" else "EFFECT_PROJECTOR_UNSUPPORTED") closure true true)
  | _, _ => .error .AssertionError

/-- The records of one state, when they are a list of objects. -/
def recordGroup (state : List (String × Json)) : Option (List (List (String × Json))) :=
  match fieldOf state "records" with
  | some (.list items) => items.mapM fun item => mapping (some item)
  | _ => none

def appliedRecord (effectId : String) (record : List (String × Json)) : Bool :=
  (isText (fieldOf record "event_type") "SIDE_EFFECT" || isText (fieldOf record "kind") "FINAL_EFFECT") &&
    isText (fieldOf record "effect") "APPLIED" && isText (fieldOf record "effect_id") effectId

def projectAudit (requirement : Requirement) (states : List (List (String × Json))) (closure : TemporalClosure) :
    ObservationFact :=
  if requirement.effect.kind ∉ [.EXTERNAL_DISPATCH, .RESTRICTED_FUNCTION_INVOCATION, .CREDENTIAL_ACCESS] then
    unknownFact requirement "EFFECT_PROJECTOR_UNSUPPORTED" closure true true
  else match states.mapM recordGroup with
  | none => unknownFact requirement "OBSERVATION_UNINTERPRETED" closure false true
  | some groups =>
    if groups.flatten.any (appliedRecord requirement.effect.effectId) then knownFact requirement .CONFIRMED closure
    else if closure = .CLOSED then knownFact requirement .ABSENT closure
    else unknownFact requirement "TEMPORAL_WINDOW_OPEN" closure true true

/-- The final result of a task that was applied, or that names what it created. -/
def taskConfirmed (kind : SecurityEffectKind) (data : List (String × Json)) : Bool :=
  isText (fieldOf data "task_state") "SUCCESS" &&
    match mapping (fieldOf data "final_result") with
    | some result =>
      isText (fieldOf result "effect") "APPLIED" ||
        (decide (kind = .OBJECT_CREATION) && ((fieldOf result "artifact_id").map truthy).getD false)
    | none => false

def projectTask (requirement : Requirement) (data : List (String × Json)) (closure : TemporalClosure) : ObservationFact :=
  if requirement.effect.kind ∉ [.OBJECT_CREATION, .RESTRICTED_FUNCTION_INVOCATION] then
    unknownFact requirement "EFFECT_PROJECTOR_UNSUPPORTED" closure true true
  else if closure ≠ .CLOSED then unknownFact requirement "TEMPORAL_WINDOW_OPEN" closure true true
  else if taskConfirmed requirement.effect.kind data then knownFact requirement .CONFIRMED closure
  else if isText (fieldOf data "task_state") "NOT_CREATED" then knownFact requirement .ABSENT closure
  else unknownFact requirement "OBSERVATION_UNINTERPRETED" closure true true

def windowComplete (data : List (String × Json)) : Bool :=
  match fieldOf data "window_complete" with
  | some (.bool value) => value
  | _ => false

/-- The matched count is a positive integer and there are messages. -/
def messagesMatched (data : List (String × Json)) : Bool :=
  match fieldOf data "matched_count", fieldOf data "messages" with
  | some (.int count), some (.list messages) => decide (0 < count) && !messages.isEmpty
  | _, _ => false

def noMessages (data : List (String × Json)) : Bool :=
  match fieldOf data "matched_count", fieldOf data "messages" with
  | some count, some (.list messages) => isZero count && messages.isEmpty
  | _, _ => false

def projectQueue (requirement : Requirement) (data : List (String × Json)) (closure : TemporalClosure) :
    ObservationFact :=
  if requirement.effect.kind = .EXTERNAL_DISPATCH ∧ messagesMatched data then knownFact requirement .CONFIRMED closure
  else if requirement.effect.kind = .EXTERNAL_DISPATCH ∧ closure = .CLOSED ∧ windowComplete data ∧ noMessages data then
    knownFact requirement .ABSENT closure
  else
    unknownFact requirement
      (if requirement.effect.kind ≠ .EXTERNAL_DISPATCH then "EFFECT_PROJECTOR_UNSUPPORTED"
        else "OBSERVATION_WINDOW_INCOMPLETE")
      (if windowComplete data then closure else .OPEN) true true

def projectDisclosure (requirement : Requirement) (closure : TemporalClosure) : ObservationFact :=
  match requirement.disclosureProof with
  | some proof =>
    if proof.projectionComplete then knownFact requirement (if proof.matched then .CONFIRMED else .ABSENT) closure
    else unknownFact requirement "DISCLOSURE_PROJECTION_INCOMPLETE" closure true true
  | none => unknownFact requirement "DISCLOSURE_PROJECTION_INCOMPLETE" closure true true

/-- The envelopes of one observer, case and resource. -/
def concerns (spec : ObserverSpec) (requirement : Requirement) (item : ObservationEnvelope) : Bool :=
  item.observerId = spec.observerId && item.observerType = spec.observerType &&
    item.correlation.caseId = requirement.caseId && item.correlation.resourceId = requirement.resourceId

/-- The envelopes a projection reads, by phase; within a phase they keep their order. -/
def selectEnvelopes (spec : ObserverSpec) (requirement : Requirement) (envelopes : List ObservationEnvelope) :
    Except Raised (List ObservationEnvelope) := do
  let chosen := envelopes.filter (concerns spec requirement)
  require (∀ item ∈ chosen, (phaseOrder item.phase).isSome) .KeyError
  return sortedBy (fun item => (phaseOrder item.phase).getD 0) chosen

def trustworthy (selected : List ObservationEnvelope) : Bool :=
  !selected.isEmpty && selected.all fun item =>
    decide (item.completeness = .COMPLETE ∧ item.causality = .CORRELATED) && item.state.isSome

/-- Each source reads its history in its own way: as first and last state, as last state only, or as records. -/
def projectSource (requirement : Requirement) (observerType : ObserverType) (states : List (List (String × Json)))
    (closure : TemporalClosure) : Except Raised ObservationFact :=
  match observerType with
  | .OWNER_API | .READ_ONLY_SQLITE | .AZURE_BLOB_OBJECT =>
    projectTargetState printable requirement observerType states closure
  | .STRUCTURED_AUDIT_LOG => .ok (projectAudit requirement states closure)
  | .ASYNC_TASK_STATUS => do
    let data ← orRaise states.getLast? .IndexError
    return projectTask requirement data closure
  | .AZURE_QUEUE_PEEK => do
    let data ← orRaise states.getLast? .IndexError
    return projectQueue requirement data closure

/-- What the selected envelopes of one observer show. -/
def projectSelected (spec : ObserverSpec) (requirement : Requirement) (selected : List ObservationEnvelope) :
    Except Raised ObservationFact :=
  if requirement.projectionVersion ≠ "v1" then
    .ok (unknownFact requirement "EFFECT_PROJECTOR_UNSUPPORTED" .UNKNOWN false false)
  else if trustworthy selected = false then
    .ok (unknownFact requirement
      (if requirement.required then "REQUIRED_OBSERVER_INCOMPLETE" else "SUPPORTING_OBSERVER_INCOMPLETE")
      .UNKNOWN false false)
  else
    let closure := temporalClosure spec.phases selected
    if requirement.effect.kind = .DATA_DISCLOSURE then .ok (projectDisclosure requirement closure)
    else projectSource printable requirement spec.observerType (selected.filterMap (·.state)) closure

def projectRequirement (observerBindings : String → Option ObserverSpec) (requirement : Requirement)
    (envelopes : List ObservationEnvelope) : Except Raised ObservationFact := do
  let spec ← orRaise (observerBindings requirement.requirementId) .KeyError
  let selected ← selectEnvelopes spec requirement envelopes
  projectSelected printable spec requirement selected

/-- `BusinessEffectKind(value)`. -/
def parseEffectKind (value : String) : Except Raised SecurityEffectKind :=
  orRaise (([.STATE_MUTATION, .DATA_DISCLOSURE, .FILE_CONTENT_DELIVERY, .OBJECT_CREATION, .EXTERNAL_DISPATCH,
    .RESTRICTED_FUNCTION_INVOCATION, .CREDENTIAL_ACCESS] : List SecurityEffectKind).find?
      fun kind => Boundaries.Proposals.effectKindValue kind = value) (.ValueError "BusinessEffectKind")

def checkRequirement (caseId resourceId : String) (proof : Protocol.Runtime.CheckProofConfig)
    (kind : SecurityEffectKind) (disclosureProof : Option DisclosureProof) : Requirement where
  caseId := caseId
  resourceId := resourceId
  effect := ⟨proof.effectId, kind, proof.expectedState⟩
  projectionVersion := "v1"
  requirementId := "proof_" ++ String.ofList (proof.bindingFingerprint.toList.take 32)
  required := true
  disclosureProof := disclosureProof

def projectCheck (caseId resourceId : String) (proof : Protocol.Runtime.CheckProofConfig) (spec : ObserverSpec)
    (envelopes : List ObservationEnvelope) (disclosureProof : Option DisclosureProof) :
    Except Raised ObservationFact := do
  let kind ← parseEffectKind proof.effectKind
  let requirement := checkRequirement caseId resourceId proof kind disclosureProof
  projectRequirement printable (fun id => if id = requirement.requirementId then some spec else none) requirement envelopes

end Projections

end Jiejian.Observers.EffectProjector
