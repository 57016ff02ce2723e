import Jiejian.Records.SqliteSource
import Jiejian.Verification.BusinessFacts

namespace Jiejian.Verification.RecordFacts

open Library.Document Library.Outcome Library.Equality
open Protocol.Runtime Models BusinessFacts
open Records.Models (RecordSnapshot RecordTransition RecordOperation RecordRequestScope)
open Records.SqliteSource (RecordProofView)

inductive SourceReadError where
  | MAPPING_MISSING
  | RECORD_HISTORY_INCOMPLETE
  deriving DecidableEq, Repr

def SourceReadError.code : SourceReadError → String
  | .MAPPING_MISSING => "MAPPING_MISSING"
  | .RECORD_HISTORY_INCOMPLETE => "RECORD_HISTORY_INCOMPLETE"

inductive HistoryReason where
  | HISTORY_BASELINE_MISSING
  | HISTORY_GENERATION_CHANGED
  | OPERATION_CORRELATION_INVALID
  | RECORD_REQUEST_INCOMPLETE
  | BUSINESS_EFFECT_RECORDED
  | COMPLETE_HISTORY_UNCHANGED
  | source (error : SourceReadError)
  deriving DecidableEq, Repr

structure JsonHistoryFact where
  state : EffectState
  closure : Closure
  reasonCodes : List HistoryReason
  deriving DecidableEq, Repr

def unknown (reason : HistoryReason) : JsonHistoryFact := ⟨.UNKNOWN, .OPEN, [reason]⟩

/-- The value at a path, with whether it is there; a missing last or inner field is an answer only where it is allowed. -/
def fieldValue (allowMissing : Bool) : List String → Json → Except SourceReadError (Bool × Json)
  | [], value => .ok (true, value)
  | part :: path, .dict entries =>
    match fieldOf entries part with
    | some value => fieldValue allowMissing path value
    | none => if allowMissing then .ok (false, .null) else .error .MAPPING_MISSING
  | _ :: _, _ => .error .MAPPING_MISSING

/-- The field before and after a commit. -/
structure FieldStep where
  before : Json
  beforePresent : Bool
  after : Json
  afterPresent : Bool

def fieldStep (allowMissing : Bool) (path : List String) (initial final : Json) : Except SourceReadError FieldStep := do
  let (beforePresent, first) ← fieldValue allowMissing path initial
  let (afterPresent, last) ← fieldValue allowMissing path final
  return ⟨first, beforePresent, last, afterPresent⟩

/-- The arguments of `request_fact` beside the records. -/
structure FieldQuery where
  path : List String
  expectedState : Option String
  requestNonce : String
  requestDigest : String
  subjectId : String
  resourceId : String
  ownerId : String
  collection : String
  fieldMutation : Option FieldMutationRequirement := none

def resourceOperations (view : RecordProofView) (collection resourceId : String) : List RecordOperation :=
  view.operations.filter fun item => (item.collection, item.resourceId) = (collection, resourceId)

section Request

variable (query : FieldQuery)

def readField (data : Json) : Except SourceReadError (Bool × Json) :=
  fieldValue query.fieldMutation.isSome query.path data

def readStep (initial final : Json) : Except SourceReadError FieldStep :=
  fieldStep query.fieldMutation.isSome query.path initial final

/-- `mutation_happened` of the query. -/
def makes (step : FieldStep) : Bool :=
  mutationHappened query.fieldMutation step.before step.after step.beforePresent step.afterPresent query.expectedState

/-- The loop of `_atomic_state` over the transitions of a commit. -/
def followTransitions : Nat → Json → List RecordTransition → Except SourceReadError Json
  | _, current, [] => .ok current
  | index, current, transition :: transitions => do
    require (transition.ordinal = index ∧ pythonEqual transition.before current = true) .RECORD_HISTORY_INCOMPLETE
    followTransitions (index + 1) transition.after transitions

def atomicState (initial : Json) (operation : RecordOperation) : Except SourceReadError (Json × Bool) := do
  let current ← followTransitions 0 initial operation.transitions
  let step ← readStep query initial current
  return (current, makes query step)

/-- The commit is one of the request, the next of the resource. -/
def Correlated (scope : RecordRequestScope) (version : Nat) (operation : RecordOperation) : Prop :=
  operation.scopeId = some scope.scopeId ∧ operation.generation = scope.generation ∧
    (operation.collection, operation.resourceId, operation.ownerId, operation.subjectId) =
      (query.collection, query.resourceId, query.ownerId, query.subjectId) ∧
    operation.beforeVersion = version ∧ operation.afterVersion = version + 1

instance (scope : RecordRequestScope) (version : Nat) (operation : RecordOperation) :
    Decidable (Correlated query scope version operation) := inferInstanceAs (Decidable (_ ∧ _))

/-- The state of the walk over the commits: what the data, the version and the answer have come to. -/
structure Reached where
  current : Json
  version : Nat
  happened : Bool

/-- The loop of `request_fact` over the commits. -/
def followOperations (scope : RecordRequestScope) : Reached → List RecordOperation → Except HistoryReason Reached
  | reached, [] => .ok reached
  | reached, operation :: operations => do
    require (Correlated query scope reached.version operation) .OPERATION_CORRELATION_INVALID
    let (current, changed) ← (atomicState query reached.current operation).mapError .source
    followOperations scope ⟨current, operation.afterVersion, reached.happened || changed⟩ operations

variable (before : RecordSnapshot) (view : RecordProofView)

/-- The window is closed where the commits end. -/
def Closed (scope : RecordRequestScope) (operations : List RecordOperation) (current : Json) (version : Nat) : Prop :=
  scope.state = .COMPLETE ∧ pythonEqual current view.snapshot.data = true ∧ version = view.snapshot.version ∧
    (operations = [] → view.snapshot.lastOperationId = before.lastOperationId) ∧
    ∀ operation ∈ operations.getLast?, view.snapshot.lastOperationId = some operation.operationId

instance (scope : RecordRequestScope) (operations : List RecordOperation) (current : Json) (version : Nat) :
    Decidable (Closed before view scope operations current version) := inferInstanceAs (Decidable (_ ∧ _))

/-- The request and the resource of the records are those asked for. -/
def Asked (scope : RecordRequestScope) : Prop :=
  scope.requestNonce = query.requestNonce ∧ scope.requestDigest = query.requestDigest ∧
    (before.collection, before.resourceId, before.ownerId) = (query.collection, query.resourceId, query.ownerId) ∧
    (view.snapshot.collection, view.snapshot.resourceId, view.snapshot.ownerId) =
      (query.collection, query.resourceId, query.ownerId)

instance (scope : RecordRequestScope) : Decidable (Asked query before view scope) :=
  inferInstanceAs (Decidable (_ ∧ _))

/-- The end of `request_fact`, after the commits. -/
def concludeRequest (scope : RecordRequestScope) (operations : List RecordOperation) (reached : Reached) :
    JsonHistoryFact :=
  if reached.happened then ⟨.CONFIRMED, .CLOSED, [.BUSINESS_EFFECT_RECORDED]⟩
  else if ¬ Closed before view scope operations reached.current reached.version then unknown .RECORD_REQUEST_INCOMPLETE
  else match readField query reached.current with
    | .error _ => unknown (.source .MAPPING_MISSING)
    | .ok _ => ⟨.ABSENT, .CLOSED, [.COMPLETE_HISTORY_UNCHANGED]⟩

end Request

def requestFact (before : Option RecordSnapshot) (view : RecordProofView) (query : FieldQuery) : JsonHistoryFact :=
  match before, view.scope with
  | some before, some scope =>
    if before.generation ≠ view.snapshot.generation ∨ scope.generation ≠ before.generation then
      unknown .HISTORY_GENERATION_CHANGED
    else if ¬ Asked query before view scope then unknown .OPERATION_CORRELATION_INVALID
    else
      let operations := resourceOperations view query.collection query.resourceId
      match followOperations query scope ⟨before.data, before.version, false⟩ operations with
      | .error reason => unknown reason
      | .ok reached => concludeRequest query before view scope operations reached
  | _, _ => unknown .HISTORY_BASELINE_MISSING

section Fields

variable {allowMissing : Bool} {path : List String} {left right : Json}

/-- A field that may not be missing is there. -/
theorem fieldValue_present {data : Json} {found : Bool × Json} (read : fieldValue false path data = .ok found) :
    found.1 = true := by
  induction path generalizing data with
  | nil =>
    cases read
    rfl
  | cons part path ih =>
    cases data with
    | dict entries =>
      rw [fieldValue] at read
      cases stored : fieldOf entries part with
      | none => simp [stored] at read
      | some value =>
        simp only [stored] at read
        exact ih read
    | _ => simp [fieldValue] at read

/-- Equal documents have the field both or neither, with equal values. -/
theorem fieldValue_equal (same : pythonEqual left right = true) {first second : Bool × Json}
    (read : fieldValue allowMissing path left = .ok first) (read' : fieldValue allowMissing path right = .ok second) :
    first.1 = second.1 ∧ pythonEqual first.2 second.2 = true := by
  induction path generalizing left right with
  | nil =>
    cases read
    cases read'
    exact ⟨rfl, same⟩
  | cons part path ih =>
    cases left with
    | dict entries =>
      obtain ⟨others, rfl⟩ := equal_dict same
      rw [fieldValue] at read read'
      rcases equal_fields part same with ⟨missing, missing'⟩ | ⟨value, other, found, found', equals⟩
      · simp only [missing] at read
        simp only [missing'] at read'
        cases allowMissing with
        | false => simp at read
        | true =>
          cases read
          cases read'
          exact ⟨rfl, equal_refl _⟩
      · simp only [found] at read
        simp only [found'] at read'
        exact ih equals read read'
    | _ => simp [fieldValue] at read

end Fields

/-- The data that a commit leaves. -/
def leftBy (current : Json) (operation : RecordOperation) : Json :=
  match operation.transitions.getLast? with
  | some transition => transition.after
  | none => current

/-- Every transition starts where the one before it ended. -/
def Continuous : Nat → Json → List RecordTransition → Prop
  | _, _, [] => True
  | index, current, transition :: transitions =>
    transition.ordinal = index ∧ pythonEqual transition.before current = true ∧
      Continuous (index + 1) transition.after transitions

/-- The commits are those of the request on the resource, one after another; what each did to the field, and where
they end. -/
inductive Walked (query : FieldQuery) (scope : RecordRequestScope) :
    Json → Nat → List RecordOperation → List FieldStep → Json → Nat → Prop
  | done (current : Json) (version : Nat) : Walked query scope current version [] [] current version
  | commit {current final : Json} {version last : Nat} {operation : RecordOperation}
      {operations : List RecordOperation} {step : FieldStep} {steps : List FieldStep}
      (correlated : Correlated query scope version operation) (continuous : Continuous 0 current operation.transitions)
      (read : readStep query current (leftBy current operation) = .ok step)
      (rest : Walked query scope (leftBy current operation) operation.afterVersion operations steps final last) :
      Walked query scope current version (operation :: operations) (step :: steps) final last

section Request

variable {query : FieldQuery} {scope : RecordRequestScope} {before : RecordSnapshot} {view : RecordProofView}

theorem followTransitions_eq_ok {index : Nat} {current final : Json} {transitions : List RecordTransition} :
    followTransitions index current transitions = .ok final ↔ Continuous index current transitions ∧
      final = match transitions.getLast? with | some transition => transition.after | none => current := by
  induction transitions generalizing index current with
  | nil =>
    simp only [followTransitions, Continuous, List.getLast?_nil, true_and, Except.ok.injEq]
    exact eq_comm
  | cons transition transitions ih =>
    have ends : (match (transition :: transitions).getLast? with | some last => last.after | none => current) =
        match transitions.getLast? with | some last => last.after | none => transition.after := by
      rw [List.getLast?_cons]
      cases transitions.getLast? with
      | none => rfl
      | some last => rfl
    rw [followTransitions, Continuous, ends]
    constructor
    · intro followed
      obtain ⟨_, checked, rest⟩ := bind_eq_ok.mp followed
      obtain ⟨ordinal, starts⟩ := require_eq_ok.mp checked
      obtain ⟨continuous, final⟩ := ih.mp rest
      exact ⟨⟨ordinal, starts, continuous⟩, final⟩
    · rintro ⟨⟨ordinal, starts, continuous⟩, final⟩
      exact bind_eq_ok.mpr ⟨(), require_eq_ok.mpr ⟨ordinal, starts⟩, ih.mpr ⟨continuous, final⟩⟩

theorem atomicState_eq_ok {initial final : Json} {operation : RecordOperation} {changed : Bool} :
    atomicState query initial operation = .ok (final, changed) ↔ Continuous 0 initial operation.transitions ∧
      final = leftBy initial operation ∧ ∃ step, readStep query initial final = .ok step ∧ changed = makes query step := by
  unfold atomicState
  constructor
  · intro computed
    obtain ⟨current, followed, rest⟩ := bind_eq_ok.mp computed
    obtain ⟨continuous, ends⟩ := followTransitions_eq_ok.mp followed
    obtain ⟨step, read, result⟩ := bind_eq_ok.mp rest
    cases result
    exact ⟨continuous, ends, step, read, rfl⟩
  · rintro ⟨continuous, ends, step, read, rfl⟩
    exact bind_eq_ok.mpr ⟨final, followTransitions_eq_ok.mpr ⟨continuous, ends⟩, bind_eq_ok.mpr ⟨step, read, rfl⟩⟩

/-- The walk of the code reaches its end exactly on the commits of the request. -/
theorem followOperations_eq_ok {reached final : Reached} {operations : List RecordOperation} :
    followOperations query scope reached operations = .ok final ↔ ∃ steps,
      Walked query scope reached.current reached.version operations steps final.current final.version ∧
      final.happened = (reached.happened || steps.any (makes query)) := by
  induction operations generalizing reached with
  | nil =>
    constructor
    · intro followed
      cases followed
      exact ⟨[], .done _ _, by simp⟩
    · rintro ⟨steps, walked, happened⟩
      obtain ⟨current, version, seen⟩ := reached
      obtain ⟨current', version', seen'⟩ := final
      cases walked
      simp only [List.any_nil, Bool.or_false] at happened
      rw [happened]
      rfl
  | cons operation operations ih =>
    rw [followOperations]
    constructor
    · intro followed
      obtain ⟨_, checked, rest⟩ := bind_eq_ok.mp followed
      obtain ⟨⟨current, changed⟩, state, rest⟩ := bind_eq_ok.mp rest
      obtain ⟨continuous, ends, step, read, made⟩ := atomicState_eq_ok.mp (mapError_eq_ok.mp state)
      obtain ⟨steps, walked, happened⟩ := ih.mp rest
      rw [ends] at read walked
      refine ⟨step :: steps, .commit (require_eq_ok.mp checked) continuous read walked, ?_⟩
      rw [happened, made, List.any_cons, Bool.or_assoc]
    · rintro ⟨steps, walked, happened⟩
      cases walked with
      | commit correlated continuous read rest =>
        rename_i step steps
        refine bind_eq_ok.mpr ⟨(), require_eq_ok.mpr correlated, bind_eq_ok.mpr
          ⟨(leftBy reached.current operation, makes query step), mapError_eq_ok.mpr ?_, ih.mpr ⟨steps, rest, ?_⟩⟩⟩
        · exact atomicState_eq_ok.mpr ⟨continuous, rfl, step, read, rfl⟩
        · rw [happened, List.any_cons, Bool.or_assoc]

/-- A walk that stops says why: some commit does not belong, or the field cannot be read. -/
theorem followOperations_error {reached : Reached} {operations : List RecordOperation} {reason : HistoryReason}
    (stopped : followOperations query scope reached operations = .error reason) :
    reason = .OPERATION_CORRELATION_INVALID ∨ ∃ error, reason = .source error := by
  induction operations generalizing reached with
  | nil => cases stopped
  | cons operation operations ih =>
    rw [followOperations] at stopped
    by_cases correlated : Correlated query scope reached.version operation
    · cases state : atomicState query reached.current operation with
      | error error =>
        rw [state] at stopped
        simp only [require, correlated, if_true] at stopped
        cases stopped
        exact .inr ⟨error, rfl⟩
      | ok result =>
        rw [state] at stopped
        simp only [require, correlated, if_true] at stopped
        exact ih stopped
    · simp only [require, correlated, if_false] at stopped
      cases stopped
      exact .inl rfl

variable (query before view) in
/-- The records are those of the request: every check of `request_fact` passes up to the end of the commits. -/
structure Traced (scope : RecordRequestScope) (steps : List FieldStep) (final : Json) (last : Nat) : Prop where
  requested : view.scope = some scope
  generation : before.generation = view.snapshot.generation ∧ scope.generation = before.generation
  asked : Asked query before view scope
  walked : Walked query scope before.data before.version (resourceOperations view query.collection query.resourceId)
    steps final last

theorem requestFact_traced {steps : List FieldStep} {final : Json} {last : Nat}
    (traced : Traced query before view scope steps final last) :
    requestFact (some before) view query = concludeRequest query before view scope
      (resourceOperations view query.collection query.resourceId) ⟨final, last, steps.any (makes query)⟩ := by
  have followed : followOperations query scope ⟨before.data, before.version, false⟩
      (resourceOperations view query.collection query.resourceId) = .ok ⟨final, last, steps.any (makes query)⟩ :=
    followOperations_eq_ok.mpr ⟨steps, traced.walked, rfl⟩
  unfold requestFact
  rw [traced.requested]
  dsimp only
  rw [if_neg (by simp [traced.generation.1, traced.generation.2]), if_neg (not_not.mpr traced.asked), followed]

theorem confirmed_iff {steps : List FieldStep} {final : Json} {last : Nat}
    (traced : Traced query before view scope steps final last) :
    (requestFact (some before) view query).state = .CONFIRMED ↔ ∃ step ∈ steps, makes query step = true := by
  rw [requestFact_traced traced, ← List.any_eq_true]
  unfold concludeRequest
  by_cases happened : steps.any (makes query) = true
  · rw [if_pos happened]
    exact ⟨fun _ => happened, fun _ => rfl⟩
  · rw [if_neg happened]
    refine ⟨fun confirmed => ?_, fun found => absurd found happened⟩
    split at confirmed
    · cases confirmed
    · split at confirmed <;> cases confirmed

/-- Nothing happened in a closed window, where the field can be read. -/
theorem absent_iff {steps : List FieldStep} {final : Json} {last : Nat}
    (traced : Traced query before view scope steps final last) :
    (requestFact (some before) view query).state = .ABSENT ↔ (¬ ∃ step ∈ steps, makes query step = true) ∧
      Closed before view scope (resourceOperations view query.collection query.resourceId) final last ∧
      ∃ found, readField query final = .ok found := by
  rw [requestFact_traced traced, ← List.any_eq_true]
  unfold concludeRequest
  by_cases happened : steps.any (makes query) = true
  · rw [if_pos happened]
    exact ⟨fun absent => (by cases absent), fun quiet => absurd happened quiet.1⟩
  · rw [if_neg happened]
    by_cases closed : Closed before view scope (resourceOperations view query.collection query.resourceId) final last
    · rw [if_neg (not_not.mpr closed)]
      cases read : readField query final with
      | error error =>
        refine ⟨fun absent => (by cases absent), ?_⟩
        rintro ⟨-, -, found, readable⟩
        cases readable
      | ok found => exact ⟨fun _ => ⟨happened, closed, found, rfl⟩, fun _ => rfl⟩
    · rw [if_pos closed]
      exact ⟨fun absent => (by cases absent), fun quiet => absurd quiet.2.1 closed⟩

/-- Nothing happened so far in a window that is still open. -/
theorem incomplete_of_open {steps : List FieldStep} {final : Json} {last : Nat}
    (traced : Traced query before view scope steps final last) (quiet : ¬ ∃ step ∈ steps, makes query step = true)
    (opened : ¬ Closed before view scope (resourceOperations view query.collection query.resourceId) final last) :
    (requestFact (some before) view query).reasonCodes = [.RECORD_REQUEST_INCOMPLETE] := by
  rw [← List.any_eq_true] at quiet
  rw [requestFact_traced traced]
  unfold concludeRequest
  rw [if_neg quiet, if_pos opened]
  rfl

theorem readStep_eq_ok {initial final : Json} {step : FieldStep} (read : readStep query initial final = .ok step) :
    readField query initial = .ok (step.beforePresent, step.before) ∧
      readField query final = .ok (step.afterPresent, step.after) := by
  unfold readStep fieldStep at read
  obtain ⟨first, firstRead, read⟩ := bind_eq_ok.mp read
  obtain ⟨last, lastRead, read⟩ := bind_eq_ok.mp read
  cases read
  exact ⟨firstRead, lastRead⟩

/-- Where a commit was walked, the field can be read at the end. -/
theorem walked_readable {current final : Json} {version last : Nat} {operations : List RecordOperation}
    {steps : List FieldStep} (walked : Walked query scope current version operations steps final last) :
    steps = [] ∨ ∃ found, readField query final = .ok found := by
  induction walked with
  | done => exact .inl rfl
  | commit correlated continuous read rest ih =>
    right
    rcases ih with none' | found
    · cases rest with
      | done => exact ⟨_, (readStep_eq_ok read).2⟩
      | commit => cases none'
    · exact found

/-- Elsewhere nothing is known, and not because the window is still open. -/
theorem requestFact_untraced (untraced : ¬ ∃ scope steps final last, Traced query before view scope steps final last) :
    (requestFact (some before) view query).state = .UNKNOWN ∧
      (requestFact (some before) view query).reasonCodes ≠ [.RECORD_REQUEST_INCOMPLETE] := by
  unfold requestFact
  cases requested : view.scope with
  | none => exact ⟨rfl, by simp [unknown]⟩
  | some scope =>
    dsimp only
    by_cases changed : before.generation ≠ view.snapshot.generation ∨ scope.generation ≠ before.generation
    · rw [if_pos changed]
      exact ⟨rfl, by simp [unknown]⟩
    · rw [if_neg changed]
      by_cases asked : Asked query before view scope
      · rw [if_neg (not_not.mpr asked)]
        cases followed : followOperations query scope ⟨before.data, before.version, false⟩
            (resourceOperations view query.collection query.resourceId) with
        | error reason =>
          refine ⟨rfl, ?_⟩
          rcases followOperations_error followed with rfl | ⟨error, rfl⟩ <;> simp [unknown]
        | ok reached =>
          obtain ⟨steps, walked, -⟩ := followOperations_eq_ok.mp followed
          simp only [not_or, not_not] at changed
          exact absurd ⟨scope, steps, _, _, requested, changed, asked, walked⟩ untraced
      · rw [if_pos asked]
        exact ⟨rfl, by simp [unknown]⟩

end Request

end Jiejian.Verification.RecordFacts
