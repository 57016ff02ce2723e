import Jiejian.Verification.RecordFacts

namespace Jiejian.Verification.RecordEvidence

open Library Library.Document Library.Outcome Library.Sorting Library.Equality Errors
open Protocol.Codec Protocol.Conditions Protocol.Cases Protocol.Runtime Protocol.Pairs Models BusinessFacts RecordFacts
open Records.Models (RecordSnapshot RecordOperation RecordRequestScope)
open Records.SqliteSource (RecordProofView)

structure FactProofReference where
  effectId : String
  proofFingerprint : String
  sourceId : String
  sourceRevision : Nat
  sourceFingerprint : String

def FactProofReference.dump (reference : FactProofReference) : Json :=
  .dict [("effect_id", .str reference.effectId), ("proof_fingerprint", .str reference.proofFingerprint),
    ("source_id", .str reference.sourceId), ("source_revision", natural reference.sourceRevision),
    ("source_fingerprint", .str reference.sourceFingerprint)]

def presence (name : String) (present : Bool) : List (String × Json) := if present then [] else [(name, .bool false)]

def changeDump (change : CommittedFieldChange) : Json :=
  .dict ([("proof_fingerprint", .str change.proofFingerprint), ("path", strings change.path), ("before", change.before),
    ("after", change.after)] ++ presence "before_present" change.beforePresent ++
    presence "after_present" change.afterPresent)

/-- The facts that are not collected from records have no dump here. -/
def dataDump : FactData → Json
  | .committedState data => .dict [("kind", .str "COMMITTED_STATE"), ("generation", .str data.generation),
      ("operation_id", .str data.operationId), ("scope_ordinal", natural data.scopeOrdinal),
      ("before_version", natural data.beforeVersion), ("after_version", natural data.afterVersion),
      ("commit_semantics", .str "ATOMIC_COMMIT"), ("subject_identity_id", nullable .str data.subjectIdentityId),
      ("owner_identity_id", .str data.ownerIdentityId), ("resource_id", .str data.resourceId),
      ("changes", .list (data.changes.map changeDump))]
  | .identityCheck data => .dict [("kind", .str "IDENTITY_CHECK"), ("identity_id", .str data.identityId),
      ("subject_match", .str data.subjectMatch.value), ("role_match", .str data.roleMatch.value)]
  | .anonymousCheck unauthenticated =>
    .dict [("kind", .str "ANONYMOUS_CHECK"), ("unauthenticated", .bool unauthenticated)]
  | .other => .null

inductive CollectorKind where
  | CONTROLLED_RECORDS
  | IDENTITY_READER
  deriving DecidableEq, Repr

def CollectorKind.value : CollectorKind → String
  | .CONTROLLED_RECORDS => "CONTROLLED_RECORDS"
  | .IDENTITY_READER => "IDENTITY_READER"

/-- `common` of `collect_record_evidence`. -/
structure FactCommon where
  caseId : String
  requestRef : String
  observedAtUs : Nat
  proofs : List FactProofReference
  complete : Bool

def factPayload (common : FactCommon) (collector : CollectorKind) (data : FactData) : Json :=
  .dict [("case_id", .str common.caseId), ("request_ref", .str common.requestRef),
    ("observed_at_us", natural common.observedAtUs), ("collector_kind", .str collector.value),
    ("collector_version", .str "2"), ("proofs", .list (common.proofs.map FactProofReference.dump)),
    ("complete", .bool common.complete), ("reason_codes", .list []), ("data", dataDump data)]

def sealBusinessFact (digest : Digest) (common : FactCommon) (collector : CollectorKind) (data : FactData) :
    BusinessFact where
  factId := "bf_" ++ canonicalSha256 digest (factPayload common collector data)
  complete := common.complete
  data := data

structure RecordSource where
  sourceId : String
  revision : Nat
  sourceFingerprint : String
  collection : String
  mappings : List (String × List String)

/-- `config.mappings['state'][1:]`. -/
def RecordSource.statePath (source : RecordSource) : Option (List String) :=
  (source.mappings.find? fun entry => entry.1 = "state").map fun entry => entry.2.drop 1

structure TargetReceipt where
  requestNonce : String
  requestDigest : String

/-- The arguments of `collect_record_evidence`; a claim is the application's subject of an identity. -/
structure RecordEvidenceCall where
  source : RecordSource
  case : ExecutionCase
  requirement : EffectProofRequirement
  proof : CheckProofConfig
  phase : ObservationPhase
  before : Option RecordSnapshot
  view : RecordProofView
  target : Option TargetReceipt
  clock : Nat
  marker : String
  claims : String → Option String

def sourceError (error : SourceReadError) : Raised := .ValueError error.code

/-- What the JSON numbers beyond the exact integers become; `none` where there is no such float. -/
abbrev FloatOf := Int → Option String

/-- The value that a field of type `FactScalar` takes: an integer out of bounds is read as a float. -/
def factScalar (float : FloatOf) : Json → Except Raised Json
  | .str text => do
    require (text.length ≤ 256) (.ValueError "String should have at most 256 characters")
    return .str text
  | .int value =>
    if value.natAbs ≤ 9007199254740991 then .ok (.int value)
    else (orRaise (float value) (.ValueError "Input should be a valid number")).map .float
  | .float text => .ok (.float text)
  | .bool value => .ok (.bool value)
  | .null => .ok .null
  | .list _ => .error (.ValueError "Input should be a scalar")
  | .dict _ => .error (.ValueError "Input should be a scalar")

def identityFacts (digest : Digest) (common : FactCommon) (case : ExecutionCase) (proof : CheckProofConfig) :
    List BusinessFact :=
  (sortedSet (case.subjectTestIdentityId.toList ++ [case.resourceOwnerTestIdentityId, proof.observationIdentityId])).map
      (fun identityId => sealBusinessFact digest common .IDENTITY_READER (.identityCheck ⟨identityId, .MATCH, .MATCH⟩)) ++
    if case.subjectTestIdentityId.isNone then [sealBusinessFact digest common .IDENTITY_READER (.anonymousCheck true)]
    else []

section Collection

variable (digest : Digest) (float : FloatOf) (call : RecordEvidenceCall)

def RecordEvidenceCall.sourceReference : FactProofReference where
  effectId := call.requirement.effectId
  proofFingerprint := call.requirement.proofFingerprint
  sourceId := call.source.sourceId
  sourceRevision := call.source.revision
  sourceFingerprint := call.source.sourceFingerprint

def RecordEvidenceCall.common : FactCommon where
  caseId := call.case.caseId
  requestRef := call.marker
  observedAtUs := call.clock
  proofs := [call.sourceReference]
  complete := true

def RecordEvidenceCall.snapshotOnly : Bool := call.phase = .BASELINE ∨ call.phase = .BEFORE ∨ call.phase = .RECOVERY

def RecordEvidenceCall.allowMissing : Bool := call.proof.fieldMutation.isSome

def RecordEvidenceCall.operations : List RecordOperation :=
  resourceOperations call.view call.source.collection call.case.resourceId

def RecordEvidenceCall.query (path : List String) (target : TargetReceipt) (subjectId ownerId : String) : FieldQuery where
  path := path
  expectedState := call.proof.expectedState
  requestNonce := target.requestNonce
  requestDigest := target.requestDigest
  subjectId := subjectId
  resourceId := call.case.resourceId
  ownerId := ownerId
  collection := call.source.collection
  fieldMutation := call.proof.fieldMutation

/-- What is asked of the private records. -/
def RecordEvidenceCall.asked (path : List String) (target : TargetReceipt) : Except Raised FieldQuery := do
  let subjectId ← (match call.case.subjectTestIdentityId with
    | none => .ok "anonymous"
    | some identity => orRaise (call.claims identity) .KeyError)
  let ownerId ← orRaise (call.claims call.case.resourceOwnerTestIdentityId) .KeyError
  return call.query path target subjectId ownerId

/-- The fact of one commit; the values of an absent field are null already. -/
def commitFact (path : List String) (operation : RecordOperation) (step : FieldStep) : Except Raised BusinessFact := do
  let first ← factScalar float step.before
  let last ← factScalar float step.after
  let ordinal ← orRaise operation.scopeOrdinal (.ValueError "Input should be a valid integer")
  require (ordinal ≤ 31) (.ValueError "Input should be less than or equal to 31")
  require (operation.afterVersion = operation.beforeVersion + 1) (.ValueError "commit versions are not consecutive")
  return sealBusinessFact digest call.common .CONTROLLED_RECORDS (.committedState
    { generation := operation.generation
      operationId := operation.operationId
      scopeOrdinal := ordinal
      beforeVersion := operation.beforeVersion
      afterVersion := operation.afterVersion
      subjectIdentityId := call.case.subjectTestIdentityId
      ownerIdentityId := call.case.resourceOwnerTestIdentityId
      resourceId := call.case.resourceId
      changes := [⟨call.requirement.proofFingerprint, path, first, last, step.beforePresent, step.afterPresent⟩] })

/-- The loop over the commits, with the data that they end in. -/
def commitFacts (path : List String) : Json → List RecordOperation → Except Raised (List BusinessFact × Json)
  | current, [] => .ok ([], current)
  | current, operation :: operations => do
    let final := leftBy current operation
    let step ← (fieldStep call.allowMissing path current final).mapError sourceError
    let fact ← commitFact digest float call path operation step
    let (facts, last) ← commitFacts path final operations
    return (fact :: facts, last)

/-- What the records of the request come to. -/
structure Collected where
  matched : Bool
  sourceComplete : Bool
  commits : List BusinessFact

def collectCommits (path : List String) (before : RecordSnapshot) : Except Raised Collected := do
  let target ← orRaise call.target (.ValueError "missing target receipt")
  let query ← call.asked path target
  let checked := requestFact (some before) call.view query
  let complete := checked.state = .ABSENT ∨
    checked.state = .CONFIRMED ∧ call.view.scope.any fun scope => scope.state = .COMPLETE
  if checked.state ≠ .UNKNOWN ∨ checked.reasonCodes = [.RECORD_REQUEST_INCOMPLETE] then
    let (commits, current) ← commitFacts digest float call path before.data call.operations
    return ⟨true, complete && pythonEqual current call.view.snapshot.data, commits⟩
  else
    return ⟨false, complete, []⟩

def windowScope : Option RecordRequestScope → BusinessFacts.ScopeState
  | none => .MISSING
  | some scope =>
    match scope.state with
    | .OPEN => .OPEN
    | .COMPLETE => .COMPLETE
    | .INCOMPLETE => .INCOMPLETE

def RecordEvidenceCall.scopeState : BusinessFacts.ScopeState :=
  if call.snapshotOnly then .MISSING else windowScope call.view.scope

def RecordEvidenceCall.operationCount : Nat := if call.snapshotOnly then 0 else call.operations.length

/-- The ordinals of the commits, where they are not simply counted. -/
def windowOrdinals : Except Raised (List Nat) :=
  if call.snapshotOnly ∨ call.operations.map (·.scopeOrdinal) = (List.range call.operations.length).map some then .ok []
  else call.operations.mapM fun operation =>
    orRaise operation.scopeOrdinal (.ValueError "Input should be a valid integer")

def recordWindow (path : List String) (before : RecordSnapshot) (collected : Collected) :
    Except Raised RecordObservationWindow := do
  let step ← (fieldStep call.allowMissing path before.data call.view.snapshot.data).mapError sourceError
  let ordinals ← windowOrdinals call
  let first ← factScalar float step.before
  let last ← factScalar float step.after
  require (call.operationCount ≤ 32 ∧ ∀ ordinal ∈ ordinals, ordinal ≤ 31) (.ValueError "Input should be less than or equal to 31")
  if sealed : (ordinals ≠ [] → ordinals.length = call.operationCount) ∧ ordinals.Pairwise (· < ·) then
    return { generation := call.view.snapshot.generation
             beforeVersion := before.version
             afterVersion := call.view.snapshot.version
             beforeValue := first
             afterValue := last
             beforePresent := step.beforePresent
             afterPresent := step.afterPresent
             beforeOperation := before.lastOperationId
             afterOperation := call.view.snapshot.lastOperationId
             scopeState := call.scopeState
             operationCount := call.operationCount
             operationOrdinals := ordinals
             requestMatched := collected.matched
             sourceComplete := collected.sourceComplete
             fieldPath := path
             counted := sealed.1
             increasing := sealed.2 }
  else .error (.ValueError "resource commit ordinal projection mismatch")

def factReference (facts : List BusinessFact) (window : RecordObservationWindow) (matched : Bool) :
    ObservationFactReference where
  proofFingerprint := call.requirement.proofFingerprint
  factIds := facts.map BusinessFact.factId
  method := if call.snapshotOnly then .STATE_SNAPSHOT else .ATOMIC_STATE
  recordWindow := some window
  complete := matched

def collectRecordEvidence : Except Raised (List BusinessFact × ObservationFactReference) := do
  let path ← orRaise call.source.statePath .KeyError
  let before ← orRaise (if call.snapshotOnly then some call.view.snapshot else call.before)
    (.ValueError "missing record baseline")
  let collected ← (if call.snapshotOnly then .ok ⟨true, true, []⟩ else collectCommits digest float call path before)
  let window ← recordWindow float call path before collected
  let facts := identityFacts digest call.common call.case call.proof ++ collected.commits
  require (facts.map BusinessFact.factId).Nodup (.ValueError "observation fact reference mismatch")
  return (facts, factReference call facts window collected.matched)

end Collection

/-- The value under which a scalar is sealed. -/
def shown (float : FloatOf) (value : Json) : Json :=
  match factScalar float value with
  | .ok sealed => sealed
  | .error _ => value

def shownStep (float : FloatOf) (step : FieldStep) : FieldStep :=
  { step with before := shown float step.before, after := shown float step.after }

theorem shown_eq {float : FloatOf} {value sealed : Json} (read : factScalar float value = .ok sealed) :
    shown float value = sealed := by
  unfold shown
  rw [read]

section Commits

variable {digest : Digest} {float : FloatOf} {call : RecordEvidenceCall} {query : FieldQuery}
  {scope : RecordRequestScope}

variable (float call) in
/-- The commit as it is sealed, with what it did to the field. -/
def sealedCommit (path : List String) (operation : RecordOperation) (step : FieldStep) : Commit where
  complete := true
  data := {
    generation := operation.generation
    operationId := operation.operationId
    scopeOrdinal := operation.scopeOrdinal.getD 0
    beforeVersion := operation.beforeVersion
    afterVersion := operation.afterVersion
    subjectIdentityId := call.case.subjectTestIdentityId
    ownerIdentityId := call.case.resourceOwnerTestIdentityId
    resourceId := call.case.resourceId
    changes := [⟨call.requirement.proofFingerprint, path, shown float step.before, shown float step.after,
      step.beforePresent, step.afterPresent⟩] }

theorem commitFact_sealed {path : List String} {operation : RecordOperation} {step : FieldStep} {fact : BusinessFact}
    (sealed : commitFact digest float call path operation step = .ok fact) :
    fact.commit? = some (sealedCommit float call path operation step) ∧ fact.identity? = none := by
  unfold commitFact at sealed
  obtain ⟨first, firstRead, sealed⟩ := bind_eq_ok.mp sealed
  obtain ⟨last, lastRead, sealed⟩ := bind_eq_ok.mp sealed
  obtain ⟨ordinal, found, sealed⟩ := bind_eq_ok.mp sealed
  obtain ⟨_, _, sealed⟩ := bind_eq_ok.mp sealed
  obtain ⟨_, _, sealed⟩ := bind_eq_ok.mp sealed
  cases sealed
  have numbered := orRaise_eq_ok.mp found
  refine ⟨?_, rfl⟩
  unfold sealedCommit
  rw [shown_eq firstRead, shown_eq lastRead, numbered]
  rfl

/-- The sealed facts are the commits of the walk, in their order. -/
theorem commitFacts_sealed {current final ended : Json} {version last : Nat} {operations : List RecordOperation}
    {steps : List FieldStep} {facts : List BusinessFact} (missing : query.fieldMutation.isSome = call.allowMissing)
    (walked : Walked query scope current version operations steps final last)
    (sealed : commitFacts digest float call query.path current operations = .ok (facts, ended)) :
    ended = final ∧ facts.filterMap BusinessFact.commit? =
      List.zipWith (sealedCommit float call query.path) operations steps ∧
      facts.filterMap BusinessFact.identity? = [] := by
  induction walked generalizing facts with
  | done =>
    cases sealed
    exact ⟨rfl, rfl, rfl⟩
  | commit correlated continuous read rest ih =>
    rename_i step _
    rw [commitFacts] at sealed
    obtain ⟨step', read', sealed⟩ := bind_eq_ok.mp sealed
    obtain ⟨fact, made, sealed⟩ := bind_eq_ok.mp sealed
    obtain ⟨⟨facts', ended'⟩, later, sealed⟩ := bind_eq_ok.mp sealed
    cases sealed
    have same : step' = step := by
      unfold readStep at read
      rw [missing, mapError_eq_ok.mp read'] at read
      exact Except.ok.inj read
    obtain ⟨commit, identity⟩ := commitFact_sealed made
    obtain ⟨ends, commits, identities⟩ := ih later
    refine ⟨ends, ?_, ?_⟩
    · rw [List.filterMap_cons_some commit, commits, same, List.zipWith_cons_cons]
    · rw [List.filterMap_cons_none identity, identities]

variable {reference : ObservationFactReference} {window : RecordObservationWindow}

theorem changes_sealed {path : List String} {operation : RecordOperation} {step : FieldStep}
    (proof : reference.proofFingerprint = call.requirement.proofFingerprint) (field : window.fieldPath = path) :
    changesAt reference window (sealedCommit float call path operation step).data =
      [⟨call.requirement.proofFingerprint, path, shown float step.before, shown float step.after, step.beforePresent,
        step.afterPresent⟩] := by
  unfold changesAt sealedCommit
  simp [proof, field]

variable (float query) in
/-- The chain has come to the data: its value is the sealed value of the field. -/
structure Standing (state : ChainState) (current : Json) (version : Nat) : Prop where
  version : state.version = version
  field : ∀ found, readField query current = .ok found → state.value = shown float found.2 ∧ state.present = found.1

/-- The state that a sealed commit leaves is that of its data. -/
theorem standing_after {state : ChainState} {current : Json} {operation : RecordOperation} {step : FieldStep}
    (proof : reference.proofFingerprint = call.requirement.proofFingerprint) (field : window.fieldPath = query.path)
    (read : readStep query current (leftBy current operation) = .ok step) :
    afterCommit reference window state (sealedCommit float call query.path operation step) =
        ⟨shown float step.after, step.afterPresent, operation.afterVersion, some operation.operationId⟩ ∧
      Standing float query (afterCommit reference window state (sealedCommit float call query.path operation step))
        (leftBy current operation) operation.afterVersion := by
  have left : afterCommit reference window state (sealedCommit float call query.path operation step) =
      ⟨shown float step.after, step.afterPresent, operation.afterVersion, some operation.operationId⟩ := by
    unfold afterCommit
    rw [changes_sealed proof field]
    rfl
  refine ⟨left, ?_⟩
  rw [left]
  refine ⟨rfl, ?_⟩
  intro found read'
  rw [(readStep_eq_ok read).2] at read'
  cases read'
  exact ⟨rfl, rfl⟩

/-- The sealed commits of a walk continue each other. -/
theorem chain_walked {state : ChainState} {current final : Json} {version last : Nat}
    {operations : List RecordOperation} {steps : List FieldStep}
    (proof : reference.proofFingerprint = call.requirement.proofFingerprint) (field : window.fieldPath = query.path)
    (generation : scope.generation = window.generation)
    (walked : Walked query scope current version operations steps final last)
    (standing : Standing float query state current version) :
    CommitChain reference window call.case (operations.map fun operation => operation.scopeOrdinal.getD 0) state
      (List.zipWith (sealedCommit float call query.path) operations steps) := by
  induction walked generalizing state with
  | done => exact trivial
  | commit correlated continuous read rest ih =>
    rename_i operation operations step steps
    obtain ⟨-, same, -, version, -⟩ := correlated
    obtain ⟨value, present⟩ := standing.field _ (readStep_eq_ok read).1
    have next := (@standing_after float call query reference window state _ operation step proof field read)
    rw [List.zipWith_cons_cons, List.map_cons]
    refine ⟨_, changes_sealed proof field, rfl, rfl, same.trans generation, version.trans standing.version.symm,
      rfl, rfl, rfl, present.symm, ?_, ?_⟩
    · rw [value]
      exact sameScalar_refl _
    · have left := next.2
      rw [next.1] at left
      exact ih left

theorem happened_walked {current final : Json} {version last : Nat} {operations : List RecordOperation}
    {steps : List FieldStep} (proof : reference.proofFingerprint = call.requirement.proofFingerprint)
    (field : window.fieldPath = query.path)
    (walked : Walked query scope current version operations steps final last) :
    (∃ commit ∈ List.zipWith (sealedCommit float call query.path) operations steps,
      Happened reference window query.fieldMutation query.expectedState commit) ↔
      ∃ step ∈ steps, makes query (shownStep float step) = true := by
  induction walked with
  | done => simp
  | commit correlated continuous read rest ih =>
    rename_i operation operations step steps
    have first : Happened reference window query.fieldMutation query.expectedState
        (sealedCommit float call query.path operation step) ↔ makes query (shownStep float step) = true := by
      unfold Happened
      rw [changes_sealed proof field]
      simp only [List.mem_singleton, exists_eq_left]
      exact Iff.rfl
    rw [List.zipWith_cons_cons]
    simp only [List.mem_cons, exists_eq_or_imp, first, ih]

/-- The sealed commits of a walk end where it ends. -/
theorem standing_walked {state : ChainState} {current final : Json} {version last : Nat}
    {operations : List RecordOperation} {steps : List FieldStep}
    (proof : reference.proofFingerprint = call.requirement.proofFingerprint) (field : window.fieldPath = query.path)
    (walked : Walked query scope current version operations steps final last)
    (standing : Standing float query state current version) :
    Standing float query ((List.zipWith (sealedCommit float call query.path) operations steps).foldl
        (afterCommit reference window) state) final last ∧
      ((List.zipWith (sealedCommit float call query.path) operations steps).foldl
        (afterCommit reference window) state).operation =
        (operations.getLast?.map fun operation => some operation.operationId).getD state.operation := by
  induction walked generalizing state with
  | done => exact ⟨standing, rfl⟩
  | commit correlated continuous read rest ih =>
    rename_i operation operations step steps
    obtain ⟨left, next⟩ := @standing_after float call query reference window state _ operation step proof field read
    obtain ⟨ends, operation'⟩ := ih next
    rw [List.zipWith_cons_cons, List.foldl_cons]
    refine ⟨ends, ?_⟩
    rw [operation', left, List.getLast?_cons]
    cases operations.getLast? with
    | none => rfl
    | some last => rfl

theorem walked_length {current final : Json} {version last : Nat} {operations : List RecordOperation}
    {steps : List FieldStep} (walked : Walked query scope current version operations steps final last) :
    operations.length = steps.length := by
  induction walked with
  | done => rfl
  | commit correlated continuous read rest ih => rw [List.length_cons, List.length_cons, ih]

end Commits

section Windows

variable {digest : Digest} {float : FloatOf} {call : RecordEvidenceCall} {path : List String} {before : RecordSnapshot}
  {collected : Collected} {window : RecordObservationWindow}

variable (float call path before collected) in
/-- What the window of a request says about its records. -/
structure WindowOf (window : RecordObservationWindow) : Prop where
  generation : window.generation = call.view.snapshot.generation
  fieldPath : window.fieldPath = path
  requestMatched : window.requestMatched = collected.matched
  sourceComplete : window.sourceComplete = collected.sourceComplete
  scopeState : window.scopeState = windowScope call.view.scope
  operationCount : window.operationCount = call.operations.length
  ordinals : window.ordinals = call.operations.map fun operation => operation.scopeOrdinal.getD 0
  beforeVersion : window.beforeVersion = before.version
  afterVersion : window.afterVersion = call.view.snapshot.version
  beforeOperation : window.beforeOperation = before.lastOperationId
  afterOperation : window.afterOperation = call.view.snapshot.lastOperationId
  started : ∃ found, fieldValue call.allowMissing path before.data = .ok found ∧
    window.beforeValue = shown float found.2 ∧ window.beforePresent = found.1
  ended : ∃ found, fieldValue call.allowMissing path call.view.snapshot.data = .ok found ∧
    window.afterValue = shown float found.2 ∧ window.afterPresent = found.1

theorem ordinals_listed {operations : List RecordOperation} {error : Raised} {ordinals : List Nat}
    (listed : operations.mapM (fun operation => orRaise operation.scopeOrdinal error) = .ok ordinals) :
    ordinals = operations.map fun operation => operation.scopeOrdinal.getD 0 := by
  have related := mapM_eq_ok_iff.mp listed
  clear listed
  induction related with
  | nil => rfl
  | cons numbered _ ih =>
    rw [List.map_cons, ← ih, orRaise_eq_ok.mp numbered]
    rfl

/-- The ordinals of the window are those of the commits, counted or listed. -/
theorem windowOrdinals_eq {ordinals : List Nat} (requested : call.snapshotOnly = false)
    (listed : windowOrdinals call = .ok ordinals) :
    (if ordinals ≠ [] then ordinals else List.range call.operations.length) =
      call.operations.map fun operation => operation.scopeOrdinal.getD 0 := by
  unfold windowOrdinals at listed
  by_cases counted : call.operations.map (·.scopeOrdinal) = (List.range call.operations.length).map some
  · rw [if_pos (.inr counted)] at listed
    cases listed
    rw [if_neg (not_not.mpr rfl)]
    have values := congrArg (List.map fun ordinal : Option Nat => ordinal.getD 0) counted
    rw [List.map_map, List.map_map] at values
    have plain : ((fun ordinal : Option Nat => ordinal.getD 0) ∘ some) = id := rfl
    rw [plain, List.map_id] at values
    exact values.symm
  · rw [if_neg (by simp [requested, counted])] at listed
    have values := ordinals_listed listed
    by_cases none' : ordinals = []
    · rw [if_neg (not_not.mpr none')]
      rw [none'] at values
      have empty : call.operations = [] := List.map_eq_nil_iff.mp values.symm
      rw [empty]
      rfl
    · rw [if_pos none']
      exact values

theorem window_of (requested : call.snapshotOnly = false)
    (sealed : recordWindow float call path before collected = .ok window) :
    WindowOf float call path before collected window := by
  unfold recordWindow at sealed
  obtain ⟨step, read, sealed⟩ := bind_eq_ok.mp sealed
  obtain ⟨ordinals, listed, sealed⟩ := bind_eq_ok.mp sealed
  obtain ⟨first, firstRead, sealed⟩ := bind_eq_ok.mp sealed
  obtain ⟨last, lastRead, sealed⟩ := bind_eq_ok.mp sealed
  obtain ⟨_, _, sealed⟩ := bind_eq_ok.mp sealed
  unfold fieldStep at read
  obtain ⟨start, startRead, read⟩ := bind_eq_ok.mp (mapError_eq_ok.mp read)
  obtain ⟨finish, finishRead, read⟩ := bind_eq_ok.mp read
  cases read
  split at sealed
  · cases sealed
    have counted : call.operationCount = call.operations.length := by
      unfold RecordEvidenceCall.operationCount
      rw [requested]
      rfl
    refine ⟨rfl, rfl, rfl, rfl, ?_, counted, ?_, rfl, rfl, rfl, rfl, ⟨start, startRead, ?_, rfl⟩, ⟨finish, finishRead, ?_, rfl⟩⟩
    · unfold RecordEvidenceCall.scopeState
      rw [requested]
      rfl
    · show (if ordinals ≠ [] then ordinals else List.range call.operationCount) = _
      rw [counted]
      exact windowOrdinals_eq requested listed
    · exact (shown_eq firstRead).symm
    · exact (shown_eq lastRead).symm
  · cases sealed

end Windows

/-- The source is the one adopted for the effect: it maps the field of the mutation. -/
def OwnSource (call : RecordEvidenceCall) : Prop :=
  ∀ mutation ∈ call.proof.fieldMutation, call.source.statePath = some mutation.path

/-- A case without a subject is one of an anonymous permission. -/
def AnonymousAllowed (case : ExecutionCase) : Prop :=
  case.subjectTestIdentityId = none → (case.permission.conditions.any fun conditions =>
    conditions.principal = .ANONYMOUS) = true

/-- Where the records are those of the request, sealing keeps what the commits did to the field, and the field that
the commits of a closed window leave is, once sealed, the field of the snapshot. -/
def Carried (float : FloatOf) (before : RecordSnapshot) (view : RecordProofView) (query : FieldQuery) : Prop :=
  ∀ scope steps final last, Traced query before view scope steps final last →
    ((∃ step ∈ steps, makes query (shownStep float step) = true) ↔ ∃ step ∈ steps, makes query step = true) ∧
    ((¬ ∃ step ∈ steps, makes query step = true) →
      Closed before view scope (resourceOperations view query.collection query.resourceId) final last →
      ∀ left right, readField query final = .ok left → readField query view.snapshot.data = .ok right →
        sameScalar (shown float left.2) (shown float right.2) = true)

section Answers

variable {digest : Digest} {float : FloatOf} {call : RecordEvidenceCall} {facts : List BusinessFact}
  {reference : ObservationFactReference} {before : RecordSnapshot} {path : List String} {collected : Collected}
  {window : RecordObservationWindow}

theorem selected_all (listed : reference.factIds = facts.map BusinessFact.factId) :
    selectedFacts reference facts = facts := by
  unfold selectedFacts
  rw [List.filter_eq_self]
  intro fact member
  rw [listed]
  exact decide_eq_true (List.mem_map_of_mem member)

theorem identity_known {identity : String} (listed : identity ∈ call.case.subjectTestIdentityId.toList ++
    [call.case.resourceOwnerTestIdentityId, call.proof.observationIdentityId]) :
    identity ∈ (identityFacts digest call.common call.case call.proof).filterMap BusinessFact.identity? := by
  unfold identityFacts
  rw [List.filterMap_append, List.filterMap_map]
  apply List.mem_append_left
  exact List.mem_filterMap.mpr ⟨identity, mem_sortedSet.mpr listed, rfl⟩

theorem principals_verified (allowed : AnonymousAllowed call.case) (commits : List BusinessFact) :
    verifiedPrincipals call.case (identityFacts digest call.common call.case call.proof ++ commits)
      ((identityFacts digest call.common call.case call.proof ++ commits).filterMap BusinessFact.identity?) = true := by
  have known : ∀ identity ∈ call.case.subjectTestIdentityId.toList ++
      [call.case.resourceOwnerTestIdentityId, call.proof.observationIdentityId],
      identity ∈ (identityFacts digest call.common call.case call.proof ++ commits).filterMap BusinessFact.identity? := by
    intro identity listed
    rw [List.filterMap_append]
    exact List.mem_append_left _ (identity_known listed)
  unfold verifiedPrincipals
  rw [decide_eq_true (known call.case.resourceOwnerTestIdentityId (by simp)), Bool.true_and]
  cases subject : call.case.subjectTestIdentityId with
  | some identity => exact decide_eq_true (known identity (by simp [subject]))
  | none =>
    dsimp only
    rw [allowed subject, Bool.true_and, List.any_append, Bool.or_eq_true]
    left
    unfold identityFacts
    rw [subject, List.any_append, Bool.or_eq_true]
    exact .inr rfl

theorem identityFacts_commits :
    (identityFacts digest call.common call.case call.proof).filterMap BusinessFact.commit? = [] := by
  rw [List.filterMap_eq_nil_iff]
  intro fact member
  unfold identityFacts at member
  rcases List.mem_append.mp member with listed | listed
  · obtain ⟨identity, -, rfl⟩ := List.mem_map.mp listed
    rfl
  · split at listed
    · rw [List.mem_singleton.mp listed]
      rfl
    · exact absurd listed List.not_mem_nil

/-- Facts that are not of the request answer nothing. -/
theorem unmatched_unknown (window : RecordObservationWindow) (facts : List BusinessFact) :
    (reduceRecordFacts (factReference call facts window false) call.case call.proof.fieldMutation
      call.proof.expectedState facts).1 = .UNKNOWN := by
  unfold reduceRecordFacts factReference
  simp only [Bool.false_eq_true, not_false_eq_true, true_or, if_true]
  rfl

/-- Two answers are the same when they confirm and deny alike. -/
theorem state_eq_iff {left right : EffectState} :
    left = right ↔ ((left = .CONFIRMED ↔ right = .CONFIRMED) ∧ (left = .ABSENT ↔ right = .ABSENT)) := by
  cases left <;> cases right <;> simp

/-- The mutation is about the mapped field; without one the field was there all along. -/
theorem window_readable (own : OwnSource call) (mapped : call.source.statePath = some path)
    (windowed : WindowOf float call path before collected window) :
    readable window call.proof.fieldMutation = true := by
  unfold readable
  cases mutation : call.proof.fieldMutation with
  | some requirement =>
    have same := own requirement (by rw [mutation]; rfl)
    rw [mapped] at same
    dsimp only
    rw [windowed.fieldPath, Option.some.inj same]
    exact decide_eq_true rfl
  | none =>
    have required : call.allowMissing = false := by
      unfold RecordEvidenceCall.allowMissing
      rw [mutation]
      rfl
    obtain ⟨first, startRead, -, started⟩ := windowed.started
    obtain ⟨last, endRead, -, ended⟩ := windowed.ended
    rw [required] at startRead endRead
    dsimp only
    rw [started, ended, fieldValue_present startRead, fieldValue_present endRead]
    rfl

section Matched

variable {target : TargetReceipt} {subjectId ownerId : String} {scope : RecordRequestScope} {steps : List FieldStep}
  {final : Json} {last : Nat}

/-- The sealed facts of a request, listed after the identity checks, are a chain over the window. -/
theorem sealed_chain (requested : call.snapshotOnly = false) (allowed : AnonymousAllowed call.case)
    (windowed : WindowOf float call path before collected window) (matched : collected.matched = true)
    (traced : Traced (call.query path target subjectId ownerId) before call.view scope steps final last)
    (commits : collected.commits.filterMap BusinessFact.commit? =
      List.zipWith (sealedCommit float call path) call.operations steps)
    (listed : facts = identityFacts digest call.common call.case call.proof ++ collected.commits) :
    Standing float (call.query path target subjectId ownerId) window.start before.data before.version ∧
      Chained (factReference call facts window true) window call.case facts
        (List.zipWith (sealedCommit float call path) call.operations steps) := by
  have standing : Standing float (call.query path target subjectId ownerId) window.start before.data before.version := by
    refine ⟨windowed.beforeVersion, ?_⟩
    intro found read
    obtain ⟨found', read', value, present⟩ := windowed.started
    have same : found = found' := Except.ok.inj (read.symm.trans read')
    rw [same]
    exact ⟨value, present⟩
  have selected : selectedFacts (factReference call facts window true) facts = facts := selected_all rfl
  have generation : scope.generation = window.generation := by
    rw [traced.generation.2, traced.generation.1, windowed.generation]
  refine ⟨standing, ?_, rfl, rfl, ?_, ?_, ?_, ?_, ?_⟩
  · unfold factReference
    rw [requested]
    rfl
  · rw [windowed.requestMatched, matched]
  · rw [selected]
    exact (List.length_map _).symm
  · rw [selected, listed]
    exact principals_verified allowed _
  · rw [selected, listed, List.filterMap_append, identityFacts_commits, commits]
    exact List.Perm.refl _
  · rw [windowed.ordinals]
    exact chain_walked rfl windowed.fieldPath generation traced.walked standing

/-- The last commit of the walk, or the one before it. -/
theorem closed_operation (closed : Closed before call.view scope call.operations final last) :
    (call.operations.getLast?.map fun operation => some operation.operationId).getD before.lastOperationId =
      call.view.snapshot.lastOperationId := by
  obtain ⟨-, -, -, none', some'⟩ := closed
  cases ends : call.operations.getLast? with
  | none => exact (none' (List.getLast?_eq_none_iff.mp ends)).symm
  | some operation => exact (some' operation ends).symm

variable (call before) in
/-- The sealed history counts as complete: the private one is closed, or confirmed in a complete request. -/
def Complete (query : FieldQuery) : Prop :=
  (requestFact (some before) call.view query).state = .ABSENT ∨
    (requestFact (some before) call.view query).state = .CONFIRMED ∧
      (call.view.scope.any fun scope => scope.state = .COMPLETE) = true

theorem collected_cases (sealed : collectCommits digest float call path before = .ok collected) :
    ∃ target subjectId ownerId, call.target = some target ∧
      call.asked path target = .ok (call.query path target subjectId ownerId) ∧
      (((requestFact (some before) call.view (call.query path target subjectId ownerId)).state ≠ .UNKNOWN ∨
          (requestFact (some before) call.view (call.query path target subjectId ownerId)).reasonCodes =
            [.RECORD_REQUEST_INCOMPLETE]) ∧
        collected.matched = true ∧ (∃ current,
          commitFacts digest float call path before.data call.operations = .ok (collected.commits, current) ∧
          (collected.sourceComplete = true ↔ Complete call before (call.query path target subjectId ownerId) ∧
            pythonEqual current call.view.snapshot.data = true)) ∨
        ((requestFact (some before) call.view (call.query path target subjectId ownerId)).state = .UNKNOWN ∧
          (requestFact (some before) call.view (call.query path target subjectId ownerId)).reasonCodes ≠
            [.RECORD_REQUEST_INCOMPLETE]) ∧ collected.matched = false) := by
  unfold collectCommits at sealed
  obtain ⟨target, found, sealed⟩ := bind_eq_ok.mp sealed
  obtain ⟨query, asked, sealed⟩ := bind_eq_ok.mp sealed
  have form : ∃ subjectId ownerId, query = call.query path target subjectId ownerId := by
    unfold RecordEvidenceCall.asked at asked
    obtain ⟨subjectId, _, asked⟩ := bind_eq_ok.mp asked
    obtain ⟨ownerId, _, asked⟩ := bind_eq_ok.mp asked
    cases asked
    exact ⟨subjectId, ownerId, rfl⟩
  obtain ⟨subjectId, ownerId, rfl⟩ := form
  refine ⟨target, subjectId, ownerId, orRaise_eq_ok.mp found, asked, ?_⟩
  dsimp only at sealed
  split at sealed
  · rename_i known
    obtain ⟨⟨commits, current⟩, collects, sealed⟩ := bind_eq_ok.mp sealed
    cases sealed
    refine .inl ⟨known, rfl, current, collects, ?_⟩
    rw [Bool.and_eq_true, decide_eq_true_iff]
    exact Iff.rfl
  · rename_i unknown
    cases sealed
    simp only [not_or, not_not] at unknown
    exact .inr ⟨unknown, rfl⟩

/-- On the records of the request, the sealed answer is the private one exactly where sealing carries it. -/
theorem matched_answer (requested : call.snapshotOnly = false) (allowed : AnonymousAllowed call.case)
    (own : OwnSource call) (mapped : call.source.statePath = some path)
    (windowed : WindowOf float call path before collected window) (matched : collected.matched = true)
    (traced : Traced (call.query path target subjectId ownerId) before call.view scope steps final last)
    {current : Json} (collects : commitFacts digest float call path before.data call.operations =
      .ok (collected.commits, current))
    (complete : collected.sourceComplete = true ↔ Complete call before (call.query path target subjectId ownerId) ∧
      pythonEqual current call.view.snapshot.data = true)
    (listed : facts = identityFacts digest call.common call.case call.proof ++ collected.commits) :
    (reduceRecordFacts (factReference call facts window true) call.case call.proof.fieldMutation
        call.proof.expectedState facts).1 =
        (requestFact (some before) call.view (call.query path target subjectId ownerId)).state ↔
      ((∃ step ∈ steps, makes (call.query path target subjectId ownerId) (shownStep float step) = true) ↔
          ∃ step ∈ steps, makes (call.query path target subjectId ownerId) step = true) ∧
        ((¬ ∃ step ∈ steps, makes (call.query path target subjectId ownerId) step = true) →
          Closed before call.view scope call.operations final last →
          ∀ left right, readField (call.query path target subjectId ownerId) final = .ok left →
            readField (call.query path target subjectId ownerId) call.view.snapshot.data = .ok right →
            sameScalar (shown float left.2) (shown float right.2) = true) := by
  obtain ⟨ends, commits, -⟩ := @commitFacts_sealed digest float call (call.query path target subjectId ownerId) scope
    before.data final current before.version last call.operations steps collected.commits rfl traced.walked collects
  obtain ⟨standing, chained⟩ := sealed_chain requested allowed windowed matched traced commits listed
  have reduced := @reduce_chain (factReference call facts window true) window call.case facts
    (List.zipWith (sealedCommit float call path) call.operations steps) call.proof.fieldMutation
    call.proof.expectedState chained (window_readable own mapped windowed)
  have happened : (∃ commit ∈ List.zipWith (sealedCommit float call path) call.operations steps,
      Happened (factReference call facts window true) window call.proof.fieldMutation call.proof.expectedState commit) ↔
      ∃ step ∈ steps, makes (call.query path target subjectId ownerId) (shownStep float step) = true :=
    happened_walked rfl windowed.fieldPath traced.walked
  have never : (∀ commit ∈ List.zipWith (sealedCommit float call path) call.operations steps,
      ¬ Happened (factReference call facts window true) window call.proof.fieldMutation call.proof.expectedState commit) ↔
      ¬ ∃ step ∈ steps, makes (call.query path target subjectId ownerId) (shownStep float step) = true := by
    rw [← happened]
    exact ⟨fun none' ⟨commit, member, found⟩ => none' commit member found,
      fun none' commit member found => none' ⟨commit, member, found⟩⟩
  have ended : Standing float (call.query path target subjectId ownerId)
      ((List.zipWith (sealedCommit float call path) call.operations steps).foldl
        (afterCommit (factReference call facts window true) window) window.start) final last ∧
      ((List.zipWith (sealedCommit float call path) call.operations steps).foldl
        (afterCommit (factReference call facts window true) window) window.start).operation =
        (call.operations.getLast?.map fun operation => some operation.operationId).getD window.beforeOperation :=
    standing_walked rfl windowed.fieldPath traced.walked standing
  obtain ⟨stands, operation⟩ := ended
  obtain ⟨right, readRight, afterValue, afterPresent⟩ := windowed.ended
  rw [state_eq_iff, reduced.1, reduced.2, confirmed_iff traced, absent_iff traced, happened, never]
  constructor
  · rintro ⟨same, absence⟩
    refine ⟨same, ?_⟩
    intro quiet closed left right' readLeft readRight'
    obtain ⟨-, -, -, -, value, -⟩ := absence.mpr ⟨quiet, closed, left, readLeft⟩
    have equalReads : right = right' := Except.ok.inj (readRight.symm.trans readRight')
    rw [← equalReads, ← afterValue, ← (stands.field left readLeft).1]
    exact value
  · rintro ⟨same, kept⟩
    refine ⟨same, ?_⟩
    constructor
    · rintro ⟨quiet, -, -, source, -⟩
      rw [windowed.sourceComplete, complete] at source
      rcases source.1 with absent | ⟨confirmed, -⟩
      · exact (absent_iff traced).mp absent
      · exact absurd (same.mpr ((confirmed_iff traced).mp confirmed)) quiet
    · rintro ⟨quiet, closed, left, readLeft⟩
      have equalData : pythonEqual final call.view.snapshot.data = true := closed.2.1
      have absent := (absent_iff traced).mpr ⟨quiet, closed, left, readLeft⟩
      have lengths := walked_length traced.walked
      refine ⟨fun found => quiet (same.mp found), ?_, ?_, ?_, ?_, ?_, ?_, ?_⟩
      · have counted : call.operations.length = steps.length := lengths
        rw [List.length_zipWith, windowed.operationCount]
        omega
      · rw [windowed.scopeState, traced.requested]
        simp only [windowScope, closed.1]
      · rw [windowed.sourceComplete, complete, ends]
        exact ⟨.inl absent, equalData⟩
      · rw [(stands.field left readLeft).1, afterValue]
        exact kept quiet closed left right readLeft readRight
      · rw [(stands.field left readLeft).2, afterPresent]
        exact (fieldValue_equal equalData readLeft readRight).1
      · rw [stands.version, windowed.afterVersion]
        exact closed.2.2.1
      · rw [operation, windowed.afterOperation, windowed.beforeOperation]
        exact closed_operation closed

end Matched

section Answer

variable {target : TargetReceipt} {query : FieldQuery}

/-- The records are not those of the request, or the field cannot be read: nothing is lost by sealing. -/
theorem carried_of_unmatched (unknown : (requestFact (some before) call.view query).state = .UNKNOWN)
    (reason : (requestFact (some before) call.view query).reasonCodes ≠ [.RECORD_REQUEST_INCOMPLETE]) :
    Carried float before call.view query := by
  intro scope steps final last traced
  have quiet : ¬ ∃ step ∈ steps, makes query step = true := by
    intro found
    rw [(confirmed_iff traced).mpr found] at unknown
    cases unknown
  by_cases closed : Closed before call.view scope (resourceOperations call.view query.collection query.resourceId) final last
  · have unreadable : ¬ ∃ found, readField query final = .ok found := by
      intro readable
      rw [(absent_iff traced).mpr ⟨quiet, closed, readable⟩] at unknown
      cases unknown
    have none' : steps = [] := (walked_readable traced.walked).resolve_right unreadable
    refine ⟨by simp [none'], ?_⟩
    intro _ _ left right readLeft
    exact absurd ⟨left, readLeft⟩ unreadable
  · exact absurd (incomplete_of_open traced quiet closed) reason

theorem answer_iff_carried (returned : collectRecordEvidence digest float call = .ok (facts, reference))
    (requested : call.snapshotOnly = false) (own : OwnSource call) (allowed : AnonymousAllowed call.case) :
    ∃ path before target query, call.source.statePath = some path ∧ call.before = some before ∧
      call.target = some target ∧ call.asked path target = .ok query ∧
      ((reduceRecordFacts reference call.case call.proof.fieldMutation call.proof.expectedState facts).1 =
        (requestFact (some before) call.view query).state ↔ Carried float before call.view query) := by
  unfold collectRecordEvidence at returned
  obtain ⟨path, mapped, returned⟩ := bind_eq_ok.mp returned
  obtain ⟨before, baseline, returned⟩ := bind_eq_ok.mp returned
  obtain ⟨collected, collects, returned⟩ := bind_eq_ok.mp returned
  obtain ⟨window, windowed, returned⟩ := bind_eq_ok.mp returned
  obtain ⟨_, _, returned⟩ := bind_eq_ok.mp returned
  cases returned
  rw [requested] at baseline collects
  obtain ⟨target, subjectId, ownerId, received, asked, matched | unmatched⟩ := collected_cases collects
  · obtain ⟨known, matched, current, sealed, complete⟩ := matched
    refine ⟨path, before, target, _, orRaise_eq_ok.mp mapped, orRaise_eq_ok.mp baseline, received, asked, ?_⟩
    have answer := fun {scope} {steps} {final} {last} traced => @matched_answer digest float call _ before path collected
      window target subjectId ownerId scope steps final last requested allowed own (orRaise_eq_ok.mp mapped)
      (window_of requested windowed) matched traced current sealed complete rfl
    rw [matched]
    constructor
    · intro same scope steps final last traced
      exact (answer traced).mp same
    · intro carried
      by_cases traced : ∃ scope steps final last,
          Traced (call.query path target subjectId ownerId) before call.view scope steps final last
      · obtain ⟨scope, steps, final, last, traced⟩ := traced
        exact (answer traced).mpr (carried scope steps final last traced)
      · obtain ⟨unknown, reason⟩ := requestFact_untraced traced
        rcases known with known | incomplete
        · exact absurd unknown known
        · exact absurd incomplete reason
  · obtain ⟨⟨unknown, reason⟩, matched⟩ := unmatched
    refine ⟨path, before, target, _, orRaise_eq_ok.mp mapped, orRaise_eq_ok.mp baseline, received, asked, ?_⟩
    rw [matched, unmatched_unknown, unknown]
    exact ⟨fun _ => carried_of_unmatched unknown reason, fun _ => rfl⟩

end Answer

/-- Sealing carries the field where no integer is beyond the exact ones, and no boolean stands for a number. -/
theorem carried_of_kept {query : FieldQuery} (kept : ∀ scope steps final last,
    Traced query before call.view scope steps final last → (∀ step ∈ steps, shownStep float step = step) ∧
      ∀ left right, readField query final = .ok left → readField query call.view.snapshot.data = .ok right →
        shown float left.2 = left.2 ∧ shown float right.2 = right.2 ∧ isBoolean left.2 = isBoolean right.2) :
    Carried float before call.view query := by
  intro scope steps final last traced
  obtain ⟨same, ends⟩ := kept scope steps final last traced
  constructor
  · constructor
    · rintro ⟨step, member, made⟩
      rw [same step member] at made
      exact ⟨step, member, made⟩
    · rintro ⟨step, member, made⟩
      refine ⟨step, member, ?_⟩
      rw [same step member]
      exact made
  · intro _ closed left right readLeft readRight
    obtain ⟨leftKept, rightKept, boolean⟩ := ends left right readLeft readRight
    rw [leftKept, rightKept]
    exact sameScalar_iff.mpr ⟨boolean, (fieldValue_equal closed.2.1 readLeft readRight).2⟩

end Answers

/-- The record of a document whose `state` field has a value. -/
def stateRecord (state : Json) : RecordSnapshot where
  generation := "generation"
  collection := "documents"
  resourceId := "resource"
  ownerId := "owner"
  version := 0
  data := .dict [("state", state)]
  lastOperationId := none

def quietScope : RecordRequestScope where
  scopeId := "scope"
  generation := "generation"
  requestNonce := "nonce"
  requestDigest := "digest"
  state := .COMPLETE
  activity := none

def stateProof : CheckProofConfig where
  effectId := "effect"
  businessLabel := "state changed"
  effectKind := "STATE_MUTATION"
  fieldMutation := some { path := ["state"] }
  bindingFingerprint := "binding"
  rule := .REGISTERED_EFFECT
  observationIdentityId := "owner"
  sourceLabel := "records"

/-- The owner's request committed nothing; the state was one before and is another value now. -/
def quietCall (after : Json) : RecordEvidenceCall where
  source := ⟨"source", 1, "fingerprint", "documents", [("state", ["data", "state"])]⟩
  case := ownersCase "resource" []
  requirement := decisiveProof textDigest "resource"
  proof := stateProof
  phase := .AFTER
  before := some (stateRecord (.int 1))
  view := ⟨stateRecord after, some quietScope, []⟩
  target := some ⟨"nonce", "digest"⟩
  clock := 0
  marker := "marker"
  claims := fun _ => some "owner"

def quietQuery (after : Json) : FieldQuery := (quietCall after).query ["state"] ⟨"nonce", "digest"⟩ "owner" "owner"

theorem quiet_absent {after : Json} (same : pythonEqual (.dict [("state", .int 1)]) (.dict [("state", after)]) = true) :
    requestFact (some (stateRecord (.int 1))) (quietCall after).view (quietQuery after) =
      ⟨.ABSENT, .CLOSED, [.COMPLETE_HISTORY_UNCHANGED]⟩ := by
  have traced : Traced (quietQuery after) (stateRecord (.int 1)) (quietCall after).view quietScope []
      (.dict [("state", .int 1)]) 0 := ⟨rfl, ⟨rfl, rfl⟩, ⟨rfl, rfl, rfl, rfl⟩, .done _ _⟩
  have closed : Closed (stateRecord (.int 1)) (quietCall after).view quietScope [] (.dict [("state", .int 1)]) 0 :=
    ⟨rfl, same, rfl, fun _ => rfl, fun operation listed => by cases listed⟩
  rw [requestFact_traced traced]
  exact (if_neg (by simp)).trans ((if_neg (not_not.mpr closed)).trans rfl)

theorem nothing_counted : ([] : List Nat) ≠ [] → ([] : List Nat).length = 0 := fun listed => absurd rfl listed

theorem nothing_increasing : ([] : List Nat).Pairwise (· < ·) := List.Pairwise.nil

def quietWindow (after : Json) : RecordObservationWindow where
  generation := "generation"
  beforeVersion := 0
  afterVersion := 0
  beforeValue := .int 1
  afterValue := after
  scopeState := .COMPLETE
  operationCount := 0
  requestMatched := true
  sourceComplete := true
  fieldPath := ["state"]
  counted := nothing_counted
  increasing := nothing_increasing

def quietFacts (after : Json) : List BusinessFact :=
  [sealBusinessFact textDigest (quietCall after).common .IDENTITY_READER (.identityCheck ⟨"owner", .MATCH, .MATCH⟩)]

theorem quiet_returned {float : FloatOf} {after : Json} (scalar : factScalar float after = .ok after)
    (same : pythonEqual (.dict [("state", .int 1)]) (.dict [("state", after)]) = true) :
    collectRecordEvidence textDigest float (quietCall after) =
      .ok (quietFacts after, factReference (quietCall after) (quietFacts after) (quietWindow after) true) := by
  have collects : collectCommits textDigest float (quietCall after) ["state"] (stateRecord (.int 1)) =
      .ok ⟨true, true, []⟩ := by
    unfold collectCommits
    refine bind_eq_ok.mpr ⟨⟨"nonce", "digest"⟩, rfl, bind_eq_ok.mpr ⟨quietQuery after, rfl, ?_⟩⟩
    dsimp only
    rw [quiet_absent same, if_pos (.inl (by decide))]
    have equals : pythonEqual (stateRecord (.int 1)).data (quietCall after).view.snapshot.data = true := same
    refine bind_eq_ok.mpr ⟨([], (stateRecord (.int 1)).data), rfl, ?_⟩
    dsimp only
    rw [equals]
    rfl
  have windowed : recordWindow float (quietCall after) ["state"] (stateRecord (.int 1)) ⟨true, true, []⟩ =
      .ok (quietWindow after) := by
    unfold recordWindow
    refine bind_eq_ok.mpr ⟨⟨.int 1, true, after, true⟩, rfl, bind_eq_ok.mpr ⟨[], rfl, ?_⟩⟩
    refine bind_eq_ok.mpr ⟨.int 1, rfl, bind_eq_ok.mpr ⟨after, scalar, ?_⟩⟩
    refine bind_eq_ok.mpr ⟨(), require_eq_ok.mpr ⟨Nat.zero_le _, fun _ listed => absurd listed List.not_mem_nil⟩, ?_⟩
    rw [dif_pos ⟨nothing_counted, nothing_increasing⟩]
    rfl
  unfold collectRecordEvidence
  refine bind_eq_ok.mpr ⟨["state"], rfl, bind_eq_ok.mpr ⟨stateRecord (.int 1), rfl, ?_⟩⟩
  refine bind_eq_ok.mpr ⟨⟨true, true, []⟩, collects, bind_eq_ok.mpr ⟨quietWindow after, windowed, ?_⟩⟩
  exact bind_eq_ok.mpr ⟨(), require_eq_ok.mpr (List.nodup_singleton _), rfl⟩

theorem quiet_own (after : Json) : OwnSource (quietCall after) := by
  intro mutation member
  cases member
  rfl

theorem quiet_allowed (after : Json) : AnonymousAllowed (quietCall after).case := by
  intro anonymous
  cases anonymous

end Jiejian.Verification.RecordEvidence
