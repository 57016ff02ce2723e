import Jiejian.Library.Equality
import Jiejian.Library.Sorting
import Jiejian.Protocol.Pairs
import Jiejian.Protocol.Runtime
import Jiejian.Verification.Models
import Mathlib.Algebra.Order.Ring.Rat
import Mathlib.Algebra.Field.Rat
import Mathlib.Algebra.GroupWithZero.Basic

namespace Jiejian.Verification.BusinessFacts

open Library Library.Document Library.Equality Library.Sorting
open Protocol.Codec Protocol.Conditions Protocol.Cases Protocol.Pairs Protocol.Runtime Models

def digitsValue (digits : List Char) : Nat := digits.foldl (fun value digit => 10 * value + (digit.toNat - '0'.toNat)) 0

/-- The number that a shortest representation such as `-1.5e-07` stands for. -/
def floatValue (text : String) : Rat :=
  let magnitude := text.toList.filter (· ≠ '-') |>.takeWhile (· ≠ 'e')
  let whole := magnitude.takeWhile (· ≠ '.')
  let fraction := (magnitude.dropWhile (· ≠ '.')).drop 1
  let exponent := (text.toList.dropWhile (· ≠ 'e')).drop 1
  let power : Int := digitsValue (exponent.filter (·.isDigit))
  let shift : Int := (if '-' ∈ exponent then -power else power) - fraction.length
  let size : Rat := digitsValue (whole ++ fraction) * (10 : Rat) ^ shift
  if text.toList.head? = some '-' then -size else size

/-- What two scalars are compared by. -/
inductive ScalarValue where
  | null
  | number (value : Rat)
  | text (value : String)
  deriving DecidableEq

/-- Integers, floats and booleans are numbers to `==`. -/
def scalarValue : Json → Option ScalarValue
  | .null => some .null
  | .bool value => some (.number (if value then 1 else 0))
  | .int value => some (.number value)
  | .float text => some (.number (floatValue text))
  | .str text => some (.text text)
  | .list _ => none
  | .dict _ => none

/-- `left == right`. -/
def pythonEqual (left right : Json) : Bool := equal scalarValue left right

def isBoolean : Json → Bool
  | .bool _ => true
  | _ => false

def sameScalar (left right : Json) : Bool :=
  if isBoolean left || isBoolean right then isBoolean left && isBoolean right && pythonEqual left right
  else pythonEqual left right

/-- `changed` of `mutation_happened`. -/
def fieldChanged (before after : Json) (beforePresent afterPresent : Bool) : Bool :=
  decide (beforePresent ≠ afterPresent) || (beforePresent && !sameScalar before after)

def mutationHappened (requirement : Option FieldMutationRequirement) (before after : Json)
    (beforePresent afterPresent : Bool) (expectedState : Option String) : Bool :=
  let changed := fieldChanged before after beforePresent afterPresent
  match requirement with
  | none => changed && afterPresent && expectedState.all fun state => sameScalar after (.str state)
  | some requirement =>
    match requirement.operation with
    | .REMOVE => beforePresent && !afterPresent
    | .ADD => !beforePresent && afterPresent && sameScalar after requirement.expectedValue
    | .ASSIGN => changed && afterPresent && sameScalar after requirement.expectedValue
    | .CHANGE => changed

structure CommittedFieldChange where
  proofFingerprint : String
  path : List String
  before : Json
  after : Json
  beforePresent : Bool := true
  afterPresent : Bool := true

structure CommittedStateFact where
  generation : String
  operationId : String
  scopeOrdinal : Nat
  beforeVersion : Nat
  afterVersion : Nat
  subjectIdentityId : Option String
  ownerIdentityId : String
  resourceId : String
  changes : List CommittedFieldChange

structure IdentityCheckFact where
  identityId : String
  subjectMatch : MatchStatus
  roleMatch : MatchStatus

inductive FactData where
  | committedState (data : CommittedStateFact)
  | identityCheck (data : IdentityCheckFact)
  | anonymousCheck (unauthenticated : Bool)
  | other

structure BusinessFact where
  factId : String
  complete : Bool
  data : FactData

inductive ScopeState where
  | OPEN
  | COMPLETE
  | INCOMPLETE
  | MISSING
  deriving DecidableEq, Repr

/-- A window over the commits of one request; the ordinals it lists are one for each operation, in order. -/
structure RecordObservationWindow where
  generation : String
  beforeVersion : Nat
  afterVersion : Nat
  beforeValue : Json
  afterValue : Json
  beforePresent : Bool := true
  afterPresent : Bool := true
  beforeOperation : Option String := none
  afterOperation : Option String := none
  scopeState : ScopeState
  operationCount : Nat
  operationOrdinals : List Nat := []
  requestMatched : Bool
  sourceComplete : Bool
  fieldPath : List String
  counted : operationOrdinals ≠ [] → operationOrdinals.length = operationCount := by decide
  increasing : operationOrdinals.Pairwise (· < ·) := by decide

/-- `window.operation_ordinals or tuple(range(window.operation_count))`. -/
def RecordObservationWindow.ordinals (window : RecordObservationWindow) : List Nat :=
  if window.operationOrdinals ≠ [] then window.operationOrdinals else List.range window.operationCount

inductive FactMethod where
  | STATE_SNAPSHOT
  | ATOMIC_STATE
  | FIELD_SNAPSHOT
  | FIELD_DISCLOSURE
  | FILE_SNAPSHOT
  | FILE_DELIVERY
  deriving DecidableEq, Repr

structure ObservationFactReference where
  proofFingerprint : String
  factIds : List String
  method : FactMethod
  recordWindow : Option RecordObservationWindow := none
  complete : Bool

/-- An independently committed state, with whether it was collected completely. -/
structure Commit where
  complete : Bool
  data : CommittedStateFact

def BusinessFact.commit? (fact : BusinessFact) : Option Commit :=
  match fact.data with
  | .committedState data => some ⟨fact.complete, data⟩
  | _ => none

def BusinessFact.identity? (fact : BusinessFact) : Option String :=
  match fact.data with
  | .identityCheck data =>
    if fact.complete ∧ data.subjectMatch = data.roleMatch ∧ data.roleMatch = .MATCH then some data.identityId else none
  | _ => none

def BusinessFact.anonymous (fact : BusinessFact) : Bool :=
  match fact.data with
  | .anonymousCheck unauthenticated => fact.complete && unauthenticated
  | _ => false

def verifiedPrincipals (case : ExecutionCase) (facts : List BusinessFact) (identities : List String) : Bool :=
  decide (case.resourceOwnerTestIdentityId ∈ identities) &&
    match case.subjectTestIdentityId with
    | some subject => subject ∈ identities
    | none => (case.permission.conditions.any fun conditions => conditions.principal = .ANONYMOUS) &&
        facts.any BusinessFact.anonymous

/-- The running state of the walk along the commits. -/
structure Walk where
  value : Json
  present : Bool
  version : Nat
  happened : Bool

section Reduction

variable (reference : ObservationFactReference) (window : RecordObservationWindow) (case : ExecutionCase)
  (fieldMutation : Option FieldMutationRequirement) (expectedState : Option String)

/-- The changes of a commit that the window is about. -/
def changesAt (data : CommittedStateFact) : List CommittedFieldChange :=
  data.changes.filter fun item => item.proofFingerprint = reference.proofFingerprint ∧ item.path = window.fieldPath

/-- The change of a commit that continues the walk. -/
def acceptCommit (ordinal : Option Nat) (walk : Walk) (commit : Commit) : Option CommittedFieldChange :=
  match changesAt reference window commit.data with
  | [change] =>
    if commit.complete ∧ ordinal = some commit.data.scopeOrdinal ∧ commit.data.generation = window.generation ∧
        commit.data.beforeVersion = walk.version ∧
        (commit.data.subjectIdentityId, commit.data.ownerIdentityId, commit.data.resourceId) =
          (case.subjectTestIdentityId, case.resourceOwnerTestIdentityId, case.resourceId) ∧
        change.beforePresent = walk.present ∧ sameScalar change.before walk.value then some change
    else none
  | _ => none

def followCommits : List Nat → Walk → List Commit → Option Walk
  | _, walk, [] => some walk
  | ordinals, walk, commit :: commits => do
    let change ← acceptCommit reference window case ordinals.head? walk commit
    followCommits ordinals.tail
      { value := change.after
        present := change.afterPresent
        version := commit.data.afterVersion
        happened := walk.happened || mutationHappened fieldMutation walk.value change.after walk.present
          change.afterPresent expectedState } commits

abbrev Reduced := EffectState × Closure × Bool

def openAnswer : Reduced := (.UNKNOWN, .OPEN, false)

/-- The mutation is about the field of the window; without one the field was there all along. -/
def readable : Bool :=
  match fieldMutation with
  | some requirement => requirement.path = window.fieldPath
  | none => window.beforePresent && window.afterPresent

/-- `commits[-1].data.operation_id if commits else window.before_operation`. -/
def lastOperation (before : Option String) (commits : List Commit) : Option String :=
  match commits.getLast? with
  | some commit => some commit.data.operationId
  | none => before

/-- Nothing happened, provided that the walk used up the window. -/
def closeWindow (commits : List Commit) (walk : Walk) : Reduced :=
  if ¬window.sourceComplete ∨ window.scopeState ≠ .COMPLETE ∨ commits.length ≠ window.operationCount ∨
      walk.present ≠ window.afterPresent ∨ sameScalar walk.value window.afterValue = false ∨
      walk.version ≠ window.afterVersion ∨ lastOperation window.beforeOperation commits ≠ window.afterOperation then openAnswer
  else (.ABSENT, .CLOSED, true)

def reduceSnapshot : Reduced :=
  if ¬window.sourceComplete then openAnswer
  else if fieldMutation.isSome ∨ sameScalar window.afterValue (nullable .str expectedState) then (.CONFIRMED, .CLOSED, true)
  else (.ABSENT, .CLOSED, true)

def selectedFacts (facts : List BusinessFact) : List BusinessFact :=
  facts.filter fun fact => fact.factId ∈ reference.factIds

def reduceCommits (records : List BusinessFact) : Reduced :=
  let commits := sortedBy (fun commit => commit.data.scopeOrdinal) (records.filterMap BusinessFact.commit?)
  let start : Walk := ⟨window.beforeValue, window.beforePresent, window.beforeVersion, false⟩
  match followCommits reference window case fieldMutation expectedState window.ordinals start commits with
  | none => openAnswer
  | some walk => if walk.happened then (.CONFIRMED, .CLOSED, true) else closeWindow window commits walk

def reduceRecordFacts (facts : List BusinessFact) : Reduced :=
  match reference.recordWindow with
  | none => openAnswer
  | some window =>
    if ¬reference.complete ∨ ¬window.requestMatched then openAnswer
    else if ¬readable window fieldMutation then openAnswer
    else
      let records := selectedFacts reference facts
      if records.length ≠ reference.factIds.length then openAnswer
      else if ¬verifiedPrincipals case records (records.filterMap BusinessFact.identity?) then openAnswer
      else if reference.method = .STATE_SNAPSHOT then reduceSnapshot window fieldMutation expectedState
      else reduceCommits reference window case fieldMutation expectedState records

end Reduction

section Scalars

variable {left right other : Json}

theorem sameScalar_iff :
    sameScalar left right = true ↔ isBoolean left = isBoolean right ∧ pythonEqual left right = true := by
  unfold sameScalar
  cases isBoolean left <;> cases isBoolean right <;> simp

@[simp] theorem sameScalar_refl (value : Json) : sameScalar value value = true :=
  sameScalar_iff.mpr ⟨rfl, equal_refl value⟩

example : sameScalar (.int 1) (.bool true) = false ∧ pythonEqual (.int 1) (.bool true) = true := by decide

/-- Scalars that are the same compare alike with every other. -/
theorem sameScalar_congr (same : sameScalar left right = true) : sameScalar left other = sameScalar right other := by
  obtain ⟨boolean, equals⟩ := sameScalar_iff.mp same
  have compared : pythonEqual left other = pythonEqual right other := equal_congr equals other
  simp only [sameScalar, boolean, compared]

theorem mutationHappened_congr {requirement : Option FieldMutationRequirement} {after : Json}
    {beforePresent afterPresent : Bool} {expectedState : Option String} (same : sameScalar left right = true) :
    mutationHappened requirement left after beforePresent afterPresent expectedState =
      mutationHappened requirement right after beforePresent afterPresent expectedState := by
  simp only [mutationHappened, fieldChanged, sameScalar_congr same]

end Scalars

/-- What a chain of commits has come to. -/
structure ChainState where
  value : Json
  present : Bool
  version : Nat
  operation : Option String

section Chains

variable (reference : ObservationFactReference) (window : RecordObservationWindow) (case : ExecutionCase)
  (fieldMutation : Option FieldMutationRequirement) (expectedState : Option String)

/-- The commits continue each other: the next ordinal of the window, the next version, the value that was left, of
the right subject, owner and resource. -/
def CommitChain : List Nat → ChainState → List Commit → Prop
  | _, _, [] => True
  | ordinals, state, commit :: commits => ∃ change, changesAt reference window commit.data = [change] ∧
      commit.complete = true ∧ ordinals.head? = some commit.data.scopeOrdinal ∧
      commit.data.generation = window.generation ∧ commit.data.beforeVersion = state.version ∧
      commit.data.subjectIdentityId = case.subjectTestIdentityId ∧
      commit.data.ownerIdentityId = case.resourceOwnerTestIdentityId ∧ commit.data.resourceId = case.resourceId ∧
      change.beforePresent = state.present ∧ sameScalar change.before state.value = true ∧
      CommitChain ordinals.tail
        ⟨change.after, change.afterPresent, commit.data.afterVersion, some commit.data.operationId⟩ commits

/-- The commit made the change that is looked for. -/
def Happened (commit : Commit) : Prop :=
  ∃ change ∈ changesAt reference window commit.data, mutationHappened fieldMutation change.before change.after
    change.beforePresent change.afterPresent expectedState = true

/-- The state that a commit leaves. -/
def afterCommit (state : ChainState) (commit : Commit) : ChainState :=
  match changesAt reference window commit.data with
  | change :: _ => ⟨change.after, change.afterPresent, commit.data.afterVersion, some commit.data.operationId⟩
  | [] => state

def RecordObservationWindow.start : ChainState :=
  ⟨window.beforeValue, window.beforePresent, window.beforeVersion, window.beforeOperation⟩

/-- The chain ends exactly where the window does. -/
def EndsAt (state : ChainState) : Prop :=
  sameScalar state.value window.afterValue = true ∧ state.present = window.afterPresent ∧
    state.version = window.afterVersion ∧ state.operation = window.afterOperation

variable {reference window case fieldMutation expectedState}

theorem chain_ordinals {ordinals : List Nat} {state : ChainState} {chain : List Commit}
    (chained : CommitChain reference window case ordinals state chain) :
    (chain.map fun commit => commit.data.scopeOrdinal).Sublist ordinals := by
  induction chain generalizing ordinals state with
  | nil => exact List.nil_sublist _
  | cons commit chain ih =>
    obtain ⟨change, -, -, head, -, -, -, -, -, -, -, rest⟩ := chained
    cases ordinals with
    | nil => cases head
    | cons ordinal ordinals =>
      cases head
      exact (ih rest).cons_cons _

theorem RecordObservationWindow.ordinals_increasing : window.ordinals.Pairwise (· < ·) := by
  unfold RecordObservationWindow.ordinals
  split
  · exact window.increasing
  · exact List.pairwise_lt_range

/-- However the facts are listed, their commits are walked in the order of the chain. -/
theorem sorted_chain {state : ChainState} {chain commits : List Commit}
    (chained : CommitChain reference window case window.ordinals state chain) (listed : commits.Perm chain) :
    sortedBy (fun commit => commit.data.scopeOrdinal) commits = chain := by
  have increasing : (chain.map fun commit => commit.data.scopeOrdinal).Pairwise (· < ·) :=
    window.ordinals_increasing.sublist (chain_ordinals chained)
  have distinct : (chain.map fun commit => commit.data.scopeOrdinal).Nodup := increasing.imp fun before => ne_of_lt before
  calc
    _ = sortedBy (fun commit => commit.data.scopeOrdinal) chain := by
      apply sortedBy_congr listed
      intro first inFirst second inSecond same
      exact List.inj_on_of_nodup_map distinct (listed.mem_iff.mp inFirst) (listed.mem_iff.mp inSecond) same
    _ = chain := sortedBy_of_increasing increasing

theorem happened_iff {commit : Commit} {change : CommittedFieldChange} {value : Json} {present : Bool}
    (only : changesAt reference window commit.data = [change]) (presence : change.beforePresent = present)
    (continued : sameScalar change.before value = true) :
    mutationHappened fieldMutation value change.after present change.afterPresent expectedState = true ↔
      Happened reference window fieldMutation expectedState commit := by
  unfold Happened
  rw [only]
  simp only [List.mem_singleton, exists_eq_left]
  rw [presence, mutationHappened_congr continued]

/-- A chain is followed to its end, and remembers every commit that made the change. -/
theorem followCommits_chain {ordinals : List Nat} {state : ChainState} (seen : Bool) {chain : List Commit}
    (chained : CommitChain reference window case ordinals state chain) :
    ∃ walk, followCommits reference window case fieldMutation expectedState ordinals
        ⟨state.value, state.present, state.version, seen⟩ chain = some walk ∧
      (walk.happened = true ↔ seen = true ∨ ∃ commit ∈ chain, Happened reference window fieldMutation expectedState commit) ∧
      walk.value = (chain.foldl (afterCommit reference window) state).value ∧
      walk.present = (chain.foldl (afterCommit reference window) state).present ∧
      walk.version = (chain.foldl (afterCommit reference window) state).version := by
  induction chain generalizing ordinals state seen with
  | nil => exact ⟨_, rfl, by simp, rfl, rfl, rfl⟩
  | cons commit chain ih =>
    obtain ⟨change, only, complete, head, generation, version, subject, owner, resource, presence, continued, rest⟩ :=
      chained
    have accepted : acceptCommit reference window case ordinals.head? ⟨state.value, state.present, state.version, seen⟩
        commit = some change := by
      unfold acceptCommit
      rw [only]
      exact if_pos ⟨complete, head, generation, version, by rw [subject, owner, resource], presence, continued⟩
    have left : afterCommit reference window state commit =
        ⟨change.after, change.afterPresent, commit.data.afterVersion, some commit.data.operationId⟩ := by
      unfold afterCommit
      rw [only]
    obtain ⟨walk, followed, happened, value, present, reached⟩ := ih
      (seen || mutationHappened fieldMutation state.value change.after state.present change.afterPresent expectedState)
      rest
    refine ⟨walk, ?_, ?_, ?_, ?_, ?_⟩
    · simp only [followCommits, accepted, Option.bind_eq_bind, Option.bind_some]
      exact followed
    · rw [happened, Bool.or_eq_true, happened_iff only presence continued]
      simp only [List.mem_cons, exists_eq_or_imp, or_assoc]
    · rw [List.foldl_cons, left]
      exact value
    · rw [List.foldl_cons, left]
      exact present
    · rw [List.foldl_cons, left]
      exact reached

/-- The last operation of a chain, or the one before it. -/
theorem chain_operation {ordinals : List Nat} {state : ChainState} {chain : List Commit}
    (chained : CommitChain reference window case ordinals state chain) :
    lastOperation state.operation chain = (chain.foldl (afterCommit reference window) state).operation := by
  induction chain generalizing ordinals state with
  | nil => rfl
  | cons commit chain ih =>
    obtain ⟨change, only, -, -, -, -, -, -, -, -, -, rest⟩ := chained
    have left : afterCommit reference window state commit =
        ⟨change.after, change.afterPresent, commit.data.afterVersion, some commit.data.operationId⟩ := by
      unfold afterCommit
      rw [only]
    rw [List.foldl_cons, left, ← ih rest]
    unfold lastOperation
    rw [List.getLast?_cons]
    cases chain.getLast? with
    | none => rfl
    | some last => rfl

/-- The commits of a reference with their chain, read by verified principals in a matched request window. -/
structure Chained (reference : ObservationFactReference) (window : RecordObservationWindow) (case : ExecutionCase)
    (facts : List BusinessFact) (chain : List Commit) : Prop where
  method : reference.method = .ATOMIC_STATE
  windowed : reference.recordWindow = some window
  complete : reference.complete = true
  matched : window.requestMatched = true
  listed : (selectedFacts reference facts).length = reference.factIds.length
  principals : verifiedPrincipals case (selectedFacts reference facts)
    ((selectedFacts reference facts).filterMap BusinessFact.identity?) = true
  commits : ((selectedFacts reference facts).filterMap BusinessFact.commit?).Perm chain
  chained : CommitChain reference window case window.ordinals window.start chain

section Reduced

variable {reference : ObservationFactReference} {window : RecordObservationWindow} {case : ExecutionCase}
  {facts : List BusinessFact} {chain : List Commit} {fieldMutation : Option FieldMutationRequirement}
  {expectedState : Option String}

theorem reduce_unreadable (chained : Chained reference window case facts chain)
    (unreadable : readable window fieldMutation = false) :
    reduceRecordFacts reference case fieldMutation expectedState facts = openAnswer := by
  unfold reduceRecordFacts
  rw [chained.windowed]
  dsimp only
  rw [if_neg (by simp [chained.complete, chained.matched]), if_pos (by simp [unreadable])]

theorem reduce_readable (chained : Chained reference window case facts chain)
    (read : readable window fieldMutation = true) :
    reduceRecordFacts reference case fieldMutation expectedState facts =
      reduceCommits reference window case fieldMutation expectedState (selectedFacts reference facts) := by
  have atomic : reference.method ≠ .STATE_SNAPSHOT := by
    rw [chained.method]
    decide
  unfold reduceRecordFacts
  rw [chained.windowed]
  dsimp only
  rw [if_neg (by simp [chained.complete, chained.matched]), if_neg (by simp [read]),
    if_neg (not_not.mpr chained.listed), if_neg (by simp [chained.principals]), if_neg atomic]

theorem closeWindow_unconfirmed (commits : List Commit) (walk : Walk) : (closeWindow window commits walk).1 ≠ .CONFIRMED := by
  unfold closeWindow
  split
  · intro confirmed
    cases confirmed
  · intro confirmed
    cases confirmed

theorem closeWindow_absent {commits : List Commit} {walk : Walk} :
    (closeWindow window commits walk).1 = .ABSENT ↔ window.sourceComplete = true ∧ window.scopeState = .COMPLETE ∧
      commits.length = window.operationCount ∧ walk.present = window.afterPresent ∧
      sameScalar walk.value window.afterValue = true ∧ walk.version = window.afterVersion ∧
      lastOperation window.beforeOperation commits = window.afterOperation := by
  unfold closeWindow
  split
  · rename_i opened
    refine ⟨fun absent => (by cases absent), ?_⟩
    rintro ⟨source, scope, count, presence, ended, reached, last⟩
    simp [source, scope, count, presence, ended, reached, last] at opened
  · rename_i closed
    simp only [not_or, not_not, Bool.not_eq_false] at closed
    exact ⟨fun _ => closed, fun _ => rfl⟩

/-- A forbidden change of the chain is confirmed whatever follows it; an absence uses up the whole window. -/
theorem reduce_chain (chained : Chained reference window case facts chain)
    (read : readable window fieldMutation = true) :
    ((reduceRecordFacts reference case fieldMutation expectedState facts).1 = .CONFIRMED ↔
      ∃ commit ∈ chain, Happened reference window fieldMutation expectedState commit) ∧
    ((reduceRecordFacts reference case fieldMutation expectedState facts).1 = .ABSENT ↔
      (∀ commit ∈ chain, ¬ Happened reference window fieldMutation expectedState commit) ∧
        chain.length = window.operationCount ∧ window.scopeState = .COMPLETE ∧ window.sourceComplete = true ∧
        EndsAt window (chain.foldl (afterCommit reference window) window.start)) := by
  rw [reduce_readable chained read]
  unfold reduceCommits
  rw [sorted_chain chained.chained chained.commits]
  obtain ⟨walk, followed, happened, value, present, version⟩ :=
    @followCommits_chain reference window case fieldMutation expectedState window.ordinals window.start false chain
      chained.chained
  have started : (⟨window.beforeValue, window.beforePresent, window.beforeVersion, false⟩ : Walk) =
      ⟨window.start.value, window.start.present, window.start.version, false⟩ := rfl
  dsimp only
  rw [started, followed]
  dsimp only
  simp only [Bool.false_eq_true, false_or] at happened
  by_cases seen : walk.happened = true
  · rw [if_pos seen]
    have found := happened.mp seen
    refine ⟨⟨fun _ => found, fun _ => rfl⟩, fun absent => (by cases absent), ?_⟩
    rintro ⟨never, -⟩
    obtain ⟨commit, member, made⟩ := found
    exact absurd made (never commit member)
  · rw [if_neg seen]
    have never : ∀ commit ∈ chain, ¬ Happened reference window fieldMutation expectedState commit :=
      fun commit member found => seen (happened.mpr ⟨commit, member, found⟩)
    have ends : lastOperation window.beforeOperation chain =
        (chain.foldl (afterCommit reference window) window.start).operation := chain_operation chained.chained
    refine ⟨⟨fun confirmed => absurd confirmed (closeWindow_unconfirmed chain walk),
      fun found => absurd (happened.mpr found) seen⟩, ?_⟩
    rw [closeWindow_absent, value, present, version, ends]
    constructor
    · rintro ⟨source, scope, count, presence, ended, reached, last⟩
      exact ⟨never, count, scope, source, ended, presence, reached, last⟩
    · rintro ⟨-, count, scope, source, ended, presence, reached, last⟩
      exact ⟨source, scope, count, presence, ended, reached, last⟩

/-- A committed forbidden change is not erased by what follows, where the window can be read at all. -/
theorem committed_change_kept (chained : Chained reference window case facts chain) :
    (readable window fieldMutation = true →
      ((reduceRecordFacts reference case fieldMutation expectedState facts).1 = .CONFIRMED ↔
        ∃ commit ∈ chain, Happened reference window fieldMutation expectedState commit) ∧
      ((reduceRecordFacts reference case fieldMutation expectedState facts).1 = .ABSENT →
        (∀ commit ∈ chain, ¬ Happened reference window fieldMutation expectedState commit) ∧
          chain.length = window.operationCount ∧ window.scopeState = .COMPLETE ∧ window.sourceComplete = true ∧
          EndsAt window (chain.foldl (afterCommit reference window) window.start))) ∧
    (readable window fieldMutation = false →
      (reduceRecordFacts reference case fieldMutation expectedState facts).1 = .UNKNOWN) :=
  ⟨fun read => ⟨(reduce_chain chained read).1, (reduce_chain chained read).2.mp⟩,
    fun unreadable => by rw [reduce_unreadable chained unreadable]; rfl⟩

end Reduced

end Chains

/-- The state that a document has at the end: closed, or no longer there. -/
def finalState (kept : Bool) : Json := if kept then .str "closed" else .null

def stateCommit (ordinal : Nat) (before after : Json) (afterPresent : Bool) : Commit where
  complete := true
  data := {
    generation := "generation"
    operationId := "operation"
    scopeOrdinal := ordinal
    beforeVersion := ordinal
    afterVersion := ordinal + 1
    subjectIdentityId := some "member"
    ownerIdentityId := "owner"
    resourceId := "resource"
    changes := [⟨"proof", ["state"], before, after, true, afterPresent⟩] }

/-- A document is opened, and then closed again or stripped of its state. -/
def revertedChain (kept : Bool) : List Commit :=
  [stateCommit 0 (.str "closed") (.str "open") true, stateCommit 1 (.str "open") (finalState kept) kept]

/-- The facts list the later commit first. -/
def revertedFacts (kept : Bool) : List BusinessFact :=
  [⟨"second", true, .committedState (stateCommit 1 (.str "open") (finalState kept) kept).data⟩,
    ⟨"first", true, .committedState (stateCommit 0 (.str "closed") (.str "open") true).data⟩,
    ⟨"subject", true, .identityCheck ⟨"member", .MATCH, .MATCH⟩⟩,
    ⟨"owner", true, .identityCheck ⟨"owner", .MATCH, .MATCH⟩⟩]

def revertedWindow (kept : Bool) : RecordObservationWindow where
  generation := "generation"
  beforeVersion := 0
  afterVersion := 2
  beforeValue := .str "closed"
  afterValue := finalState kept
  afterPresent := kept
  afterOperation := some "operation"
  scopeState := .COMPLETE
  operationCount := 2
  requestMatched := true
  sourceComplete := true
  fieldPath := ["state"]

def revertedReference (kept : Bool) : ObservationFactReference where
  proofFingerprint := "proof"
  factIds := ["first", "second", "subject", "owner"]
  method := .ATOMIC_STATE
  recordWindow := some (revertedWindow kept)
  complete := true

theorem reverted_chained (kept : Bool) : Chained (revertedReference kept) (revertedWindow kept) (deniedCase "resource" [])
    (revertedFacts kept) (revertedChain kept) where
  method := rfl
  windowed := rfl
  complete := rfl
  matched := rfl
  listed := rfl
  principals := rfl
  commits := List.Perm.swap _ _ _
  chained := by
    refine ⟨⟨"proof", ["state"], .str "closed", .str "open", true, true⟩, rfl, rfl, rfl, rfl, rfl, rfl, rfl, rfl, rfl,
      sameScalar_refl _, ?_⟩
    exact ⟨⟨"proof", ["state"], .str "open", finalState kept, true, kept⟩, rfl, rfl, rfl, rfl, rfl, rfl, rfl, rfl, rfl,
      sameScalar_refl _, trivial⟩

theorem reverted_happened (kept : Bool) : ∃ commit ∈ revertedChain kept,
    Happened (revertedReference kept) (revertedWindow kept) none (some "open") commit :=
  ⟨_, List.mem_cons_self, ⟨"proof", ["state"], .str "closed", .str "open", true, true⟩, List.mem_singleton.mpr rfl,
    by decide⟩

/-- Without a mutation requirement, a window in which the field is gone at the end proves nothing. -/
theorem removedField_unread : ¬ ∀ (reference : ObservationFactReference) (window : RecordObservationWindow)
    (case : ExecutionCase) (facts : List BusinessFact) (chain : List Commit)
    (fieldMutation : Option FieldMutationRequirement) (expectedState : Option String),
    Chained reference window case facts chain →
      ((reduceRecordFacts reference case fieldMutation expectedState facts).1 = .CONFIRMED ↔
        ∃ commit ∈ chain, Happened reference window fieldMutation expectedState commit) := by
  intro always
  have confirmed := (always _ _ _ _ _ none (some "open") (reverted_chained false)).mpr (reverted_happened false)
  rw [reduce_unreadable (reverted_chained false) rfl] at confirmed
  cases confirmed

theorem reverted_confirmed : (reduceRecordFacts (revertedReference true) (deniedCase "resource" []) none (some "open")
    (revertedFacts true)).1 = .CONFIRMED :=
  ((committed_change_kept (reverted_chained true)).1 rfl).1.mpr (reverted_happened true)

end Jiejian.Verification.BusinessFacts
