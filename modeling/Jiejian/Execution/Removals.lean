import Jiejian.Execution.CreationCheck
import Jiejian.Library.Logged
import Jiejian.Verification.Models

namespace Jiejian.Execution.Removals

open Library Library.Outcome Library.Document Library.Logged
open Records.Values Records.Models Records.Collections CreationCheck Verification.Models

/-- What `observe_creation` remembers of one proof of a case. -/
structure CreationWindow extends CreationEntry where
  closed : Bool
  deriving DecidableEq, Repr

/-- One call of `observe_creation`: the receipt of the target request, and the view that the source gave. -/
structure Observed where
  phase : ObservationPhase
  request : Option (String × String)
  reading : Except SourceReadError CreationView

section Windows

variable (before view : CreationView) (request : Option (String × String)) (ownerId : String)

def resourceIds (members : List CreationMember) : List String := members.map (·.resourceId)

/-- `fresh`: the creations since the baseline of objects that were not in it. -/
def freshEvents : List CreationEvent :=
  view.events.filter fun event => event.kind = .CREATE ∧ before.watermark < event.sequence ∧
    event.member.resourceId ∉ resourceIds before.members

/-- `owned`: of these, the ones of the owner of the case. -/
def ownedEvents : List CreationEvent :=
  (freshEvents before view).filter fun event => event.member.ownerId = ownerId

def sameCollection : Bool :=
  view.generation = before.generation ∧ view.collection = before.collection ∧ before.watermark ≤ view.watermark

/-- `matched`, after the request: the view is about the scope of that request. -/
def requestMatched : Bool :=
  match request, view.scope with
  | some receipt, some scope => (scope.requestNonce, scope.requestDigest) = receipt
  | _, _ => false

/-- `unchanged`: the members of the baseline are as they were, and nothing else is new. -/
def membersUnchanged : Bool :=
  (∀ member ∈ before.members, Table.latest CreationMember.resourceId view.members member.resourceId = some member) ∧
    ∀ resourceId ∈ resourceIds view.members, resourceId ∈ resourceIds before.members ∨
      resourceId ∈ (freshEvents before view).map (·.member.resourceId)

/-- The window is closed: the changes since the baseline are exactly those of the finished request, and it
created nothing for others. -/
def windowClosed : Bool :=
  sameCollection before view && requestMatched view request && !view.foreignMutations &&
    membersUnchanged before view && decide (view.watermark - before.watermark = view.events.length) &&
    decide (view.scope.map (·.state) = some .COMPLETE) &&
    decide ((freshEvents before view).length = (ownedEvents before view ownerId).length)

end Windows

/-- What an observation leaves of the window of its proof; a view that cannot be read leaves it as it is. -/
def observeCreation (ownerId : String) (window : Option CreationWindow) (observed : Observed) : Option CreationWindow :=
  match observed.reading, observed.phase with
  | .error _, _ => window
  | .ok view, .BASELINE | .ok view, .BEFORE =>
    some { before := view, last := view, created := [], closed := false }
  | .ok view, .AFTER | .ok view, .EVENTUAL =>
    window.map fun window => { window with
      last := view
      created := ownedEvents window.before view ownerId
      closed := windowClosed window.before view observed.request ownerId }
  | .ok _, .RECOVERY => window

/-- What the recovery of one request does to the outside, in order. -/
inductive Action where
  | read (view : CreationView)
  | remove (resourceId : String)
  deriving DecidableEq, Repr

/-- Whatever the others do: every answer may depend on all that was read and removed before. -/
structure Surroundings where
  reading : List Action → Except SourceReadError CreationView
  identityMatches : List Action → Except RecoveryError Bool
  answer : String → List Action → Except RecoveryError Unit

section Recovery

variable (around : Surroundings) (digests : Digests)

/-- `read_record_source`. -/
def readCollection : LoggedRun Action RecoveryError CreationView := do
  let view ← ask fun log => (around.reading log).mapError .source
  record (.read view)
  return view

/-- The removal is sent, whatever comes of it. -/
def sendRemoval (resourceId : String) : LoggedRun Action RecoveryError Unit := do
  record (.remove resourceId)
  ask (around.answer resourceId)

/-- One turn of the loop over the created objects. -/
def removeOne (created : List CreationEvent) (known : List String) (expected : CreationView) (event : CreationEvent) :
    LoggedRun Action RecoveryError CreationView := do
  let current ← readCollection around
  requireUnchanged digests created known expected current
  match Table.lookup CreationMember.resourceId current.members event.member.resourceId with
  | none => return expected
  | some member =>
    require (member.incarnation = event.member.incarnation) RecoveryError.CREATED_INSTANCE_CHANGED
    let confirmed ← ask around.identityMatches
    require (confirmed = true) RecoveryError.CREATION_RECOVERY_IDENTITY_MISMATCH
    sendRemoval around member.resourceId
    let restored ← readCollection around
    let remaining := expected.members.filter fun item => item.resourceId ≠ member.resourceId
    require (restored.generation = expected.generation ∧ restored.members = remaining)
      RecoveryError.CREATED_COLLECTION_NOT_RESTORED
    return restored

/-- `recover_created`, while others may change the collection at any time. -/
def recoverAmong (entries : List CreationEntry) (restored : Restored) : LoggedRun Action RecoveryError Unit := do
  let entry ← orRaise entries.head? RecoveryError.indexError
  require (∀ other ∈ entries, other.before = entry.before ∧ other.last = entry.last ∧ other.created = entry.created)
    RecoveryError.CREATION_SOURCES_DISAGREE
  let members ← (entry.last.members.mapM (reconcile digests entry.last restored) : Except _ _)
  let _ ← entry.created.foldlM (removeOne around digests entry.created (reconciled entry.last restored))
    { entry.last with members }
  return

end Recovery

/-- What ends the recovery of a case: a raise of `recover_created`, or of its caller. -/
inductive CallerError where
  | recovery (error : RecoveryError)
  | windowOpen
  | keyError
  deriving DecidableEq, Repr

/-- What became of the recovery of one request, and what it did to the outside. -/
structure Undoing where
  result : Except CallerError Unit
  sent : List Action

section Callers

variable (digests : Digests)

def recoverFrom (around : Surroundings) (entries : List CreationEntry) (restored : Restored) : Undoing :=
  let (result, sent) := runFrom (recoverAmong around digests entries restored) []
  { result := result.mapError .recovery
    sent := sent }

/-- The windows of the proofs of a case; `none` for a proof that was never observed. -/
abbrev Windows := List (Option CreationWindow)

def closedWindows (windows : Windows) : Bool :=
  windows.all fun window => window.any (·.closed)

/-- `execute_creation_case`: a single case recovers only behind closed windows. -/
def recoverCase (around : Surroundings) (windows : Windows) : Undoing :=
  if closedWindows windows then
    recoverFrom digests around ((windows.filterMap id).map (·.toCreationEntry)) []
  else
    { result := .error .windowOpen
      sent := [] }

/-- What the recovery of a scenario knows of one of its cases. -/
structure ScenarioNode where
  group : String × String × String × String
  stateChanging : Bool
  attempted : Bool
  request : String × String
  createsResource : Bool
  windows : Windows
  resourceFrom : Bool
  resourceId : String

/-- What answers the recovery of a scenario beside the collection: the journal, the recovery requests of the
cases that create nothing, and the observation that a case was restored. -/
structure ScenarioSurroundings extends Surroundings where
  recordIntent : ScenarioNode → List Action → Except RecoveryError Unit
  recoverRequest : ScenarioNode → List Action → Except RecoveryError Unit
  restoredView : ScenarioNode → List Action → Except RecoveryError (Option RecordSnapshot)

/-- What was done in the scenario before is part of what the others have seen. -/
def Surroundings.following (around : Surroundings) (done : List Action) : Surroundings where
  reading := fun log => around.reading (done ++ log)
  identityMatches := fun log => around.identityMatches (done ++ log)
  answer := fun resourceId log => around.answer resourceId (done ++ log)

/-- The recovery of one case of a scenario. -/
def recoverNode (around : ScenarioSurroundings) (node : ScenarioNode) (restored : Restored) (done : List Action) :
    Undoing :=
  match around.recordIntent node done with
  | .error error => { result := .error (.recovery error), sent := [] }
  | .ok () =>
    if node.createsResource then
      match node.windows.mapM (fun window => orRaise window CallerError.keyError) with
      | .error error => { result := .error error, sent := [] }
      | .ok windows =>
        recoverFrom digests (around.toSurroundings.following done) (windows.map (·.toCreationEntry)) restored
    else { result := (around.recoverRequest node done).mapError .recovery, sent := [] }

/-- Whether the case is observed at the end of its recovery. -/
def checksRecovery (node : ScenarioNode) : Bool := node.resourceFrom || node.createsResource

/-- The recovery with its last observation; a restored record of a derived case is kept for the cases before it. -/
def finishNode (around : ScenarioSurroundings) (node : ScenarioNode) (restored : Restored) (done : List Action) :
    Undoing × Restored :=
  let undoing := recoverNode digests around node restored done
  match undoing.result with
  | .error _ => (undoing, restored)
  | .ok () =>
    if checksRecovery node then
      match around.restoredView node (done ++ undoing.sent) with
      | .error error => ({ undoing with result := .error (.recovery error) }, restored)
      | .ok none => (undoing, restored)
      | .ok (some snapshot) =>
        (undoing, if node.resourceFrom then Table.put Prod.fst restored (node.resourceId, snapshot) else restored)
    else (undoing, restored)

/-- `execute_business_scenario`: the cases in reverse order, one recovery a group, until the first that fails. -/
def recoverNodes (around : ScenarioSurroundings) : List ScenarioNode → List (String × String × String × String) →
    Restored → List Action → List (ScenarioNode × Restored × Undoing)
  | [], _, _, _ => []
  | node :: rest, recovered, restored, done =>
    if node.stateChanging = false ∨ node.attempted = false ∨ node.group ∈ recovered then
      recoverNodes around rest recovered restored done
    else
      let (undoing, restored') := finishNode digests around node restored done
      match undoing.result with
      | .error _ => [(node, restored, undoing)]
      | .ok () =>
        (node, restored, undoing) ::
          recoverNodes around rest (node.group :: recovered) restored' (done ++ undoing.sent)

end Callers

section Log

def removals (log : List Action) : List String :=
  log.filterMap fun
    | .read _ => none
    | .remove resourceId => some resourceId

def lastRead (log : List Action) : Option CreationView :=
  (log.filterMap fun
    | .read view => some view
    | .remove _ => none).getLast?

variable {log : List Action} {view : CreationView} {resourceId : String}

@[simp] theorem removals_nil : removals [] = [] := rfl

@[simp] theorem removals_read : removals (log ++ [.read view]) = removals log := by
  simp [removals]

@[simp] theorem removals_remove : removals (log ++ [.remove resourceId]) = removals log ++ [resourceId] := by
  simp [removals]

@[simp] theorem lastRead_read : lastRead (log ++ [.read view]) = some view := by
  simp [lastRead]

@[simp] theorem lastRead_remove : lastRead (log ++ [.remove resourceId]) = lastRead log := by
  simp [lastRead]

/-- Every removal is of an object that an event created, in the view read just before. -/
def Justified (created : List CreationEvent) (log : List Action) : Prop :=
  ∀ before resourceId after, log = before ++ .remove resourceId :: after →
    ∃ view, lastRead before = some view ∧ ∃ event ∈ created, event.member.resourceId = resourceId ∧
      ∃ member ∈ view.members, member.resourceId = resourceId ∧ member.incarnation = event.member.incarnation

variable {created : List CreationEvent}

theorem justified_nil : Justified created [] := by
  intro before resourceId after same
  simp at same

theorem snoc_split {before after : List Action} {last : Action}
    (same : log ++ [last] = before ++ .remove resourceId :: after) :
    (after = [] ∧ last = .remove resourceId ∧ before = log) ∨
      ∃ rest, after = rest ++ [last] ∧ log = before ++ .remove resourceId :: rest := by
  rcases List.eq_nil_or_concat after with rfl | ⟨rest, final, rfl⟩
  · have parts := List.append_inj' same rfl
    exact .inl ⟨rfl, (List.cons.inj parts.2).1, parts.1.symm⟩
  · right
    rw [List.concat_eq_append, ← List.cons_append, ← List.append_assoc] at same
    obtain ⟨front, back⟩ := List.append_inj' same rfl
    exact ⟨rest, by rw [List.concat_eq_append, (List.cons.inj back).1], front⟩

theorem Justified.read (justified : Justified created log) : Justified created (log ++ [.read view]) := by
  intro before resourceId after same
  rcases snoc_split same with ⟨-, other, -⟩ | ⟨rest, -, earlier⟩
  · cases other
  · exact justified before resourceId rest earlier

theorem Justified.remove (justified : Justified created log) (shown : lastRead log = some view) {event : CreationEvent}
    (listed : event ∈ created) {member : CreationMember} (present : member ∈ view.members)
    (named : member.resourceId = event.member.resourceId)
    (instance' : member.incarnation = event.member.incarnation) :
    Justified created (log ++ [.remove member.resourceId]) := by
  intro before resourceId after same
  rcases snoc_split same with ⟨-, removed, front⟩ | ⟨rest, -, earlier⟩
  · cases removed
    rw [front]
    exact ⟨view, shown, event, listed, named.symm, member, present, rfl, instance'⟩
  · exact justified before resourceId rest earlier

end Log

end Jiejian.Execution.Removals
