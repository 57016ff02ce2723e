import Jiejian.Execution.CheckRuntime
import Jiejian.Protocol.Requests

namespace Jiejian.Execution.Executors

open Library Library.Outcome Library.Sorting Library.Stateful Errors Protocol.Codec Protocol.Cases Protocol.Actions
open Protocol.Scenarios Protocol.Requests Web.Templates Checks.FlowSteps Verification.Models CheckRuntime

variable {patterns : Patterns}

/-- What an executor is made with: the actions of the bundle and the request. -/
structure Setup (patterns : Patterns) where
  actions : List (FlowAction patterns)
  request : ExecutionRequest

/-- `_stop`: only the first reason is kept. -/
def stop (code : String) : Flow Unit := change fun session => { session with stopped := session.stopped.or (some code) }

/-- A condition of the permission is not met: the case ends, the run goes on. -/
def conditionCode (code : String) : Bool := "PERMISSION_CONDITION_".toList.isPrefixOf code.toList

/-- `_stop` after a stable error of a case. -/
def stopUnlessCondition (code : String) : Flow Unit := if conditionCode code then return () else stop code

/-- A stable error is handled, any other is not. -/
def onStable (handler : String → Flow Unit) : Escape → Flow Unit
  | .jiejian code => handler code
  | .other raised => raise (.other raised)

section Cases

variable (world : World) (setup : Setup patterns)

/-- The observations of one phase, with what they say about the baseline. -/
def observe (caseId : String) (phase : ObservationPhase) : Flow Bool := do
  record (.asked (.observe caseId phase))
  Stateful.ask fun session => world.observe session.log caseId phase

/-- `execute_flow`, with a mark in the log where it raises. -/
def callFlow (action : FlowAction patterns) (case : ExecutionCase) : Flow FlowResult :=
  attempt (executeFlow world action case true) fun escape => do
    record (.failed case.caseId)
    raise escape

/-- The request that restores the resource, and what is read after it. -/
def recoverCase (case : ExecutionCase) : Flow Bool := do
  query world (.restore case.caseId)
  observe world case.caseId .RECOVERY

/-- The answer is no where the body raises what the caller catches. -/
def orFalse (caught : Escape → Bool) (body : Flow Bool) : Flow Bool :=
  attempt body fun escape => if caught escape then return false else raise escape

/-- `except JiejianError`. -/
def stable : Escape → Bool
  | .jiejian _ => true
  | .other _ => false

/-- `except (JiejianError, ValueError)`. -/
def stableOrValue : Escape → Bool
  | .jiejian _ => true
  | .other (.ValueError _) => true
  | .other _ => false

/-- The recovery of an attempted case; the run stops where it is not confirmed. -/
def undo (case : ExecutionCase) (caught : Escape → Bool) (code : String) : Flow Unit := do
  let recovered ← orFalse caught (recoverCase world case)
  if recovered then return () else stop code

/-- The `finally` part of `_case`. -/
def closeCheck (action : FlowAction patterns) (case : ExecutionCase) (deferred : Bool) : Flow Unit :=
  if action.stateChanging then do
    let attempted ← targetAttempted case.caseId
    if attempted && !deferred then undo world case stable "RECOVERY_UNVERIFIED" else return ()
  else return ()

/-- What is still observed after a stable error, when the TARGET may have been sent. -/
def observeAttempted (case : ExecutionCase) : Flow Unit := do
  let attempted ← targetAttempted case.caseId
  if attempted then (fun _ => ()) <$> observe world case.caseId .AFTER else return ()

/-- The body of `_case`: the baseline, the flow and the observations after it. -/
def checkBody (action : FlowAction patterns) (case : ExecutionCase) : Flow Unit := do
  let baseline ← observe world case.caseId .BASELINE
  if baseline then do
    let _ ← callFlow world action case
    let _ ← observe world case.caseId .AFTER
    let _ ← observe world case.caseId .EVENTUAL
    return ()
  else stop "BASELINE_INTEGRITY_INVALID"

/-- `_case` of an action that does not create its resource. -/
def checkCase (action : FlowAction patterns) (case : ExecutionCase) (deferred : Bool) : Flow Unit :=
  always
    (attempt (checkBody world action case) (onStable fun code => do
      stopUnlessCondition code
      observeAttempted world case))
    (closeCheck world action case deferred)

/-- The `finally` part of `execute_creation_case`. -/
def closeCreation (case : ExecutionCase) (deferred : Bool) : Flow Unit := do
  let attempted ← targetAttempted case.caseId
  if attempted then do
    let _ ← observe world case.caseId .AFTER
    if deferred then return () else undo world case stableOrValue "CREATION_RECOVERY_UNVERIFIED"
  else return ()

/-- `execute_creation_case`; its baseline is taken by the callback before the TARGET. -/
def creationCase (action : FlowAction patterns) (case : ExecutionCase) (deferred : Bool) : Flow Unit :=
  always
    (attempt ((fun _ => ()) <$> callFlow world action case) (onStable stopUnlessCondition))
    (closeCreation world case deferred)

def configuredAction (actionId : String) : Flow (FlowAction patterns) :=
  lift (orRaise (Table.latest (·.actionId) setup.actions actionId) .KeyError)

/-- `_case`: nothing more is started once the run is stopped. -/
def runCase (actionId : String) (case : ExecutionCase) (deferred : Bool) : Flow Unit := do
  let action ← configuredAction setup actionId
  let session ← inspect
  match session.stopped with
  | some _ => return ()
  | none => if action.createdResource.isSome then creationCase world action case deferred else checkCase world action case deferred

/-- Cancellation and the time budget, looked at before every case. -/
def checkBudget : Flow Unit := do
  record (.asked .budget)
  let session ← inspect
  match world.stops session.log with
  | some code => stop code
  | none => return ()

def plainCase (entry : String × ExecutionCase) : Flow Unit := do
  checkBudget world
  runCase world setup entry.1 entry.2 false

end Cases

def actionCases (request : ExecutionRequest) : List (String × ExecutionCase) :=
  request.actions.flatMap fun action => action.cases.map fun case => (action.actionId, case)

/-- Allowed cases first, then by action and by case. -/
def caseOrder (entry : String × ExecutionCase) : Bool ×ₗ String ×ₗ String :=
  toLex (entry.2.permission.expectation = .DENY, toLex (entry.1, entry.2.caseId))

def plainCases (request : ExecutionRequest) : List (String × ExecutionCase) :=
  sortedBy caseOrder ((actionCases request).filter fun entry => entry.2.occurrenceId = none)

section Scenarios

variable (world : World) (setup : Setup patterns) (digest : Digest)

def entryOf (caseId : String) : Flow (String × ExecutionCase) := do
  let session ← inspect
  let entry ← lift (orRaise (Table.lookup Prod.fst session.byCase caseId) .KeyError)
  return entry.2

/-- A stable error while observing stops the run. -/
def observeOrStop (caseId : String) (phase : ObservationPhase) : Flow Unit :=
  attempt ((fun _ => ()) <$> observe world caseId phase) (onStable stop)

/-- The item takes the resource that an earlier invocation has made. -/
def bindProduced (caseId : String) : Flow Unit := do
  record (.asked (.produced caseId))
  let session ← inspect
  match world.produced session.log caseId with
  | none => stop "SCENARIO_RESOURCE_UNCONFIRMED"
  | some binding => do
    let entry ← entryOf caseId
    let bound ← lift (bindResource digest entry.2 binding.resourceId binding.producerCaseId)
    change fun session => { session with byCase := Table.put Prod.fst session.byCase (caseId, (entry.1, bound)) }
    observeOrStop world caseId .BASELINE

def bindItem (pair : String × ScenarioItem) : Flow Unit := do
  let session ← inspect
  if pair.2.resourceFrom.isSome && session.stopped.isNone then bindProduced world digest pair.1 else return ()

/-- The observation of one member before its batch; the first stable error ends them. -/
def observeMembers : List String → Flow Unit
  | [] => return ()
  | caseId :: rest => do
    let _ ← observe world caseId .BASELINE
    observeMembers rest

/-- The cases of one batch, put under one shared entry. -/
def registerGroup (invocation : ScenarioInvocation) (batch : BatchInvocation) (members : List ExecutionCase)
    (session : Session) : Session := { session with
  groups := session.groups ++ [⟨invocation, batch, members, none, none⟩]
  batchGroups := (members.map (·.caseId)).foldl (fun known caseId => Table.put Prod.fst known (caseId, session.groups.length))
    session.batchGroups }

def registerBatch (invocation : ScenarioInvocation) (ids : List String) (members : List ExecutionCase) : Flow Unit := do
  let session ← inspect
  match invocation.batch, session.stopped with
  | some batch, none => do
    attempt (observeMembers world ids) (onStable stop)
    change (registerGroup invocation batch members)
  | _, _ => return ()

/-- What is still read about a case whose shared request was lost while another case was handled. -/
def lookAgain (caseId : String) : Flow Unit := do
  let session ← inspect
  match session.stopped with
  | none => return ()
  | some _ => do
    let attempted ← targetAttempted caseId
    if attempted then attempt ((fun _ => ()) <$> observe world caseId .AFTER) (onStable fun _ => return ()) else return ()

def scenarioCase (caseId : String) : Flow Unit := do
  let entry ← entryOf caseId
  runCase world setup entry.1 entry.2 true
  lookAgain world caseId

def memberOf (caseId : String) : Flow ExecutionCase := (fun entry => entry.2) <$> entryOf caseId

def membersOf : List String → Flow (List ExecutionCase)
  | [] => return []
  | caseId :: rest => do
    let member ← memberOf caseId
    let members ← membersOf rest
    return member :: members

/-- One invocation: its resources, its batch and its cases. -/
def runInvocation (scenario : FrozenBusinessScenario) (experimentId : String) (invocation : ScenarioInvocation) : Flow Unit := do
  let ids ← lift (frozenCaseIds scenario experimentId invocation.id)
  (ids.zip invocation.items).forM (bindItem world digest)
  let members ← membersOf ids
  checkBudget world
  registerBatch world invocation ids members
  ids.forM (scenarioCase world setup)

/-- What is observed of every case before the experiment. -/
def beginCase (pair : String × ScenarioItem) : Flow Unit := do
  let session ← inspect
  let entry ← entryOf pair.1
  let action ← configuredAction setup entry.1
  if session.stopped.isNone && pair.2.resourceFrom.isNone && action.createdResource.isNone then
    observeOrStop world pair.1 .BASELINE
  else return ()

/-- `config.state_changing and owner.web.target_attempted(key)`. -/
def changed (action : FlowAction patterns) (caseId : String) : Flow Bool :=
  if action.stateChanging then targetAttempted caseId else return false

/-- The recovery of one case; where the resource was made in this run, it is read again. -/
def recoverNode (action : FlowAction patterns) (pair : String × ScenarioItem) : Flow Bool := do
  query world (.restore pair.1)
  if pair.2.resourceFrom.isSome || action.createdResource.isSome then observe world pair.1 .RECOVERY else return true

/-- The recovery of the attempted cases, up to the first that fails. -/
def recoverCases : List (String × ScenarioItem) → Flow Unit
  | [] => return ()
  | pair :: rest => do
    let entry ← entryOf pair.1
    let action ← configuredAction setup entry.1
    let attempted ← changed action pair.1
    if attempted then do
      let recovered ← orFalse stableOrValue (recoverNode world action pair)
      if recovered then recoverCases rest else return ()
    else recoverCases rest

/-- The last look at what an attempted case has left. -/
def closeCase (pair : String × ScenarioItem) : Flow Unit := do
  let entry ← entryOf pair.1
  let action ← configuredAction setup entry.1
  let attempted ← changed action pair.1
  if attempted then do
    let restored ← orFalse stable (observe world pair.1 .RECOVERY)
    if restored then return () else stop "SCENARIO_RECOVERY_UNVERIFIED"
  else return ()

/-- The items of an experiment, each with its case. -/
def experimentItems (scenario : FrozenBusinessScenario) (experiment : ScenarioExperiment) :
    Except Raised (List (String × ScenarioItem)) :=
  (experiment.invocations.mapM fun (invocation : ScenarioInvocation) => do
    let ids ← frozenCaseIds scenario experiment.id invocation.id
    return ids.zip invocation.items).map List.flatten

def runExperiment (scenario : FrozenBusinessScenario) (experiment : ScenarioExperiment) : Flow Unit := do
  let items ← lift (experimentItems scenario experiment)
  items.forM (beginCase world setup)
  experiment.invocations.forM (runInvocation world setup digest scenario experiment.id)
  recoverCases world setup items.reverse
  items.forM (closeCase world setup)

/-- Normal experiments first, then by id. -/
def experimentOrder (experiment : ScenarioExperiment) : Bool ×ₗ String :=
  toLex (experiment.kind ≠ .NORMAL, experiment.id)

/-- `execute_business_scenario`. -/
def runScenario (scenario : FrozenBusinessScenario) : Flow Unit :=
  (sortedBy experimentOrder scenario.document.experiments).forM (runExperiment world setup digest scenario)

/-- `execute`: the plain cases and then the scenario. -/
def execute : Flow Unit := do
  (plainCases setup.request).forM (plainCase world setup)
  match setup.request.scenario with
  | none => return ()
  | some scenario => runScenario world setup digest scenario

/-- A new web runtime, under an executor that knows the cases of the request. -/
def opened : Session where
  byCase := (actionCases setup.request).foldl (fun known entry => Table.put Prod.fst known (entry.2.caseId, entry)) []

/-- All that a run of the request leaves behind, whichever way it ends. -/
def finished : Session := (runFrom (execute world setup digest) (opened setup)).2

end Scenarios

end Jiejian.Execution.Executors
