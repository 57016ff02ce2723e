import Jiejian.Checks.FlowSteps
import Jiejian.Library.Stateful
import Jiejian.Verification.Models
import Jiejian.Web.JsonReaders

namespace Jiejian.Execution.CheckRuntime

open Library Library.Document Library.Outcome Library.Stateful Errors Protocol.Cases Protocol.Scenarios
open Web.Templates Web.Rendering Web.JsonPaths Checks.BatchRequests Checks.FlowSteps Verification.Models

/-- An exception: a stable error with its code, or an exception of the language. -/
inductive Escape where
  | jiejian (code : String)
  | other (raised : Raised)
  deriving DecidableEq, Repr

structure HttpResponse where
  statusCode : Nat
  data : Json
  batchItemAbsent : Bool := false

/-- The steps of the side effect that the journal is told. -/
inductive SideEffect where
  | INTENT_SAVED
  | UNCONFIRMED
  | RECEIVED
  deriving DecidableEq, Repr

/-- What the runtime asks of what is around it: the session, the journal, the callbacks and the adapter
up to the moment the request is handed to the network. -/
inductive Question where
  | session (identityId : Option String)
  | verify (caseId : String)
  | beforeTarget (caseId : String) (actual : Option MatchStatus)
  | beforeOthers (caseId : String) (actual : Option MatchStatus)
  | progress (caseId : String) (reached : SideEffect)
  | extract (slotId : String)
  | prepare (caseId stepId : String)
  | render (caseId stepId : String)
  | observe (caseId : String) (phase : ObservationPhase)
  | restore (caseId : String)
  | budget
  | produced (caseId : String)
  deriving DecidableEq, Repr

/-- The request of a step that may have reached the target: whose steps it belongs to, and which cases it acts for. -/
structure Sending where
  caseId : String
  members : List String
  steps : List FlowStep
  step : FlowStep
  values : SlotValues

/-- What a run does that can be seen from outside, in its order. -/
inductive Event where
  | asked (question : Question)
  | started (caseId : String)
  | sent (sending : Sending)
  | failed (caseId : String)
  | attempted (caseId : String) (answer : Bool)

structure FlowResult where
  execution : ExecutionOutcome
  response : HttpResponse
  identity : Option MatchStatus

/-- The dictionary that the members of one batch share. -/
structure Group where
  invocation : ScenarioInvocation
  batch : BatchInvocation
  cases : List ExecutionCase
  result : Option FlowResult := none
  error : Option String := none

/-- A web runtime and the state of the executor that owns it. -/
structure Session where
  executed : List String := []
  actualIdentities : List (String × MatchStatus) := []
  requestReceipts : List ((String × String) × (String × String)) := []
  targetReceipts : List (String × Option (String × String)) := []
  targetResponses : List (String × HttpResponse) := []
  batchGroups : List (String × Nat) := []
  groups : List Group := []
  stopped : Option String := none
  byCase : List (String × (String × ExecutionCase)) := []
  log : List Event := []

/-- Everything that is not under the control of the runtime; each answer may depend on all that happened. -/
structure World where
  passes : List Event → Question → Except Escape Unit
  verify : List Event → String → Except Escape MatchStatus
  secret : String → Option String
  extract : List Event → HttpResponse → ValueSlot → Except Escape Json
  receipt : List Event → String × String
  answer : List Event → Sending → Except Escape (ExecutionOutcome × HttpResponse)
  observe : List Event → String → ObservationPhase → Except Escape Bool
  produced : List Event → String → Option ScenarioResourceBinding
  stops : List Event → Option String

abbrev Flow (β : Type) : Type := StatefulRun Session Escape β

def record (event : Event) : Flow Unit := change fun session => { session with log := session.log ++ [event] }

def lift {β : Type} (computation : Except Raised β) : Flow β := Stateful.ask fun _ => computation.mapError .other

/-- `target_attempted`. -/
def targetAttempted (caseId : String) : Flow Bool := do
  let session ← inspect
  record (.attempted caseId (caseId ∈ session.executed))
  return caseId ∈ session.executed

section Steps

variable (world : World)

def query (question : Question) : Flow Unit := do
  record (.asked question)
  Stateful.ask fun session => world.passes session.log question

/-- `_verify_identity`. -/
def verifyIdentity (caseId : String) : Flow MatchStatus := do
  record (.asked (.verify caseId))
  Stateful.ask fun session => world.verify session.log caseId

def extractValue (response : HttpResponse) (slot : ValueSlot) : Flow Json := do
  record (.asked (.extract slot.slotId))
  Stateful.ask fun session => world.extract session.log response slot

def extractionFailed : Escape := .jiejian "VALUE_EXTRACTION_FAILED"

/-- The value of one slot, before its length is looked at. -/
def rawValue (case : ExecutionCase) (responses : List (String × HttpResponse)) (slot : ValueSlot) : Flow Json :=
  match slot.source with
  | .CASE_RESOURCE_ID => return .str case.resourceId
  | .CASE_SUBJECT_ID => return (case.subjectTestIdentityId.map Json.str).getD .null
  | .FIXED_LITERAL => return slot.literal
  | .SECRET_REF => return ((world.secret (slot.secretRef.getD "")).map Json.str).getD .null
  | _ =>
    match Table.lookup Prod.fst responses (slot.producerStepId.getD "") with
    | none => raise extractionFailed
    | some produced => extractValue world produced.2 slot

/-- A value that can be sent: there is one, and a text is not too long. -/
def fitsSlot (slot : ValueSlot) : Json → Bool
  | .null => false
  | .str text => text.length ≤ slot.maxLength
  | _ => true

def slotValue (case : ExecutionCase) (responses : List (String × HttpResponse)) (values : SlotValues)
    (slot : ValueSlot) : Flow SlotValues := do
  let value ← rawValue world case responses slot
  if fitsSlot slot value then return values.set slot.slotId value else raise extractionFailed

/-- `_values`. -/
def slotValues (case : ExecutionCase) (responses : List (String × HttpResponse)) :
    SlotValues → List ValueSlot → Flow SlotValues
  | values, [] => return values
  | values, slot :: slots => do
    let grown ← slotValue world case responses values slot
    slotValues case responses grown slots

/-- The steps of one call, with what belongs to all of them. -/
structure Walk where
  actionId : String
  case : ExecutionCase
  members : List String
  steps : List FlowStep
  verifies : Bool := true

/-- `adapter.execute_detailed`: the values, everything that can fail before the request, and the request. -/
def executeDetailed (walk : Walk) (step : FlowStep) (responses : List (String × HttpResponse)) :
    Flow (ExecutionOutcome × HttpResponse) := do
  let values ← slotValues world walk.case responses (fun _ => none) step.request.inputSlots
  query world (.prepare walk.case.caseId step.stepId)
  change fun session => { session with
    requestReceipts := Table.put Prod.fst session.requestReceipts
      ((walk.case.caseId, walk.actionId), world.receipt session.log) }
  query world (.render walk.case.caseId step.stepId)
  let sending : Sending := ⟨walk.case.caseId, walk.members, walk.steps, step, values⟩
  record (.sent sending)
  Stateful.ask fun session => world.answer session.log sending

def keepReceipt (walk : Walk) : Flow Unit := change fun session => { session with
  targetReceipts := Table.put Prod.fst session.targetReceipts (walk.case.caseId,
    (Table.lookup Prod.fst session.requestReceipts (walk.case.caseId, walk.actionId)).map Prod.snd) }

def dropReceipt (walk : Walk) : Flow Unit := change fun session => { session with
  requestReceipts := session.requestReceipts.filter fun entry => entry.1 ≠ (walk.case.caseId, walk.actionId) }

/-- The mark that keeps a case from being sent again. -/
def markExecuted (caseId : String) : Flow Unit := change fun session => { session with
  executed := if caseId ∈ session.executed then session.executed else session.executed ++ [caseId] }

def noteIdentity (caseId : String) (status : MatchStatus) : Flow Unit := change fun session => { session with
  actualIdentities := Table.put Prod.fst session.actualIdentities (caseId, status) }

def noteResponse (caseId : String) (response : HttpResponse) : Flow Unit := change fun session => { session with
  targetResponses := Table.put Prod.fst session.targetResponses (caseId, response) }

/-- The actual identity, confirmed right before the target where the caller wants it. -/
def confirmIdentity (walk : Walk) : Flow (Option MatchStatus) :=
  if walk.verifies then some <$> verifyIdentity world walk.case.caseId else return none

/-- The TARGET step: the checks before it, the mark, and then the request. -/
def targetStep (walk : Walk) (checks : Option MatchStatus → Flow Unit) (step : FlowStep)
    (responses : List (String × HttpResponse)) : Flow FlowResult := do
  let identity ← confirmIdentity world walk
  noteIdentity walk.case.caseId (identity.getD .UNKNOWN)
  checks identity
  query world (.progress walk.case.caseId .INTENT_SAVED)
  markExecuted walk.case.caseId
  dropReceipt walk
  let answered ← always
    (attempt (executeDetailed world walk step responses) fun escape =>
      match escape with
      | .jiejian code => do
        query world (.progress walk.case.caseId .UNCONFIRMED)
        raise (.jiejian code)
      | .other raised => raise (.other raised))
    (keepReceipt walk)
  noteResponse walk.case.caseId answered.2
  query world (.progress walk.case.caseId .RECEIVED)
  return ⟨answered.1, answered.2, identity⟩

/-- The loop over the steps. -/
def runSteps (walk : Walk) (checks : Option MatchStatus → Flow Unit) (responses : List (String × HttpResponse)) :
    List FlowStep → Flow FlowResult
  | [] => raise (.jiejian "RUNNER_PROTOCOL_INVALID")
  | step :: rest =>
    match step.purpose with
    | .TARGET => targetStep world walk checks step responses
    | .SETUP => do
      let answered ← executeDetailed world walk step responses
      if answered.1 = .ACCEPTED then runSteps walk checks (Table.put Prod.fst responses (step.stepId, answered.2)) rest
      else raise (.jiejian "SETUP_STEP_FAILED")

/-- `execute_steps`: at most one TARGET for each case. -/
def executeSteps (walk : Walk) (checks : Option MatchStatus → Flow Unit) : Flow FlowResult := do
  let session ← inspect
  if walk.case.caseId ∈ session.executed then raise (.jiejian "STATE_PRECONDITION")
  else do
    record (.started walk.case.caseId)
    query world (.session walk.case.subjectTestIdentityId)
    runSteps world walk checks [] walk.steps

end Steps

section Batches

variable {patterns : Patterns} (world : World)

/-- A row with the resource it names; no field names none. -/
def namedRow (field : Option String) : Json → Option (String × Json)
  | .dict entries =>
    match field.bind (fieldOf entries) with
    | some (.str identifier) => some (identifier, .dict entries)
    | _ => none
  | _ => none

/-- The rows of a batch response, each with the resource it is about. -/
def responseRows (response : HttpResponse) (path : String) (field : Option String) :
    Except Raised (Option (List (String × Json))) := do
  let found ← readJsonPath response.data path
  match found with
  | some (.list rows) =>
    let named := rows.filterMap (namedRow field)
    return if rows.length ≤ 32 ∧ named.length = rows.length ∧ (named.map Prod.fst).Nodup then some named else none
  | _ => return none

/-- `_item_response`. -/
def itemResponse (response : HttpResponse) (batch : BatchInvocation) (case : ExecutionCase) : Except Raised HttpResponse :=
  match batch.responseItemsPath with
  | none => .ok response
  | some path =>
    if response.statusCode ∈ [401, 403] then .ok response
    else do
      let rows ← responseRows response path batch.responseResourceField
      match rows with
      | none => return { response with data := .dict [] }
      | some rows =>
        match Table.lookup Prod.fst rows case.resourceId with
        | none => return { response with data := .dict [], batchItemAbsent := true }
        | some row => return { response with data := row.2 }

def updateGroup (index : Nat) (update : Group → Group) : Flow Unit := change fun session => { session with
  groups := session.groups.modify index update }

/-- The callbacks of the two sides of a batch: the case that leads it, and the others. -/
def batchChecks (caseId : String) (actual : Option MatchStatus) : Flow Unit := do
  query world (.beforeTarget caseId actual)
  query world (.beforeOthers caseId actual)

/-- Every member counts as executed once the leading case does. -/
def markMember (leader : String) (session : Session) (member : ExecutionCase) : Session := { session with
  executed := if member.caseId ∈ session.executed then session.executed else session.executed ++ [member.caseId]
  actualIdentities := Table.put Prod.fst session.actualIdentities (member.caseId,
    ((Table.lookup Prod.fst session.actualIdentities leader).map Prod.snd).getD .UNKNOWN)
  targetReceipts := Table.put Prod.fst session.targetReceipts (member.caseId,
    (Table.lookup Prod.fst session.targetReceipts leader).bind Prod.snd) }

def markMembers (leader : String) (cases : List ExecutionCase) : Flow Unit := do
  let attempted ← targetAttempted leader
  if attempted then change fun session => cases.foldl (markMember leader) session else return ()

def withRequest (request : HttpRequestTemplate) (step : FlowStep) : FlowStep :=
  if step.purpose = .TARGET then { step with request := request } else step

def memberResponse (response : HttpResponse) (batch : BatchInvocation) (member : ExecutionCase) : Flow Unit := do
  let own ← lift (itemResponse response batch member)
  noteResponse member.caseId own

/-- The first call of a batch, which sends it. -/
def sendBatch (action : FlowAction patterns) (case : ExecutionCase) (index : Nat) (group : Group)
    (verifies : Bool) : Flow FlowResult := do
  let request ← lift (batchRequest (some action.configured) group.invocation group.cases)
  let walk : Walk := ⟨action.actionId, case, group.cases.map (·.caseId), action.steps.map (withRequest request), verifies⟩
  let result ← always
    (attempt
      (do
        let result ← executeSteps world walk (batchChecks world case.caseId)
        updateGroup index fun shared => { shared with result := some result }
        return result)
      fun escape =>
        match escape with
        | .jiejian code => do
          updateGroup index fun shared => { shared with error := some code }
          raise (.jiejian code)
        | .other raised => raise (.other raised))
    (markMembers case.caseId group.cases)
  group.cases.forM (memberResponse result.response group.batch)
  return result

/-- `execute_batch`. -/
def executeBatch (action : FlowAction patterns) (case : ExecutionCase) (index : Nat) (verifies : Bool) : Flow FlowResult := do
  let session ← inspect
  let group ← lift (orRaise session.groups[index]? .KeyError)
  match group.error with
  | some code => raise (.jiejian code)
  | none => do
    let result ← (match group.result with
      | some result => return result
      | none => sendBatch world action case index group verifies)
    let after ← inspect
    let own ← lift (orRaise (Table.lookup Prod.fst after.targetResponses case.caseId) .KeyError)
    return { result with response := own.2 }

/-- `execute_flow`. -/
def executeFlow (action : FlowAction patterns) (case : ExecutionCase) (verifies : Bool) : Flow FlowResult := do
  let session ← inspect
  match Table.lookup Prod.fst session.batchGroups case.caseId with
  | some entry => executeBatch world action case entry.2 verifies
  | none =>
    executeSteps world ⟨action.actionId, case, [case.caseId], action.steps, verifies⟩
      fun actual => query world (.beforeTarget case.caseId actual)

end Batches

end Jiejian.Execution.CheckRuntime
