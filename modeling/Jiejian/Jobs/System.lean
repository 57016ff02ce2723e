import Jiejian.Jobs.Completion
import Jiejian.Library.Transition

namespace Jiejian.Jobs.System
open Jiejian.Errors Jiejian.Library
open Jiejian.Jobs.Records Jiejian.Jobs.Models Jiejian.Jobs.Control Jiejian.Jobs.Targets Jiejian.Jobs.Queue
open Jiejian.Jobs.Attempts Jiejian.Jobs.Completion

variable {ρ ν : Type}

/-- One transaction of a client, a worker, the recovery controller or a publisher. -/
inductive Action (ρ : Type) where
  | submit (knownSecrets : List String) (request : SubmitJob) (hooks : SubmissionHooks ρ) (generated : GeneratedIds)
  | enqueueTarget (knownSecrets : List String) (submission : TargetSubmission) (store : Db ρ → Except JiejianError ρ)
  | claim (knownSecrets : List String) (request : ClaimJob)
  | renewLease (knownSecrets : List String) (request : RenewLease)
  | requestCancellation (knownSecrets : List String) (request : RequestCancellation)
  | completeCancellation (knownSecrets : List String) (request : CompleteCancellation)
  | recordRetryableFailure (knownSecrets : List String) (jitterSource : Nat → Option Int) (request : RetryableFailure)
  | recordFatalFailure (knownSecrets : List String) (request : FatalFailure)
  | recordWaitingFatalFailure (knownSecrets : List String) (request : WaitingFatalFailure)
  | confirmRecovery (knownSecrets : List String) (jitterSource : Nat → Option Int) (request : ConfirmRecovery)
  | completePublication (knownSecrets : List String) (result : PublishedResult) (record : Db ρ → Except JiejianError ρ)
  | publishTarget (knownSecrets : List String) (completion : TargetCompletion) (record : Db ρ → Except JiejianError ρ)
      (metadata : EventMetadata)

/-- The database a transaction commits, or the error that rolls it back. -/
def perform (service : Service ρ ν) (db : Db ρ) : Action ρ → Except JiejianError (Db ρ)
  | .submit knownSecrets request hooks generated => (submit service knownSecrets db request hooks generated).map Prod.snd
  | .enqueueTarget knownSecrets submission store => (enqueueTarget service knownSecrets db submission store).map Prod.snd
  | .claim knownSecrets request => (claimInWork service knownSecrets db request).map Prod.snd
  | .renewLease knownSecrets request => (Attempts.renewLease service knownSecrets db request).map Prod.snd
  | .requestCancellation knownSecrets request => (requestCancellation service knownSecrets db request).map Prod.snd
  | .completeCancellation knownSecrets request => (completeCancellation service knownSecrets db request).map Prod.snd
  | .recordRetryableFailure knownSecrets jitterSource request =>
    (recordRetryableFailure service knownSecrets jitterSource db request).map Prod.snd
  | .recordFatalFailure knownSecrets request => (recordFatalFailure service knownSecrets db request).map Prod.snd
  | .recordWaitingFatalFailure knownSecrets request =>
    (recordWaitingFatalFailure service knownSecrets db request).map Prod.snd
  | .confirmRecovery knownSecrets jitterSource request =>
    (Attempts.confirmRecovery service knownSecrets jitterSource db request).map Prod.snd
  | .completePublication knownSecrets result record =>
    (completePublication service knownSecrets db result record).map Prod.snd
  | .publishTarget knownSecrets completion record metadata =>
    (publishTarget service knownSecrets db completion record metadata).map Prod.snd

/-- A refused transaction leaves the database as it was. -/
def step (service : Service ρ ν) (db : Db ρ) (action : Action ρ) : Db ρ :=
  match perform service db action with
  | .ok db' => db'
  | .error _ => db

theorem step_ok {service : Service ρ ν} {db db' : Db ρ} {action : Action ρ}
    (performed : perform service db action = .ok db') : step service db action = db' := by
  simp only [step, performed]

theorem step_error {service : Service ρ ν} {db : Db ρ} {action : Action ρ} {error : JiejianError}
    (refused : perform service db action = .error error) : step service db action = db := by
  simp only [step, refused]

/-- Runs of transactions in any order, by any parties, with any clock readings. -/
abbrev run (service : Service ρ ν) (db : Db ρ) (actions : List (Action ρ)) : Db ρ :=
  Transition.run (step service) db actions

theorem run_snoc (service : Service ρ ν) (db : Db ρ) (actions : List (Action ρ)) (action : Action ρ) :
    run service db (actions ++ [action]) = step service (run service db actions) action :=
  Transition.run_snoc _ _ _ _

theorem run_append (service : Service ρ ν) (db : Db ρ) (first second : List (Action ρ)) :
    run service db (first ++ second) = run service (run service db first) second :=
  Transition.run_append _ _ _ _

/-- A database before the first job. -/
def emptyDb (projects : List String) (other : ρ) : Db ρ :=
  { projects, jobs := [], events := [], targets := { runs := [], other } }

/-- The job, owner and token a mutation names. -/
def Action.fence : Action ρ → Option (String × String × Nat)
  | .renewLease _ request => some (request.jobId, request.leaseOwner, request.fencingToken)
  | .completeCancellation _ request => some (request.jobId, request.leaseOwner, request.fencingToken)
  | .recordRetryableFailure _ _ request => some (request.jobId, request.leaseOwner, request.fencingToken)
  | .recordFatalFailure _ request => some (request.jobId, request.leaseOwner, request.fencingToken)
  | .confirmRecovery _ _ request => some (request.jobId, request.leaseOwner, request.fencingToken)
  | .completePublication _ result _ => some (result.jobId, result.leaseOwner, result.fencingToken)
  | .publishTarget _ completion _ _ => some (completion.jobId, completion.leaseOwner, completion.fencingToken)
  | _ => none

/-- The result a publication tries to commit. -/
def Action.publication : Action ρ → Option PublishedResult
  | .completePublication _ result _ => some result
  | _ => none

end Jiejian.Jobs.System
