import Jiejian.Library.Document

namespace Jiejian.Observers.Envelopes

open Library.Document

inductive ObserverType where
  | OWNER_API
  | READ_ONLY_SQLITE
  | STRUCTURED_AUDIT_LOG
  | ASYNC_TASK_STATUS
  | AZURE_QUEUE_PEEK
  | AZURE_BLOB_OBJECT
  deriving DecidableEq, Repr

inductive ObservationPhase where
  | INITIAL
  | BASELINE
  | BEFORE
  | AFTER
  | EVENTUAL
  deriving DecidableEq, Repr

inductive ObservationCompleteness where
  | COMPLETE
  | PARTIAL
  | MISSING
  | TIMED_OUT
  | UNSUPPORTED
  | ERROR
  deriving DecidableEq, Repr

inductive CausalityStatus where
  | CORRELATED
  | UNVERIFIED
  deriving DecidableEq, Repr

structure Correlation where
  caseId : String
  resourceId : String
  requestMarker : String
  deriving DecidableEq, Repr

/-- The phases that `validate_spec` lets an observer of a type declare. -/
def PhasesAllowed (observerType : ObserverType) (phases : List ObservationPhase) : Prop :=
  match observerType with
  | .STRUCTURED_AUDIT_LOG | .AZURE_BLOB_OBJECT => ∀ phase ∈ phases, phase ∈ [.BEFORE, .AFTER, .EVENTUAL]
  | .ASYNC_TASK_STATUS | .AZURE_QUEUE_PEEK => phases = [.EVENTUAL]
  | .OWNER_API | .READ_ONLY_SQLITE => True

/-- What a projection reads of a frozen observer. -/
structure ObserverSpec where
  observerId : String
  observerType : ObserverType
  phases : List ObservationPhase
  some' : phases ≠ []
  distinct : phases.Nodup
  allowed : PhasesAllowed observerType phases

/-- What an observation of each completeness must carry. -/
def Supported (completeness : ObservationCompleteness) (causality : CausalityStatus)
    (state : Option (List (String × Json))) (reasonCodes : List String) : Prop :=
  match completeness with
  | .COMPLETE => state.isSome ∧ causality = .CORRELATED ∧ reasonCodes = []
  | .PARTIAL => reasonCodes ≠ []
  | _ => state = none ∧ reasonCodes ≠ []

/-- A published observation; its state is the canonical data of a normalized state. -/
structure ObservationEnvelope where
  observerId : String
  observerType : ObserverType
  phase : ObservationPhase
  correlation : Correlation
  causality : CausalityStatus
  completeness : ObservationCompleteness
  state : Option (List (String × Json)) := none
  reasonCodes : List String := []
  supported : Supported completeness causality state reasonCodes

theorem ObservationEnvelope.state_of_complete {envelope : ObservationEnvelope}
    (complete : envelope.completeness = .COMPLETE) : ∃ data, envelope.state = some data := by
  have supported := envelope.supported
  rw [complete] at supported
  exact Option.isSome_iff_exists.mp supported.1

theorem ObservationEnvelope.correlated_of_complete {envelope : ObservationEnvelope}
    (complete : envelope.completeness = .COMPLETE) : envelope.causality = .CORRELATED := by
  have supported := envelope.supported
  rw [complete] at supported
  exact supported.2.1

end Jiejian.Observers.Envelopes
