import Jiejian.Traces.Models
import Jiejian.Verification.Continuity

namespace Jiejian.Breakpoints.Models

open Library Library.Outcome Library.Sorting Errors
open Traces.Models Verification.Continuity Verification.Models

inductive BreakpointType where
  | AUTHORIZATION_MISSING
  | AUTHORIZATION_LATE
  | AUTHORIZATION_BYPASS
  | IDENTITY_SUBSTITUTION
  | AUTHORITY_EXPANSION
  | COMPENSATION_MASKING
  deriving DecidableEq, Repr

def BreakpointType.value : BreakpointType → String
  | .AUTHORIZATION_MISSING => "AUTHORIZATION_MISSING"
  | .AUTHORIZATION_LATE => "AUTHORIZATION_LATE"
  | .AUTHORIZATION_BYPASS => "AUTHORIZATION_BYPASS"
  | .IDENTITY_SUBSTITUTION => "IDENTITY_SUBSTITUTION"
  | .AUTHORITY_EXPANSION => "AUTHORITY_EXPANSION"
  | .COMPENSATION_MASKING => "COMPENSATION_MASKING"

inductive BreakpointPrecision where
  | EXACT
  | RANGE
  | VIOLATION_ONLY
  deriving DecidableEq, Repr

structure BreakpointResult where
  caseId : String
  actionId : String
  breakpointType : Option BreakpointType
  precision : BreakpointPrecision
  lastKnownGoodEventId : Option String := none
  firstViolationEventId : Option String := none
  rangeStartEventId : Option String := none
  rangeEndEventId : Option String := none
  continuity : AuthorizationContinuityAssessment
  orphanEffectIds : List String
  downstreamEventIds : List String := []
  amplifierTypes : List BreakpointType := []
  evidenceRefs : List String
  reasonCodes : List String
  deriving DecidableEq, Repr

/-- `validate_unique_ids`, with the bounds of its field. -/
def validateUniqueIds (least most : Nat) (values : List String) : Except Raised Unit := do
  require (least ≤ values.length ∧ values.length ≤ most) (.ValueError "breakpoint ID references are out of bounds")
  require values.Nodup (.ValueError "breakpoint ID references must be unique")

/-- The shape that the precision asks for. -/
def BreakpointResult.validateShape (result : BreakpointResult) : Except Raised Unit :=
  match result.precision with
  | .EXACT => do
    require (result.breakpointType ≠ none ∧ result.firstViolationEventId ≠ none)
      (.ValueError "EXACT breakpoint requires a type and first violation event")
    require (result.rangeStartEventId = none ∧ result.rangeEndEventId = none)
      (.ValueError "EXACT breakpoint cannot carry a range")
  | .RANGE =>
    require (result.breakpointType ≠ none ∧ result.firstViolationEventId = none ∧ result.rangeStartEventId ≠ none ∧
        result.rangeEndEventId ≠ none)
      (.ValueError "RANGE breakpoint requires only range boundaries")
  | .VIOLATION_ONLY =>
    require (result.lastKnownGoodEventId = none ∧ result.rangeStartEventId = none ∧ result.rangeEndEventId = none)
      (.ValueError "VIOLATION_ONLY cannot claim a stable trace boundary")

/-- The checks of a result, which sort its reason codes. -/
def BreakpointResult.validate (result : BreakpointResult) : Except Raised BreakpointResult := do
  validateUniqueIds 1 64 result.orphanEffectIds
  validateUniqueIds 0 512 result.downstreamEventIds
  validateUniqueIds 1 128 result.evidenceRefs
  require (result.amplifierTypes.length ≤ 5 ∧ result.amplifierTypes.Nodup)
    (.ValueError "breakpoint amplifier types must be unique")
  require (1 ≤ result.reasonCodes.length ∧ result.reasonCodes.length ≤ 32 ∧ result.reasonCodes.Nodup)
    (.ValueError "breakpoint reason codes must be stable unique tokens")
  require (result.continuity.state = .ORPHAN_EFFECT_CONFIRMED ∧ result.continuity.caseId = result.caseId ∧
      result.continuity.actionId = result.actionId ∧
      SameSet result.orphanEffectIds (result.continuity.confirmedEffects.map (·.effectId)))
    (.ValueError "breakpoint must reuse its confirmed continuity assessment")
  require (∀ type ∈ result.breakpointType, type ∉ result.amplifierTypes)
    (.ValueError "primary breakpoint cannot also be an amplifier")
  result.validateShape
  return { result with reasonCodes := sortedBy id result.reasonCodes }

structure Candidate where
  breakpointType : BreakpointType
  eventId : String
  orphanEventIds : List String
  reasonCode : String
  deriving DecidableEq, Repr

structure AllowControlEvent where
  event : TraceEvent
  parentRoles : List String

structure LocatedEffect where
  effectId : String
  resourceId : String
  state : EffectState
  deriving DecidableEq, Repr

/-- The frozen scope that events are compared with. -/
structure AuthorizationScope where
  knownSubjectIds : List String
  legalActions : List String
  legalResources : List String
  invariantAction : String
  invariantResources : List String

end Jiejian.Breakpoints.Models
