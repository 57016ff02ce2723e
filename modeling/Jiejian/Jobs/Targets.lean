import Jiejian.Jobs.Control

namespace Jiejian.Jobs.Targets
open Jiejian.Errors Jiejian.Library.Outcome Jiejian.Jobs.Records Jiejian.Jobs.Control

def targetTypeOf : JobTarget → JobTargetType
  | .run _ => .RUN
  | .recording _ => .RECORDING
  | .runtimeLoad _ => .RUNTIME_LOAD
  | .preflight _ => .PROOF_PREFLIGHT
  | .referenceCapture _ => .REFERENCE_CAPTURE
  | .flowTrial _ => .FLOW_TRIAL
  | .identityPreparation _ => .IDENTITY_PREPARATION

inductive JobTargetOutcome where
  | cancelled
  | failed
  deriving DecidableEq, Repr

/-- The run or the recording a call hands back with the job. -/
structure TargetView (ν : Type) where
  run : Option RunRow
  recording : Option ν

/-- The lifecycle adapter of one kind of target, over the tables `τ` it may write. -/
structure JobTargetHandler (τ ν : Type) where
  load : τ → JobRow → Except JiejianError (TargetView ν)
  advanceAfterClaim : τ → JobRow → Nat → Except JiejianError (TargetView ν × τ)
  finish : τ → JobRow → Nat → JobTargetOutcome → Except JiejianError (TargetView ν × τ)

/-- Registered handlers, at most one for each type. -/
structure JobTargetRegistry (τ ν : Type) where
  handlers : List (JobTargetType × JobTargetHandler τ ν)

variable {τ ν ρ : Type}

def JobTargetRegistry.targetTypes (registry : JobTargetRegistry τ ν) : List JobTargetType :=
  registry.handlers.map Prod.fst

def JobTargetRegistry.register (registry : JobTargetRegistry τ ν) (targetType : JobTargetType)
    (handler : JobTargetHandler τ ν) : Except JiejianError (JobTargetRegistry τ ν) := do
  require (targetType ∉ registry.targetTypes) ⟨.JOB_PERSISTENCE, "任务目标处理器重复注册"⟩
  return ⟨registry.handlers ++ [(targetType, handler)]⟩

def JobTargetRegistry.resolve (registry : JobTargetRegistry τ ν) (job : JobRow) :
    Except JiejianError (JobTargetHandler τ ν) :=
  orRaise ((registry.handlers.find? fun entry => entry.1 = targetTypeOf job.target).map Prod.snd)
    ⟨.JOB_PERSISTENCE, "任务目标处理器未注册"⟩

def JobTargetRegistry.load (registry : JobTargetRegistry τ ν) (tables : τ) (job : JobRow) :
    Except JiejianError (TargetView ν) := do
  (← registry.resolve job).load tables job

def JobTargetRegistry.advanceAfterClaim (registry : JobTargetRegistry τ ν) (tables : τ) (job : JobRow) (nowUs : Nat) :
    Except JiejianError (TargetView ν × τ) := do
  (← registry.resolve job).advanceAfterClaim tables job nowUs

def JobTargetRegistry.finish (registry : JobTargetRegistry τ ν) (tables : τ) (job : JobRow) (nowUs : Nat)
    (outcome : JobTargetOutcome) : Except JiejianError (TargetView ν × τ) := do
  (← registry.resolve job).finish tables job nowUs outcome

def targetLinkInvalid : JiejianError := ⟨.JOB_PERSISTENCE, "任务运行目标关联非法"⟩

/-- `RunJobTargetHandler`. -/
def runJobTargetHandler : JobTargetHandler (Targets ρ) ν where
  load targets job :=
    match job.target with
    | .run runId => do
      let run ← orRaise (targets.run runId) ⟨.JOB_PERSISTENCE, "任务关联运行不存在"⟩
      return ⟨some run, none⟩
    | _ => .error targetLinkInvalid
  advanceAfterClaim targets job nowUs :=
    match job.target with
    | .run runId => do
      let advanced := advanceRunAfterClaim targets runId nowUs
      let run ← orRaise advanced.1 ⟨.JOB_PERSISTENCE, "运行状态无法进入预检"⟩
      return (⟨some run, none⟩, advanced.2)
    | _ => .error targetLinkInvalid
  finish targets job nowUs outcome :=
    match job.target with
    | .run runId => do
      let target := match outcome with
        | .cancelled => RunLifecycle.cancelled
        | .failed => RunLifecycle.failed
      let finished ← transitionRunTerminal targets runId target nowUs
      let run ← orRaise finished.1 ⟨.JOB_PERSISTENCE, "运行终态写入失败"⟩
      return (⟨some run, none⟩, finished.2)
    | _ => .error targetLinkInvalid

/-- `CheckJobTargetHandler.load`: the run must be the frozen request of a check. -/
def checkLoad (targets : Targets ρ) (job : JobRow) : Except JiejianError (TargetView ν) := do
  let view ← runJobTargetHandler.load targets job
  require (job.operationType = "CHECK"
    ∧ view.run.all (fun run => run.projectId = job.projectId && run.requestHash = job.requestHash) = true)
    ⟨.JOB_REQUEST_CONFLICT, "任务执行请求与既有快照不一致"⟩
  return view

/-- `CheckJobTargetHandler`. -/
def checkJobTargetHandler : JobTargetHandler (Targets ρ) ν where
  load := checkLoad
  advanceAfterClaim targets job nowUs := do
    let _ : TargetView ν ← checkLoad targets job
    runJobTargetHandler.advanceAfterClaim targets job nowUs
  finish targets job nowUs outcome := do
    let _ : TargetView ν ← checkLoad targets job
    runJobTargetHandler.finish targets job nowUs outcome

/-- A handler of another target sees and writes its own tables only. -/
def JobTargetHandler.onOther (handler : JobTargetHandler ρ ν) : JobTargetHandler (Targets ρ) ν where
  load targets job := handler.load targets.other job
  advanceAfterClaim targets job nowUs := do
    let advanced ← handler.advanceAfterClaim targets.other job nowUs
    return (advanced.1, { targets with other := advanced.2 })
  finish targets job nowUs outcome := do
    let finished ← handler.finish targets.other job nowUs outcome
    return (finished.1, { targets with other := finished.2 })

/-- `current_check_and_recording_targets`, over the handlers of the targets that are not runs. -/
def currentCheckAndRecordingTargets (flowTrial recording preflight capture preparation : JobTargetHandler ρ ν) :
    JobTargetRegistry (Targets ρ) ν where
  handlers := [(.FLOW_TRIAL, flowTrial.onOther), (.RUN, checkJobTargetHandler), (.RECORDING, recording.onOther),
    (.PROOF_PREFLIGHT, preflight.onOther), (.REFERENCE_CAPTURE, capture.onOther),
    (.IDENTITY_PREPARATION, preparation.onOther)]

/-- `runtime_load_targets`. -/
def runtimeLoadTargets (runtimeLoad : JobTargetHandler ρ ν) : JobTargetRegistry (Targets ρ) ν where
  handlers := [(.RUNTIME_LOAD, runtimeLoad.onOther)]

end Jiejian.Jobs.Targets
