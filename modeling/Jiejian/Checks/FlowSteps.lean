import Jiejian.Checks.BatchRequests
import Mathlib.Data.Bool.Basic

namespace Jiejian.Checks.FlowSteps

open Library Library.Outcome Library.Sorting Errors Protocol.Cases Protocol.Runtime Protocol.Scenarios Web.Templates
open BatchRequests

/-- A step of a flow, with the steps it waits for. -/
structure FlowStep extends CheckFlowStep where
  dependsOnStepIds : List String

structure BusinessFlow where
  steps : List FlowStep
  targetStepId : String

section Order

def actionFlowStale : JiejianError := ⟨.STATE_PRECONDITION, "ACTION_FLOW_STALE"⟩

/-- The target stands behind every other step that is ready with it. -/
def readyOrder (target : String) (step : FlowStep) : Bool ×ₗ String := toLex (step.stepId = target, step.stepId)

def readySteps (target : String) (pending result : List FlowStep) : List FlowStep :=
  sortedBy (readyOrder target) (pending.filter fun step => step.dependsOnStepIds ⊆ result.map (·.stepId))

/-- The loop of `_ordered_steps`: so many rounds, each of which takes one pending step. -/
def orderPending (target : String) : Nat → List FlowStep → List FlowStep → Except JiejianError (List FlowStep)
  | 0, _, result => .ok result
  | rounds + 1, pending, result =>
    match readySteps target pending result with
    | [] => .error actionFlowStale
    | step :: _ => orderPending target rounds (pending.filter fun other => other.stepId ≠ step.stepId) (result ++ [step])

def pendingSteps (flow : BusinessFlow) : List FlowStep := flow.steps.foldl (Table.put (·.stepId)) []

/-- `_ordered_steps`. -/
def orderedSteps (flow : BusinessFlow) : Except JiejianError (List FlowStep) :=
  orderPending flow.targetStepId (pendingSteps flow).length (pendingSteps flow) []

/-- What a step needs stands before it. -/
def Precedes (needs : FlowStep → List String) (steps : List FlowStep) : Prop :=
  ∀ earlier step later, steps = earlier ++ step :: later → needs step ⊆ earlier.map (·.stepId)

theorem precedes_nil (needs : FlowStep → List String) : Precedes needs [] := by
  intro earlier step later split
  cases earlier <;> cases split

theorem Precedes.snoc {needs : FlowStep → List String} {done : List FlowStep} {step : FlowStep}
    (precedes : Precedes needs done) (known : needs step ⊆ done.map (·.stepId)) : Precedes needs (done ++ [step]) := by
  intro earlier other later split
  cases List.eq_nil_or_concat later with
  | inl last =>
    rw [last] at split
    obtain ⟨same, end'⟩ := List.append_inj' split rfl
    rw [← same, ← List.singleton_inj.mp end']
    exact known
  | inr more =>
    obtain ⟨rest, final, built⟩ := more
    rw [built, List.concat_eq_append, ← List.cons_append, ← List.append_assoc] at split
    exact precedes earlier other rest (List.append_inj' split rfl).1

theorem mem_readySteps {target : String} {pending result : List FlowStep} {step : FlowStep} :
    step ∈ readySteps target pending result ↔
      step ∈ pending ∧ step.dependsOnStepIds ⊆ result.map (·.stepId) := by
  rw [readySteps, mem_sortedBy, List.mem_filter, decide_eq_true_eq]

theorem orderPending_ordered {target : String} {rounds : Nat} {pending result final : List FlowStep}
    (keyed : Table.Keyed (·.stepId) pending) (enough : pending.length = rounds)
    (ordered : orderPending target rounds pending result = .ok final) (before : Precedes (·.dependsOnStepIds) result) :
    final.Perm (result ++ pending) ∧ Precedes (·.dependsOnStepIds) final := by
  induction rounds generalizing pending result with
  | zero =>
    rw [List.length_eq_zero_iff.mp enough, List.append_nil, ← Except.ok.inj ordered]
    exact ⟨.refl _, before⟩
  | succ rounds ih =>
    unfold orderPending at ordered
    cases ready : readySteps target pending result with
    | nil =>
      rw [ready] at ordered
      cases ordered
    | cons step others =>
      rw [ready] at ordered
      dsimp only at ordered
      have taken : step ∈ readySteps target pending result := ready ▸ List.mem_cons_self
      obtain ⟨member, known⟩ := mem_readySteps.mp taken
      have rest := keyed.perm_cons_filter member
      have shorter : (pending.filter fun other => other.stepId ≠ step.stepId).length = rounds := by
        have same := rest.length_eq
        rw [List.length_cons] at same
        omega
      have keyed' : Table.Keyed (·.stepId) (pending.filter fun other => other.stepId ≠ step.stepId) :=
        ((List.filter_sublist (l := pending)).map _).nodup keyed
      obtain ⟨same, precedes⟩ := ih keyed' shorter ordered (before.snoc known)
      refine ⟨same.trans ?_, precedes⟩
      rw [List.append_assoc]
      exact (rest.symm.append_left result)

/-- The order of the builder takes every step once, each after the steps it waits for. -/
theorem orderedSteps_ordered {flow : BusinessFlow} {steps : List FlowStep} (ordered : orderedSteps flow = .ok steps) :
    steps.Perm (pendingSteps flow) ∧ Precedes (·.dependsOnStepIds) steps := by
  have none' : Table.Keyed (fun step : FlowStep => step.stepId) [] := List.nodup_nil
  have keyed : Table.Keyed (·.stepId) (pendingSteps flow) := none'.foldl_put flow.steps
  exact orderPending_ordered keyed rfl ordered (precedes_nil _)

end Order

section Validation

variable {patterns : Patterns}

/-- A configured action whose steps keep their dependencies. -/
structure FlowAction (patterns : Patterns) extends CheckActionConfig where
  steps : List FlowStep
  accepted : ∀ step ∈ steps, step.request.validate patterns = .ok step.request

/-- The action as the batch request reads it. -/
def FlowAction.configured (action : FlowAction patterns) : ConfiguredAction patterns where
  toCheckActionConfig := action.toCheckActionConfig
  steps := action.steps.map (·.toCheckFlowStep)
  accepted := by
    intro step member
    obtain ⟨source, listed, same⟩ := List.mem_map.mp member
    rw [← same]
    exact action.accepted source listed

/-- The steps whose responses a step reads. -/
def FlowStep.producers (step : FlowStep) : List String := step.request.inputSlots.filterMap (·.producerStepId)

/-- One round of the walk over the steps; `visited` are the steps before. -/
def admitStep (visited : List String) (step : FlowStep) : Except Raised (List String) := do
  require (step.dependsOnStepIds.Nodup ∧ step.dependsOnStepIds ⊆ visited)
    (.ValueError "flow must be in a valid dependency order")
  require (∀ producer ∈ step.producers, producer ∈ visited) (.ValueError "flow slot must refer to a preceding producer")
  return visited ++ [step.stepId]

/-- Some step extracts the id of a created resource. -/
def extractsCreated (steps : List FlowStep) : Prop :=
  ∃ step ∈ steps, ∃ source ∈ step.request.responseExtractors, source.extractorId = "created_resource_id"

def readsResource (steps : List FlowStep) : Prop :=
  ∃ step ∈ steps, ∃ slot ∈ step.request.inputSlots, slot.source = .CASE_RESOURCE_ID

instance (steps : List FlowStep) : Decidable (extractsCreated steps) :=
  inferInstanceAs (Decidable (∃ step ∈ steps, ∃ source ∈ step.request.responseExtractors,
    source.extractorId = "created_resource_id"))

instance (steps : List FlowStep) : Decidable (readsResource steps) :=
  inferInstanceAs (Decidable (∃ step ∈ steps, ∃ slot ∈ step.request.inputSlots, slot.source = .CASE_RESOURCE_ID))

/-- `validate_flow`. -/
def FlowAction.validateFlow (action : FlowAction patterns) : Except Raised Unit := do
  require (1 ≤ action.steps.length ∧ action.steps.length ≤ 128) (.ValueError "steps")
  require (extractsCreated action.steps ∧ ¬readsResource action.steps → action.createdResource.isSome)
    (.ValueError "CREATED_RESOURCE_CONTRACT_REQUIRED")
  require ((action.steps.map (·.stepId)).Nodup ∧ action.steps.countP (·.purpose = .TARGET) = 1)
    (.ValueError "flow requires unique steps and exactly one target")
  let _ ← action.steps.foldlM admitStep []
  require (∀ last ∈ action.steps.getLast?, last.purpose = .TARGET)
    (.ValueError "all setup must precede the unique target")
  require (action.stateChanging → action.recovery.isSome)
    (.ValueError "state changing flow requires confirmed recovery")
  require (action.proofs.map (·.bindingFingerprint)).Nodup (.ValueError "duplicate action proof binding")

/-- The set-up steps first, each after the producers of its values, and then the one target. -/
structure Arranged (steps : List FlowStep) : Prop where
  dependencies : Precedes (·.dependsOnStepIds) steps
  producers : Precedes (·.producers) steps
  target : ∃ setups target, steps = setups ++ [target] ∧ target.purpose = .TARGET ∧ ∀ step ∈ setups, step.purpose = .SETUP

theorem admitStep_eq_ok {visited next : List String} {step : FlowStep} : admitStep visited step = .ok next ↔
    (step.dependsOnStepIds.Nodup ∧ step.dependsOnStepIds ⊆ visited) ∧ step.producers ⊆ visited ∧
      visited ++ [step.stepId] = next := by
  unfold admitStep
  simp only [bind_eq_ok, require_eq_ok]
  constructor
  · intro admitted
    obtain ⟨_, depends, _, produced, same⟩ := admitted
    exact ⟨depends, produced, Except.ok.inj same⟩
  · intro admitted
    obtain ⟨depends, produced, same⟩ := admitted
    exact ⟨(), depends, (), produced, congrArg Except.ok same⟩

theorem admitted_precede {steps : List FlowStep} {visited : List String}
    (walked : steps.foldlM admitStep [] = .ok visited) :
    Precedes (·.dependsOnStepIds) steps ∧ Precedes (·.producers) steps := by
  have kept := foldlM_reflecting (fun _ => True)
    (fun done (visited : List String) => visited = done.map (·.stepId) ∧ Precedes (·.dependsOnStepIds) done ∧
      Precedes (·.producers) done) [] (fun _ _ _ _ _ => trivial)
    (fun done visited step next _ admitted _ before => by
      obtain ⟨depends, produced, grown⟩ := admitStep_eq_ok.mp admitted
      obtain ⟨same, first, second⟩ := before
      rw [same] at depends produced grown
      refine ⟨?_, first.snoc depends.2, second.snoc produced⟩
      rw [← grown, List.map_append]
      rfl) walked trivial
  have holds := kept.2 ⟨rfl, precedes_nil _, precedes_nil _⟩
  exact ⟨holds.2.1, holds.2.2⟩

theorem validateFlow_arranged {action : FlowAction patterns} (valid : action.validateFlow = .ok ()) :
    Arranged action.steps := by
  unfold FlowAction.validateFlow at valid
  simp only [bind_eq_ok, require_eq_ok] at valid
  obtain ⟨_, sized, _, _, _, ⟨_, one⟩, visited, walked, _, lastTarget, _⟩ := valid
  obtain ⟨dependencies, producers⟩ := admitted_precede walked
  refine ⟨dependencies, producers, ?_⟩
  cases List.eq_nil_or_concat action.steps with
  | inl none' =>
    rw [none'] at sized
    exact absurd sized.1 (by decide)
  | inr split =>
    obtain ⟨setups, target, split⟩ := split
    rw [List.concat_eq_append] at split
    have targets : target.purpose = .TARGET := lastTarget target (by rw [split]; simp)
    refine ⟨setups, target, split, targets, ?_⟩
    rw [split, List.countP_append, List.countP_cons_of_pos (by simpa using targets), List.countP_nil] at one
    have none' : setups.countP (·.purpose = .TARGET) = 0 := by omega
    intro step member
    have other := List.countP_eq_zero.mp none' step member
    cases purpose : step.purpose with
    | SETUP => rfl
    | TARGET => exact absurd purpose (by simpa using other)

end Validation

end Jiejian.Checks.FlowSteps
