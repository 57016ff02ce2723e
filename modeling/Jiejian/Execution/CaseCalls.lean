import Jiejian.Execution.FlowCalls

namespace Jiejian.Execution.CaseCalls

open Library Library.Outcome Library.Stateful Errors Protocol.Cases Protocol.Scenarios Web.Templates Web.Rendering
open Checks.BatchRequests Checks.FlowSteps Verification.Models CheckRuntime StepCalls BatchCalls Executors FlowCalls

variable {patterns : Patterns} {world : World} {setup : Setup patterns} {session : Session} {touched batched : List String}
variable {property : Session → Prop} {caseId : String}

section Around

variable {β γ : Type}

/-- Whichever way it ends, the flow leaves what is said of the session. -/
def Keeps (property : Session → Prop) (flow : Flow β) : Prop := Triple property flow (fun _ => property) fun _ => property

/-- No question, no answer of `target_attempted` and no stop puts an end to the property. -/
structure Steady (property : Session → Prop) : Prop where
  ended : ∀ session, property session → Ended session
  alike : ∀ session other, Alike session other → Ended other → property session → property other

theorem steady_ended : Steady Ended := ⟨fun _ ended => ended, fun _ _ _ ended _ => ended⟩

theorem steady_ready : Steady (Ready touched batched) :=
  ⟨fun _ ready => ready.toEnded, fun _ _ alike ended ready => ⟨ended, ready.toOrderly.alike alike⟩⟩

theorem Steady.asks (steady : Steady property) : Asks property := fun session question holds =>
  steady.alike session _ (alike_asked session question) ((steady.ended session holds).asked question) holds

theorem keeps_value {value : β} : Keeps property (pure value : Flow β) := Triple.value fun _ holds => holds

theorem keeps_bind {first : Flow γ} {next : γ → Flow β} (starts : Keeps property first)
    (continues : ∀ value, Keeps property (next value)) : Keeps property (first >>= next) := Triple.bind starts continues

theorem keeps_inspect {next : Session → Flow β} (continues : ∀ found, Keeps property (next found)) :
    Keeps property (inspect >>= next) :=
  Triple.inspect fun found holds => (continues found).weaken (fun _ same => same ▸ holds) (fun _ _ kept => kept)
    fun _ _ kept => kept

theorem keeps_lift {computation : Except Raised β} : Keeps property (lift computation) := Triple.ask fun _ _ holds => holds

theorem keeps_map {flow : Flow γ} (update : γ → β) (keeps : Keeps property flow) : Keeps property (update <$> flow) :=
  keeps_bind keeps fun _ => keeps_value

theorem keeps_attempt {body : Flow β} {handler : Escape → Flow β} (tries : Keeps property body)
    (handles : ∀ escape, Keeps property (handler escape)) : Keeps property (attempt body handler) :=
  Triple.attempt tries handles

theorem keeps_forM {α : Type} {turn : α → Flow Unit} (items : List α) (keeps : ∀ item ∈ items, Keeps property (turn item)) :
    Keeps property (items.forM turn) := by
  refine @Triple.forM _ _ _ _ (fun _ => property) _ _ fun earlier item later split => ?_
  exact keeps item (split ▸ List.mem_append_right _ List.mem_cons_self)

theorem Steady.query (steady : Steady property) (question : Question) : Keeps property (query world question) :=
  query_keeps steady.asks (fun _ _ holds => holds) question

theorem observe_keeps {failed : Escape → Session → Prop} (asks : Asks property)
    (fails : ∀ escape session, property session → failed escape session) (phase : ObservationPhase) :
    Triple property (observe world caseId phase) (fun _ => property) failed :=
  Triple.bind (record_asked asks _) fun _ => Triple.ask fails

theorem Steady.observe (steady : Steady property) (phase : ObservationPhase) :
    Keeps property (observe world caseId phase) := observe_keeps steady.asks (fun _ _ holds => holds) phase

theorem stopped_first {first : Option String} {code : String} (running : first.or (some code) = none) : first = none := by
  cases first with
  | none => rfl
  | some earlier => cases running

theorem Steady.stop (steady : Steady property) (code : String) : Keeps property (stop code) := by
  refine Triple.change fun session holds => steady.alike session _ (alike_of_log rfl rfl rfl stopped_first rfl) ?_ holds
  exact ⟨(steady.ended session holds).safe, (steady.ended session holds).known⟩

theorem Steady.targetAttempted (steady : Steady property) : Keeps property (targetAttempted caseId) := by
  refine Triple.inspect fun found holds => ?_
  refine Triple.through (fun _ => property) (Triple.change fun session same => ?_) fun _ => keeps_value
  rw [same]
  have ended := steady.ended found holds
  have alike := alike_attempted found caseId (caseId ∈ found.executed)
  have allowed : Allowed found.log (.attempted caseId (caseId ∈ found.executed)) :=
    fun targeted => decide_eq_true (ended.known caseId targeted)
  exact steady.alike found _ alike ⟨ended.safe.snoc allowed, fun other targeted =>
    ended.known other (alike.targeted other targeted)⟩ holds

theorem Steady.stopUnlessCondition (steady : Steady property) (code : String) : Keeps property (stopUnlessCondition code) := by
  unfold Executors.stopUnlessCondition
  by_cases condition : conditionCode code = true
  · rw [if_pos condition]
    exact keeps_value
  · rw [if_neg condition]
    exact steady.stop code

theorem keeps_onStable {handler : String → Flow Unit} (handles : ∀ code, Keeps property (handler code)) (escape : Escape) :
    Keeps property (onStable handler escape) := by
  cases escape with
  | jiejian code => exact handles code
  | other raised => exact Triple.raise fun _ holds => holds

theorem keeps_orFalse {body : Flow Bool} (caught : Escape → Bool) (keeps : Keeps property body) :
    Keeps property (orFalse caught body) := by
  refine keeps_attempt keeps fun escape => ?_
  by_cases here : caught escape = true
  · rw [if_pos here]
    exact keeps_value
  · rw [if_neg here]
    exact Triple.raise fun _ holds => holds

theorem Steady.undo (steady : Steady property) (case : ExecutionCase) (caught : Escape → Bool) (code : String) :
    Keeps property (undo world case caught code) := by
  have recovers : Keeps property (recoverCase world case) :=
    keeps_bind (steady.query _) fun _ => steady.observe _
  refine keeps_bind (keeps_orFalse caught recovers) fun recovered => ?_
  cases recovered with
  | true => exact keeps_value
  | false => exact steady.stop code

theorem Steady.closeCheck (steady : Steady property) (action : FlowAction patterns) (case : ExecutionCase) (deferred : Bool) :
    Keeps property (closeCheck world action case deferred) := by
  unfold Executors.closeCheck
  by_cases changing : action.stateChanging = true
  · rw [if_pos changing]
    refine keeps_bind steady.targetAttempted fun attempted => ?_
    by_cases now : (attempted && !deferred) = true
    · rw [if_pos now]
      exact steady.undo case _ _
    · rw [if_neg now]
      exact keeps_value
  · rw [if_neg changing]
    exact keeps_value

theorem Steady.observeAttempted (steady : Steady property) (case : ExecutionCase) :
    Keeps property (observeAttempted world case) := by
  refine keeps_bind steady.targetAttempted fun attempted => ?_
  cases attempted with
  | true => exact keeps_map _ (steady.observe _)
  | false => exact keeps_value

theorem Steady.closeCreation (steady : Steady property) (case : ExecutionCase) (deferred : Bool) :
    Keeps property (closeCreation world case deferred) := by
  refine keeps_bind steady.targetAttempted fun attempted => ?_
  cases attempted with
  | false => exact keeps_value
  | true =>
    refine keeps_bind (steady.observe _) fun _ => ?_
    cases deferred with
    | true => exact keeps_value
    | false => exact steady.undo case _ _

theorem Steady.checkBudget (steady : Steady property) : Keeps property (checkBudget world) := by
  refine keeps_bind (record_asked steady.asks _) fun _ => keeps_inspect fun found => ?_
  cases world.stops found.log with
  | none => exact keeps_value
  | some code => exact steady.stop code

end Around

section Cases

/-- The closing part of a case leaves the session in order, or at least what was sent. -/
theorem closed_keeps {closing : Flow Unit} (closes : ∀ {property : Session → Prop}, Steady property → Keeps property closing)
    {body : Flow Unit} {before : Session → Prop}
    (tries : Triple before body (fun _ => Ready touched batched) fun _ => Ended) :
    Triple before (always body closing) (fun _ => Ready touched batched) fun _ => Ended := by
  refine Triple.always tries (fun _ => ?_) fun _ => closes steady_ended
  exact (closes steady_ready).weaken (fun _ ready => ready) (fun _ _ ready => ready) fun _ _ ready => ready.toEnded

/-- After a stable error the handler finds the session in order. -/
theorem handled_keeps {handler : String → Flow Unit} (handles : ∀ code, Keeps (Ready touched batched) (handler code))
    (escape : Escape) : Triple (Broken touched batched escape) (onStable handler escape) (fun _ => Ready touched batched)
      fun _ => Ended := by
  cases escape with
  | jiejian code =>
    exact (handles code).weaken (fun _ broken => broken.2 code rfl) (fun _ _ ready => ready) fun _ _ ready => ready.toEnded
  | other raised => exact Triple.raise fun _ broken => broken.1

theorem callable_asks (caseId : String) : Asks fun session => Ready touched batched session ∧ Callable touched caseId session :=
  fun session question holds => ⟨ready_asks session question holds.1, holds.2⟩

theorem checkBody_keeps {action : FlowAction patterns} (arranged : Arranged action.steps) (case : ExecutionCase) :
    Triple (fun session => Ready touched batched session ∧ Callable touched case.caseId session)
      (checkBody world action case) (fun _ => Ready (case.caseId :: touched) batched)
      (Broken (case.caseId :: touched) batched) := by
  have wider : touched ⊆ case.caseId :: touched := List.subset_cons_self _ _
  have fails : ∀ (escape : Escape) session, Ready touched batched session ∧ Callable touched case.caseId session →
      Broken (case.caseId :: touched) batched escape session :=
    fun escape session holds => broken_of_ready escape session (holds.1.mono wider)
  have later : ∀ phase, Triple (Ready (case.caseId :: touched) batched) (observe world case.caseId phase)
      (fun _ => Ready (case.caseId :: touched) batched) (Broken (case.caseId :: touched) batched) :=
    observe_keeps ready_asks broken_of_ready
  refine Triple.bind (observe_keeps (callable_asks case.caseId) fails _) fun baseline => ?_
  cases baseline with
  | true =>
    refine Triple.bind (callFlow_keeps arranged case) fun _ => Triple.bind (later _) fun _ => Triple.bind (later _) fun _ => ?_
    exact Triple.value fun _ ready => ready
  | false =>
    exact (steady_ready.stop _).weaken (fun _ holds => holds.1.mono wider) (fun _ _ ready => ready) broken_of_ready

theorem checkCase_keeps {action : FlowAction patterns} (arranged : Arranged action.steps) (case : ExecutionCase)
    (deferred : Bool) : Triple (fun session => Ready touched batched session ∧ Callable touched case.caseId session)
      (checkCase world action case deferred) (fun _ => Ready (case.caseId :: touched) batched) fun _ => Ended := by
  refine closed_keeps (fun steady => steady.closeCheck action case deferred) ?_
  refine Triple.attempt (checkBody_keeps arranged case) (handled_keeps fun code => ?_)
  exact keeps_bind (steady_ready.stopUnlessCondition code) fun _ => steady_ready.observeAttempted case

theorem creationCase_keeps {action : FlowAction patterns} (arranged : Arranged action.steps) (case : ExecutionCase)
    (deferred : Bool) : Triple (fun session => Ready touched batched session ∧ Callable touched case.caseId session)
      (creationCase world action case deferred) (fun _ => Ready (case.caseId :: touched) batched) fun _ => Ended := by
  refine closed_keeps (fun steady => steady.closeCreation case deferred) ?_
  refine Triple.attempt (Triple.bind (callFlow_keeps arranged case) fun _ => Triple.value fun _ ready => ready)
    (handled_keeps fun code => steady_ready.stopUnlessCondition code)

/-- One case: it was not called yet, or it is called in the batch that is registered for it. -/
theorem runCase_keeps (valid : ∀ action ∈ setup.actions, action.validateFlow = .ok ()) (actionId : String)
    (case : ExecutionCase) (deferred : Bool) (free : case.caseId ∉ touched ∨ case.caseId ∈ batched) :
    Triple (Ready touched batched) (runCase world setup actionId case deferred)
      (fun _ => Ready (case.caseId :: touched) batched) fun _ => Ended := by
  have wider : touched ⊆ case.caseId :: touched := List.subset_cons_self _ _
  refine lift_keeps (fun _ _ ready => ready.toEnded) fun action configured => ?_
  obtain ⟨member, _⟩ := Table.latest_some (orRaise_eq_ok.mp configured)
  have arranged : Arranged action.steps := validateFlow_arranged (valid action member)
  refine Triple.inspect fun found ready => ?_
  cases stopped : found.stopped with
  | some code => exact Triple.value fun _ same => same ▸ ready.mono wider
  | none =>
    have callable : Callable touched case.caseId found := free.imp_right fun batch => ready.registered stopped batch
    have starts : ∀ session, session = found → Ready touched batched session ∧ Callable touched case.caseId session :=
      fun _ same => same ▸ ⟨ready, callable⟩
    dsimp only
    by_cases creates : action.createdResource.isSome = true
    · rw [if_pos creates]
      exact (creationCase_keeps arranged case deferred).weaken starts (fun _ _ kept => kept) fun _ _ ended => ended
    · rw [if_neg creates]
      exact (checkCase_keeps arranged case deferred).weaken starts (fun _ _ kept => kept) fun _ _ ended => ended

end Cases

end Jiejian.Execution.CaseCalls
