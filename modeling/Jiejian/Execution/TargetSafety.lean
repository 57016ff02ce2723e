import Jiejian.Checks.BatchSending
import Jiejian.Execution.CaseCalls
import Jiejian.Protocol.Pairs

namespace Jiejian.Execution.TargetSafety

open Library Library.Outcome Library.Sorting Library.Stateful Errors Protocol.Codec Protocol.Cases Protocol.Actions
open Protocol.Scenarios Protocol.Requests Web.Templates Web.Rendering Checks.BatchRequests Checks.FlowSteps
open Verification.Models CheckRuntime StepCalls BatchCalls Executors FlowCalls CaseCalls

variable {patterns : Patterns} {world : World} {setup : Setup patterns} {digest : Digest} {session : Session}
variable {touched batched : List String} {property : Session → Prop}

section Scenarios

variable {scenario : FrozenBusinessScenario} {experimentId : String} {invocation : ScenarioInvocation}

theorem keeps_entryOf {caseId : String} : Keeps property (entryOf caseId) :=
  keeps_inspect fun _ => keeps_bind keeps_lift fun _ => keeps_value

theorem keeps_configuredAction {actionId : String} : Keeps property (configuredAction setup actionId) := keeps_lift

/-- The case that is stored under an id has that id. -/
theorem entryOf_named (caseId : String) : Triple (Ready touched batched) (entryOf caseId)
    (fun entry session => Ready touched batched session ∧ entry.2.caseId = caseId) fun _ => Ready touched batched := by
  refine Triple.inspect fun found ready => ?_
  refine lift_keeps (fun _ _ same => same ▸ ready) fun entry read => Triple.value fun _ same => ?_
  obtain ⟨stored, key⟩ := Table.lookup_some (orRaise_eq_ok.mp read)
  exact ⟨same ▸ ready, (ready.named entry stored).trans key⟩

theorem membersOf_named (ids : List String) : Triple (Ready touched batched) (membersOf ids)
    (fun members session => Ready touched batched session ∧ members.map (·.caseId) = ids) fun _ => Ready touched batched := by
  induction ids with
  | nil => exact Triple.value fun _ ready => ⟨ready, rfl⟩
  | cons caseId rest ih =>
    refine Triple.through (fun member session => Ready touched batched session ∧ member.caseId = caseId)
      (Triple.bind (entryOf_named caseId) fun entry => Triple.value fun _ holds => holds) fun member => ?_
    intro session holds
    refine Triple.bind ih (fun members => ?_) session holds.1
    refine Triple.value fun _ built => ⟨built.1, ?_⟩
    rw [List.map_cons, built.2, holds.2]

theorem observeOrStop_keeps (steady : Steady property) (caseId : String) (phase : ObservationPhase) :
    Keeps property (observeOrStop world caseId phase) :=
  keeps_attempt (keeps_map _ (steady.observe phase)) (keeps_onStable steady.stop)

theorem bindResource_caseId {case bound : ExecutionCase} {resourceId producerCaseId : String}
    (made : bindResource digest case resourceId producerCaseId = .ok bound) : bound.caseId = case.caseId := by
  unfold bindResource at made
  simp only [bind_eq_ok] at made
  obtain ⟨_, _, _, _, _, _, same⟩ := made
  rw [← Except.ok.inj same]

/-- A case keeps its id when it takes the resource of an earlier invocation. -/
theorem bindItem_keeps (pair : String × ScenarioItem) : Keeps (Ready touched batched) (bindItem world digest pair) := by
  refine keeps_inspect fun found => ?_
  by_cases dynamic : (pair.2.resourceFrom.isSome && found.stopped.isNone) = true
  · rw [if_pos dynamic]
    refine keeps_bind (record_asked ready_asks _) fun _ => keeps_inspect fun seen => ?_
    cases produced : world.produced seen.log pair.1 with
    | none => exact steady_ready.stop _
    | some binding =>
      refine Triple.bind (entryOf_named pair.1) fun entry session holds => ?_
      refine @lift_keeps _ _ (Ready touched batched) _ _ _ _ (fun _ _ ready => ready) (fun bound made => ?_) session holds.1
      refine Triple.through (fun _ => Ready touched batched) (Triple.change fun later ready => ?_)
        fun _ => observeOrStop_keeps steady_ready pair.1 .BASELINE
      refine { ready with named := fun row stored => ?_ }
      cases Table.mem_put.mp stored with
      | inl same =>
        rw [same]
        exact (bindResource_caseId made).trans holds.2
      | inr old => exact ready.named row old.1
  · rw [if_neg dynamic]
    exact keeps_value

theorem observeMembers_keeps (steady : Steady property) (ids : List String) : Keeps property (observeMembers world ids) := by
  induction ids with
  | nil => exact keeps_value
  | cons caseId rest ih => exact keeps_bind (steady.observe _) fun _ => ih

theorem appended_group {groups : List Group} {last group : Group} {index : Nat}
    (found : (groups ++ [last])[index]? = some group) :
    groups[index]? = some group ∨ (index = groups.length ∧ group = last) := by
  by_cases inside : index < groups.length
  · rw [List.getElem?_append_left inside] at found
    exact .inl found
  · rw [List.getElem?_append_right (by omega)] at found
    cases position : index - groups.length with
    | zero =>
      rw [position] at found
      exact .inr ⟨by omega, (Option.some.inj found).symm⟩
    | succ further =>
      rw [position] at found
      cases found

/-- The batch entries after a registration, as a dict that is filled row by row. -/
theorem registered_rows {batch : BatchInvocation} {members : List ExecutionCase} {ids : List String}
    (named : members.map (·.caseId) = ids) : (registerGroup invocation batch members session).batchGroups =
      (ids.map fun caseId => (caseId, session.groups.length)).foldl (Table.put Prod.fst) session.batchGroups := by
  rw [List.foldl_map, ← named]
  rfl

/-- A new batch of cases that nothing was done for yet. -/
theorem registerGroup_ready {batch : BatchInvocation} {members : List ExecutionCase} {ids : List String}
    (ready : Ready touched batched session) (named : members.map (·.caseId) = ids) (fresh : ∀ caseId ∈ ids, caseId ∉ touched) :
    Ready (ids ++ touched) ids (registerGroup invocation batch members session) := by
  have shared : ∀ entry, entry ∈ (registerGroup invocation batch members session).batchGroups →
      (entry.1 ∈ ids ∧ entry.2 = session.groups.length) ∨ entry ∈ session.batchGroups := by
    intro entry stored
    rw [registered_rows named] at stored
    cases Table.mem_foldl_put stored with
    | inl new =>
      obtain ⟨caseId, listed, same⟩ := List.mem_map.mp new
      rw [← same]
      exact .inl ⟨listed, rfl⟩
    | inr old => exact .inr old.1
  have present : ∀ caseId ∈ ids, caseId ∈ (registerGroup invocation batch members session).batchGroups.map Prod.fst := by
    intro caseId listed
    rw [registered_rows named, Table.keys_foldl_put]
    exact .inr (List.mem_map.mpr ⟨_, List.mem_map.mpr ⟨caseId, listed, rfl⟩, rfl⟩)
  have wider : touched ⊆ ids ++ touched := List.subset_append_right _ _
  have last : Group.ids ⟨invocation, batch, members, none, none⟩ = ids := named
  exact {
    safe := ready.safe
    known := ready.known
    within := fun caseId seen => wider (ready.within caseId seen)
    grouped := by
      intro entry stored
      cases shared entry stored with
      | inl new =>
        refine ⟨⟨invocation, batch, members, none, none⟩, ?_, last ▸ new.1⟩
        rw [new.2]
        exact List.getElem?_concat_length
      | inr old =>
        obtain ⟨group, found, inside⟩ := ready.grouped entry old
        refine ⟨group, ?_, inside⟩
        have bounded : entry.2 < session.groups.length := (List.getElem?_eq_some_iff.mp found).1
        exact (List.getElem?_append_left bounded).trans found
    members := by
      intro index group found
      cases appended_group found with
      | inl old => exact List.Subset.trans (ready.members index group old) wider
      | inr new =>
        rw [new.2, last]
        exact List.subset_append_left _ _
    apart := by
      intro first second group other storedFirst storedSecond distinct caseId inside
      cases appended_group storedFirst with
      | inl old =>
        cases appended_group storedSecond with
        | inl old' => exact ready.apart first second group other old old' distinct caseId inside
        | inr new =>
          rw [new.2, last]
          exact fun listed => fresh caseId listed (ready.members first group old inside)
      | inr new =>
        rw [new.2, last] at inside
        cases appended_group storedSecond with
        | inl old => exact fun stored => fresh caseId inside (ready.members second other old stored)
        | inr new' => exact absurd (new.1.trans new'.1.symm) distinct
    unused := by
      intro index group found unused member inside
      cases appended_group found with
      | inl old => exact ready.unused index group old unused member inside
      | inr new =>
        rw [new.2, last] at inside
        have untouched := fresh member inside
        exact ⟨fun targeted => untouched (ready.within member (.inl targeted)),
          fun failed => untouched (ready.within member (.inr failed))⟩
    registered := fun _ => present
    named := ready.named }

/-- The registration, unless the run is stopped; the observations of its members come first. -/
theorem registerBatch_keeps {batch : BatchInvocation} {members : List ExecutionCase} {ids : List String}
    (batched : invocation.batch = some batch) (named : members.map (·.caseId) = ids)
    (fresh : ∀ caseId ∈ ids, caseId ∉ touched) :
    Triple (Ready touched []) (registerBatch world invocation ids members) (fun _ => Ready (ids ++ touched) ids)
      fun _ => Ready touched [] := by
  refine Triple.inspect fun found ready => ?_
  rw [batched]
  cases stopped : found.stopped with
  | none =>
    refine Triple.through (fun _ => Ready touched []) ?_ fun _ =>
      Triple.change fun session ready' => registerGroup_ready ready' named fresh
    exact (keeps_attempt (observeMembers_keeps steady_ready ids) (keeps_onStable steady_ready.stop)).weaken
      (fun _ same => same ▸ ready) (fun _ _ kept => kept) fun _ _ kept => kept
  | some code =>
    refine Triple.value fun session same => ?_
    rw [same]
    refine { ready.mono (List.subset_append_right ids touched) with registered := fun running => ?_ }
    rw [stopped] at running
    cases running

theorem lookAgain_keeps (steady : Steady property) (caseId : String) : Keeps property (lookAgain world caseId) := by
  refine keeps_inspect fun found => ?_
  cases found.stopped with
  | none => exact keeps_value
  | some code =>
    refine keeps_bind steady.targetAttempted fun attempted => ?_
    cases attempted with
    | true => exact keeps_attempt (keeps_map _ (steady.observe _)) (keeps_onStable fun _ => keeps_value)
    | false => exact keeps_value

theorem scenarioCase_keeps (valid : ∀ action ∈ setup.actions, action.validateFlow = .ok ()) {caseId : String}
    (free : caseId ∉ touched ∨ caseId ∈ batched) :
    Triple (Ready touched batched) (scenarioCase world setup caseId) (fun _ => Ready (caseId :: touched) batched)
      fun _ => Ended := by
  refine Triple.bind ((entryOf_named caseId).weaken (fun _ ready => ready) (fun _ _ holds => holds)
    fun _ _ ready => ready.toEnded) fun entry session holds => ?_
  obtain ⟨ready, named⟩ := holds
  have calls := @runCase_keeps _ world _ _ _ valid entry.1 entry.2 true (named ▸ free)
  rw [named] at calls
  refine Triple.bind calls (fun _ => ?_) session ready
  exact (lookAgain_keeps steady_ready caseId).weaken (fun _ kept => kept) (fun _ _ kept => kept) fun _ _ kept => kept.toEnded

/-- The cases of an invocation; none where the request names none. -/
def invocationIds (scenario : FrozenBusinessScenario) (experimentId : String) (invocation : ScenarioInvocation) : List String :=
  match frozenCaseIds scenario experimentId invocation.id with
  | .ok ids => ids
  | .error _ => []

theorem invocationIds_eq {ids : List String} (frozen : frozenCaseIds scenario experimentId invocation.id = .ok ids) :
    invocationIds scenario experimentId invocation = ids := by
  unfold invocationIds
  rw [frozen]

/-- The cases of a batch share their entry, and an invocation without one has a single case. -/
theorem invocationCases_keep (valid : ∀ action ∈ setup.actions, action.validateFlow = .ok ()) {ids : List String}
    {members : List ExecutionCase} (named : members.map (·.caseId) = ids) (fresh : ∀ caseId ∈ ids, caseId ∉ touched)
    (single : invocation.batch = none → ids.length = 1) :
    Triple (Ready touched []) (registerBatch world invocation ids members >>= fun _ => ids.forM (scenarioCase world setup))
      (fun _ => Ready (ids ++ touched) []) fun _ => Ended := by
  cases batched : invocation.batch with
  | some batch =>
    refine Triple.through (fun _ => Ready (ids ++ touched) ids) ((registerBatch_keeps batched named fresh).weaken
      (fun _ ready => ready) (fun _ _ ready => ready) fun _ _ ready => ready.toEnded) fun _ => ?_
    have calls : Triple (Ready (ids ++ touched) ids) (ids.forM (scenarioCase world setup))
        (fun _ => Ready (ids ++ touched) ids) fun _ => Ended := by
      refine @Triple.forM _ _ _ _ (fun _ => Ready (ids ++ touched) ids) _ _ fun earlier caseId later split => ?_
      have listed : caseId ∈ ids := split ▸ List.mem_append_right _ List.mem_cons_self
      refine (scenarioCase_keeps valid (.inr listed)).weaken (fun _ ready => ready) (fun _ _ ready => ready.mono ?_)
        fun _ _ ended => ended
      exact List.cons_subset.mpr ⟨List.mem_append_left _ listed, List.Subset.refl _⟩
    refine calls.weaken (fun _ ready => ready) (fun _ _ ready => ?_) fun _ _ ended => ended
    exact { ready with registered := fun _ => List.nil_subset _ }
  | none =>
    obtain ⟨caseId, only⟩ := List.length_eq_one_iff.mp (single batched)
    rw [only] at fresh ⊢
    have silent : registerBatch world invocation [caseId] members = inspect >>= fun _ => (pure () : Flow Unit) := by
      unfold registerBatch
      rw [batched]
    rw [silent]
    refine Triple.through (fun _ => Ready touched []) (Triple.inspect fun found ready => Triple.value fun _ same => same ▸ ready)
      fun _ => ?_
    show Triple _ (scenarioCase world setup caseId >>= fun _ => ([] : List String).forM (scenarioCase world setup)) _ _
    refine Triple.bind (scenarioCase_keeps valid (.inl (fresh caseId List.mem_cons_self))) fun _ => ?_
    exact Triple.value fun _ ready => ready

theorem runInvocation_keeps (valid : ∀ action ∈ setup.actions, action.validateFlow = .ok ())
    (fresh : ∀ caseId ∈ invocationIds scenario experimentId invocation, caseId ∉ touched)
    (single : ∀ ids, frozenCaseIds scenario experimentId invocation.id = .ok ids → invocation.batch = none → ids.length = 1) :
    Triple (Ready touched []) (runInvocation world setup digest scenario experimentId invocation)
      (fun _ => Ready (invocationIds scenario experimentId invocation ++ touched) []) fun _ => Ended := by
  refine lift_keeps (fun _ _ ready => ready.toEnded) fun ids frozen => ?_
  rw [invocationIds_eq frozen] at fresh ⊢
  have ended : ∀ (escape : Escape) session, Ready touched [] session → Ended session := fun _ _ ready => ready.toEnded
  refine Triple.bind ((keeps_forM (ids.zip invocation.items) fun pair _ => bindItem_keeps pair).weaken
    (fun _ ready => ready) (fun _ _ ready => ready) ended) fun _ => ?_
  refine Triple.bind ((membersOf_named ids).weaken (fun _ ready => ready) (fun _ _ holds => holds) ended)
    fun members session holds => ?_
  refine Triple.bind (steady_ready.checkBudget.weaken (fun _ ready => ready) (fun _ _ ready => ready) ended) (fun _ => ?_)
    session holds.1
  exact invocationCases_keep valid holds.2 fresh (single ids frozen)

theorem beginCase_keeps (steady : Steady property) (pair : String × ScenarioItem) :
    Keeps property (beginCase world setup pair) := by
  refine keeps_inspect fun found => keeps_bind keeps_entryOf fun entry => keeps_bind keeps_configuredAction fun action => ?_
  by_cases begins : (found.stopped.isNone && pair.2.resourceFrom.isNone && action.createdResource.isNone) = true
  · rw [if_pos begins]
    exact observeOrStop_keeps steady _ _
  · rw [if_neg begins]
    exact keeps_value

theorem changed_keeps (steady : Steady property) (action : FlowAction patterns) (caseId : String) :
    Keeps property (changed action caseId) := by
  unfold changed
  by_cases changing : action.stateChanging = true
  · rw [if_pos changing]
    exact steady.targetAttempted
  · rw [if_neg changing]
    exact keeps_value

theorem recoverNode_keeps (steady : Steady property) (action : FlowAction patterns) (pair : String × ScenarioItem) :
    Keeps property (recoverNode world action pair) := by
  refine keeps_bind (steady.query _) fun _ => ?_
  by_cases made : (pair.2.resourceFrom.isSome || action.createdResource.isSome) = true
  · rw [if_pos made]
    exact steady.observe _
  · rw [if_neg made]
    exact keeps_value

theorem recoverCases_keeps (steady : Steady property) (pairs : List (String × ScenarioItem)) :
    Keeps property (recoverCases world setup pairs) := by
  induction pairs with
  | nil => exact keeps_value
  | cons pair rest ih =>
    refine keeps_bind keeps_entryOf fun entry => keeps_bind keeps_configuredAction fun action => ?_
    refine keeps_bind (changed_keeps steady action _) fun attempted => ?_
    cases attempted with
    | false => exact ih
    | true =>
      refine keeps_bind (keeps_orFalse _ (recoverNode_keeps steady action pair)) fun recovered => ?_
      cases recovered with
      | true => exact ih
      | false => exact keeps_value

theorem closeCase_keeps (steady : Steady property) (pair : String × ScenarioItem) :
    Keeps property (closeCase world setup pair) := by
  refine keeps_bind keeps_entryOf fun entry => keeps_bind keeps_configuredAction fun action => ?_
  refine keeps_bind (changed_keeps steady action _) fun attempted => ?_
  cases attempted with
  | false => exact keeps_value
  | true =>
    refine keeps_bind (keeps_orFalse _ (steady.observe _)) fun restored => ?_
    cases restored with
    | true => exact keeps_value
    | false => exact steady.stop _

/-- The cases of an invocation, under the experiment it belongs to. -/
def declaredIds (scenario : FrozenBusinessScenario) (entry : ScenarioExperiment × ScenarioInvocation) : List String :=
  invocationIds scenario entry.1.id entry.2

/-- No case belongs to two invocations. -/
def Separate (scenario : FrozenBusinessScenario) : List (ScenarioExperiment × ScenarioInvocation) → Prop :=
  List.Pairwise fun first second => List.Disjoint (declaredIds scenario first) (declaredIds scenario second)

/-- An invocation without a batch is one request about one case. -/
def OneCase (scenario : FrozenBusinessScenario) (entry : ScenarioExperiment × ScenarioInvocation) : Prop :=
  ∀ ids, frozenCaseIds scenario entry.1.id entry.2.id = .ok ids → entry.2.batch = none → ids.length = 1

def experimentInvocations (experiment : ScenarioExperiment) : List (ScenarioExperiment × ScenarioInvocation) :=
  experiment.invocations.map fun invocation => (experiment, invocation)

theorem runExperiment_keeps (valid : ∀ action ∈ setup.actions, action.validateFlow = .ok ()) {experiment : ScenarioExperiment}
    (separate : Separate scenario (experimentInvocations experiment))
    (fresh : ∀ entry ∈ experimentInvocations experiment, ∀ caseId ∈ declaredIds scenario entry, caseId ∉ touched)
    (single : ∀ entry ∈ experimentInvocations experiment, OneCase scenario entry) :
    Triple (Ready touched []) (runExperiment world setup digest scenario experiment)
      (fun _ => Ready ((experimentInvocations experiment).flatMap (declaredIds scenario) ++ touched) []) fun _ => Ended := by
  have ended : ∀ {more : List String} (escape : Escape) session, Ready more [] session → Ended session :=
    fun _ _ ready => ready.toEnded
  refine lift_keeps (fun _ _ ready => ready.toEnded) fun items _ => ?_
  refine Triple.bind ((keeps_forM items fun pair _ => beginCase_keeps steady_ready pair).weaken (fun _ ready => ready)
    (fun _ _ ready => ready) ended) fun _ => ?_
  have calls : Triple (Ready touched []) (experiment.invocations.forM (runInvocation world setup digest scenario experiment.id))
      (fun _ => Ready ((experimentInvocations experiment).flatMap (declaredIds scenario) ++ touched) []) fun _ => Ended := by
    refine @Triple.forM _ _ _ _ (fun earlier : List ScenarioInvocation =>
      Ready ((earlier.map fun invocation => (experiment, invocation)).flatMap (declaredIds scenario) ++ touched) [])
      _ _ fun earlier invocation later split => ?_
    have listed : experimentInvocations experiment =
        (earlier.map fun invocation => (experiment, invocation)) ++
          (experiment, invocation) :: later.map fun invocation => (experiment, invocation) := by
      unfold experimentInvocations
      rw [split, List.map_append, List.map_cons]
    have member : (experiment, invocation) ∈ experimentInvocations experiment :=
      listed ▸ List.mem_append_right _ List.mem_cons_self
    have before := (List.pairwise_append.mp (listed ▸ separate)).2.2
    have free : ∀ caseId ∈ invocationIds scenario experiment.id invocation,
        caseId ∉ (earlier.map fun invocation => (experiment, invocation)).flatMap (declaredIds scenario) ++ touched := by
      intro caseId inside used
      cases List.mem_append.mp used with
      | inl now =>
        obtain ⟨entry, passed, shared⟩ := List.mem_flatMap.mp now
        exact before entry passed (experiment, invocation) List.mem_cons_self shared inside
      | inr old => exact fresh _ member caseId inside old
    refine (runInvocation_keeps valid free (single _ member)).weaken (fun _ ready => ready)
      (fun _ _ ready => ready.mono ?_) fun _ _ ended => ended
    intro caseId used
    simp only [List.map_append, List.flatMap_append, List.map_singleton, List.flatMap_singleton, List.mem_append] at used ⊢
    exact used.elim (fun now => .inl (.inr now)) fun old => old.imp_left .inl
  refine Triple.bind calls fun _ => ?_
  refine Triple.bind ((recoverCases_keeps steady_ready items.reverse).weaken (fun _ ready => ready)
    (fun _ _ ready => ready) ended) fun _ => ?_
  exact (keeps_forM items fun pair _ => closeCase_keeps steady_ready pair).weaken (fun _ ready => ready)
    (fun _ _ ready => ready) ended

theorem runScenario_keeps (valid : ∀ action ∈ setup.actions, action.validateFlow = .ok ())
    (separate : Separate scenario (documentInvocations scenario.document))
    (fresh : ∀ entry ∈ documentInvocations scenario.document, ∀ caseId ∈ declaredIds scenario entry, caseId ∉ touched)
    (single : ∀ entry ∈ documentInvocations scenario.document, OneCase scenario entry) :
    Triple (Ready touched []) (runScenario world setup digest scenario) (fun _ => Ended) fun _ => Ended := by
  have order : (sortedBy experimentOrder scenario.document.experiments).flatMap experimentInvocations |>.Perm
      (documentInvocations scenario.document) := (sortedBy_perm _ _).flatMap_right experimentInvocations
  have apart : Separate scenario ((sortedBy experimentOrder scenario.document.experiments).flatMap experimentInvocations) :=
    (order.pairwise_iff fun disjoint => disjoint.symm).mpr separate
  have calls : Triple (Ready touched []) (runScenario world setup digest scenario)
      (fun _ => Ready ((((sortedBy experimentOrder scenario.document.experiments).flatMap experimentInvocations).flatMap
        (declaredIds scenario)) ++ touched) []) fun _ => Ended := by
    refine @Triple.forM _ _ _ _ (fun earlier : List ScenarioExperiment =>
      Ready ((earlier.flatMap experimentInvocations).flatMap (declaredIds scenario) ++ touched) [])
      _ _ fun earlier experiment later split => ?_
    rw [split, List.flatMap_append, List.flatMap_cons] at apart order
    obtain ⟨_, rest, before⟩ := List.pairwise_append.mp apart
    have declared : ∀ entry ∈ experimentInvocations experiment, entry ∈ documentInvocations scenario.document :=
      fun entry inside => order.mem_iff.mp (List.mem_append_right _ (List.mem_append_left _ inside))
    refine (runExperiment_keeps valid (List.pairwise_append.mp rest).1 ?_ fun entry inside =>
      single entry (declared entry inside)).weaken (fun _ ready => ready) (fun _ _ ready => ready.mono ?_) fun _ _ ended => ended
    · intro entry inside caseId listed used
      cases List.mem_append.mp used with
      | inl now =>
        obtain ⟨other, passed, shared⟩ := List.mem_flatMap.mp now
        exact before other passed entry (List.mem_append_left _ inside) shared listed
      | inr old => exact fresh entry (declared entry inside) caseId listed old
    · intro caseId used
      simp only [List.flatMap_append, List.flatMap_singleton, List.mem_append] at used ⊢
      exact used.elim (fun now => .inl (.inr now)) fun old => old.imp_left .inl
  exact calls.weaken (fun _ ready => ready) (fun _ _ ready => ready.toEnded) fun _ _ ended => ended

end Scenarios

section Requests

variable {scenario : FrozenBusinessScenario} {cases : List ExecutionCase}

theorem validateInvocation_ok {experiment : ScenarioExperiment} {invocation : ScenarioInvocation} {seen next : List String}
    (checked : validateInvocation digest scenario cases experiment seen invocation = .ok next) :
    ∃ ids, frozenCaseIds scenario experiment.id invocation.id = .ok ids ∧ ids.length = invocation.items.length ∧
      (∀ id ∈ ids, id ∉ seen) ∧ seen ++ ids = next := by
  unfold validateInvocation at checked
  simp only [bind_eq_ok, require_eq_ok] at checked
  obtain ⟨ids, frozen, _, ⟨sized, fresh⟩, _, _, _, _, _, _, same⟩ := checked
  exact ⟨ids, frozen, sized, fresh, Except.ok.inj same⟩

/-- The walk over the invocations of a scenario: no case is in two of them, each has as many cases as items. -/
theorem walked_separate {entries : List (ScenarioExperiment × ScenarioInvocation)} {seen : List String}
    (walked : entries.foldlM (fun seen entry => validateInvocation digest scenario cases entry.1 seen entry.2) [] = .ok seen) :
    seen = entries.flatMap (declaredIds scenario) ∧ Separate scenario entries ∧
      ∀ entry ∈ entries, ∃ ids, frozenCaseIds scenario entry.1.id entry.2.id = .ok ids ∧
        ids.length = entry.2.items.length := by
  have kept := foldlM_reflecting (fun _ => True) (fun done (seen : List String) =>
      seen = done.flatMap (declaredIds scenario) ∧ Separate scenario done ∧
        ∀ entry ∈ done, ∃ ids, frozenCaseIds scenario entry.1.id entry.2.id = .ok ids ∧
          ids.length = entry.2.items.length) [] (fun _ _ _ _ _ => trivial)
    (fun done seen entry next _ checked _ before => by
      obtain ⟨ids, frozen, sized, fresh, same⟩ := validateInvocation_ok checked
      obtain ⟨earlier, separate, counted⟩ := before
      have own : declaredIds scenario entry = ids := invocationIds_eq frozen
      refine ⟨?_, ?_, ?_⟩
      · rw [← same, earlier, List.flatMap_append, List.flatMap_singleton, own]
      · refine List.pairwise_append.mpr ⟨separate, List.pairwise_singleton _ _, ?_⟩
        intro other passed last here
        rw [List.mem_singleton.mp here, own]
        intro caseId listed inside
        exact fresh caseId inside (earlier ▸ List.mem_flatMap.mpr ⟨other, passed, listed⟩)
      · intro other listed
        cases List.mem_append.mp listed with
        | inl old => exact counted other old
        | inr last =>
          rw [List.mem_singleton.mp last]
          exact ⟨ids, frozen, sized⟩) walked trivial
  exact kept.2 ⟨rfl, List.Pairwise.nil, fun _ none' => absurd none' List.not_mem_nil⟩

/-- What reading a scenario with its request ensures for its run. -/
theorem scenario_separate {actions : List ExecutionAction} (checked : validateScenarioCases digest scenario actions = .ok ())
    (document : scenario.document.validate = .ok ()) :
    Separate scenario (documentInvocations scenario.document) ∧
      (∀ entry ∈ documentInvocations scenario.document, OneCase scenario entry) ∧
      ∀ entry ∈ documentInvocations scenario.document, ∀ caseId ∈ declaredIds scenario entry,
        ∃ case ∈ actions.flatMap (·.cases), case.occurrenceId ≠ none ∧ case.caseId = caseId := by
  unfold validateScenarioCases at checked
  simp only [bind_eq_ok, require_eq_ok] at checked
  obtain ⟨_, _, _, _, seen, walked, _, same, _⟩ := checked
  obtain ⟨used, separate, counted⟩ := walked_separate walked
  refine ⟨separate, ?_, ?_⟩
  · intro entry declared ids frozen plain
    obtain ⟨ids', frozen', sized⟩ := counted entry declared
    rw [frozen] at frozen'
    rw [Except.ok.inj frozen', sized]
    obtain ⟨experiment, listed, member⟩ := List.mem_flatMap.mp declared
    obtain ⟨invocation, inside, built⟩ := List.mem_map.mp member
    unfold BusinessScenarioRevision.validate at document
    obtain ⟨_, read, _⟩ := bind_eq_ok.mp document
    obtain ⟨_, requests, _⟩ := bind_eq_ok.mp (forM_eq_ok.mp read experiment listed)
    have one := forM_eq_ok.mp requests invocation inside
    unfold ScenarioInvocation.oneRequest at one
    obtain ⟨_, lone, _⟩ := bind_eq_ok.mp one
    rw [← built] at plain ⊢
    exact require_eq_ok.mp lone plain
  · intro entry declared caseId listed
    have member : caseId ∈ seen := used ▸ List.mem_flatMap.mpr ⟨entry, declared, listed⟩
    obtain ⟨case, kept, id⟩ := List.mem_map.mp (same.mem_iff.mp member)
    obtain ⟨stored, occurs⟩ := List.mem_filter.mp kept
    exact ⟨case, stored, of_decide_eq_true occurs, id⟩

theorem actionCases_ids (request : ExecutionRequest) :
    (actionCases request).map (·.2) = request.cases := by
  unfold actionCases ExecutionRequest.cases
  rw [List.map_flatMap]
  refine congrArg (request.actions.flatMap ·) (funext fun action => ?_)
  rw [List.map_map]
  exact List.map_id _

theorem plainCases_ids {request : ExecutionRequest} (keyed : (request.cases.map (·.caseId)).Nodup) :
    ((plainCases request).map (·.2.caseId)).Nodup ∧
      ∀ entry ∈ plainCases request, entry.2 ∈ request.cases ∧ entry.2.occurrenceId = none := by
  constructor
  · refine nodup_map_sortedBy.mpr ((List.filter_sublist.map _).nodup ?_)
    rw [← actionCases_ids, List.map_map] at keyed
    exact keyed
  · intro entry listed
    obtain ⟨stored, plain⟩ := List.mem_filter.mp (mem_sortedBy.mp listed)
    exact ⟨actionCases_ids request ▸ List.mem_map_of_mem stored, of_decide_eq_true plain⟩

/-- The plain cases, each of them once. -/
theorem plainCases_keep (valid : ∀ action ∈ setup.actions, action.validateFlow = .ok ())
    (distinct : ((plainCases setup.request).map (·.2.caseId)).Nodup) :
    Triple (Ready [] []) ((plainCases setup.request).forM (plainCase world setup))
      (fun _ => Ready ((plainCases setup.request).map (·.2.caseId)) []) fun _ => Ended := by
  refine @Triple.forM _ _ _ _ (fun earlier : List (String × ExecutionCase) => Ready (earlier.map (·.2.caseId)) [])
    _ _ fun earlier entry later split => ?_
  have fresh : entry.2.caseId ∉ earlier.map (·.2.caseId) := by
    rw [split, List.map_append, List.map_cons] at distinct
    intro used
    exact (List.nodup_append.mp distinct).2.2 _ used _ List.mem_cons_self rfl
  refine Triple.bind (steady_ready.checkBudget.weaken (fun _ ready => ready) (fun _ _ ready => ready)
    fun _ _ ready => ready.toEnded) fun _ => ?_
  refine (runCase_keeps valid entry.1 entry.2 false (.inl fresh)).weaken (fun _ ready => ready)
    (fun _ _ ready => ready.mono ?_) fun _ _ ended => ended
  rw [List.map_append, List.map_singleton]
  exact List.cons_subset.mpr ⟨List.mem_append_right _ List.mem_cons_self, List.subset_append_left _ _⟩

theorem opened_ready : Ready [] [] (opened setup) where
  safe := safe_nil
  known := fun _ targeted => absurd targeted.choose_spec.1 List.not_mem_nil
  within := fun _ seen => seen.elim (fun targeted => absurd targeted.choose_spec.1 List.not_mem_nil)
    fun failed => absurd failed List.not_mem_nil
  grouped := fun _ stored => absurd stored List.not_mem_nil
  members := fun _ _ found => by cases found
  apart := fun _ _ _ _ found => by cases found
  unused := fun _ _ found => by cases found
  registered := fun _ => List.nil_subset _
  named := by
    intro entry stored
    have rows : (opened setup).byCase = ((actionCases setup.request).map fun entry => (entry.2.caseId, entry)).foldl
        (Table.put Prod.fst) [] := by
      rw [List.foldl_map]
      rfl
    rw [rows] at stored
    cases Table.mem_foldl_put stored with
    | inl listed =>
      obtain ⟨source, _, same⟩ := List.mem_map.mp listed
      rw [← same]
    | inr old => exact absurd old.1 List.not_mem_nil

/-- A whole run: whatever happens around it, everything it does is allowed when it happens. -/
theorem finished_ended (valid : ∀ action ∈ setup.actions, action.validateFlow = .ok ())
    (accepted : setup.request.validate digest = .ok ())
    (documents : ∀ scenario ∈ setup.request.scenario, scenario.document.validate = .ok ()) :
    Ended (finished world setup digest) := by
  unfold ExecutionRequest.validate at accepted
  obtain ⟨_, _, accepted⟩ := bind_eq_ok.mp accepted
  obtain ⟨_, project, _⟩ := bind_eq_ok.mp accepted
  unfold ExecutionRequest.validateProject at project
  simp only [bind_eq_ok, require_eq_ok] at project
  obtain ⟨_, _, _, _, _, _, _, _, _, _, _, keyed, _, _, checked⟩ := project
  obtain ⟨distinct, plain⟩ := plainCases_ids keyed
  have runs : Triple (Ready [] []) (execute world setup digest) (fun _ => Ended) fun _ => Ended := by
    refine Triple.bind (plainCases_keep valid distinct) fun _ => ?_
    cases given : setup.request.scenario with
    | none => exact Triple.value fun _ ready => ready.toEnded
    | some scenario =>
      rw [given] at checked
      obtain ⟨_, checked, _⟩ := bind_eq_ok.mp checked
      obtain ⟨separate, single, known⟩ := scenario_separate checked (documents scenario given)
      refine runScenario_keeps valid separate ?_ single
      intro entry declared caseId listed used
      obtain ⟨case, stored, occurs, id⟩ := known entry declared caseId listed
      obtain ⟨plainEntry, member, same⟩ := List.mem_map.mp used
      obtain ⟨stored', plainly⟩ := plain plainEntry member
      have one : case = plainEntry.2 := Table.Keyed.eq_of_mem keyed stored stored' (id.trans same.symm)
      exact occurs (one ▸ plainly)
  exact runs.run opened_ready (fun _ _ ended => ended) fun _ _ ended => ended

/-- What is claimed of a run by its end: no two TARGET requests act for one case, every request comes after the set-up
steps it needs, `target_attempted` says yes once a TARGET may have been sent, and none follows a failed call. -/
structure TargetSafe (session : Session) : Prop where
  once : ∀ earlier first middle second later,
    session.log = earlier ++ .sent first :: (middle ++ .sent second :: later) → first.step.purpose = .TARGET →
      second.step.purpose = .TARGET → List.Disjoint first.members second.members
  ordered : ∀ earlier sending later, session.log = earlier ++ .sent sending :: later → InOrder earlier sending
  answered : ∀ earlier caseId answer later, session.log = earlier ++ .attempted caseId answer :: later →
    Targeted earlier caseId → answer = true
  attempted : ∀ caseId, Targeted session.log caseId → caseId ∈ session.executed
  none_after_failure : ∀ earlier caseId later, session.log = earlier ++ .failed caseId :: later → ¬Targeted later caseId

theorem ended_safe (ended : Ended session) : TargetSafe session where
  once := by
    intro earlier first middle second later split target target' caseId one other
    have allowed := ended.safe (earlier ++ .sent first :: middle) (.sent second) later (by rw [split]; simp)
    refine (allowed.2 target' caseId other).1 ⟨first, ?_, target, one⟩
    exact List.mem_append_right _ List.mem_cons_self
  ordered := fun earlier sending later split => (ended.safe earlier (.sent sending) later split).1
  answered := fun earlier caseId answer later split => ended.safe earlier (.attempted caseId answer) later split
  attempted := ended.known
  none_after_failure := by
    intro earlier caseId later split targeted
    obtain ⟨sending, sent, target, inside⟩ := targeted
    obtain ⟨middle, rest, built⟩ := List.append_of_mem sent
    have allowed := ended.safe (earlier ++ .failed caseId :: middle) (.sent sending) rest (by rw [split, built]; simp)
    exact (allowed.2 target caseId inside).2 (List.mem_append_right _ List.mem_cons_self)

/-- Whatever the network, the journal, the callbacks and the extraction do, a run sends the TARGET of a case once at most,
after its set-up steps, and never after a failed call; the builder's order keeps what each step waits for before it. -/
theorem target_sent_once (world : World) (setup : Setup patterns) (digest : Digest)
    (flows : ∀ action ∈ setup.actions, action.validateFlow = .ok ())
    (accepted : setup.request.validate digest = .ok ())
    (documents : ∀ scenario ∈ setup.request.scenario, scenario.document.validate = .ok ()) :
    TargetSafe (finished world setup digest) ∧ ∀ flow steps, orderedSteps flow = .ok steps →
      steps.Perm (pendingSteps flow) ∧ Precedes (·.dependsOnStepIds) steps :=
  ⟨ended_safe (finished_ended flows accepted documents), fun _ _ ordered => orderedSteps_ordered ordered⟩

end Requests

section Sample

open Checks.BatchSending Protocol.Pairs

def archiveFlow : FlowAction plainPatterns where
  actionId := "archive"
  actionRevision := 1
  actionSemanticFingerprint := ""
  displayName := "archive"
  stateChanging := false
  proofs := []
  steps := [⟨⟨"target", .TARGET, archiveTemplate⟩, []⟩]
  accepted := by
    intro step member
    rw [List.mem_singleton.mp member]
    rfl

def archiveSetup : Setup plainPatterns where
  actions := [archiveFlow]
  request := pairRequest textDigest "archive" (deniedCase "resource" [decisiveProof textDigest "resource"])
    (ownersCase "resource" [decisiveProof textDigest "resource"]) none

/-- A world in which everything goes well. -/
def calmWorld : World where
  passes := fun _ _ => .ok ()
  verify := fun _ _ => .ok .MATCH
  secret := fun _ => none
  extract := fun _ _ _ => .ok .null
  receipt := fun _ => ("", "")
  answer := fun _ _ => .ok (.ACCEPTED, ⟨200, .dict [], false⟩)
  observe := fun _ _ _ => .ok true
  produced := fun _ _ => none
  stops := fun _ => none

theorem archive_sent_once : TargetSafe (finished calmWorld archiveSetup textDigest) ∧ ∀ flow steps,
    orderedSteps flow = .ok steps → steps.Perm (pendingSteps flow) ∧ Precedes (·.dependsOnStepIds) steps := by
  refine target_sent_once calmWorld archiveSetup textDigest ?_ ?_ ?_
  · intro action member
    rw [List.mem_singleton.mp member]
    rfl
  · exact pairRequest_accepted (sample_opposed sample_decisive) (deniedCase_valid sample_decisive)
      (ownersCase_valid sample_decisive)
  · intro scenario given
    cases given

end Sample

end Jiejian.Execution.TargetSafety
