import Jiejian.Execution.CheckRuntime

namespace Jiejian.Execution.StepCalls

open Library Library.Outcome Library.Stateful Errors Protocol.Cases Protocol.Scenarios Web.Templates Web.Rendering
open Checks.BatchRequests Checks.FlowSteps Verification.Models CheckRuntime

section Histories

/-- A TARGET that acts for the case may have been sent. -/
def Targeted (log : List Event) (caseId : String) : Prop :=
  ∃ sending, .sent sending ∈ log ∧ sending.step.purpose = .TARGET ∧ caseId ∈ sending.members

/-- The steps sent by the present call, after one more event. -/
def advance (steps : List FlowStep) : Event → List FlowStep
  | .started _ => []
  | .sent sending => steps ++ [sending.step]
  | _ => steps

/-- The steps that the present call has sent. -/
def stepsSince (log : List Event) : List FlowStep := log.foldl advance []

/-- The request is the next one of its call: the set-up steps before it are sent, in their order, and with them
everything that makes a value it reads; a TARGET is the last. -/
structure InOrder (earlier : List Event) (sending : Sending) : Prop where
  place : ∃ later, sending.steps = stepsSince earlier ++ sending.step :: later ∧
    (sending.step.purpose = .TARGET → later = [])
  setups : ∀ step ∈ stepsSince earlier, step.purpose = .SETUP
  producers : sending.step.producers ⊆ (stepsSince earlier).map (·.stepId)

/-- No TARGET was sent for these cases yet, and none of their calls has failed. -/
def Untouched (log : List Event) (members : List String) : Prop :=
  ∀ member ∈ members, ¬Targeted log member ∧ .failed member ∉ log

/-- What may happen after what has happened. -/
def Allowed (earlier : List Event) : Event → Prop
  | .sent sending => InOrder earlier sending ∧ (sending.step.purpose = .TARGET → Untouched earlier sending.members)
  | .attempted caseId answer => Targeted earlier caseId → answer = true
  | _ => True

/-- Everything in the log was allowed when it happened. -/
def Safe (log : List Event) : Prop :=
  ∀ earlier event later, log = earlier ++ event :: later → Allowed earlier event

variable {log : List Event} {event : Event} {caseId : String}

theorem safe_nil : Safe [] := by
  intro earlier event later split
  cases earlier <;> cases split

theorem Safe.snoc (safe : Safe log) (allowed : Allowed log event) : Safe (log ++ [event]) := by
  intro earlier other later split
  cases List.eq_nil_or_concat later with
  | inl last =>
    rw [last] at split
    obtain ⟨same, end'⟩ := List.append_inj' split rfl
    rw [← same, ← List.singleton_inj.mp end']
    exact allowed
  | inr more =>
    obtain ⟨rest, final, built⟩ := more
    rw [built, List.concat_eq_append, ← List.cons_append, ← List.append_assoc] at split
    exact safe earlier other rest (List.append_inj' split rfl).1

theorem stepsSince_snoc : stepsSince (log ++ [event]) = advance (stepsSince log) event := by
  unfold stepsSince
  rw [List.foldl_append]
  rfl

/-- Only a TARGET request makes more cases targeted. -/
theorem targeted_snoc (targeted : Targeted (log ++ [event]) caseId) : Targeted log caseId ∨
    ∃ sending, event = .sent sending ∧ sending.step.purpose = .TARGET ∧ caseId ∈ sending.members := by
  obtain ⟨sending, member, target, inside⟩ := targeted
  cases List.mem_append.mp member with
  | inl before => exact .inl ⟨sending, before, target, inside⟩
  | inr last => exact .inr ⟨sending, (List.mem_singleton.mp last).symm, target, inside⟩

theorem targeted_other (other : ∀ sending, event ≠ .sent sending) (targeted : Targeted (log ++ [event]) caseId) :
    Targeted log caseId := by
  cases targeted_snoc targeted with
  | inl before => exact before
  | inr sent => exact absurd sent.choose_spec.1 (other _)

theorem failed_snoc (other : event ≠ .failed caseId) (failed : .failed caseId ∈ log ++ [event]) : .failed caseId ∈ log := by
  cases List.mem_append.mp failed with
  | inl before => exact before
  | inr last => exact absurd (List.mem_singleton.mp last).symm other

end Histories

section Calls

variable {patterns : Patterns} {world : World} {walk : Walk} {start session : Session} {before rest : List FlowStep}

/-- What one call of `execute_steps` leaves, at any point of it. -/
structure Held (walk : Walk) (start session : Session) : Prop where
  safe : Safe session.log
  groups : session.groups = start.groups
  batchGroups : session.batchGroups = start.batchGroups
  stopped : session.stopped = start.stopped
  byCase : session.byCase = start.byCase
  failed : ∀ caseId, .failed caseId ∈ session.log → .failed caseId ∈ start.log
  executed : start.executed ⊆ session.executed
  targeted : ∀ caseId, Targeted session.log caseId →
    Targeted start.log caseId ∨ (caseId ∈ walk.members ∧ walk.case.caseId ∈ session.executed)

/-- A call that has sent these steps, none of them a TARGET. -/
structure Walking (walk : Walk) (start : Session) (before : List FlowStep) (session : Session) : Prop extends
    Held walk start session where
  quiet : ∀ caseId, Targeted session.log caseId → Targeted start.log caseId
  steps : stepsSince session.log = before

theorem Held.asked (held : Held walk start session) (question : Question) :
    Held walk start { session with log := session.log ++ [.asked question] } where
  safe := held.safe.snoc trivial
  groups := held.groups
  batchGroups := held.batchGroups
  stopped := held.stopped
  byCase := held.byCase
  failed := fun caseId failed => held.failed caseId (failed_snoc (fun same => by cases same) failed)
  executed := held.executed
  targeted := fun caseId targeted => held.targeted caseId (targeted_other (fun _ same => by cases same) targeted)

theorem Walking.asked (walking : Walking walk start before session) (question : Question) :
    Walking walk start before { session with log := session.log ++ [.asked question] } where
  toHeld := walking.toHeld.asked question
  quiet := fun caseId targeted => walking.quiet caseId (targeted_other (fun _ same => by cases same) targeted)
  steps := stepsSince_snoc.trans walking.steps

/-- The property is about nothing that a question changes. -/
def Asks (property : Session → Prop) : Prop :=
  ∀ session question, property session → property { session with log := session.log ++ [.asked question] }

variable {property : Session → Prop} {failed : Escape → Session → Prop}

theorem record_asked (asks : Asks property) (question : Question) :
    Triple property (record (.asked question)) (fun _ => property) failed :=
  Triple.change fun session holds => asks session question holds

theorem query_keeps (asks : Asks property) (fails : ∀ escape session, property session → failed escape session)
    (question : Question) : Triple property (query world question) (fun _ => property) failed :=
  Triple.bind (record_asked asks question) fun _ => Triple.ask fails

theorem verifyIdentity_keeps (asks : Asks property) (fails : ∀ escape session, property session → failed escape session)
    (caseId : String) : Triple property (verifyIdentity world caseId) (fun _ => property) failed :=
  Triple.bind (record_asked asks _) fun _ => Triple.ask fails

theorem extractValue_keeps (asks : Asks property) (fails : ∀ escape session, property session → failed escape session)
    (response : HttpResponse) (slot : ValueSlot) :
    Triple property (extractValue world response slot) (fun _ => property) failed :=
  Triple.bind (record_asked asks _) fun _ => Triple.ask fails

theorem rawValue_keeps (asks : Asks property) (fails : ∀ escape session, property session → failed escape session)
    (case : ExecutionCase) (responses : List (String × HttpResponse)) (slot : ValueSlot) :
    Triple property (rawValue world case responses slot) (fun _ => property) failed := by
  unfold rawValue
  cases slot.source with
  | CASE_RESOURCE_ID => exact Triple.value fun _ holds => holds
  | CASE_SUBJECT_ID => exact Triple.value fun _ holds => holds
  | FIXED_LITERAL => exact Triple.value fun _ holds => holds
  | SECRET_REF => exact Triple.value fun _ holds => holds
  | _ =>
    dsimp only
    cases Table.lookup Prod.fst responses (slot.producerStepId.getD "") with
    | none => exact Triple.raise fun session holds => fails _ session holds
    | some produced => exact extractValue_keeps asks fails produced.2 slot

theorem slotValues_keeps (asks : Asks property) (fails : ∀ escape session, property session → failed escape session)
    (case : ExecutionCase) (responses : List (String × HttpResponse)) (values : SlotValues) (slots : List ValueSlot) :
    Triple property (slotValues world case responses values slots) (fun _ => property) failed := by
  induction slots generalizing values with
  | nil => exact Triple.value fun _ holds => holds
  | cons slot slots ih =>
    refine Triple.through (fun _ => property) ?_ fun grown => ih grown
    refine Triple.bind (rawValue_keeps asks fails case responses slot) fun value => ?_
    by_cases fits : fitsSlot slot value = true
    · rw [if_pos fits]
      exact Triple.value fun _ holds => holds
    · rw [if_neg fits]
      exact Triple.raise fun session holds => fails _ session holds

/-- The same call, as far as anything is said of it. -/
theorem Held.same {other : Session} (held : Held walk start session) (log : other.log = session.log)
    (groups : other.groups = session.groups) (batchGroups : other.batchGroups = session.batchGroups)
    (stopped : other.stopped = session.stopped) (byCase : other.byCase = session.byCase)
    (executed : session.executed ⊆ other.executed) : Held walk start other where
  safe := log ▸ held.safe
  groups := groups.trans held.groups
  batchGroups := batchGroups.trans held.batchGroups
  stopped := stopped.trans held.stopped
  byCase := byCase.trans held.byCase
  failed := fun caseId failed => held.failed caseId (log ▸ failed)
  executed := List.Subset.trans held.executed executed
  targeted := fun caseId targeted =>
    (held.targeted caseId (log ▸ targeted)).imp_right fun sent => ⟨sent.1, executed sent.2⟩

theorem Walking.same {other : Session} (walking : Walking walk start before session) (log : other.log = session.log)
    (groups : other.groups = session.groups) (batchGroups : other.batchGroups = session.batchGroups)
    (stopped : other.stopped = session.stopped) (byCase : other.byCase = session.byCase)
    (executed : session.executed ⊆ other.executed) : Walking walk start before other where
  toHeld := walking.toHeld.same log groups batchGroups stopped byCase executed
  quiet := fun caseId targeted => walking.quiet caseId (log ▸ targeted)
  steps := by rw [log]; exact walking.steps

/-- The next request of a call that has everything before it. -/
theorem Walking.inOrder (walking : Walking walk start before session) (arranged : Arranged walk.steps) {step : FlowStep}
    {values : SlotValues} (split : walk.steps = before ++ step :: rest) :
    InOrder session.log ⟨walk.case.caseId, walk.members, walk.steps, step, values⟩ := by
  obtain ⟨setups, target, steps, purpose, others⟩ := arranged.target
  have setup : ∀ other ∈ before, other.purpose = .SETUP := by
    intro other member
    have listed : setups ++ [target] = before ++ step :: rest := steps.symm.trans split
    cases List.eq_nil_or_concat rest with
    | inl last =>
      rw [last] at listed
      exact others other ((List.append_inj' listed rfl).1 ▸ member)
    | inr more =>
      obtain ⟨inner, final, built⟩ := more
      rw [built, List.concat_eq_append, ← List.cons_append, ← List.append_assoc] at listed
      exact others other ((List.append_inj' listed rfl).1 ▸ List.mem_append_left _ member)
  refine ⟨⟨rest, ?_, ?_⟩, ?_, ?_⟩
  · rw [walking.steps]
    exact split
  · intro isTarget
    have listed : setups ++ [target] = before ++ step :: rest := steps.symm.trans split
    cases List.eq_nil_or_concat rest with
    | inl last => exact last
    | inr more =>
      obtain ⟨inner, final, built⟩ := more
      rw [built, List.concat_eq_append, ← List.cons_append, ← List.append_assoc] at listed
      have inside : step ∈ setups :=
        (List.append_inj' listed rfl).1 ▸ List.mem_append_right _ List.mem_cons_self
      have clash : step.purpose = .SETUP := others step inside
      rw [isTarget] at clash
      cases clash
  · rw [walking.steps]
    exact setup
  · rw [walking.steps]
    exact arranged.producers before step rest split

/-- What the call leaves after one exchange: a set-up step is one step more, a TARGET has acted for the members. -/
def Exchanged (walk : Walk) (start : Session) (before : List FlowStep) (step : FlowStep) (session : Session) : Prop :=
  Held walk start session ∧ (step.purpose = .SETUP → Walking walk start (before ++ [step]) session)

theorem executeDetailed_keeps (arranged : Arranged walk.steps) (untouched : Untouched start.log walk.members) {step : FlowStep}
    (split : walk.steps = before ++ step :: rest) (responses : List (String × HttpResponse)) :
    Triple (fun session => Walking walk start before session ∧
        (step.purpose = .TARGET → walk.case.caseId ∈ session.executed))
      (executeDetailed world walk step responses) (fun _ => Exchanged walk start before step)
      (fun _ => Held walk start) := by
  have asks : Asks fun session => Walking walk start before session ∧
      (step.purpose = .TARGET → walk.case.caseId ∈ session.executed) :=
    fun session question holds => ⟨holds.1.asked question, holds.2⟩
  have fails : ∀ (escape : Escape) session, (Walking walk start before session ∧
      (step.purpose = .TARGET → walk.case.caseId ∈ session.executed)) → Held walk start session :=
    fun _ _ holds => holds.1.toHeld
  unfold executeDetailed
  refine Triple.bind (slotValues_keeps asks fails _ _ _ _) fun values => ?_
  refine Triple.bind (query_keeps asks fails _) fun _ => ?_
  refine Triple.through (fun _ session => Walking walk start before session ∧
      (step.purpose = .TARGET → walk.case.caseId ∈ session.executed))
    (Triple.change fun session holds => ⟨holds.1.same rfl rfl rfl rfl rfl (List.Subset.refl _), holds.2⟩) fun _ => ?_
  refine Triple.bind (query_keeps asks fails _) fun _ => ?_
  refine Triple.through (fun _ => Exchanged walk start before step)
    (Triple.change fun session holds => ?_) fun _ => Triple.ask fun _ _ holds => holds.1
  obtain ⟨walking, marked⟩ := holds
  have allowed : Allowed session.log (.sent ⟨walk.case.caseId, walk.members, walk.steps, step, values⟩) := by
    refine ⟨walking.inOrder arranged split, ?_⟩
    intro isTarget member inside
    refine ⟨fun targeted => (untouched member inside).1 (walking.quiet member targeted), ?_⟩
    exact fun failed => (untouched member inside).2 (walking.failed member failed)
  have held : Held walk start { session with log := session.log ++
      [.sent ⟨walk.case.caseId, walk.members, walk.steps, step, values⟩] } := by
    refine ⟨walking.safe.snoc allowed, walking.groups, walking.batchGroups, walking.stopped, walking.byCase, ?_, walking.executed, ?_⟩
    · exact fun caseId failed => walking.failed caseId (failed_snoc (fun same => by cases same) failed)
    · intro caseId targeted
      cases targeted_snoc targeted with
      | inl earlier => exact .inl (walking.quiet caseId earlier)
      | inr sent =>
        obtain ⟨sending, same, isTarget, inside⟩ := sent
        cases same
        exact .inr ⟨inside, marked isTarget⟩
  refine ⟨held, fun setup => ⟨held, ?_, ?_⟩⟩
  · intro caseId targeted
    cases targeted_snoc targeted with
    | inl earlier => exact walking.quiet caseId earlier
    | inr sent =>
      obtain ⟨sending, same, isTarget, _⟩ := sent
      cases same
      rw [setup] at isTarget
      cases isTarget
  · rw [stepsSince_snoc, walking.steps]
    rfl

theorem confirmIdentity_keeps {property : Session → Prop} {failed : Escape → Session → Prop} (asks : Asks property)
    (fails : ∀ escape session, property session → failed escape session) :
    Triple property (confirmIdentity world walk) (fun _ => property) failed := by
  unfold confirmIdentity
  by_cases verifies : walk.verifies = true
  · rw [if_pos verifies]
    exact Triple.bind (verifyIdentity_keeps asks fails _) fun _ => Triple.value fun _ holds => holds
  · rw [if_neg verifies]
    exact Triple.value fun _ holds => holds

theorem held_asks : Asks (Held walk start) := fun _ question held => held.asked question

theorem walking_asks : Asks (Walking walk start before) := fun _ question walking => walking.asked question

theorem mem_marked {caseId : String} {executed : List String} :
    caseId ∈ (if caseId ∈ executed then executed else executed ++ [caseId]) := by
  by_cases listed : caseId ∈ executed
  · rw [if_pos listed]
    exact listed
  · rw [if_neg listed]
    exact List.mem_append_right _ List.mem_cons_self

theorem subset_marked {caseId : String} {executed : List String} :
    executed ⊆ (if caseId ∈ executed then executed else executed ++ [caseId]) := by
  by_cases listed : caseId ∈ executed
  · rw [if_pos listed]
    exact List.Subset.refl _
  · rw [if_neg listed]
    exact List.subset_append_left _ _

/-- The callbacks before the TARGET change nothing that is said of a call. -/
def Checks (checks : Option MatchStatus → Flow Unit) : Prop :=
  ∀ actual (property : Session → Prop) (failed : Escape → Session → Prop), Asks property →
    (∀ escape session, property session → failed escape session) →
    Triple property (checks actual) (fun _ => property) failed

theorem targetStep_keeps (arranged : Arranged walk.steps) (untouched : Untouched start.log walk.members)
    {checks : Option MatchStatus → Flow Unit} (silent : Checks checks) {step : FlowStep}
    (split : walk.steps = before ++ step :: rest) (responses : List (String × HttpResponse)) :
    Triple (Walking walk start before) (targetStep world walk checks step responses) (fun _ => Held walk start)
      (fun _ => Held walk start) := by
  have fails : ∀ (escape : Escape) session, Walking walk start before session → Held walk start session :=
    fun _ _ walking => walking.toHeld
  have keeps : ∀ (escape : Escape) session, Held walk start session → Held walk start session := fun _ _ held => held
  unfold targetStep
  refine Triple.bind (confirmIdentity_keeps walking_asks fails) fun identity => ?_
  refine Triple.through (fun _ => Walking walk start before)
    (Triple.change fun session walking => walking.same rfl rfl rfl rfl rfl (List.Subset.refl _)) fun _ => ?_
  refine Triple.bind (silent identity _ _ walking_asks fails) fun _ => ?_
  refine Triple.bind (query_keeps walking_asks fails _) fun _ => ?_
  refine Triple.through (fun _ session => Walking walk start before session ∧
      (step.purpose = .TARGET → walk.case.caseId ∈ session.executed))
    (Triple.change fun session walking => ⟨walking.same rfl rfl rfl rfl rfl subset_marked, fun _ => mem_marked⟩) fun _ => ?_
  refine Triple.through (fun _ session => Walking walk start before session ∧
      (step.purpose = .TARGET → walk.case.caseId ∈ session.executed))
    (Triple.change fun session holds => ⟨holds.1.same rfl rfl rfl rfl rfl (List.Subset.refl _), holds.2⟩) fun _ => ?_
  refine Triple.through (fun _ => Held walk start) ?_ fun answered => ?_
  · have receipt : ∀ (failed : Escape → Session → Prop), Triple (Held walk start) (keepReceipt walk)
        (fun _ => Held walk start) failed :=
      fun failed => Triple.change fun session held => held.same rfl rfl rfl rfl rfl (List.Subset.refl _)
    refine @Triple.always _ _ _ _ _ _ _ _ (fun _ => Held walk start) (fun _ => Held walk start) ?_
      (fun _ => receipt _) (fun _ => receipt _)
    refine Triple.attempt ((executeDetailed_keeps arranged untouched split responses).weaken (fun _ holds => holds)
      (fun _ _ exchanged => exchanged.1) keeps) fun escape => ?_
    cases escape with
    | jiejian code =>
      exact Triple.bind (query_keeps held_asks keeps _) fun _ => Triple.raise fun _ held => held
    | other raised => exact Triple.raise fun _ held => held
  · refine Triple.through (fun _ => Held walk start)
      (Triple.change fun session held => held.same rfl rfl rfl rfl rfl (List.Subset.refl _)) fun _ => ?_
    exact Triple.bind (query_keeps held_asks keeps _) fun _ => Triple.value fun _ held => held

/-- The loop: the steps left are those that were not sent, and everything sent is a set-up step. -/
theorem runSteps_keeps (arranged : Arranged walk.steps) (untouched : Untouched start.log walk.members)
    {checks : Option MatchStatus → Flow Unit} (silent : Checks checks) (split : walk.steps = before ++ rest)
    (responses : List (String × HttpResponse)) :
    Triple (Walking walk start before) (runSteps world walk checks responses rest) (fun _ => Held walk start)
      (fun _ => Held walk start) := by
  induction rest generalizing before responses with
  | nil => exact Triple.raise fun _ walking => walking.toHeld
  | cons step rest ih =>
    unfold runSteps
    cases purpose : step.purpose with
    | TARGET => exact targetStep_keeps arranged untouched silent split responses
    | SETUP =>
      dsimp only
      refine Triple.through (fun _ => Walking walk start (before ++ [step]))
        ((executeDetailed_keeps arranged untouched split responses).weaken ?_
          (fun _ _ exchanged => exchanged.2 purpose) fun _ _ held => held) fun answered => ?_
      · intro session walking
        refine ⟨walking, fun isTarget => ?_⟩
        rw [purpose] at isTarget
        cases isTarget
      · by_cases accepted : answered.1 = .ACCEPTED
        · rw [if_pos accepted]
          refine ih ?_ _
          rw [List.append_assoc, List.singleton_append]
          exact split
        · rw [if_neg accepted]
          exact Triple.raise fun _ walking => walking.toHeld

/-- One call: where nothing was sent for its members yet, all it does is allowed. -/
theorem executeSteps_keeps (arranged : Arranged walk.steps) (safe : Safe start.log)
    (untouched : walk.case.caseId ∉ start.executed → Untouched start.log walk.members)
    {checks : Option MatchStatus → Flow Unit} (silent : Checks checks) :
    Triple (fun session => session = start) (executeSteps world walk checks) (fun _ => Held walk start)
      (fun _ => Held walk start) := by
  have held : Held walk start start :=
    ⟨safe, rfl, rfl, rfl, rfl, fun _ failed => failed, List.Subset.refl _, fun _ targeted => .inl targeted⟩
  unfold executeSteps
  refine Triple.inspect fun found same => ?_
  rw [same]
  by_cases executed : walk.case.caseId ∈ start.executed
  · rw [if_pos executed]
    exact Triple.raise fun _ same' => same' ▸ held
  · rw [if_neg executed]
    refine Triple.through (fun _ => Walking walk start []) (Triple.change fun session same' => ?_) fun _ => ?_
    · rw [same']
      have begun : ∀ caseId, Targeted (start.log ++ [.started walk.case.caseId]) caseId → Targeted start.log caseId :=
        fun caseId targeted => targeted_other (fun _ clash => by cases clash) targeted
      refine ⟨⟨safe.snoc trivial, rfl, rfl, rfl, rfl, ?_, List.Subset.refl _, fun caseId targeted => .inl (begun caseId targeted)⟩,
        begun, stepsSince_snoc⟩
      exact fun caseId failed => failed_snoc (fun clash => by cases clash) failed
    · refine Triple.bind (query_keeps walking_asks (fun _ _ walking => walking.toHeld) _) fun _ => ?_
      exact runSteps_keeps arranged (untouched executed) silent rfl []

end Calls

end Jiejian.Execution.StepCalls
