import Jiejian.Execution.StepCalls

namespace Jiejian.Execution.BatchCalls

open Library Library.Outcome Library.Stateful Errors Protocol.Cases Protocol.Scenarios Web.Templates Web.Rendering
open Checks.BatchRequests Checks.FlowSteps Verification.Models CheckRuntime StepCalls

section Batches

variable {patterns : Patterns} {world : World} {start session : Session} {touched batched : List String} {caseId : String}

def Group.ids (group : Group) : List String := group.cases.map (·.caseId)

/-- Nothing came of the batch yet. -/
def Unused (group : Group) : Prop := group.result = none ∧ group.error = none

/-- What is known of every case that may have been sent. -/
structure Ended (session : Session) : Prop where
  safe : Safe session.log
  known : ∀ caseId, Targeted session.log caseId → caseId ∈ session.executed

/-- The batches in order: each case belongs to one at most, an unused one has touched none of its cases, and those
that are to be sent in a batch are registered, unless the run is stopped. -/
structure Orderly (touched batched : List String) (session : Session) : Prop where
  within : ∀ caseId, Targeted session.log caseId ∨ .failed caseId ∈ session.log → caseId ∈ touched
  grouped : ∀ entry ∈ session.batchGroups, ∃ group, session.groups[entry.2]? = some group ∧ entry.1 ∈ Group.ids group
  members : ∀ (index : Nat) group, session.groups[index]? = some group → Group.ids group ⊆ touched
  apart : ∀ (first second : Nat) group other, session.groups[first]? = some group →
    session.groups[second]? = some other → first ≠ second → ∀ caseId ∈ Group.ids group, caseId ∉ Group.ids other
  unused : ∀ (index : Nat) group, session.groups[index]? = some group → Unused group →
    Untouched session.log (Group.ids group)
  registered : session.stopped = none → batched ⊆ session.batchGroups.map Prod.fst
  named : ∀ entry ∈ session.byCase, entry.2.2.caseId = entry.1

/-- Between two calls. -/
structure Ready (touched batched : List String) (session : Session) : Prop extends
    Ended session, Orderly touched batched session

/-- A call that raised: after a stable error the run may go on, after any other it is over. -/
def Broken (touched batched : List String) (escape : Escape) (session : Session) : Prop :=
  Ended session ∧ ∀ code, escape = .jiejian code → Ready touched batched session

/-- The log may have grown, but not by requests or failures, and the run may be stopped. -/
structure Alike (session other : Session) : Prop where
  targeted : ∀ caseId, Targeted other.log caseId → Targeted session.log caseId
  failed : ∀ caseId, .failed caseId ∈ other.log → .failed caseId ∈ session.log
  groups : other.groups = session.groups
  batchGroups : other.batchGroups = session.batchGroups
  stopped : other.stopped = none → session.stopped = none
  byCase : other.byCase = session.byCase

theorem alike_of_log {other : Session} (log : other.log = session.log) (groups : other.groups = session.groups)
    (batchGroups : other.batchGroups = session.batchGroups) (stopped : other.stopped = none → session.stopped = none)
    (byCase : other.byCase = session.byCase) : Alike session other :=
  ⟨fun _ targeted => log ▸ targeted, fun _ failed => log ▸ failed, groups, batchGroups, stopped, byCase⟩

theorem alike_asked (session : Session) (question : Question) :
    Alike session { session with log := session.log ++ [.asked question] } :=
  ⟨fun _ targeted => targeted_other (fun _ same => by cases same) targeted,
    fun _ failed => failed_snoc (fun same => by cases same) failed, rfl, rfl, id, rfl⟩

theorem alike_attempted (session : Session) (caseId : String) (answer : Bool) :
    Alike session { session with log := session.log ++ [.attempted caseId answer] } :=
  ⟨fun _ targeted => targeted_other (fun _ same => by cases same) targeted,
    fun _ failed => failed_snoc (fun same => by cases same) failed, rfl, rfl, id, rfl⟩

theorem Orderly.alike {other : Session} (orderly : Orderly touched batched session) (alike : Alike session other) :
    Orderly touched batched other where
  within := fun caseId seen => orderly.within caseId (seen.imp (alike.targeted caseId) (alike.failed caseId))
  grouped := by
    rw [alike.groups, alike.batchGroups]
    exact orderly.grouped
  members := by
    rw [alike.groups]
    exact orderly.members
  apart := by
    rw [alike.groups]
    exact orderly.apart
  unused := by
    rw [alike.groups]
    intro index group found unused member inside
    have untouched := orderly.unused index group found unused member inside
    exact ⟨fun targeted => untouched.1 (alike.targeted member targeted),
      fun failed => untouched.2 (alike.failed member failed)⟩
  registered := by
    rw [alike.batchGroups]
    exact fun running => orderly.registered (alike.stopped running)
  named := by
    rw [alike.byCase]
    exact orderly.named

theorem Ended.asked (ended : Ended session) (question : Question) :
    Ended { session with log := session.log ++ [.asked question] } where
  safe := ended.safe.snoc trivial
  known := fun caseId targeted => ended.known caseId ((alike_asked session question).targeted caseId targeted)

theorem ready_asks : Asks (Ready touched batched) := fun session question ready =>
  ⟨ready.toEnded.asked question, ready.toOrderly.alike (alike_asked session question)⟩

/-- A session that differs in what is not spoken of here. -/
theorem Ready.same {other : Session} (ready : Ready touched batched session) (log : other.log = session.log)
    (groups : other.groups = session.groups) (batchGroups : other.batchGroups = session.batchGroups)
    (stopped : other.stopped = none → session.stopped = none) (byCase : other.byCase = session.byCase)
    (executed : session.executed ⊆ other.executed) : Ready touched batched other where
  safe := log ▸ ready.safe
  known := fun caseId targeted => executed (ready.known caseId (log ▸ targeted))
  toOrderly := ready.toOrderly.alike (alike_of_log log groups batchGroups stopped byCase)

theorem Ready.mono {more : List String} (ready : Ready touched batched session) (wider : touched ⊆ more) :
    Ready more batched session where
  toEnded := ready.toEnded
  within := fun caseId seen => wider (ready.within caseId seen)
  grouped := ready.grouped
  members := fun index group found => List.Subset.trans (ready.members index group found) wider
  apart := ready.apart
  unused := ready.unused
  registered := ready.registered
  named := ready.named

theorem broken_of_ready (escape : Escape) (session : Session) (ready : Ready touched batched session) :
    Broken touched batched escape session := ⟨ready.toEnded, fun _ _ => ready⟩

theorem lift_keeps {β γ : Type} {before : Session → Prop} {after : γ → Session → Prop} {failed : Escape → Session → Prop}
    {computation : Except Raised β} {next : β → Flow γ}
    (fails : ∀ raised session, before session → failed (.other raised) session)
    (continues : ∀ value, computation = .ok value → Triple before (next value) after failed) :
    Triple before (lift computation >>= next) after failed := by
  cases shown : computation with
  | error raised => exact fun session holds => fails raised session holds
  | ok value => exact fun session holds => continues value shown session holds

/-- The batches, once the one of a case has come to something. -/
structure Spent (touched batched : List String) (caseId : String) (session : Session) : Prop extends
    Orderly touched batched session where
  spent : ∀ (index : Nat) group, session.groups[index]? = some group → caseId ∈ Group.ids group → ¬Unused group

theorem Spent.alike {other : Session} (spent : Spent touched batched caseId session) (alike : Alike session other) :
    Spent touched batched caseId other where
  toOrderly := spent.toOrderly.alike alike
  spent := by
    rw [alike.groups]
    exact spent.spent

/-- A call of a batch: every case that may have been sent counts as executed, or is a member of the batch whose leader does. -/
structure Halfway (leader : String) (ids : List String) (session : Session) : Prop where
  safe : Safe session.log
  known : ∀ caseId, Targeted session.log caseId →
    caseId ∈ session.executed ∨ (caseId ∈ ids ∧ leader ∈ session.executed)

theorem halfway_of_held {walk : Walk} (held : Held walk start session) (ended : Ended start) :
    Halfway walk.case.caseId walk.members session where
  safe := held.safe
  known := fun caseId targeted =>
    (held.targeted caseId targeted).imp_left fun earlier => held.executed (ended.known caseId earlier)

theorem updated_group {groups : List Group} {index : Nat} {update : Group → Group} {position : Nat} {group : Group}
    (found : (groups.modify index update)[position]? = some group) :
    (position = index ∧ ∃ old, groups[position]? = some old ∧ update old = group) ∨
      (position ≠ index ∧ groups[position]? = some group) := by
  rw [List.getElem?_modify] at found
  obtain ⟨old, stored, same⟩ := Option.map_eq_some_iff.mp found
  by_cases here : index = position
  · rw [if_pos here] at same
    exact .inl ⟨here.symm, old, stored, same⟩
  · rw [if_neg here] at same
    exact .inr ⟨fun other => here other.symm, same ▸ stored⟩

theorem updated_ids {groups : List Group} {index : Nat} {update : Group → Group} {position : Nat} {group : Group}
    (keeps : ∀ old, Group.ids (update old) = Group.ids old)
    (found : (groups.modify index update)[position]? = some group) :
    ∃ old, groups[position]? = some old ∧ Group.ids old = Group.ids group := by
  cases updated_group found with
  | inl changed =>
    obtain ⟨_, old, stored, same⟩ := changed
    exact ⟨old, stored, by rw [← same, keeps]⟩
  | inr kept => exact ⟨group, kept.2, rfl⟩

/-- Once its batch has a result or an error, the batches are in order again. -/
theorem spent_after {walk : Walk} {index : Nat} {group : Group} {update : Group → Group} (ready : Ready touched batched start)
    (held : Held walk start session) (found : start.groups[index]? = some group) (members : walk.members = Group.ids group)
    (listed : caseId ∈ Group.ids group) (keeps : ∀ old, Group.ids (update old) = Group.ids old)
    (used : ∀ old, ¬Unused (update old)) :
    Spent touched batched caseId { session with groups := session.groups.modify index update } := by
  have acted : ∀ other, Targeted session.log other → Targeted start.log other ∨ other ∈ Group.ids group := by
    intro other targeted
    exact (held.targeted other targeted).imp_right fun sent => members ▸ sent.1
  have same := held.groups
  refine ⟨⟨?_, ?_, ?_, ?_, ?_, ?_, ?_⟩, ?_⟩
  · intro other seen
    cases seen with
    | inl targeted =>
      cases acted other targeted with
      | inl earlier => exact ready.within other (.inl earlier)
      | inr inside => exact ready.members index group found inside
    | inr failed => exact ready.within other (.inr (held.failed other failed))
  · intro entry member
    obtain ⟨old, stored, inside⟩ := ready.grouped entry (held.batchGroups ▸ member)
    have image : (session.groups.modify index update)[entry.2]? =
        some (if index = entry.2 then update old else old) := by
      rw [same, List.getElem?_modify, stored]
      rfl
    refine ⟨_, image, ?_⟩
    by_cases here : index = entry.2
    · rw [if_pos here, keeps]
      exact inside
    · rw [if_neg here]
      exact inside
  · intro position other stored
    obtain ⟨old, before, ids⟩ := updated_ids keeps stored
    rw [same] at before
    exact ids ▸ ready.members position old before
  · intro first second one other storedFirst storedSecond distinct
    obtain ⟨oldFirst, beforeFirst, idsFirst⟩ := updated_ids keeps storedFirst
    obtain ⟨oldSecond, beforeSecond, idsSecond⟩ := updated_ids keeps storedSecond
    rw [same] at beforeFirst beforeSecond
    rw [← idsFirst, ← idsSecond]
    exact ready.apart first second oldFirst oldSecond beforeFirst beforeSecond distinct
  · intro position other stored unused
    cases updated_group stored with
    | inl changed =>
      obtain ⟨_, old, _, built⟩ := changed
      exact absurd (built ▸ unused) (used old)
    | inr kept =>
      obtain ⟨elsewhere, before⟩ := kept
      rw [same] at before
      intro member inside
      have untouched := ready.unused position other before unused member inside
      refine ⟨fun targeted => ?_, fun failed => untouched.2 (held.failed member failed)⟩
      cases acted member targeted with
      | inl earlier => exact untouched.1 earlier
      | inr shared => exact ready.apart position index other group before found elsewhere member inside shared
  · intro running
    exact held.batchGroups ▸ ready.registered (held.stopped ▸ running)
  · rw [held.byCase]
    exact ready.named
  · intro position other stored inside
    cases updated_group stored with
    | inl changed =>
      obtain ⟨_, old, _, built⟩ := changed
      exact built ▸ used old
    | inr kept =>
      obtain ⟨elsewhere, before⟩ := kept
      rw [same] at before
      exact absurd listed (ready.apart position index other group before found elsewhere caseId inside)

theorem markMember_executed (leader : String) (session : Session) (cases : List ExecutionCase) :
    (cases.foldl (markMember leader) session).log = session.log ∧
      (cases.foldl (markMember leader) session).groups = session.groups ∧
      (cases.foldl (markMember leader) session).batchGroups = session.batchGroups ∧
      (cases.foldl (markMember leader) session).stopped = session.stopped ∧
      (cases.foldl (markMember leader) session).byCase = session.byCase ∧
      session.executed ⊆ (cases.foldl (markMember leader) session).executed ∧
      ∀ member ∈ cases, member.caseId ∈ (cases.foldl (markMember leader) session).executed := by
  induction cases generalizing session with
  | nil => exact ⟨rfl, rfl, rfl, rfl, rfl, List.Subset.refl _, fun _ member => absurd member List.not_mem_nil⟩
  | cons case cases ih =>
    obtain ⟨log, groups, batchGroups, stopped, byCase, grown, marked⟩ := ih (markMember leader session case)
    refine ⟨log, groups, batchGroups, stopped, byCase, List.Subset.trans subset_marked grown, ?_⟩
    intro member inside
    cases List.mem_cons.mp inside with
    | inl first =>
      rw [first]
      exact grown mem_marked
    | inr later => exact marked member later

/-- The `finally` part of a batch: every member counts as executed with its leader. -/
theorem markMembers_ended {leader : String} {cases : List ExecutionCase} {property : Session → Prop}
    {failed : Escape → Session → Prop}
    (stable : ∀ session other : Session, Alike session other → property session → property other) :
    Triple (fun session => Halfway leader (cases.map (·.caseId)) session ∧ property session) (markMembers leader cases)
      (fun _ session => Ended session ∧ property session) failed := by
  unfold markMembers
  refine Triple.through (fun answer session => (Halfway leader (cases.map (·.caseId)) session ∧ property session) ∧
    (answer = true ↔ leader ∈ session.executed)) ?_ fun answer => ?_
  · refine Triple.inspect fun found holds => ?_
    refine Triple.through (fun _ session => (Halfway leader (cases.map (·.caseId)) session ∧ property session) ∧
        session.executed = found.executed) (Triple.change fun session same => ?_) fun _ => Triple.value fun session kept => ?_
    · rw [same]
      obtain ⟨halfway, holds⟩ := holds
      have leading : Targeted found.log leader → leader ∈ found.executed := by
        intro targeted
        cases halfway.known leader targeted with
        | inl known => exact known
        | inr shared => exact shared.2
      have allowed : Allowed found.log (.attempted leader (leader ∈ found.executed)) :=
        fun targeted => decide_eq_true (leading targeted)
      have alike := alike_attempted found leader (leader ∈ found.executed)
      refine ⟨⟨⟨halfway.safe.snoc allowed, ?_⟩, stable found _ alike holds⟩, rfl⟩
      exact fun other targeted => halfway.known other (alike.targeted other targeted)
    · rw [kept.2]
      exact ⟨kept.1, decide_eq_true_iff⟩
  · cases answer with
    | true =>
      rw [if_pos rfl]
      refine Triple.change fun session holds => ?_
      obtain ⟨⟨halfway, holds⟩, _⟩ := holds
      obtain ⟨log, groups, batchGroups, stopped, byCase, grown, marked⟩ := markMember_executed leader session cases
      refine ⟨⟨log ▸ halfway.safe, ?_⟩, stable session _ (alike_of_log log groups batchGroups (stopped ▸ id) byCase) holds⟩
      intro caseId targeted
      rw [log] at targeted
      cases halfway.known caseId targeted with
      | inl known => exact grown known
      | inr shared =>
        obtain ⟨member, inside, same⟩ := List.mem_map.mp shared.1
        exact same ▸ marked member inside
    | false =>
      rw [if_neg (by decide)]
      refine Triple.value fun session holds => ?_
      obtain ⟨⟨halfway, holds⟩, unmarked⟩ := holds
      refine ⟨⟨halfway.safe, ?_⟩, holds⟩
      intro caseId targeted
      cases halfway.known caseId targeted with
      | inl known => exact known
      | inr shared => exact absurd (unmarked.mpr shared.2) (by decide)

theorem precedes_map {needs : FlowStep → List String} {steps : List FlowStep} {update : FlowStep → FlowStep}
    (precedes : Precedes needs steps) (named : ∀ step, (update step).stepId = step.stepId)
    (fewer : ∀ step ∈ steps, needs (update step) ⊆ needs step) : Precedes needs (steps.map update) := by
  intro earlier step later split
  obtain ⟨first, rest, whole, mapped, tail⟩ := List.map_eq_append_iff.mp split
  obtain ⟨source, last, built, image, _⟩ := List.map_eq_cons_iff.mp tail
  rw [built] at whole
  have before := precedes first source last whole
  have ids : earlier.map (·.stepId) = first.map (·.stepId) := by
    rw [← mapped, List.map_map]
    exact List.map_congr_left fun step _ => named step
  rw [ids, ← image]
  exact List.Subset.trans (fewer source (whole ▸ List.mem_append_right _ List.mem_cons_self)) before

/-- A batch request reads no more values than the request it is made of. -/
theorem batchRequest_slots {action : FlowAction patterns} {invocation : ScenarioInvocation} {cases : List ExecutionCase}
    {request : HttpRequestTemplate} (made : batchRequest (some action.configured) invocation cases = .ok request) :
    ∃ target, (action.steps.map (·.toCheckFlowStep)).find? (fun step => step.purpose = .TARGET) = some target ∧
      request.inputSlots ⊆ target.request.inputSlots := by
  unfold batchRequest at made
  obtain ⟨⟨configured, batch⟩, given, made⟩ := bind_eq_ok.mp made
  have same : configured = action.configured := by
    unfold configuredBatch at given
    cases kind : invocation.batch with
    | none =>
      rw [kind] at given
      cases given
    | some batch =>
      rw [kind] at given
      obtain ⟨_, _, given⟩ := bind_eq_ok.mp given
      cases given
      rfl
  dsimp only at made
  obtain ⟨_, _, made⟩ := bind_eq_ok.mp made
  obtain ⟨_, _, made⟩ := bind_eq_ok.mp made
  obtain ⟨target, found, made⟩ := bind_eq_ok.mp made
  obtain ⟨⟨value, slot⟩, _, made⟩ := bind_eq_ok.mp made
  obtain ⟨item, _, made⟩ := bind_eq_ok.mp made
  obtain ⟨items, _, made⟩ := bind_eq_ok.mp made
  rw [same] at found
  refine ⟨target, orRaise_eq_ok.mp found, ?_⟩
  rw [(validate_eq_ok made).1]
  exact List.filter_subset_self _

theorem arranged_batch {action : FlowAction patterns} {invocation : ScenarioInvocation} {cases : List ExecutionCase}
    {request : HttpRequestTemplate} (arranged : Arranged action.steps)
    (made : batchRequest (some action.configured) invocation cases = .ok request) :
    Arranged (action.steps.map (withRequest request)) := by
  obtain ⟨setups, target, split, purpose, others⟩ := arranged.target
  obtain ⟨found, first, slots⟩ := batchRequest_slots made
  have isTarget : found = target.toCheckFlowStep := by
    rw [split, List.map_append, List.find?_append] at first
    have none' : (setups.map (·.toCheckFlowStep)).find? (fun step => step.purpose = .TARGET) = none := by
      rw [List.find?_eq_none]
      intro step member
      obtain ⟨source, listed, same⟩ := List.mem_map.mp member
      rw [← same]
      simp [others source listed]
    rw [none', List.map_singleton, Option.none_or] at first
    simpa [purpose] using first.symm
  have named : ∀ step, (withRequest request step).stepId = step.stepId := by
    intro step
    unfold withRequest
    by_cases here : step.purpose = .TARGET
    · rw [if_pos here]
    · rw [if_neg here]
  have purposes : ∀ step, (withRequest request step).purpose = step.purpose := by
    intro step
    unfold withRequest
    by_cases here : step.purpose = .TARGET
    · rw [if_pos here]
    · rw [if_neg here]
  refine ⟨precedes_map arranged.dependencies named ?_, precedes_map arranged.producers named ?_, ?_⟩
  · intro step _
    unfold withRequest
    by_cases here : step.purpose = .TARGET
    · rw [if_pos here]
      exact List.Subset.refl _
    · rw [if_neg here]
      exact List.Subset.refl _
  · intro step member
    unfold withRequest
    by_cases here : step.purpose = .TARGET
    · rw [if_pos here]
      have last : step = target := by
        rw [split] at member
        cases List.mem_append.mp member with
        | inl setup => exact absurd here (by rw [others step setup]; decide)
        | inr last => exact List.mem_singleton.mp last
      rw [last]
      intro producer produced
      obtain ⟨slot, inside, read⟩ := List.mem_filterMap.mp produced
      have source := slots inside
      rw [isTarget] at source
      exact List.mem_filterMap.mpr ⟨slot, source, read⟩
    · rw [if_neg here]
      exact List.Subset.refl _
  · refine ⟨setups.map (withRequest request), withRequest request target, ?_, (purposes target).trans purpose, ?_⟩
    · rw [split, List.map_append, List.map_singleton]
    · intro step member
      obtain ⟨source, listed, same⟩ := List.mem_map.mp member
      rw [← same, purposes]
      exact others source listed

theorem batchChecks_silent (caseId : String) : Checks (batchChecks world caseId) := by
  intro actual property failed asks fails
  exact Triple.bind (query_keeps asks fails _) fun _ => query_keeps asks fails _

theorem beforeTarget_silent (caseId : String) : Checks fun actual => query world (.beforeTarget caseId actual) :=
  fun _ _ _ asks fails => query_keeps asks fails _

/-- A call of a case that raised: after a stable error its batch, if it has one, has come to something. -/
def CallBroken (touched batched : List String) (caseId : String) (escape : Escape) (session : Session) : Prop :=
  Ended session ∧ ∀ code, escape = .jiejian code → Spent touched batched caseId session

/-- The first call of a batch sends it, and leaves its result or its error for the other members. -/
theorem sendBatch_keeps {action : FlowAction patterns} (arranged : Arranged action.steps) {case : ExecutionCase}
    {index : Nat} {group : Group} (verifies : Bool) (ready : Ready touched batched start)
    (found : start.groups[index]? = some group) (unused : Unused group) (listed : case.caseId ∈ Group.ids group) :
    Triple (fun session => session = start) (sendBatch world action case index group verifies)
      (fun _ => Ready touched batched) (CallBroken touched batched case.caseId) := by
  unfold sendBatch
  refine lift_keeps ?_ fun request made => ?_
  · intro raised session same
    rw [same]
    exact ⟨ready.toEnded, fun code clash => by cases clash⟩
  dsimp only
  have members : ∀ verifies, (Walk.mk action.actionId case (group.cases.map (·.caseId))
      (action.steps.map (withRequest request)) verifies).members = Group.ids group := fun _ => rfl
  refine Triple.through (fun _ session => Ended session ∧ Spent touched batched case.caseId session) ?_ fun result => ?_
  · refine @Triple.always _ _ _ _ _ _ _ _
      (fun _ session => Halfway case.caseId (Group.ids group) session ∧ Spent touched batched case.caseId session)
      (fun escape session => Halfway case.caseId (Group.ids group) session ∧
        ∀ code, escape = .jiejian code → Spent touched batched case.caseId session) ?_ ?_ ?_
    · refine @Triple.attempt _ _ _ _ _ _ _ _ (fun _ => Held ⟨action.actionId, case, group.cases.map (·.caseId),
        action.steps.map (withRequest request), verifies⟩ start) ?_ fun escape => ?_
      · refine Triple.bind (executeSteps_keeps (arranged_batch arranged made) ready.safe
          (fun _ => ready.unused index group found unused) (batchChecks_silent case.caseId)) fun result => ?_
        refine Triple.through (fun _ session =>
            Halfway case.caseId (Group.ids group) session ∧ Spent touched batched case.caseId session)
          (Triple.change fun session held => ?_) fun _ => Triple.value fun _ holds => holds
        refine ⟨⟨held.safe, (halfway_of_held held ready.toEnded).known⟩,
          spent_after ready held found (members verifies) listed (fun _ => rfl) ?_⟩
        intro old unused'
        cases unused'.1
      · cases escape with
        | jiejian code =>
          refine Triple.through (fun _ session =>
              Halfway case.caseId (Group.ids group) session ∧ Spent touched batched case.caseId session)
            (Triple.change fun session held => ?_) fun _ => Triple.raise fun _ holds => ⟨holds.1, fun _ _ => holds.2⟩
          refine ⟨⟨held.safe, (halfway_of_held held ready.toEnded).known⟩,
            spent_after ready held found (members verifies) listed (fun _ => rfl) ?_⟩
          intro old unused'
          cases unused'.2
        | other raised =>
          exact Triple.raise fun _ held => ⟨halfway_of_held held ready.toEnded, fun code clash => by cases clash⟩
    · exact fun _ => markMembers_ended fun _ _ alike spent => spent.alike alike
    · exact fun escape => markMembers_ended fun _ _ alike kept code same => (kept code same).alike alike
  · have keeps : Triple (fun session => Ended session ∧ Spent touched batched case.caseId session)
        (group.cases.forM (memberResponse result.response group.batch))
        (fun _ session => Ended session ∧ Spent touched batched case.caseId session) (CallBroken touched batched case.caseId) := by
      refine @Triple.forM _ _ _ _ (fun _ session => Ended session ∧ Spent touched batched case.caseId session) _ _ ?_
      intro _ member _ _
      refine lift_keeps (fun _ _ holds => ⟨holds.1, fun _ _ => holds.2⟩) fun own _ => ?_
      refine Triple.change fun session holds => ⟨⟨holds.1.safe, holds.1.known⟩, ?_⟩
      exact holds.2.alike (alike_of_log rfl rfl rfl id rfl)
    refine Triple.bind keeps fun _ => Triple.value fun _ holds => ?_
    exact ⟨holds.1, holds.2.toOrderly⟩

/-- A call of `execute_batch`: a batch that has a result or an error is not sent again. -/
theorem executeBatch_keeps {action : FlowAction patterns} (arranged : Arranged action.steps) {case : ExecutionCase}
    {index : Nat} (verifies : Bool) (ready : Ready touched batched start)
    (grouped : ∃ group, start.groups[index]? = some group ∧ case.caseId ∈ Group.ids group) :
    Triple (fun session => session = start) (executeBatch world action case index verifies)
      (fun _ => Ready touched batched) (CallBroken touched batched case.caseId) := by
  obtain ⟨group, found, listed⟩ := grouped
  unfold executeBatch
  refine Triple.inspect fun seen same => ?_
  rw [same]
  refine lift_keeps (fun _ _ same' => same' ▸ ⟨ready.toEnded, fun code clash => by cases clash⟩) fun shared read => ?_
  have here : shared = group := Option.some.inj ((orRaise_eq_ok.mp read).symm.trans found)
  rw [here]
  cases failure : group.error with
  | some code =>
    refine Triple.raise fun session same' => ?_
    rw [same']
    refine ⟨ready.toEnded, fun _ _ => ⟨ready.toOrderly, ?_⟩⟩
    intro position other stored inside unused
    by_cases elsewhere : index = position
    · rw [← elsewhere, found] at stored
      rw [← Option.some.inj stored] at unused
      rw [unused.2] at failure
      cases failure
    · exact ready.apart index position group other found stored elsewhere case.caseId listed inside
  | none =>
    dsimp only
    refine Triple.through (fun _ => Ready touched batched) ?_ fun result => ?_
    · cases outcome : group.result with
      | some result => exact Triple.value fun session same' => same' ▸ ready
      | none => exact sendBatch_keeps arranged verifies ready found ⟨outcome, failure⟩ listed
    · refine Triple.inspect fun after ready' => ?_
      refine lift_keeps (fun _ _ same' => same' ▸ ⟨ready'.toEnded, fun code clash => by cases clash⟩) fun own _ => ?_
      exact Triple.value fun session same' => same' ▸ ready'

end Batches

end Jiejian.Execution.BatchCalls
