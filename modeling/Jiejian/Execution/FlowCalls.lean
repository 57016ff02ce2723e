import Jiejian.Execution.BatchCalls
import Jiejian.Execution.Executors

namespace Jiejian.Execution.FlowCalls

open Library Library.Outcome Library.Stateful Errors Protocol.Cases Protocol.Scenarios Web.Templates Web.Rendering
open Checks.BatchRequests Checks.FlowSteps Verification.Models CheckRuntime StepCalls BatchCalls Executors

section Calls

variable {patterns : Patterns} {world : World} {setup : Setup patterns} {session : Session} {touched batched : List String}
variable {caseId : String}

/-- The case may be called: it was not yet, or its batch is registered. -/
def Callable (touched : List String) (caseId : String) (session : Session) : Prop :=
  caseId ∉ touched ∨ caseId ∈ session.batchGroups.map Prod.fst

/-- A call keeps the order of things, whether the case has a batch or not. -/
theorem executeFlow_keeps {action : FlowAction patterns} (arranged : Arranged action.steps) (case : ExecutionCase)
    (verifies : Bool) :
    Triple (fun session => Ready touched batched session ∧ Callable touched case.caseId session)
      (executeFlow world action case verifies) (fun _ => Ready (case.caseId :: touched) batched)
      (CallBroken (case.caseId :: touched) batched case.caseId) := by
  have wider : touched ⊆ case.caseId :: touched := List.subset_cons_self _ _
  refine Triple.inspect fun start holds => ?_
  obtain ⟨ready, callable⟩ := holds
  cases found : Table.lookup Prod.fst start.batchGroups case.caseId with
  | some entry =>
    obtain ⟨stored, named⟩ := Table.lookup_some found
    obtain ⟨group, shared, inside⟩ := ready.grouped entry stored
    exact executeBatch_keeps arranged verifies (ready.mono wider) ⟨group, shared, named ▸ inside⟩
  | none =>
    have fresh : case.caseId ∉ touched := by
      cases callable with
      | inl fresh => exact fresh
      | inr grouped =>
        obtain ⟨entry, stored, named⟩ := List.mem_map.mp grouped
        exact absurd named (Table.lookup_none.mp found entry stored)
    have untouched : Untouched start.log [case.caseId] := by
      intro member inside
      rw [List.mem_singleton.mp inside]
      exact ⟨fun targeted => fresh (ready.within _ (.inl targeted)), fun failed => fresh (ready.within _ (.inr failed))⟩
    have ends : ∀ session, Held ⟨action.actionId, case, [case.caseId], action.steps, verifies⟩ start session →
        Ready (case.caseId :: touched) batched session ∧ Spent (case.caseId :: touched) batched case.caseId session := by
      intro session held
      have acted : ∀ other, Targeted session.log other → Targeted start.log other ∨
          (other = case.caseId ∧ case.caseId ∈ session.executed) := by
        intro other targeted
        exact (held.targeted other targeted).imp_right fun sent => ⟨List.mem_singleton.mp sent.1, sent.2⟩
      have known : ∀ other, Targeted session.log other → other ∈ session.executed := by
        intro other targeted
        cases acted other targeted with
        | inl earlier => exact held.executed (ready.known other earlier)
        | inr sent => exact sent.1 ▸ sent.2
      have orderly : Orderly (case.caseId :: touched) batched session := by
        refine ⟨?_, ?_, ?_, ?_, ?_, ?_, ?_⟩
        · intro other seen
          cases seen with
          | inl targeted =>
            cases acted other targeted with
            | inl earlier => exact wider (ready.within other (.inl earlier))
            | inr sent => exact sent.1 ▸ List.mem_cons_self
          | inr failed => exact wider (ready.within other (.inr (held.failed other failed)))
        · rw [held.groups, held.batchGroups]
          exact ready.grouped
        · rw [held.groups]
          exact fun index group stored => List.Subset.trans (ready.members index group stored) wider
        · rw [held.groups]
          exact ready.apart
        · rw [held.groups]
          intro index group stored unused member inside
          have before := ready.unused index group stored unused member inside
          refine ⟨fun targeted => ?_, fun failed => before.2 (held.failed member failed)⟩
          cases acted member targeted with
          | inl earlier => exact before.1 earlier
          | inr sent => exact fresh (ready.members index group stored (sent.1 ▸ inside))
        · intro running
          exact held.batchGroups ▸ ready.registered (held.stopped ▸ running)
        · rw [held.byCase]
          exact ready.named
      refine ⟨⟨⟨held.safe, known⟩, orderly⟩, ⟨orderly, ?_⟩⟩
      rw [held.groups]
      exact fun index group stored inside _ => fresh (ready.members index group stored inside)
    exact (executeSteps_keeps arranged ready.safe (fun _ => untouched) (beforeTarget_silent case.caseId)).weaken
      (fun _ same => same) (fun _ session held => (ends session held).1)
      fun escape session held => ⟨(ends session held).1.toEnded, fun _ _ => (ends session held).2⟩

/-- The mark of a failed call: the case is touched, and its batch is not unused. -/
theorem spent_failed (spent : Spent touched batched caseId session) (touching : caseId ∈ touched) :
    Orderly touched batched { session with log := session.log ++ [.failed caseId] } where
  within := by
    intro other seen
    cases seen with
    | inl targeted => exact spent.within other (.inl (targeted_other (fun _ same => by cases same) targeted))
    | inr failed =>
      cases List.mem_append.mp failed with
      | inl before => exact spent.within other (.inr before)
      | inr last =>
        cases List.mem_singleton.mp last
        exact touching
  grouped := spent.grouped
  members := spent.members
  apart := spent.apart
  unused := by
    intro index group found unused member inside
    have untouched := spent.unused index group found unused member inside
    refine ⟨fun targeted => untouched.1 (targeted_other (fun _ same => by cases same) targeted), fun failed => ?_⟩
    cases List.mem_append.mp failed with
    | inl before => exact untouched.2 before
    | inr last =>
      cases List.mem_singleton.mp last
      exact spent.spent index group found inside unused
  registered := spent.registered
  named := spent.named

theorem ended_failed (ended : Ended session) : Ended { session with log := session.log ++ [.failed caseId] } where
  safe := ended.safe.snoc trivial
  known := fun other targeted => ended.known other (targeted_other (fun _ same => by cases same) targeted)

theorem callFlow_keeps {action : FlowAction patterns} (arranged : Arranged action.steps) (case : ExecutionCase) :
    Triple (fun session => Ready touched batched session ∧ Callable touched case.caseId session)
      (callFlow world action case) (fun _ => Ready (case.caseId :: touched) batched) (Broken (case.caseId :: touched) batched) := by
  refine Triple.attempt (executeFlow_keeps arranged case true) fun escape => ?_
  refine Triple.through (fun _ => Broken (case.caseId :: touched) batched escape) (Triple.change fun session broken => ?_)
    fun _ => Triple.raise fun _ broken => broken
  refine ⟨ended_failed broken.1, fun code same => ⟨ended_failed broken.1, ?_⟩⟩
  exact spent_failed (broken.2 code same) List.mem_cons_self

end Calls

end Jiejian.Execution.FlowCalls
