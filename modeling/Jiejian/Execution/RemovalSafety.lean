import Jiejian.Execution.Removals

namespace Jiejian.Execution.RemovalSafety

open Library Library.Outcome Library.Document Library.Logged Protocol.Codec
open Records.Values Records.Models Records.Collections CreationCheck Verification.Models Removals

/-- The digest of a collection tells its members. -/
def Digests.Faithful (digests : Digests) : Prop := Function.Injective digests.members

section Loop

variable {around : Surroundings} {digests : Digests} {created : List CreationEvent} {known : List String}
  {members : List CreationMember}

/-- What holds between the turns: the removals were justified, none twice, and the expected members are those of
the start without the removed ones, as the last view showed. -/
structure Undone (created : List CreationEvent) (members : List CreationMember) (expected : CreationView)
    (log : List Action) : Prop where
  justified : Justified created log
  once : (removals log).Nodup
  members : expected.members = members.filter (fun member => member.resourceId ∉ removals log)
  shown : removals log ≠ [] → ∃ view, lastRead log = some view ∧ view.members = expected.members

/-- What is left when a turn fails. -/
structure Stopped (created : List CreationEvent) (log : List Action) : Prop where
  justified : Justified created log
  once : (removals log).Nodup

theorem Undone.stopped {expected : CreationView} {log : List Action} (undone : Undone created members expected log) :
    Stopped created log := ⟨undone.justified, undone.once⟩

theorem Stopped.read {log : List Action} {view : CreationView} (stopped : Stopped created log) :
    Stopped created (log ++ [.read view]) := by
  refine ⟨stopped.justified.read, ?_⟩
  rw [removals_read]
  exact stopped.once

/-- A view of the collection is added to the log. -/
theorem readCollection_triple {before : List Action → Prop} (stops : ∀ log, before log → Stopped created log) :
    Triple before (readCollection around)
      (fun view log => ∃ earlier, before earlier ∧ log = earlier ++ [.read view]) (Stopped created) := by
  refine Triple.bind (Triple.ask stops) fun view => Triple.bind (Triple.record _) fun _ => ?_
  exact Triple.value fun _ done => done

/-- The removal is in the log before its answer is known. -/
theorem sendRemoval_triple {before : List Action → Prop} (resourceId : String)
    (stops : ∀ log, before log → Stopped created (log ++ [.remove resourceId])) :
    Triple before (sendRemoval around resourceId)
      (fun _ log => ∃ earlier, before earlier ∧ log = earlier ++ [.remove resourceId]) (Stopped created) := by
  refine Triple.bind (Triple.record _) fun _ => Triple.ask ?_
  rintro log ⟨earlier, start, rfl⟩
  exact stops earlier start

/-- The view before a removal: it shows what is expected. -/
structure Seen (created : List CreationEvent) (members : List CreationMember) (expected current : CreationView)
    (log : List Action) : Prop where
  undone : Undone created members expected log
  last : lastRead log = some current
  same : current.members = expected.members

theorem Undone.seen {expected current : CreationView} {log : List Action} (undone : Undone created members expected log)
    (same : current.members = expected.members) : Seen created members expected current (log ++ [.read current]) := by
  refine ⟨⟨undone.justified.read, ?_, ?_, ?_⟩, lastRead_read, same⟩
  · rw [removals_read]
    exact undone.once
  · rw [removals_read]
    exact undone.members
  · intro _
    exact ⟨current, lastRead_read, same⟩

variable {expected current : CreationView} {event : CreationEvent} {member : CreationMember} {log : List Action}

/-- An object that is still shown was not removed before. -/
theorem Seen.fresh (seen : Seen created members expected current log) (present : member ∈ current.members) :
    member.resourceId ∉ removals log := by
  rw [seen.same, seen.undone.members] at present
  exact of_decide_eq_true (List.mem_filter.mp present).2

theorem Seen.removed (seen : Seen created members expected current log) (listed : event ∈ created)
    (found : Table.lookup CreationMember.resourceId current.members event.member.resourceId = some member)
    (instance' : member.incarnation = event.member.incarnation) :
    Stopped created (log ++ [.remove member.resourceId]) := by
  obtain ⟨present, named⟩ := Table.lookup_some found
  refine ⟨seen.undone.justified.remove seen.last listed present named instance', ?_⟩
  rw [removals_remove, List.nodup_append]
  refine ⟨seen.undone.once, List.nodup_singleton _, ?_⟩
  intro earlier before later now same
  rw [List.mem_singleton.mp now] at same
  exact seen.fresh present (same ▸ before)

/-- After a removal the last view shows the expected members without the removed one. -/
theorem Seen.restored (seen : Seen created members expected current log) {restored : CreationView}
    (stopped : Stopped created (log ++ [.remove member.resourceId]))
    (remaining : restored.members = expected.members.filter fun item => item.resourceId ≠ member.resourceId) :
    Undone created members restored (log ++ [.remove member.resourceId] ++ [.read restored]) := by
  refine ⟨stopped.justified.read, ?_, ?_, fun _ => ⟨restored, lastRead_read, rfl⟩⟩
  · rw [removals_read]
    exact stopped.once
  · rw [remaining, seen.undone.members, List.filter_filter, removals_read, removals_remove]
    apply List.filter_congr
    intro item _
    simp only [List.mem_append, List.mem_singleton, not_or, ne_eq, Bool.decide_and]
    exact Bool.and_comm _ _

/-- One turn of the loop keeps what holds between the turns. -/
theorem removeOne_keeps (faithful : Digests.Faithful digests) (listed : event ∈ created) (expected : CreationView) :
    Triple (Undone created members expected) (removeOne around digests created known expected event)
      (Undone created members) (Stopped created) := by
  unfold removeOne
  refine Triple.bind (readCollection_triple fun _ undone => undone.stopped) fun current => ?_
  refine Triple.check ?_ fun _ unchanged => ?_
  · rintro log ⟨earlier, undone, rfl⟩
    exact undone.stopped.read
  have same : current.members = expected.members := faithful (require_eq_ok.mp unchanged).2.2.2
  cases found : Table.lookup CreationMember.resourceId current.members event.member.resourceId with
  | none =>
    apply Triple.value
    rintro log ⟨earlier, undone, rfl⟩
    exact (undone.seen same).undone
  | some member =>
    have seen : ∀ log, (∃ earlier, Undone created members expected earlier ∧ log = earlier ++ [.read current]) →
        Seen created members expected current log := by
      rintro log ⟨earlier, undone, rfl⟩
      exact undone.seen same
    refine Triple.weaken ?_ seen (fun _ _ done => done) (fun _ stopped => stopped)
    refine Triple.check (fun _ shown => shown.undone.stopped) fun _ instance' => ?_
    refine Triple.bind (Triple.ask fun _ shown => shown.undone.stopped) fun confirmed => ?_
    refine Triple.check (fun _ shown => shown.undone.stopped) fun _ _ => ?_
    have sent : ∀ log, Seen created members expected current log → Stopped created (log ++ [.remove member.resourceId]) :=
      fun _ shown => shown.removed listed found (require_eq_ok.mp instance')
    refine Triple.bind (sendRemoval_triple member.resourceId sent) fun _ => ?_
    have left : ∀ log, (∃ earlier, Seen created members expected current earlier ∧
        log = earlier ++ [.remove member.resourceId]) → Stopped created log := by
      rintro log ⟨earlier, shown, rfl⟩
      exact sent earlier shown
    refine Triple.bind (readCollection_triple left) fun restored => ?_
    refine Triple.check ?_ fun _ passed => Triple.value ?_
    · rintro log ⟨middle, ⟨earlier, shown, rfl⟩, rfl⟩
      exact (sent earlier shown).read
    · rintro log ⟨middle, ⟨earlier, shown, rfl⟩, rfl⟩
      exact shown.restored (sent earlier shown) (require_eq_ok.mp passed).2

/-- The whole recovery: what it leaves when it ends, and when it fails. -/
theorem recoverAmong_undone (faithful : Digests.Faithful digests) (entries : List CreationEntry) (restored : Restored) :
    Triple (· = []) (recoverAmong around digests entries restored)
      (fun _ log => ∃ entry members expected, entries.head? = some entry ∧
        entry.last.members.mapM (reconcile digests entry.last restored) = .ok members ∧
        Undone entry.created members expected log)
      (fun log => (removals log).Nodup ∧ ∀ entry, entries.head? = some entry → Justified entry.created log) := by
  have empty : ∀ log : List Action, log = [] →
      (removals log).Nodup ∧ ∀ entry : CreationEntry, entries.head? = some entry → Justified entry.created log := by
    rintro log rfl
    exact ⟨List.nodup_nil, fun entry _ => justified_nil⟩
  unfold recoverAmong
  refine Triple.check empty fun entry found => ?_
  refine Triple.check empty fun _ _ => ?_
  refine Triple.check empty fun members taken => ?_
  have first := orRaise_eq_ok.mp found
  have loop : Triple (Undone entry.created members { entry.last with members })
      (entry.created.foldlM (removeOne around digests entry.created (reconciled entry.last restored))
        { entry.last with members }) (Undone entry.created members) (Stopped entry.created) :=
    Triple.foldlM (fun event listed expected => removeOne_keeps faithful listed expected) _
  refine Triple.bind (Triple.weaken loop ?_ (fun _ _ undone => undone) ?_) fun expected => Triple.value ?_
  · rintro log rfl
    exact ⟨justified_nil, List.nodup_nil, by simp, fun nonempty => absurd rfl nonempty⟩
  · intro log stopped
    refine ⟨stopped.once, fun other same => ?_⟩
    rw [Option.some.inj (same.symm.trans first)]
    exact stopped.justified
  · intro log undone
    exact ⟨entry, members, expected, first, taken, undone⟩

end Loop

section Windows

variable {request : String × String} {ownerId : String} {window : CreationWindow}

/-- What the observations of one request prove: the created objects are creations that the last view lists and the
baseline did not have, and a closed window is about the scope of the request. -/
structure ProvenWindow (request : String × String) (window : CreationWindow) : Prop where
  created : ∀ event ∈ window.created, event ∈ window.last.events ∧ event.kind = .CREATE ∧
    event.member.resourceId ∉ resourceIds window.before.members
  scope : window.closed = true → ∃ scope, window.last.scope = some scope ∧
    (scope.requestNonce, scope.requestDigest) = request
  valid : window.last.exactCollection = .ok window.last

/-- A window that observations have built, whose calls knew no other request and whose views are valid. -/
def ObservedWindow (request : String × String) (window : CreationWindow) : Prop :=
  ∃ ownerId observations, (∀ observed ∈ observations, ∀ receipt ∈ observed.request, receipt = request) ∧
    (∀ observed ∈ observations, ∀ view, observed.reading = .ok view → view.exactCollection = .ok view) ∧
    List.foldl (observeCreation ownerId) none observations = some window

theorem ownedEvents_created {before view : CreationView} {event : CreationEvent}
    (owned : event ∈ ownedEvents before view ownerId) : event ∈ view.events ∧ event.kind = .CREATE ∧
      event.member.resourceId ∉ resourceIds before.members := by
  have fresh := (List.mem_filter.mp owned).1
  obtain ⟨listed, holds⟩ := List.mem_filter.mp fresh
  have facts := of_decide_eq_true holds
  exact ⟨listed, facts.1, facts.2.2⟩

theorem windowClosed_scope {before view : CreationView} {receipt : Option (String × String)}
    (closed : windowClosed before view receipt ownerId = true) : ∃ request scope, receipt = some request ∧
      view.scope = some scope ∧ (scope.requestNonce, scope.requestDigest) = request := by
  simp only [windowClosed, Bool.and_eq_true] at closed
  obtain ⟨⟨⟨⟨⟨⟨-, matched⟩, -⟩, -⟩, -⟩, -⟩, -⟩ := closed
  unfold requestMatched at matched
  split at matched
  · exact ⟨_, _, rfl, by assumption, of_decide_eq_true matched⟩
  · cases matched

/-- One observation keeps what is proven. -/
theorem observeCreation_proven {observed : Observed} (receipt : ∀ found ∈ observed.request, found = request)
    (valid : ∀ view, observed.reading = .ok view → view.exactCollection = .ok view) {prior : Option CreationWindow}
    (proven : ∀ window, prior = some window → ProvenWindow request window)
    (next : observeCreation ownerId prior observed = some window) : ProvenWindow request window := by
  unfold observeCreation at next
  have later : ∀ {view : CreationView}, view.exactCollection = .ok view →
      (prior.map fun window => { window with
        last := view
        created := ownedEvents window.before view ownerId
        closed := windowClosed window.before view observed.request ownerId }) = some window →
      ProvenWindow request window := by
    intro view exact' made
    obtain ⟨earlier, -, same⟩ := Option.map_eq_some_iff.mp made
    subst same
    refine ⟨fun event owned => ownedEvents_created owned, fun closed => ?_, exact'⟩
    obtain ⟨found, scope, known, shown, same⟩ := windowClosed_scope closed
    exact ⟨scope, shown, same.trans (receipt found known)⟩
  have start : ∀ {view : CreationView}, view.exactCollection = .ok view →
      some (CreationWindow.mk ⟨view, view, []⟩ false) = some window → ProvenWindow request window := by
    intro view exact' made
    cases made
    exact ⟨fun event member => absurd member List.not_mem_nil, fun closed => (by cases closed), exact'⟩
  cases reading : observed.reading with
  | error error =>
    rw [reading] at next
    exact proven window next
  | ok view =>
    have exact' := valid view reading
    cases phase : observed.phase <;> simp only [reading, phase] at next
    · exact start exact' next
    · exact start exact' next
    · exact later exact' next
    · exact later exact' next
    · exact proven window next

theorem observed_proven (observed : ObservedWindow request window) : ProvenWindow request window := by
  obtain ⟨ownerId, observations, receipts, valid, built⟩ := observed
  induction observations using List.reverseRecOn generalizing window with
  | nil => cases built
  | append_singleton earlier last ih =>
    rw [List.foldl_append, List.foldl_cons, List.foldl_nil] at built
    refine observeCreation_proven (receipts last (by simp)) (valid last (by simp)) ?_ built
    intro prior shown
    exact ih (fun observed member => receipts observed (List.mem_append_left _ member))
      (fun observed member => valid observed (List.mem_append_left _ member)) shown

end Windows

section Callers

variable {digests : Digests} {around : Surroundings} {request : String × String} {restored : Restored}

/-- The object was created in the scope of the request after its baseline, and the view read last shows it as
the event created it. -/
def ProvenRemoval (request : String × String) (windows : Windows) (log : List Action) (resourceId : String) : Prop :=
  ∃ view, lastRead log = some view ∧ ∃ window, some window ∈ windows ∧ ∃ event ∈ window.last.events,
    event.kind = .CREATE ∧
      (∃ scope, window.last.scope = some scope ∧ (scope.requestNonce, scope.requestDigest) = request ∧
        event.scopeId = some scope.scopeId) ∧
      resourceId ∉ resourceIds window.before.members ∧ event.member.resourceId = resourceId ∧
      ∃ member ∈ view.members, member.resourceId = resourceId ∧ member.incarnation = event.member.incarnation

/-- The recovery of one request removes what the request is proven to have created, and nothing else. -/
structure UndoesOnly (digests : Digests) (request : String × String) (windows : Windows) (restored : Restored)
    (undoing : Undoing) : Prop where
  closed : removals undoing.sent ≠ [] → ∀ window ∈ windows, ∃ found, window = some found ∧ found.closed = true
  proven : ∀ before resourceId after, undoing.sent = before ++ .remove resourceId :: after →
    ProvenRemoval request windows before resourceId
  once : (removals undoing.sent).Nodup
  remaining : undoing.result = .ok () → removals undoing.sent ≠ [] → ∃ window members view,
    windows.head? = some (some window) ∧
      window.last.members.mapM (reconcile digests window.last restored) = .ok members ∧
      lastRead undoing.sent = some view ∧
      view.members = members.filter (fun member => member.resourceId ∉ removals undoing.sent)

/-- Nothing is removed where nothing is sent. -/
theorem undoesOnly_silent {windows : Windows} {undoing : Undoing} (silent : undoing.sent = []) :
    UndoesOnly digests request windows restored undoing := by
  refine ⟨?_, ?_, ?_, ?_⟩
  · intro nonempty
    exact absurd (congrArg removals silent) nonempty
  · intro before resourceId after same
    rw [silent] at same
    simp at same
  · rw [silent]
    exact List.nodup_nil
  · intro _ nonempty
    exact absurd (congrArg removals silent) nonempty

theorem recoverFrom_undoes (faithful : Digests.Faithful digests) {windows : List CreationWindow}
    (proven : ∀ window ∈ windows, ProvenWindow request window) (closed : ∀ window ∈ windows, window.closed = true) :
    UndoesOnly digests request (windows.map some) restored
      (recoverFrom digests around (windows.map (·.toCreationEntry)) restored) := by
  have ran := @recoverAmong_undone around _ faithful (windows.map (·.toCreationEntry)) restored [] rfl
  have sent : (removals (runFrom (recoverAmong around digests (windows.map (·.toCreationEntry)) restored) []).2).Nodup ∧
      ∀ entry, (windows.map (·.toCreationEntry)).head? = some entry →
        Justified entry.created
          (runFrom (recoverAmong around digests (windows.map (·.toCreationEntry)) restored) []).2 := by
    cases shown : runFrom (recoverAmong around digests (windows.map (·.toCreationEntry)) restored) [] with
    | mk outcome written =>
      rw [shown] at ran
      cases outcome with
      | error error => exact ran
      | ok value =>
        obtain ⟨entry, members, expected, first, -, undone⟩ := ran
        refine ⟨undone.once, fun other same => ?_⟩
        rw [Option.some.inj (same.symm.trans first)]
        exact undone.justified
  cases windows with
  | nil =>
    apply undoesOnly_silent
    rfl
  | cons window rest =>
    refine ⟨?_, ?_, sent.1, ?_⟩
    · intro _ found member
      obtain ⟨other, inside, same⟩ := List.mem_map.mp member
      exact ⟨other, same.symm, closed other inside⟩
    · intro before resourceId after same
      obtain ⟨view, last, event, listed, named, member, present, id, instance'⟩ := sent.2 _ rfl before resourceId after same
      have here := proven window List.mem_cons_self
      obtain ⟨inScope, kind, new⟩ := here.created event listed
      obtain ⟨scope, shown, about⟩ := here.scope (closed window List.mem_cons_self)
      have belongs : event.scopeId = some scope.scopeId := by
        have checks := here.valid
        simp only [CreationView.exactCollection, bind_eq_ok, require_eq_ok] at checks
        obtain ⟨_, -, _, -, _, -, _, -, _, owners, -⟩ := checks
        have owner := (owners event inScope).2
        rw [shown] at owner
        exact owner
      exact ⟨view, last, window, List.mem_map.mpr ⟨window, List.mem_cons_self, rfl⟩, event, inScope, kind,
        ⟨scope, shown, about, belongs⟩, named ▸ new, named, member, present, id, instance'⟩
    · intro ended nonempty
      unfold recoverFrom at ended nonempty ⊢
      cases shown : runFrom (recoverAmong around digests ((window :: rest).map (·.toCreationEntry)) restored) [] with
      | mk outcome written =>
        rw [shown] at ran
        simp only [shown] at ended nonempty ⊢
        cases outcome with
        | error error => cases ended
        | ok value =>
          obtain ⟨entry, members, expected, first, taken, undone⟩ := ran
          cases first
          obtain ⟨view, last, same⟩ := undone.shown nonempty
          exact ⟨window, members, view, rfl, taken, last, same.trans undone.members⟩

theorem closedWindows_some {windows : Windows} (closed : closedWindows windows = true) :
    windows = (windows.filterMap id).map some ∧ ∀ window ∈ windows.filterMap id, window.closed = true := by
  unfold closedWindows at closed
  induction windows with
  | nil => exact ⟨rfl, fun _ member => absurd member List.not_mem_nil⟩
  | cons window rest ih =>
    rw [List.all_cons, Bool.and_eq_true] at closed
    obtain ⟨same, others⟩ := ih closed.2
    cases window with
    | none => cases closed.1
    | some found =>
      refine ⟨congrArg (some found :: ·) same, ?_⟩
      intro other member
      rcases List.mem_cons.mp member with rfl | inside
      · exact closed.1
      · exact others other inside

/-- A single case undoes only what its request created. -/
theorem recoverCase_undoes (faithful : Digests.Faithful digests) {windows : Windows}
    (observed : ∀ window, some window ∈ windows → ObservedWindow request window) :
    UndoesOnly digests request windows [] (recoverCase digests around windows) := by
  unfold recoverCase
  by_cases closed : closedWindows windows = true
  · obtain ⟨same, each⟩ := closedWindows_some closed
    have proven : ∀ window ∈ windows.filterMap id, ProvenWindow request window := by
      intro window member
      apply observed_proven
      apply observed
      rw [same]
      exact List.mem_map.mpr ⟨window, member, rfl⟩
    have undoes := @recoverFrom_undoes digests around request [] faithful _ proven each
    rw [← same] at undoes
    rw [if_pos closed]
    exact undoes
  · rw [if_neg closed]
    exact undoesOnly_silent rfl

theorem windows_found {windows : Windows} {found : List CreationWindow}
    (all : windows.mapM (fun window => orRaise window CallerError.keyError) = .ok found) : windows = found.map some := by
  have pairwise := mapM_eq_ok_iff.mp all
  clear all
  induction pairwise with
  | nil => rfl
  | cons here _ ih => rw [List.map_cons, ← ih, orRaise_eq_ok.mp here]

theorem recoverNode_undoes (faithful : Digests.Faithful digests) {around : ScenarioSurroundings} {node : ScenarioNode}
    (observed : ∀ window, some window ∈ node.windows → ObservedWindow node.request window)
    (closed : node.createsResource = true → ∀ window, some window ∈ node.windows → window.closed = true)
    (restored : Restored) (done : List Action) :
    UndoesOnly digests node.request node.windows restored (recoverNode digests around node restored done) := by
  unfold recoverNode
  cases around.recordIntent node done with
  | error error => exact undoesOnly_silent rfl
  | ok _ =>
    dsimp only
    by_cases creates : node.createsResource = true
    · rw [if_pos creates]
      cases found : node.windows.mapM (fun window => orRaise window CallerError.keyError) with
      | error error => exact undoesOnly_silent rfl
      | ok windows =>
        have same := windows_found found
        have listed : ∀ window ∈ windows, some window ∈ node.windows := by
          intro window member
          rw [same]
          exact List.mem_map.mpr ⟨window, member, rfl⟩
        rw [same]
        exact recoverFrom_undoes faithful (fun window member => observed_proven (observed window (listed window member)))
          (fun window member => closed creates window (listed window member))
    · rw [if_neg creates]
      exact undoesOnly_silent rfl

/-- What ends the observation afterwards does not change what was sent. -/
theorem finishNode_undoes {around : ScenarioSurroundings} {node : ScenarioNode} {done : List Action} {windows : Windows}
    (undoes : UndoesOnly digests request windows restored (recoverNode digests around node restored done)) :
    UndoesOnly digests request windows restored (finishNode digests around node restored done).1 := by
  have failed : ∀ error, UndoesOnly digests request windows restored
      { recoverNode digests around node restored done with result := .error error } := fun error =>
    ⟨undoes.closed, undoes.proven, undoes.once, fun ended => by cases ended⟩
  unfold finishNode
  dsimp only
  cases (recoverNode digests around node restored done).result with
  | error error => exact undoes
  | ok _ =>
    dsimp only
    by_cases checks : checksRecovery node = true
    · rw [if_pos checks]
      cases around.restoredView node (done ++ (recoverNode digests around node restored done).sent) with
      | error error => exact failed (.recovery error)
      | ok snapshot =>
        cases snapshot with
        | none => exact undoes
        | some snapshot => exact undoes
    · rw [if_neg checks]
      exact undoes

/-- The cases of a scenario undo only what their requests created, and nothing after the first failure. -/
theorem recoverNodes_undo (faithful : Digests.Faithful digests) {around : ScenarioSurroundings}
    {nodes : List ScenarioNode}
    (observed : ∀ node ∈ nodes, ∀ window, some window ∈ node.windows → ObservedWindow node.request window)
    (closed : ∀ node ∈ nodes, node.createsResource = true → ∀ window, some window ∈ node.windows → window.closed = true)
    {recovered : List (String × String × String × String)} {start : Restored} {done : List Action}
    {before after : List (ScenarioNode × Restored × Undoing)} {node : ScenarioNode} {restored : Restored}
    {undoing : Undoing}
    (ran : recoverNodes digests around nodes recovered start done = before ++ (node, restored, undoing) :: after) :
    UndoesOnly digests node.request node.windows restored undoing ∧
      ((∃ error, undoing.result = .error error) → after = []) := by
  induction nodes generalizing recovered start done before with
  | nil => simp [recoverNodes] at ran
  | cons first rest ih =>
    have observed' : ∀ node ∈ rest, ∀ window, some window ∈ node.windows → ObservedWindow node.request window :=
      fun node member => observed node (List.mem_cons_of_mem first member)
    have closed' : ∀ node ∈ rest, node.createsResource = true →
        ∀ window, some window ∈ node.windows → window.closed = true :=
      fun node member => closed node (List.mem_cons_of_mem first member)
    have undoes : UndoesOnly digests first.request first.windows start (finishNode digests around first start done).1 :=
      finishNode_undoes (recoverNode_undoes faithful (observed first List.mem_cons_self)
        (closed first List.mem_cons_self) start done)
    unfold recoverNodes at ran
    by_cases skipped : first.stateChanging = false ∨ first.attempted = false ∨ first.group ∈ recovered
    · rw [if_pos skipped] at ran
      exact ih observed' closed' ran
    · rw [if_neg skipped] at ran
      dsimp only at ran
      cases ended : (finishNode digests around first start done).1.result with
      | error error =>
        rw [ended] at ran
        obtain ⟨rfl, same⟩ | ⟨earlier, -, same⟩ := List.cons_eq_append_iff.mp ran
        · cases same
          exact ⟨undoes, fun _ => rfl⟩
        · simp at same
      | ok _ =>
        rw [ended] at ran
        obtain ⟨rfl, same⟩ | ⟨earlier, -, same⟩ := List.cons_eq_append_iff.mp ran
        · cases same
          refine ⟨undoes, ?_⟩
          rintro ⟨error, failed⟩
          rw [ended] at failed
          cases failed
        · exact ih observed' closed' same

/-- Both callers remove only what a request is proven to have created: a single case always, a scenario when the
windows of its creating cases were closed. -/
theorem removals_proven (faithful : Digests.Faithful digests) :
    (∀ (around : Surroundings) (request : String × String) (windows : Windows),
      (∀ window, some window ∈ windows → ObservedWindow request window) →
        UndoesOnly digests request windows [] (recoverCase digests around windows)) ∧
    (∀ (around : ScenarioSurroundings) (nodes : List ScenarioNode),
      (∀ node ∈ nodes, ∀ window, some window ∈ node.windows → ObservedWindow node.request window) →
      (∀ node ∈ nodes, node.createsResource = true → ∀ window, some window ∈ node.windows → window.closed = true) →
      ∀ before node restored undoing after,
        recoverNodes digests around nodes [] [] [] = before ++ (node, restored, undoing) :: after →
        UndoesOnly digests node.request node.windows restored undoing ∧
          ((∃ error, undoing.result = .error error) → after = [])) :=
  ⟨fun _ _ _ observed => recoverCase_undoes faithful observed,
    fun _ _ observed closed _ _ _ _ _ ran => recoverNodes_undo faithful observed closed ran⟩

end Callers

section Samples

/-- What `collection_digest` hashes of a member. -/
def memberDocument (member : CreationMember) : Json :=
  .dict [("resource_id", .str member.resourceId), ("owner_id", .str member.ownerId),
    ("incarnation", .str member.incarnation), ("version", .int member.version), ("data_digest", .str member.dataDigest)]

/-- `collection_digest`. -/
def collectionDigest (digest : Digest) (members : List CreationMember) : String :=
  digest.sha256 (.list (members.map memberDocument))

theorem collectionDigest_faithful (digest : Digest) (data : Json → String) :
    Digests.Faithful ⟨data, collectionDigest digest⟩ := by
  intro left right same
  have documents := digest.collisionFree _ _ (congrArg digest.short same)
  refine List.map_injective_iff.mpr ?_ (Json.list.inj documents)
  intro first second equal
  cases first
  cases second
  simp only [memberDocument, Json.dict.injEq, List.cons.injEq, Prod.mk.injEq, Json.str.injEq, Json.int.injEq,
    true_and, and_true, Int.natCast_inj] at equal
  obtain ⟨resource, owner, incarnation, version, data⟩ := equal
  rw [resource, owner, incarnation, version, data]

def sampleMember : CreationMember := ⟨"n1", "owner", "first", 1, "data"⟩

/-- The collection under a watermark, and what the sample request created in it. -/
def sampleView (watermark : Nat) (members : List CreationMember) (events : List CreationEvent) : CreationView where
  generation := "generation"
  collection := "tickets"
  watermark := watermark
  members := members
  scope := some ⟨"scope", "generation", "nonce", "receipt", .COMPLETE, none⟩
  events := events

def sampleEvent : CreationEvent := ⟨1, some "scope", .CREATE, sampleMember⟩

/-- The request has created an object; the source has counted that, and maybe a change in another collection. -/
def sampleObservations (watermark : Nat) : List Observed :=
  [⟨.BASELINE, none, .ok (sampleView 0 [] [])⟩,
    ⟨.AFTER, some ("nonce", "receipt"), .ok (sampleView watermark [sampleMember] [sampleEvent])⟩]

def sampleWindow (watermark : Nat) : CreationWindow where
  before := sampleView 0 [] []
  last := sampleView watermark [sampleMember] [sampleEvent]
  created := [sampleEvent]
  closed := watermark = 1

theorem sampleWindow_observed {watermark : Nat} (counted : 1 ≤ watermark) :
    ObservedWindow ("nonce", "receipt") (sampleWindow watermark) := by
  refine ⟨"owner", sampleObservations watermark, ?_, ?_, ?_⟩
  · simp [sampleObservations]
  · simp [sampleObservations, CreationView.exactCollection, sampleView, sampleEvent, require, counted]
    exact ⟨rfl, rfl⟩
  · simp [sampleObservations, observeCreation, sampleWindow, ownedEvents, freshEvents, sampleView, sampleEvent,
      sampleMember, resourceIds, windowClosed, sameCollection, requestMatched, membersUnchanged]

def sampleNode (watermark : Nat) : ScenarioNode where
  group := ("invocation", "action", "resource", "identity")
  stateChanging := true
  attempted := true
  request := ("nonce", "receipt")
  createsResource := true
  windows := [some (sampleWindow watermark)]
  resourceFrom := false
  resourceId := "resource"

/-- Nobody else changes the collection, and a removal succeeds. -/
def sampleSurroundings (watermark : Nat) : ScenarioSurroundings where
  reading := fun log => .ok (if log = [] then sampleView watermark [sampleMember] [sampleEvent]
    else sampleView (watermark + 1) [] [sampleEvent])
  identityMatches := fun _ => .ok true
  answer := fun _ _ => .ok ()
  recordIntent := fun _ _ => .ok ()
  recoverRequest := fun _ _ => .ok ()
  restoredView := fun _ _ => .ok none

def sampleSent (watermark : Nat) : List Action :=
  [.read (sampleView watermark [sampleMember] [sampleEvent]), .remove "n1",
    .read (sampleView (watermark + 1) [] [sampleEvent])]

theorem sample_recovered (digests : Digests) (watermark : Nat) :
    runFrom (recoverAmong ((sampleSurroundings watermark).toSurroundings.following []) digests
      [(sampleWindow watermark).toCreationEntry] []) [] = (.ok (), sampleSent watermark) := by
  have unchanged : requireUnchanged digests [sampleEvent] [] (sampleView watermark [sampleMember] [sampleEvent])
      (sampleView watermark [sampleMember] [sampleEvent]) = .ok () :=
    require_eq_ok.mpr ⟨rfl, rfl, fun foreign => (by cases foreign), rfl⟩
  have turn : runFrom (removeOne ((sampleSurroundings watermark).toSurroundings.following []) digests [sampleEvent] []
      (sampleView watermark [sampleMember] [sampleEvent]) sampleEvent) [] =
        (.ok (sampleView (watermark + 1) [] [sampleEvent]), sampleSent watermark) := by
    have seen : runFrom (readCollection ((sampleSurroundings watermark).toSurroundings.following [])) [] =
        (.ok (sampleView watermark [sampleMember] [sampleEvent]),
          [.read (sampleView watermark [sampleMember] [sampleEvent])]) := rfl
    unfold removeOne
    rw [runFrom_bind seen, unchanged]
    rfl
  have loop : runFrom (List.foldlM (removeOne ((sampleSurroundings watermark).toSurroundings.following []) digests
      [sampleEvent] []) (sampleView watermark [sampleMember] [sampleEvent]) [sampleEvent]) [] =
        (.ok (sampleView (watermark + 1) [] [sampleEvent]), sampleSent watermark) := by
    rw [List.foldlM_cons, runFrom_bind turn]
    rfl
  have agreed : (require (∀ other ∈ [(sampleWindow watermark).toCreationEntry],
      other.before = (sampleWindow watermark).before ∧ other.last = (sampleWindow watermark).last ∧
        other.created = (sampleWindow watermark).created) RecoveryError.CREATION_SOURCES_DISAGREE :
      Except RecoveryError Unit) = .ok () := require_eq_ok.mpr (by simp)
  unfold recoverAmong
  show runFrom (liftM (require (∀ other ∈ [(sampleWindow watermark).toCreationEntry],
      other.before = (sampleWindow watermark).before ∧ other.last = (sampleWindow watermark).last ∧
        other.created = (sampleWindow watermark).created) RecoveryError.CREATION_SOURCES_DISAGREE) >>= _) [] = _
  rw [agreed]
  exact runFrom_bind loop

theorem sample_run (digests : Digests) (watermark : Nat) :
    recoverNodes digests (sampleSurroundings watermark) [sampleNode watermark] [] [] [] =
      [(sampleNode watermark, [], ⟨.ok (), sampleSent watermark⟩)] := by
  have recovered : recoverNode digests (sampleSurroundings watermark) (sampleNode watermark) [] [] =
      ⟨.ok (), sampleSent watermark⟩ := by
    show recoverFrom digests ((sampleSurroundings watermark).toSurroundings.following [])
      [(sampleWindow watermark).toCreationEntry] [] = _
    unfold recoverFrom
    rw [sample_recovered]
    rfl
  have finished : finishNode digests (sampleSurroundings watermark) (sampleNode watermark) [] [] =
      (⟨.ok (), sampleSent watermark⟩, []) := by
    unfold finishNode
    rw [recovered]
    rfl
  unfold recoverNodes
  rw [if_neg (by simp [sampleNode]), finished]
  rfl

theorem sampleNode_observed {watermark : Nat} (counted : 1 ≤ watermark) : ∀ node ∈ [sampleNode watermark],
    ∀ window, some window ∈ node.windows → ObservedWindow node.request window := by
  intro node member window listed
  rw [List.mem_singleton.mp member] at listed ⊢
  rw [Option.some.inj (List.mem_singleton.mp listed)]
  exact sampleWindow_observed counted

/-- A scenario removes the created object although the window of its creation stayed open. -/
theorem open_window_removes : ¬ ∀ (digests : Digests), Digests.Faithful digests →
    ∀ (around : ScenarioSurroundings) (nodes : List ScenarioNode),
      (∀ node ∈ nodes, ∀ window, some window ∈ node.windows → ObservedWindow node.request window) →
      ∀ before node restored undoing after,
        recoverNodes digests around nodes [] [] [] = before ++ (node, restored, undoing) :: after →
        UndoesOnly digests node.request node.windows restored undoing ∧
          ((∃ error, undoing.result = .error error) → after = []) := by
  intro always
  have undoes := (always _ (collectionDigest_faithful textDigest Json.text) (sampleSurroundings 2) [sampleNode 2]
    (sampleNode_observed (by decide)) [] (sampleNode 2) [] _ [] (sample_run _ 2)).1
  obtain ⟨found, same, closed⟩ := undoes.closed (by simp [sampleSent, removals]) (some (sampleWindow 2))
    (List.mem_singleton.mpr rfl)
  rw [← Option.some.inj same] at closed
  cases closed

theorem sample_undone : UndoesOnly ⟨Json.text, collectionDigest textDigest⟩ ("nonce", "receipt")
    [some (sampleWindow 1)] [] ⟨.ok (), sampleSent 1⟩ :=
  ((removals_proven (collectionDigest_faithful textDigest Json.text)).2 (sampleSurroundings 1) [sampleNode 1]
    (sampleNode_observed (by decide)) (by
      intro node member _ window listed
      rw [List.mem_singleton.mp member] at listed
      rw [Option.some.inj (List.mem_singleton.mp listed)]
      rfl) [] (sampleNode 1) [] _ [] (sample_run _ 1)).1

end Samples

end Jiejian.Execution.RemovalSafety
