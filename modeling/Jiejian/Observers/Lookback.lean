import Jiejian.Observers.EffectProjector

namespace Jiejian.Observers.Lookback

open Library.Document Library.Outcome Library.Sorting Library.Builtins Errors Envelopes Verification.Effects EffectProjector

variable {printable : Char → Bool} {spec : ObserverSpec} {requirement : Requirement} {closure : TemporalClosure}
variable {observerType : ObserverType} {states more : List (List (String × Json))} {data : List (String × Json)}
variable {selected later : List ObservationEnvelope} {fact : ObservationFact}

section Absence

/-- Nothing but a closed window shows that an effect is absent. -/
theorem targetState_absent (shown : projectTargetState printable requirement observerType states closure = .ok fact)
    (absent : fact.effect = .ABSENT) : closure = .CLOSED := by
  unfold projectTargetState at shown
  dsimp only at shown
  split at shown
  · cases shown
    cases absent
  · split at shown
    · split at shown
      · split at shown
        · cases shown
          cases absent
        · split at shown
          · assumption
          · cases shown
            cases absent
      · cases shown
        cases absent
    · cases shown

theorem audit_absent (absent : (projectAudit requirement states closure).effect = .ABSENT) : closure = .CLOSED := by
  unfold projectAudit at absent
  split at absent
  · cases absent
  · split at absent
    · cases absent
    · split at absent
      · cases absent
      · split at absent
        · assumption
        · cases absent

theorem task_absent (absent : (projectTask requirement data closure).effect = .ABSENT) : closure = .CLOSED := by
  unfold projectTask at absent
  split at absent
  · cases absent
  · split at absent
    · cases absent
    · rename_i closed
      exact not_not.mp closed

theorem queue_absent (absent : (projectQueue requirement data closure).effect = .ABSENT) : closure = .CLOSED := by
  unfold projectQueue at absent
  split at absent
  · cases absent
  · split at absent
    · rename_i denied
      exact denied.2.1
    · cases absent

theorem source_absent (shown : projectSource printable requirement observerType states closure = .ok fact)
    (absent : fact.effect = .ABSENT) : closure = .CLOSED := by
  cases observerType with
  | OWNER_API => exact targetState_absent shown absent
  | READ_ONLY_SQLITE => exact targetState_absent shown absent
  | AZURE_BLOB_OBJECT => exact targetState_absent shown absent
  | STRUCTURED_AUDIT_LOG =>
    cases shown
    exact audit_absent absent
  | ASYNC_TASK_STATUS =>
    obtain ⟨data, _, shown⟩ := bind_eq_ok.mp shown
    cases shown
    exact task_absent absent
  | AZURE_QUEUE_PEEK =>
    obtain ⟨data, _, shown⟩ := bind_eq_ok.mp shown
    cases shown
    exact queue_absent absent

end Absence

/-- Something is told only of trusted envelopes, by the proof of a disclosure or by the source. -/
theorem selected_known (shown : projectSelected printable spec requirement selected = .ok fact)
    (known : fact.effect ≠ .UNKNOWN) :
    requirement.projectionVersion = "v1" ∧ trustworthy selected = true ∧
      if requirement.effect.kind = .DATA_DISCLOSURE then
        fact = projectDisclosure requirement (temporalClosure spec.phases selected)
      else
        projectSource printable requirement spec.observerType (selected.filterMap (·.state))
          (temporalClosure spec.phases selected) = .ok fact := by
  unfold projectSelected at shown
  by_cases version : requirement.projectionVersion = "v1"
  · rw [if_neg (not_not.mpr version)] at shown
    cases trusted : trustworthy selected with
    | true =>
      rw [trusted, if_neg (by decide)] at shown
      refine ⟨version, rfl, ?_⟩
      by_cases kind : requirement.effect.kind = .DATA_DISCLOSURE
      · rw [if_pos kind] at shown ⊢
        exact (Except.ok.inj shown).symm
      · rw [if_neg kind] at shown ⊢
        exact shown
    | false =>
      rw [trusted, if_pos rfl] at shown
      cases shown
      exact absurd rfl known
  · rw [if_pos version] at shown
    cases shown
    exact absurd rfl known

section Keeping

/-- A complete proof of a disclosure says the same in every window. -/
theorem disclosure_kept {other : TemporalClosure} (confirmed : (projectDisclosure requirement closure).effect = .CONFIRMED) :
    (projectDisclosure requirement other).effect ≠ .ABSENT := by
  cases given : requirement.disclosureProof with
  | none =>
    rw [projectDisclosure, given] at confirmed
    cases confirmed
  | some proof =>
    rw [projectDisclosure, given] at confirmed ⊢
    dsimp only at confirmed ⊢
    by_cases complete : proof.projectionComplete = true
    · rw [if_pos complete] at confirmed ⊢
      by_cases matched : proof.matched = true
      · rw [if_pos matched]
        intro absent
        cases absent
      · rw [if_neg matched] at confirmed
        cases confirmed
    · rw [if_neg complete] at confirmed
      cases confirmed

/-- A record stays in the log: whatever is read later, the effect it records was applied. -/
theorem audit_kept {other : TemporalClosure} (confirmed : (projectAudit requirement states closure).effect = .CONFIRMED) :
    (projectAudit requirement (states ++ more) other).effect ≠ .ABSENT := by
  unfold projectAudit at confirmed ⊢
  split at confirmed
  · cases confirmed
  · rename_i supported
    rw [if_neg supported]
    split at confirmed
    · cases confirmed
    · rename_i groups read
      split at confirmed
      · rename_i applied
        have found := List.any_eq_true.mp applied
        obtain ⟨record, member, matched⟩ := found
        rw [List.mapM_append, read]
        cases rest : more.mapM recordGroup with
        | none =>
          intro absent
          cases absent
        | some others =>
          have still : (groups ++ others).flatten.any (appliedRecord requirement.effect.effectId) = true := by
            rw [List.flatten_append]
            exact List.any_eq_true.mpr ⟨record, List.mem_append_left _ member, matched⟩
          intro absent
          change (if (groups ++ others).flatten.any (appliedRecord requirement.effect.effectId) = true then
            knownFact requirement .CONFIRMED other else if other = .CLOSED then knownFact requirement .ABSENT other
            else unknownFact requirement "TEMPORAL_WINDOW_OPEN" other true true).effect = .ABSENT at absent
          rw [if_pos still] at absent
          cases absent
      · split at confirmed
        · cases confirmed
        · cases confirmed

end Keeping

section Denial

/-- A state in which the object, the task or the message is not there. -/
def denial (observerType : ObserverType) (resourceId : String) : List (String × Json) :=
  match observerType with
  | .OWNER_API => [("data", .dict [("resource_id", .str resourceId), ("workflow_state", .str "ABSENT")]),
      ("status_code", .int 200)]
  | .READ_ONLY_SQLITE => [("row_count", .int 0), ("rows", .list [])]
  | .STRUCTURED_AUDIT_LOG => [("records", .list [])]
  | .ASYNC_TASK_STATUS => [("task_state", .str "NOT_CREATED")]
  | .AZURE_QUEUE_PEEK => [("matched_count", .int 0), ("messages", .list []), ("window_complete", .bool true)]
  | .AZURE_BLOB_OBJECT => [("objects", .list [])]

/-- The observers that read the state of an object. -/
def ReadsTarget (observerType : ObserverType) : Prop :=
  observerType = .OWNER_API ∨ observerType = .READ_ONLY_SQLITE ∨ observerType = .AZURE_BLOB_OBJECT

theorem denial_projection (printable : Char → Bool) (reads : ReadsTarget observerType) (resourceId : String) :
    ∃ projection, targetProjection printable observerType resourceId (denial observerType resourceId) = some projection ∧
      projection.exists' = false := by
  obtain type | type | type := reads
  · rw [type]
    have absent : upper "ABSENT" ∈ absentStates := by decide
    simp [denial, targetProjection, ownerCandidate, mapping, objectProjection, namesResource, isText, notNull, strJson,
      absent]
  · rw [type]
    exact ⟨⟨false, none, none⟩, rfl, rfl⟩
  · rw [type]
    exact ⟨⟨false, none, none⟩, rfl, rfl⟩

theorem changed_gone {effect : CheckEffect} {before after : TargetProjection} (gone : after.exists' = false) :
    changed effect before after = false := by
  cases effect with
  | mk effectId kind expectedState => cases kind <;> simp [changed, gone]

theorem targetState_confirmed (shown : projectTargetState printable requirement observerType states closure = .ok fact)
    (confirmed : fact.effect = .CONFIRMED) :
    let projections := states.map (targetProjection printable observerType requirement.resourceId)
    2 ≤ projections.length ∧ none ∉ projections ∧
      (requirement.effect.kind = .OBJECT_CREATION ∨ requirement.effect.kind = .STATE_MUTATION) := by
  unfold projectTargetState at shown
  dsimp only at shown ⊢
  split at shown
  · cases shown
    cases confirmed
  · rename_i readable
    obtain ⟨several, told⟩ := not_or.mp readable
    refine ⟨Nat.not_lt.mp several, told, ?_⟩
    split at shown
    · split at shown
      · assumption
      · cases shown
        cases confirmed
    · cases shown

/-- An object that was seen to change is seen to be gone, once a closed history ends without it. -/
theorem targetState_denied (reads : ReadsTarget observerType)
    (shown : projectTargetState printable requirement observerType states closure = .ok fact)
    (confirmed : fact.effect = .CONFIRMED) (some' : more ≠ [])
    (denied : ∀ data ∈ more, data = denial observerType requirement.resourceId) :
    projectTargetState printable requirement observerType (states ++ more) .CLOSED =
      .ok (knownFact requirement .ABSENT .CLOSED) := by
  obtain ⟨gone, projected, missing⟩ := denial_projection printable reads requirement.resourceId
  obtain ⟨several, told, kind⟩ := targetState_confirmed shown confirmed
  have last : (more.map (targetProjection printable observerType requirement.resourceId)).getLast? = some (some gone) := by
    obtain ⟨front, final, split⟩ := List.eq_nil_or_concat more |>.resolve_left some'
    have final' := denied final (by rw [split]; simp)
    rw [split, List.map_concat, final', projected]
    simp
  have also : none ∉ more.map (targetProjection printable observerType requirement.resourceId) := by
    intro member
    obtain ⟨data, inside, unread⟩ := List.mem_map.mp member
    rw [denied data inside, projected] at unread
    cases unread
  unfold projectTargetState
  dsimp only
  rw [List.map_append]
  generalize more.map (targetProjection printable observerType requirement.resourceId) = appended at last also
  generalize states.map (targetProjection printable observerType requirement.resourceId) = projections at several told
  have readable : ¬((projections ++ appended).length < 2 ∨ none ∈ projections ++ appended) := by
    rw [List.length_append, List.mem_append]
    rintro (short | unread)
    · omega
    · exact unread.elim told also
  rw [if_neg readable, List.getLast?_append, last]
  cases projections with
  | nil => exact absurd several (by decide)
  | cons first later =>
    cases first with
    | none => exact absurd List.mem_cons_self told
    | some before =>
      simp only [List.cons_append, List.head?_cons, Option.some_or]
      rw [if_pos kind, changed_gone missing]
      rfl

theorem getLast?_denied (some' : more ≠ []) (denied : ∀ data ∈ more, data = denial observerType requirement.resourceId) :
    (states ++ more).getLast? = some (denial observerType requirement.resourceId) := by
  obtain ⟨front, final, split⟩ := List.eq_nil_or_concat more |>.resolve_left some'
  have final' := denied final (by rw [split]; simp)
  rw [split, final']
  simp

theorem task_denied (confirmed : (projectTask requirement data closure).effect = .CONFIRMED) :
    projectTask requirement (denial .ASYNC_TASK_STATUS requirement.resourceId) .CLOSED =
      knownFact requirement .ABSENT .CLOSED := by
  unfold projectTask at confirmed ⊢
  split at confirmed
  · cases confirmed
  · rename_i supported
    rw [if_neg supported, if_neg (by decide)]
    rfl

theorem queue_denied (confirmed : (projectQueue requirement data closure).effect = .CONFIRMED) :
    projectQueue requirement (denial .AZURE_QUEUE_PEEK requirement.resourceId) .CLOSED =
      knownFact requirement .ABSENT .CLOSED := by
  unfold projectQueue at confirmed ⊢
  split at confirmed
  · rename_i dispatch
    have unmatched : messagesMatched (denial .AZURE_QUEUE_PEEK requirement.resourceId) = false := rfl
    rw [unmatched, if_neg (fun matched => absurd matched.2 (by decide)), if_pos ⟨dispatch.1, rfl, rfl, rfl⟩]
  · split at confirmed
    · cases confirmed
    · cases confirmed

/-- Every source but the log takes a confirmed effect back when a closed history ends in a denial. -/
theorem source_denied (shown : projectSource printable requirement observerType states closure = .ok fact)
    (confirmed : fact.effect = .CONFIRMED) (unlogged : observerType ≠ .STRUCTURED_AUDIT_LOG) (some' : more ≠ [])
    (denied : ∀ data ∈ more, data = denial observerType requirement.resourceId) :
    projectSource printable requirement observerType (states ++ more) .CLOSED =
      .ok (knownFact requirement .ABSENT .CLOSED) := by
  cases observerType with
  | OWNER_API => exact targetState_denied (.inl rfl) shown confirmed some' denied
  | READ_ONLY_SQLITE => exact targetState_denied (.inr (.inl rfl)) shown confirmed some' denied
  | AZURE_BLOB_OBJECT => exact targetState_denied (.inr (.inr rfl)) shown confirmed some' denied
  | STRUCTURED_AUDIT_LOG => exact absurd rfl unlogged
  | ASYNC_TASK_STATUS =>
    obtain ⟨data, _, shown⟩ := bind_eq_ok.mp shown
    cases shown
    simp only [projectSource, getLast?_denied some' denied, orRaise, bind, Except.bind, pure, Except.pure]
    rw [task_denied confirmed]
  | AZURE_QUEUE_PEEK =>
    obtain ⟨data, _, shown⟩ := bind_eq_ok.mp shown
    cases shown
    simp only [projectSource, getLast?_denied some' denied, orRaise, bind, Except.bind, pure, Except.pure]
    rw [queue_denied confirmed]

end Denial

section Histories

/-- The place of a phase among the phases of a case. -/
def ObservationPhase.position : ObservationPhase → Nat
  | .INITIAL => 0
  | .BASELINE => 1
  | .BEFORE => 2
  | .AFTER => 3
  | .EVENTUAL => 4

/-- Complete and correlated envelopes of one case and resource. -/
def History (requirement : Requirement) (envelopes : List ObservationEnvelope) : Prop :=
  ∀ item ∈ envelopes, item.completeness = .COMPLETE ∧ item.causality = .CORRELATED ∧
    item.correlation.caseId = requirement.caseId ∧ item.correlation.resourceId = requirement.resourceId

/-- The later envelopes are of the same or later phases. -/
def Follows (history later : List ObservationEnvelope) : Prop :=
  ∀ earlier ∈ history, ∀ item ∈ later,
    ObservationPhase.position earlier.phase ≤ ObservationPhase.position item.phase

/-- The lists hold the same envelopes, and those of one phase in the same order. -/
def SamePhases (left right : List ObservationEnvelope) : Prop :=
  ∀ phase, left.filter (fun item => item.phase = phase) = right.filter fun item => item.phase = phase

/-- The projection of a history is never turned into absence by looking again. -/
def Kept (printable : Char → Bool) (observerBindings : String → Option ObserverSpec) (requirement : Requirement)
    (history : List ObservationEnvelope) : Prop :=
  ∀ later, History requirement later → Follows history later → ∀ fact,
    projectRequirement printable observerBindings requirement (history ++ later) = .ok fact → fact.effect ≠ .ABSENT

/-- The window can still close: only the last phase counts, or the observation after the request was made, or
it can still be made. -/
def Closable (spec : ObserverSpec) (requirement : Requirement) (history : List ObservationEnvelope) : Prop :=
  SameSet spec.phases [.EVENTUAL] ∨ (∃ item ∈ history, concerns spec requirement item = true ∧ item.phase = .AFTER) ∨
    ∀ item ∈ history, item.phase ≠ .EVENTUAL

/-- What a confirmed effect is told by cannot be taken back. -/
def Lasting (spec : ObserverSpec) (requirement : Requirement) (history : List ObservationEnvelope) : Prop :=
  requirement.effect.kind = .DATA_DISCLOSURE ∨ spec.observerType = .STRUCTURED_AUDIT_LOG ∨
    ¬Closable spec requirement history

theorem select_eq_ok {envelopes : List ObservationEnvelope} :
    selectEnvelopes spec requirement envelopes = .ok selected ↔
      (∀ item ∈ envelopes.filter (concerns spec requirement), (phaseOrder item.phase).isSome) ∧
        sortedBy (fun item => (phaseOrder item.phase).getD 0) (envelopes.filter (concerns spec requirement)) = selected := by
  unfold selectEnvelopes
  dsimp only
  rw [bind_eq_ok]
  constructor
  · intro chosen
    obtain ⟨_, ordered, chosen⟩ := chosen
    exact ⟨require_eq_ok.mp ordered, Except.ok.inj chosen⟩
  · intro chosen
    exact ⟨(), require_eq_ok.mpr chosen.1, congrArg Except.ok chosen.2⟩

theorem phaseOrder_mono {first second : ObservationPhase} (first' : (phaseOrder first).isSome)
    (before : ObservationPhase.position first ≤ ObservationPhase.position second) :
    (phaseOrder first).getD 0 ≤ (phaseOrder second).getD 0 := by
  cases first <;> cases second <;> revert first' before <;> decide

/-- What is seen later is read behind what was seen before. -/
theorem select_append {history later chosen : List ObservationEnvelope} (follows : Follows history later)
    (whole : selectEnvelopes spec requirement (history ++ later) = .ok chosen) :
    ∃ before after, selectEnvelopes spec requirement history = .ok before ∧
      selectEnvelopes spec requirement later = .ok after ∧ chosen = before ++ after := by
  obtain ⟨ordered, sorted⟩ := select_eq_ok.mp whole
  rw [List.filter_append] at ordered sorted
  have first : ∀ item ∈ history.filter (concerns spec requirement), (phaseOrder item.phase).isSome :=
    fun item member => ordered item (List.mem_append_left _ member)
  have second : ∀ item ∈ later.filter (concerns spec requirement), (phaseOrder item.phase).isSome :=
    fun item member => ordered item (List.mem_append_right _ member)
  refine ⟨_, _, select_eq_ok.mpr ⟨first, rfl⟩, select_eq_ok.mpr ⟨second, rfl⟩, ?_⟩
  rw [← sorted]
  apply sortedBy_append
  intro earlier inHistory item inLater
  exact phaseOrder_mono (first earlier inHistory)
    (follows earlier (List.mem_of_mem_filter inHistory) item (List.mem_of_mem_filter inLater))

theorem projectRequirement_eq_ok {observerBindings : String → Option ObserverSpec}
    {envelopes : List ObservationEnvelope} (bound : observerBindings requirement.requirementId = some spec) :
    projectRequirement printable observerBindings requirement envelopes = .ok fact ↔
      ∃ selected, selectEnvelopes spec requirement envelopes = .ok selected ∧
        projectSelected printable spec requirement selected = .ok fact := by
  unfold projectRequirement
  rw [bound, bind_eq_ok]
  constructor
  · intro projected
    obtain ⟨found, same, projected⟩ := projected
    cases same
    exact bind_eq_ok.mp projected
  · intro projected
    exact ⟨spec, rfl, bind_eq_ok.mpr projected⟩

theorem phaseOrder_getD {first second : ObservationPhase} (first' : (phaseOrder first).isSome)
    (second' : (phaseOrder second).isSome) : (phaseOrder first).getD 0 = (phaseOrder second).getD 0 ↔ first = second := by
  cases first <;> cases second <;> revert first' second' <;> decide

/-- Of ordered envelopes those that share a key are those of one phase. -/
theorem sorted_congr {left right : List ObservationEnvelope} (same : SamePhases left right)
    (ordered : ∀ item ∈ left, (phaseOrder item.phase).isSome) (ordered' : ∀ item ∈ right, (phaseOrder item.phase).isSome) :
    sortedBy (fun item => (phaseOrder item.phase).getD 0) left =
      sortedBy (fun item => (phaseOrder item.phase).getD 0) right := by
  apply sortedBy_congr_filter
  intro value
  by_cases placed : ∃ phase, (phaseOrder phase).isSome ∧ (phaseOrder phase).getD 0 = value
  · obtain ⟨phase, place, here⟩ := placed
    have reads : ∀ item : ObservationEnvelope, (phaseOrder item.phase).isSome →
        decide ((phaseOrder item.phase).getD 0 = value) = decide (item.phase = phase) := by
      intro item inside
      rw [← here]
      exact decide_eq_decide.mpr (phaseOrder_getD inside place)
    rw [List.filter_congr fun item member => reads item (ordered item member),
      List.filter_congr fun item member => reads item (ordered' item member), same phase]
  · have none' : ∀ item : ObservationEnvelope, (phaseOrder item.phase).isSome →
        ¬decide ((phaseOrder item.phase).getD 0 = value) = true := by
      intro item inside here
      exact placed ⟨item.phase, inside, of_decide_eq_true here⟩
    rw [List.filter_eq_nil_iff.mpr fun item member => none' item (ordered item member),
      List.filter_eq_nil_iff.mpr fun item member => none' item (ordered' item member)]

theorem SamePhases.mem_iff {left right : List ObservationEnvelope} (same : SamePhases left right)
    (item : ObservationEnvelope) : item ∈ left ↔ item ∈ right := by
  have phases : (item ∈ left.filter fun other => other.phase = item.phase) =
      (item ∈ right.filter fun other => other.phase = item.phase) := by rw [same item.phase]
  simpa [List.mem_filter] using phases

/-- A projection reads the envelopes of each phase in their order, and of the phases only their order. -/
theorem select_congr {left right : List ObservationEnvelope} (same : SamePhases left right) :
    selectEnvelopes spec requirement left = selectEnvelopes spec requirement right := by
  have chosen : SamePhases (left.filter (concerns spec requirement)) (right.filter (concerns spec requirement)) := by
    intro phase
    rw [List.filter_comm, same phase, List.filter_comm]
  unfold selectEnvelopes
  dsimp only
  by_cases ordered : ∀ item ∈ left.filter (concerns spec requirement), (phaseOrder item.phase).isSome
  · have ordered' : ∀ item ∈ right.filter (concerns spec requirement), (phaseOrder item.phase).isSome :=
      fun item member => ordered item ((chosen.mem_iff item).mpr member)
    simp only [require, if_pos ordered, if_pos ordered', sorted_congr chosen ordered ordered']
  · have ordered' : ¬∀ item ∈ right.filter (concerns spec requirement), (phaseOrder item.phase).isSome :=
      fun all => ordered fun item member => all item ((chosen.mem_iff item).mp member)
    simp only [require, if_neg ordered, if_neg ordered']
    rfl

theorem projectRequirement_congr {observerBindings : String → Option ObserverSpec} {left right : List ObservationEnvelope}
    (same : SamePhases left right) :
    projectRequirement printable observerBindings requirement left =
      projectRequirement printable observerBindings requirement right := by
  unfold projectRequirement
  cases bound : observerBindings requirement.requirementId with
  | none => rfl
  | some spec =>
    have chosen : selectEnvelopes spec requirement left = selectEnvelopes spec requirement right := select_congr same
    simp only [orRaise, bind, Except.bind, chosen]

end Histories

section Windows

theorem closed_iff : temporalClosure spec.phases selected = .CLOSED ↔
    if SameSet spec.phases [.EVENTUAL] then ∃ item ∈ selected, item.phase = .EVENTUAL
    else (∃ item ∈ selected, item.phase = .AFTER) ∧
      (.EVENTUAL ∉ spec.phases ∨ ∃ item ∈ selected, item.phase = .EVENTUAL) := by
  unfold temporalClosure
  by_cases only : SameSet spec.phases [.EVENTUAL]
  · simp [only]
  · simp only [if_neg only, List.mem_map, decide_eq_true_eq, ite_eq_left_iff, reduceCtorEq, imp_false, not_not]

theorem mem_selected {envelopes : List ObservationEnvelope} (chosen : selectEnvelopes spec requirement envelopes = .ok selected)
    {item : ObservationEnvelope} : item ∈ selected ↔ item ∈ envelopes ∧ concerns spec requirement item = true := by
  obtain ⟨_, sorted⟩ := select_eq_ok.mp chosen
  rw [← sorted, mem_sortedBy, List.mem_filter]

/-- A window that closes could be closed before. -/
theorem closable_of_closed {history : List ObservationEnvelope} (follows : Follows history later)
    (chosen : selectEnvelopes spec requirement (history ++ later) = .ok selected)
    (closed : temporalClosure spec.phases selected = .CLOSED) : Closable spec requirement history := by
  rw [closed_iff] at closed
  by_cases only : SameSet spec.phases [.EVENTUAL]
  · exact .inl only
  · rw [if_neg only] at closed
    obtain ⟨item, member, after⟩ := closed.1
    obtain ⟨listed, ours⟩ := (mem_selected chosen).mp member
    cases List.mem_append.mp listed with
    | inl early => exact .inr (.inl ⟨item, early, ours, after⟩)
    | inr late =>
      refine .inr (.inr ?_)
      intro earlier seen eventual
      have before := follows earlier seen item late
      rw [eventual, after] at before
      exact absurd before (by decide)

/-- An observation in which nothing of the effect is left. -/
def denyingEnvelope (spec : ObserverSpec) (requirement : Requirement) (phase : ObservationPhase) :
    ObservationEnvelope where
  observerId := spec.observerId
  observerType := spec.observerType
  phase := phase
  correlation := ⟨requirement.caseId, requirement.resourceId, "marker"⟩
  causality := .CORRELATED
  completeness := .COMPLETE
  state := some (denial spec.observerType requirement.resourceId)
  supported := ⟨rfl, rfl, rfl⟩

/-- What closes a window: the last phase, and the phase after the request when it is still to come. -/
def closingPhases (history : List ObservationEnvelope) : List ObservationPhase :=
  if ∀ item ∈ history, item.phase ≠ .EVENTUAL then [.AFTER, .EVENTUAL] else [.EVENTUAL]

def denyingEnvelopes (spec : ObserverSpec) (requirement : Requirement) (history : List ObservationEnvelope) :
    List ObservationEnvelope :=
  (closingPhases history).map (denyingEnvelope spec requirement)

theorem denying_history (history : List ObservationEnvelope) :
    History requirement (denyingEnvelopes spec requirement history) := by
  intro item member
  obtain ⟨phase, _, made⟩ := List.mem_map.mp member
  rw [← made]
  exact ⟨rfl, rfl, rfl, rfl⟩

theorem denying_follows (history : List ObservationEnvelope) :
    Follows history (denyingEnvelopes spec requirement history) := by
  intro earlier seen item member
  obtain ⟨phase, inside, made⟩ := List.mem_map.mp member
  rw [← made]
  change ObservationPhase.position earlier.phase ≤ ObservationPhase.position phase
  unfold closingPhases at inside
  split at inside
  · rename_i early
    have before := early earlier seen
    cases List.mem_cons.mp inside with
    | inl after =>
      rw [after]
      revert before
      cases earlier.phase <;> decide
    | inr last =>
      rw [List.mem_singleton.mp last]
      cases earlier.phase <;> decide
  · rw [List.mem_singleton.mp inside]
    cases earlier.phase <;> decide

theorem denying_eventual (history : List ObservationEnvelope) :
    denyingEnvelope spec requirement .EVENTUAL ∈ denyingEnvelopes spec requirement history := by
  apply List.mem_map_of_mem
  unfold closingPhases
  split <;> decide

theorem denying_concerns (phase : ObservationPhase) :
    concerns spec requirement (denyingEnvelope spec requirement phase) = true := by
  simp [concerns, denyingEnvelope]

theorem closingPhases_ordered (history : List ObservationEnvelope) :
    (closingPhases history).Pairwise (fun first second => (phaseOrder first).getD 0 ≤ (phaseOrder second).getD 0) ∧
      ∀ phase ∈ closingPhases history, (phaseOrder phase).isSome := by
  unfold closingPhases
  split <;> decide

theorem denying_chosen {history before : List ObservationEnvelope}
    (chosen : selectEnvelopes spec requirement history = .ok before) :
    selectEnvelopes spec requirement (history ++ denyingEnvelopes spec requirement history) =
      .ok (before ++ denyingEnvelopes spec requirement history) := by
  obtain ⟨ordered, sorted⟩ := select_eq_ok.mp chosen
  obtain ⟨rising, placed⟩ := closingPhases_ordered history
  have all : (denyingEnvelopes spec requirement history).filter (concerns spec requirement) =
      denyingEnvelopes spec requirement history := by
    apply List.filter_eq_self.mpr
    intro item member
    obtain ⟨phase, _, made⟩ := List.mem_map.mp member
    rw [← made]
    exact denying_concerns phase
  have place : ∀ item ∈ denyingEnvelopes spec requirement history, (phaseOrder item.phase).isSome := by
    intro item member
    obtain ⟨phase, inside, made⟩ := List.mem_map.mp member
    rw [← made]
    exact placed phase inside
  have kept : sortedBy (fun item => (phaseOrder item.phase).getD 0) (denyingEnvelopes spec requirement history) =
      denyingEnvelopes spec requirement history := by
    apply sortedBy_eq_self
    exact List.pairwise_map.mpr rising
  apply select_eq_ok.mpr
  rw [List.filter_append, all]
  constructor
  · intro item member
    cases List.mem_append.mp member with
    | inl early => exact ordered item early
    | inr late => exact place item late
  · rw [sortedBy_append, sorted, kept]
    intro earlier inHistory item inLater
    exact phaseOrder_mono (ordered earlier inHistory)
      (denying_follows history earlier (List.mem_of_mem_filter inHistory) item inLater)

theorem denying_closed {history before : List ObservationEnvelope} (closable : Closable spec requirement history)
    (chosen : selectEnvelopes spec requirement history = .ok before) :
    temporalClosure spec.phases (before ++ denyingEnvelopes spec requirement history) = .CLOSED := by
  have eventual : ∃ item ∈ before ++ denyingEnvelopes spec requirement history, item.phase = .EVENTUAL :=
    ⟨_, List.mem_append_right _ (denying_eventual history), rfl⟩
  rw [closed_iff]
  by_cases only : SameSet spec.phases [.EVENTUAL]
  · rw [if_pos only]
    exact eventual
  · rw [if_neg only]
    refine ⟨?_, .inr eventual⟩
    cases closable with
    | inl same => exact absurd same only
    | inr open' =>
      cases open' with
      | inl seen =>
        obtain ⟨item, member, ours, after⟩ := seen
        exact ⟨item, List.mem_append_left _ ((mem_selected chosen).mpr ⟨member, ours⟩), after⟩
      | inr early =>
        refine ⟨denyingEnvelope spec requirement .AFTER, List.mem_append_right _ ?_, rfl⟩
        apply List.mem_map_of_mem
        rw [closingPhases, if_pos early]
        exact List.mem_cons_self

theorem denying_states (spec : ObserverSpec) (requirement : Requirement) (history : List ObservationEnvelope) :
    let states := (denyingEnvelopes spec requirement history).filterMap (·.state)
    states ≠ [] ∧ ∀ data ∈ states, data = denial spec.observerType requirement.resourceId := by
  have eventual : denial spec.observerType requirement.resourceId ∈
      (denyingEnvelopes spec requirement history).filterMap (·.state) :=
    List.mem_filterMap.mpr ⟨_, denying_eventual history, rfl⟩
  refine ⟨List.ne_nil_of_mem eventual, ?_⟩
  intro data member
  obtain ⟨item, inside, given⟩ := List.mem_filterMap.mp member
  obtain ⟨phase, _, made⟩ := List.mem_map.mp inside
  rw [← made] at given
  exact (Option.some.inj given).symm

theorem trustworthy_append (trusted : trustworthy selected = true)
    (sound : ∀ item ∈ later, item.completeness = .COMPLETE) : trustworthy (selected ++ later) = true := by
  unfold trustworthy at trusted ⊢
  rw [Bool.and_eq_true] at trusted ⊢
  refine ⟨?_, ?_⟩
  · cases selected with
    | nil => exact absurd trusted.1 (by decide)
    | cons first rest => rfl
  · rw [List.all_append, trusted.2, Bool.true_and, List.all_eq_true]
    intro item member
    have complete := sound item member
    obtain ⟨data, given⟩ := item.state_of_complete complete
    simp [complete, item.correlated_of_complete complete, given]

end Windows

section Lookback

variable {observerBindings : String → Option ObserverSpec} {history : List ObservationEnvelope}

/-- A window that can close can close on a denial. -/
theorem taken_back (bound : observerBindings requirement.requirementId = some spec)
    (shown : projectRequirement printable observerBindings requirement history = .ok fact)
    (confirmed : fact.effect = .CONFIRMED) (kind : requirement.effect.kind ≠ .DATA_DISCLOSURE)
    (unlogged : spec.observerType ≠ .STRUCTURED_AUDIT_LOG) (closable : Closable spec requirement history) :
    projectRequirement printable observerBindings requirement
      (history ++ denyingEnvelopes spec requirement history) = .ok (knownFact requirement .ABSENT .CLOSED) := by
  obtain ⟨selected, chosen, projected⟩ := (projectRequirement_eq_ok bound).mp shown
  obtain ⟨version, trusted, told⟩ := selected_known projected (by rw [confirmed]; decide)
  rw [if_neg kind] at told
  obtain ⟨some', denied⟩ := denying_states spec requirement history
  have trusted' : trustworthy (selected ++ denyingEnvelopes spec requirement history) = true :=
    trustworthy_append trusted fun item member => (denying_history history item member).1
  apply (projectRequirement_eq_ok bound).mpr
  refine ⟨_, denying_chosen chosen, ?_⟩
  unfold projectSelected
  rw [if_neg (not_not.mpr version), trusted', if_neg (by decide)]
  dsimp only
  rw [if_neg kind, denying_closed closable chosen, List.filterMap_append]
  exact source_denied told confirmed unlogged some' denied

theorem kept_of_lasting (bound : observerBindings requirement.requirementId = some spec)
    (shown : projectRequirement printable observerBindings requirement history = .ok fact)
    (confirmed : fact.effect = .CONFIRMED) (lasting : Lasting spec requirement history) :
    Kept printable observerBindings requirement history := by
  intro later _ follows outcome extended absent
  obtain ⟨selected, chosen, projected⟩ := (projectRequirement_eq_ok bound).mp shown
  obtain ⟨whole, chosen', projected'⟩ := (projectRequirement_eq_ok bound).mp extended
  obtain ⟨_, _, told⟩ := selected_known projected (by rw [confirmed]; decide)
  obtain ⟨_, _, told'⟩ := selected_known projected' (by rw [absent]; decide)
  by_cases kind : requirement.effect.kind = .DATA_DISCLOSURE
  · rw [if_pos kind] at told told'
    rw [told] at confirmed
    rw [told'] at absent
    exact disclosure_kept confirmed absent
  · rw [if_neg kind] at told told'
    by_cases log : spec.observerType = .STRUCTURED_AUDIT_LOG
    · obtain ⟨before, after, first, _, split⟩ := select_append follows chosen'
      have same : before = selected := Except.ok.inj (first.symm.trans chosen)
      rw [log] at told told'
      rw [split, same, List.filterMap_append] at told'
      cases told
      cases told'
      exact audit_kept confirmed absent
    · obtain disclosed | logged | settled := lasting
      · exact kind disclosed
      · exact log logged
      · exact settled (closable_of_closed follows chosen' (source_absent told' absent))

/-- Looking again takes back a confirmed effect exactly when a source that is not the log can still close its window;
in which order the phases are supplied never matters. -/
theorem looking_again (printable : Char → Bool) (observerBindings : String → Option ObserverSpec)
    (requirement : Requirement) :
    (∀ spec history fact, observerBindings requirement.requirementId = some spec → History requirement history →
      projectRequirement printable observerBindings requirement history = .ok fact → fact.effect = .CONFIRMED →
        (Kept printable observerBindings requirement history ↔ Lasting spec requirement history)) ∧
    ∀ history other, SamePhases history other →
      projectRequirement printable observerBindings requirement other =
        projectRequirement printable observerBindings requirement history := by
  constructor
  · intro spec history fact bound _ shown confirmed
    constructor
    · intro kept
      by_cases lasting : Lasting spec requirement history
      · exact lasting
      · have fleeting := not_or.mp lasting
        have fleeting' := not_or.mp fleeting.2
        have denied := taken_back bound shown confirmed fleeting.1 fleeting'.1 (not_not.mp fleeting'.2)
        exact absurd rfl (kept _ (denying_history history) (denying_follows history) _ denied)
    · exact kept_of_lasting bound shown confirmed
  · intro history other same
    exact (projectRequirement_congr same).symm

end Lookback

section Transient

def sampleSpec : ObserverSpec where
  observerId := "owner"
  observerType := .OWNER_API
  phases := [.AFTER, .BEFORE, .EVENTUAL]
  some' := by decide
  distinct := by decide
  allowed := trivial

def sampleRequirement : Requirement where
  caseId := "case-1"
  resourceId := "document"
  effect := ⟨"document-created", .OBJECT_CREATION, none⟩
  projectionVersion := "v1"
  requirementId := "proof_1"
  required := true

def sampleEnvelope (phase : ObservationPhase) (workflowState : String) : ObservationEnvelope where
  observerId := "owner"
  observerType := .OWNER_API
  phase := phase
  correlation := ⟨"case-1", "document", "marker"⟩
  causality := .CORRELATED
  completeness := .COMPLETE
  state := some [("data", .dict [("resource_id", .str "document"), ("workflow_state", .str workflowState)]),
    ("status_code", .int 200)]
  supported := ⟨rfl, rfl, rfl⟩

def sampleHistory : List ObservationEnvelope := [sampleEnvelope .BEFORE "ABSENT", sampleEnvelope .AFTER "active"]

def sampleBindings (requirementId : String) : Option ObserverSpec :=
  if requirementId = "proof_1" then some sampleSpec else none

/-- A document that was created and is deleted again is reported as never created. -/
theorem transient_object_denied :
    ∃ history later first second, History sampleRequirement history ∧ History sampleRequirement later ∧
      Follows history later ∧ (∀ item ∈ history ++ later, item.phase ∈ sampleSpec.phases) ∧
      projectRequirement (fun _ => true) sampleBindings sampleRequirement history = .ok first ∧
      first.effect = .CONFIRMED ∧
      projectRequirement (fun _ => true) sampleBindings sampleRequirement (history ++ later) = .ok second ∧
      second.effect = .ABSENT := by
  refine ⟨sampleHistory, [sampleEnvelope .EVENTUAL "DELETED"], knownFact sampleRequirement .CONFIRMED .OPEN,
    knownFact sampleRequirement .ABSENT .CLOSED, ?_, ?_, ?_, ?_, rfl, rfl, rfl, rfl⟩
  · simp [History, sampleHistory, sampleEnvelope, sampleRequirement]
  · simp [History, sampleEnvelope, sampleRequirement]
  · simp [Follows, sampleHistory, sampleEnvelope, ObservationPhase.position]
  · simp [sampleHistory, sampleEnvelope, sampleSpec]

end Transient

end Jiejian.Observers.Lookback
