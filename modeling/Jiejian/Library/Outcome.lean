import Mathlib.Data.List.Forall2

namespace Jiejian.Library.Outcome

/-- A guard that raises `error` unless the condition holds. -/
def require {ε : Type} (condition : Prop) [Decidable condition] (error : ε) : Except ε Unit :=
  if condition then .ok () else .error error

@[simp] theorem require_eq_ok {ε : Type} {condition : Prop} [Decidable condition] {error : ε} {done : Unit} :
    require condition error = .ok done ↔ condition := by
  unfold require
  by_cases holds : condition <;> simp [holds]

/-- A computation with a continuation succeeds exactly when both parts do. -/
theorem bind_eq_ok {ε α β : Type} {first : Except ε α} {next : α → Except ε β} {result : β} :
    (first >>= next) = .ok result ↔ ∃ value, first = .ok value ∧ next value = .ok result := by
  cases first with
  | error error => simp [bind, Except.bind]
  | ok value => simp [bind, Except.bind]

/-- A mapped computation succeeds with the images of its results. -/
theorem map_eq_ok {ε α β : Type} {computation : Except ε α} {image : α → β} {result : β} :
    computation.map image = .ok result ↔ ∃ value, computation = .ok value ∧ image value = result := by
  cases computation <;> simp [Except.map]

@[simp] theorem mapError_eq_ok {ε ε' α : Type} {computation : Except ε α} {rename : ε → ε'} {result : α} :
    computation.mapError rename = .ok result ↔ computation = .ok result := by
  cases computation <;> simp [Except.mapError]

/-- The value of an optional read, or the error a missing one raises. -/
def orRaise {ε α : Type} (value : Option α) (error : ε) : Except ε α :=
  match value with
  | some value => .ok value
  | none => .error error

@[simp] theorem orRaise_eq_ok {ε α : Type} {value : Option α} {error : ε} {result : α} :
    orRaise value error = .ok result ↔ value = some result := by
  cases value <;> simp [orRaise]

/-- Every error the computation can raise is an allowed one. -/
def RaisesOnly {ε α : Type} (allowed : ε → Prop) (computation : Except ε α) : Prop :=
  ∀ error, computation = .error error → allowed error

theorem raisesOnly_ok {ε α : Type} {allowed : ε → Prop} {value : α} :
    RaisesOnly allowed (.ok value : Except ε α) := by
  intro error raised
  cases raised

theorem raisesOnly_error {ε α : Type} {allowed : ε → Prop} {error : ε} :
    RaisesOnly allowed (.error error : Except ε α) ↔ allowed error :=
  ⟨fun only => only error rfl, fun fine _ raised => Except.error.inj raised ▸ fine⟩

theorem RaisesOnly.mono {ε α : Type} {few many : ε → Prop} {computation : Except ε α}
    (only : RaisesOnly few computation) (wider : ∀ error, few error → many error) : RaisesOnly many computation :=
  fun error raised => wider error (only error raised)

theorem raisesOnly_require {ε : Type} {allowed : ε → Prop} {condition : Prop} [Decidable condition] {error : ε}
    (fine : allowed error) : RaisesOnly allowed (require condition error) := by
  unfold require
  by_cases holds : condition
  · rw [if_pos holds]
    exact raisesOnly_ok
  · rw [if_neg holds]
    exact raisesOnly_error.mpr fine

theorem raisesOnly_orRaise {ε α : Type} {allowed : ε → Prop} {value : Option α} {error : ε}
    (fine : value = none → allowed error) : RaisesOnly allowed (orRaise value error) := by
  cases value with
  | some value => exact raisesOnly_ok
  | none => exact raisesOnly_error.mpr (fine rfl)

theorem raisesOnly_bind {ε α β : Type} {allowed : ε → Prop} {first : Except ε α} {next : α → Except ε β}
    (before : RaisesOnly allowed first) (after : ∀ value, first = .ok value → RaisesOnly allowed (next value)) :
    RaisesOnly allowed (first >>= next) := by
  cases first with
  | error error => exact fun raised same => before raised (by simpa [bind, Except.bind] using same)
  | ok value => exact after value rfl

/-- A pass over a list none of whose steps fails. -/
theorem mapM_eq_ok {ε α β : Type} {step : α → Except ε β} {value : α → β} {items : List α}
    (succeeds : ∀ item ∈ items, step item = .ok (value item)) : items.mapM step = .ok (items.map value) := by
  induction items with
  | nil => rfl
  | cons item rest ih =>
    have here := succeeds item (by simp)
    have there := ih fun item member => succeeds item (by simp [member])
    simp only [List.mapM_cons, here, there, List.map_cons]
    rfl

/-- A pass succeeds exactly when each step does, in order. -/
theorem mapM_eq_ok_iff {ε α β : Type} {step : α → Except ε β} {items : List α} {results : List β} :
    items.mapM step = .ok results ↔ List.Forall₂ (fun item result => step item = .ok result) items results := by
  induction items generalizing results with
  | nil => cases results <;> simp [pure, Except.pure]
  | cons item rest ih =>
    rw [List.mapM_cons, bind_eq_ok]
    constructor
    · rintro ⟨value, here, later⟩
      obtain ⟨values, there, same⟩ := bind_eq_ok.mp later
      have built : value :: values = results := by simpa [pure, Except.pure] using same
      subst built
      exact .cons here (ih.mp there)
    · intro related
      cases related with
      | cons here there => exact ⟨_, here, bind_eq_ok.mpr ⟨_, ih.mpr there, rfl⟩⟩

/-- A pass succeeds when every step does. -/
theorem mapM_total {ε α β : Type} {step : α → Except ε β} {items : List α}
    (succeeds : ∀ item ∈ items, ∃ result, step item = .ok result) : ∃ results, items.mapM step = .ok results := by
  induction items with
  | nil => exact ⟨[], rfl⟩
  | cons item rest ih =>
    obtain ⟨result, here⟩ := succeeds item List.mem_cons_self
    obtain ⟨results, there⟩ := ih fun other member => succeeds other (List.mem_cons_of_mem item member)
    exact ⟨result :: results, mapM_eq_ok_iff.mpr (.cons here (mapM_eq_ok_iff.mp there))⟩

/-- Two passes with the same outcome at related items have the same outcome. -/
theorem mapM_congr {ε α β γ : Type} {step : α → Except ε γ} {step' : β → Except ε γ} {items : List α} {others : List β}
    (related : List.Forall₂ (fun item other => step item = step' other) items others) :
    items.mapM step = others.mapM step' := by
  induction related with
  | nil => rfl
  | cons here _ ih => rw [List.mapM_cons, List.mapM_cons, here, ih]

/-- Every item of the first of two related lists has a partner in the second. -/
theorem partner_right {α β : Type} {related : α → β → Prop} {left : List α} {right : List β}
    (pairwise : List.Forall₂ related left right) {item : α} (member : item ∈ left) :
    ∃ other ∈ right, related item other := by
  induction pairwise with
  | nil => cases member
  | cons here _ ih =>
    rcases List.mem_cons.mp member with rfl | later
    · exact ⟨_, by simp, here⟩
    · obtain ⟨other, inside, holds⟩ := ih later
      exact ⟨other, by simp [inside], holds⟩

theorem partner_left {α β : Type} {related : α → β → Prop} {left : List α} {right : List β}
    (pairwise : List.Forall₂ related left right) {other : β} (member : other ∈ right) :
    ∃ item ∈ left, related item other :=
  partner_right pairwise.flip member

/-- A pass whose steps succeed on the fine items, each with its own value. -/
theorem mapM_eq_ok_map {ε α β : Type} {step : α → Except ε β} {fine : α → Prop} {value : α → β} {items : List α}
    {results : List β}
    (each : ∀ item ∈ items, ∀ result, step item = .ok result ↔ fine item ∧ result = value item) :
    items.mapM step = .ok results ↔ (∀ item ∈ items, fine item) ∧ results = items.map value := by
  constructor
  · intro passed
    have fines : ∀ item ∈ items, fine item := by
      intro item member
      obtain ⟨result, -, stepped⟩ := partner_right (mapM_eq_ok_iff.mp passed) member
      exact ((each item member result).mp stepped).1
    have all := mapM_eq_ok fun item member => (each item member (value item)).mpr ⟨fines item member, rfl⟩
    exact ⟨fines, Except.ok.inj (passed.symm.trans all)⟩
  · rintro ⟨fines, rfl⟩
    exact mapM_eq_ok fun item member => (each item member (value item)).mpr ⟨fines item member, rfl⟩

/-- Two passes over the same items pair their results. -/
theorem forall₂_join {ι α β : Type} {first : ι → α → Prop} {second : ι → β → Prop} {related : α → β → Prop}
    (join : ∀ item left right, first item left → second item right → related left right) {items : List ι}
    {lefts : List α} {rights : List β} (one : List.Forall₂ first items lefts) (other : List.Forall₂ second items rights) :
    List.Forall₂ related lefts rights := by
  induction one generalizing rights with
  | nil =>
    cases other
    exact .nil
  | cons here _ ih =>
    cases other with
    | cons there rest => exact .cons (join _ _ _ here there) (ih rest)

/-- A check of every item passes exactly when each item passes. -/
theorem forM_eq_ok {ε α : Type} {check : α → Except ε Unit} {items : List α} {done : Unit} :
    items.forM check = .ok done ↔ ∀ item ∈ items, check item = .ok () := by
  induction items with
  | nil => simp [pure, Except.pure]
  | cons item rest ih =>
    have unfolded : (item :: rest).forM check = (check item >>= fun _ => rest.forM check) := rfl
    rw [unfolded, bind_eq_ok]
    simp only [ih, List.mem_cons, forall_eq_or_imp]
    exact ⟨fun ⟨_, here, there⟩ => ⟨here, there⟩, fun ⟨here, there⟩ => ⟨(), here, there⟩⟩

/-- A walk whose end shows a property of every state before it: the property holds at the start,
and what each step preserves under it holds at the end. `done` are the items already walked. -/
theorem foldlM_reflecting {ε σ α : Type} {step : σ → α → Except ε σ} (shown : σ → Prop)
    (invariant : List α → σ → Prop) (done : List α)
    (reflects : ∀ state item next, step state item = .ok next → shown next → shown state)
    {items : List α} (preserves : ∀ done state item next, item ∈ items → step state item = .ok next → shown next →
      invariant done state → invariant (done ++ [item]) next)
    {state last : σ} (walked : items.foldlM step state = .ok last) (ends : shown last) :
    shown state ∧ (invariant done state → invariant (done ++ items) last) := by
  induction items generalizing done state with
  | nil =>
    have same : state = last := by simpa [pure, Except.pure] using walked
    subst same
    simpa using ends
  | cons item rest ih =>
    rw [List.foldlM_cons] at walked
    obtain ⟨next, stepped, later⟩ := bind_eq_ok.mp walked
    have tail := ih (done ++ [item])
      (fun done state other next member => preserves done state other next (by simp [member])) later
    have here := reflects state item next stepped tail.1
    refine ⟨here, fun holds => ?_⟩
    have after := tail.2 (preserves done state item next (by simp) stepped tail.1 holds)
    simpa using after

/-- A walk preserves what each of its steps preserves. -/
theorem foldlM_invariant {ε σ α : Type} {step : σ → α → Except ε σ} {invariant : σ → Prop} {items : List α}
    (preserves : ∀ state item next, item ∈ items → step state item = .ok next → invariant state → invariant next)
    {state last : σ} (walked : items.foldlM step state = .ok last) (holds : invariant state) : invariant last := by
  have kept := foldlM_reflecting (fun _ => True) (fun _ => invariant) []
    (fun _ _ _ _ _ => trivial) (fun _ state item next member stepped _ => preserves state item next member stepped)
    walked trivial
  exact kept.2 holds

/-- A walk whose steps succeed under an invariant that they preserve succeeds. -/
theorem foldlM_total {ε σ α : Type} {step : σ → α → Except ε σ} {invariant : σ → Prop} {items : List α}
    (advances : ∀ state item, item ∈ items → invariant state → ∃ next, step state item = .ok next ∧ invariant next)
    {state : σ} (holds : invariant state) : ∃ last, items.foldlM step state = .ok last ∧ invariant last := by
  induction items generalizing state with
  | nil => exact ⟨state, rfl, holds⟩
  | cons item rest ih =>
    obtain ⟨next, stepped, later⟩ := advances state item List.mem_cons_self holds
    obtain ⟨last, walked, ends⟩ := ih (fun state other member => advances state other (List.mem_cons_of_mem item member)) later
    refine ⟨last, ?_, ends⟩
    rw [List.foldlM_cons, stepped]
    exact walked

/-- A failed check of a list fails at one of its items. -/
theorem forM_eq_error {ε α : Type} {check : α → Except ε Unit} {items : List α} {error : ε}
    (raised : items.forM check = .error error) : ∃ item ∈ items, check item = .error error := by
  induction items with
  | nil => cases raised
  | cons item rest ih =>
    have unfolded : (item :: rest).forM check = (check item >>= fun _ => rest.forM check) := rfl
    rw [unfolded] at raised
    cases first : check item with
    | error other =>
      rw [first] at raised
      have same : other = error := by simpa [bind, Except.bind] using raised
      exact ⟨item, List.mem_cons_self, by rw [first, same]⟩
    | ok done =>
      rw [first] at raised
      obtain ⟨other, member, failed⟩ := ih raised
      exact ⟨other, List.mem_cons_of_mem item member, failed⟩

theorem raisesOnly_mapM {ε α β : Type} {allowed : ε → Prop} {step : α → Except ε β} {items : List α}
    (each : ∀ item, RaisesOnly allowed (step item)) : RaisesOnly allowed (items.mapM step) := by
  induction items with
  | nil => exact raisesOnly_ok
  | cons item rest ih =>
    rw [List.mapM_cons]
    apply raisesOnly_bind (each item)
    intro value _
    apply raisesOnly_bind ih
    intro values _
    exact raisesOnly_ok

end Jiejian.Library.Outcome
