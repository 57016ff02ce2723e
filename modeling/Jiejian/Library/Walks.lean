import Mathlib.Data.List.Basic
import Mathlib.Logic.Relation

namespace Jiejian.Library.Walks

variable {α : Type} {step : α → α → Prop} {starts : α → Prop}

/-- A path that begins at a start, follows the steps and ends at the node. -/
inductive Walk (step : α → α → Prop) (starts : α → Prop) : List α → α → Prop where
  | start {node : α} : starts node → Walk step starts [node] node
  | onward {path : List α} {node next : α} :
      Walk step starts path node → step node next → Walk step starts (path ++ [next]) next

theorem Walk.getLast {path : List α} {node : α} (walk : Walk step starts path node) : path.getLast? = some node := by
  cases walk with
  | start _ => rfl
  | onward _ _ => exact List.getLast?_concat

theorem Walk.ne_nil {path : List α} {node : α} (walk : Walk step starts path node) : path ≠ [] := by
  cases walk with
  | start _ => exact List.cons_ne_nil _ _
  | onward _ _ => exact List.append_ne_nil_of_right_ne_nil _ (List.cons_ne_nil _ _)

/-- A node has a walk exactly when it can be reached from a start. -/
theorem walk_iff_reached {node : α} :
    (∃ path, Walk step starts path node) ↔ ∃ start, starts start ∧ Relation.ReflTransGen step start node := by
  apply Iff.intro
  · intro walked
    obtain ⟨path, walk⟩ := walked
    induction walk with
    | start begun => exact ⟨_, begun, .refl⟩
    | onward _ stepped ih =>
      obtain ⟨start, begun, reached⟩ := ih
      exact ⟨start, begun, reached.tail stepped⟩
  · intro reached
    obtain ⟨start, begun, reached⟩ := reached
    induction reached with
    | refl => exact ⟨[start], .start begun⟩
    | tail _ stepped ih =>
      obtain ⟨path, walk⟩ := ih
      exact ⟨_, walk.onward stepped⟩

/-- What a search in order of length knows: the walks it is done with and those that wait. `cut` says that a step
beyond the limit was left out. -/
structure Explored (step : α → α → Prop) (starts : α → Prop) (limit : Nat) (cut : Prop)
    (done pending : List (List α)) : Prop where
  walks : ∀ path ∈ done ++ pending, ∃ node, Walk step starts path node
  short : ∀ path ∈ done ++ pending, path.length ≤ limit + 1
  started : ∀ node, starts node → [node] ∈ done ++ pending
  ordered : pending.Pairwise fun before after => before.length ≤ after.length
  level : ∀ waiting ∈ pending, ∀ path ∈ done ++ pending, path.length ≤ waiting.length + 1
  closed : ∀ path ∈ done, ∀ node next, path.getLast? = some node → step node next →
    (∃ other ∈ done ++ pending, other.getLast? = some next ∧ other.length ≤ path.length + 1) ∨
      (cut ∧ path.length = limit + 1)

namespace Explored

variable {limit : Nat} {cut cut' : Prop} {done pending : List (List α)} {path : List α}

theorem initial {first : List α} (same : ∀ node, starts node ↔ node ∈ first) :
    Explored step starts limit cut [] (first.map ([·])) := by
  have single : ∀ path ∈ first.map ([·]), path.length = 1 := by
    intro path member
    obtain ⟨node, _, eq⟩ := List.mem_map.mp member
    rw [← eq]
    rfl
  refine ⟨?_, ?_, ?_, ?_, ?_, fun path member => absurd member List.not_mem_nil⟩
  · intro path member
    obtain ⟨node, listed, eq⟩ := List.mem_map.mp member
    exact ⟨node, eq ▸ .start ((same node).mpr listed)⟩
  · intro path member
    have := single path member
    omega
  · intro node begun
    exact List.mem_map_of_mem ((same node).mp begun)
  · apply List.pairwise_of_forall_mem_list
    intro before member after member'
    exact Nat.le_of_eq ((single before member).trans (single after member').symm)
  · intro waiting member path member'
    have := single path member'
    omega

/-- Every walk is accounted for: its end was found no later, a shorter walk still waits, or it goes beyond the limit. -/
theorem covers (explored : Explored step starts limit cut done pending) {walk : List α} {node : α}
    (walked : Walk step starts walk node) :
    (∃ other ∈ done ++ pending, other.getLast? = some node ∧ other.length ≤ walk.length) ∨
      (∃ waiting ∈ pending, waiting.length < walk.length) ∨ (cut ∧ limit + 1 < walk.length) := by
  induction walked with
  | start begun => exact .inl ⟨_, explored.started _ begun, rfl, Nat.le_refl _⟩
  | @onward walk node next _ stepped ih =>
    have longer : (walk ++ [next]).length = walk.length + 1 := List.length_append
    rw [longer]
    cases ih with
    | inl found =>
      obtain ⟨other, member, last, short⟩ := found
      cases List.mem_append.mp member with
      | inl finished =>
        cases explored.closed other finished node next last stepped with
        | inl onward =>
          obtain ⟨beyond, member', last', short'⟩ := onward
          exact .inl ⟨beyond, member', last', by omega⟩
        | inr left => exact .inr (.inr ⟨left.1, by omega⟩)
      | inr waits => exact .inr (.inl ⟨other, waits, by omega⟩)
    | inr rest =>
      cases rest with
      | inl waits =>
        obtain ⟨waiting, member, short⟩ := waits
        exact .inr (.inl ⟨waiting, member, by omega⟩)
      | inr left => exact .inr (.inr ⟨left.1, by omega⟩)

theorem first_le (explored : Explored step starts limit cut done (path :: pending)) :
    ∀ waiting ∈ path :: pending, path.length ≤ waiting.length := by
  intro waiting member
  cases List.mem_cons.mp member with
  | inl same => exact Nat.le_of_eq (congrArg List.length same.symm)
  | inr later => exact (List.pairwise_cons.mp explored.ordered).1 waiting later

/-- The first waiting walk to an end that no finished one has is a shortest walk to it. -/
theorem shortest (explored : Explored step starts limit cut done (path :: pending)) {node : α}
    (last : path.getLast? = some node) (missed : ∀ other ∈ done, other.getLast? ≠ some node) :
    Walk step starts path node ∧ path.length ≤ limit + 1 ∧
      ∀ walk, Walk step starts walk node → path.length ≤ walk.length := by
  have among : path ∈ done ++ path :: pending := List.mem_append_right _ List.mem_cons_self
  have short := explored.short path among
  obtain ⟨end', walked⟩ := explored.walks path among
  have same : end' = node := Option.some.inj (walked.getLast.symm.trans last)
  refine ⟨same ▸ walked, short, ?_⟩
  intro walk other
  cases explored.covers other with
  | inl found =>
    obtain ⟨known, member, ends, le⟩ := found
    cases List.mem_append.mp member with
    | inl finished => exact absurd ends (missed known finished)
    | inr waits => exact Nat.le_trans (explored.first_le known waits) le
  | inr rest =>
    cases rest with
    | inl waits =>
      obtain ⟨waiting, member, lt⟩ := waits
      have := explored.first_le waiting member
      omega
    | inr left => omega

/-- When nothing waits, the walks to an end that was not found go beyond the limit. -/
theorem finished (explored : Explored step starts limit cut done []) {node : α}
    (missed : ∀ other ∈ done, other.getLast? ≠ some node) {walk : List α} (walked : Walk step starts walk node) :
    cut ∧ limit + 1 < walk.length := by
  cases explored.covers walked with
  | inl found =>
    obtain ⟨known, member, ends, _⟩ := found
    rw [List.append_nil] at member
    exact absurd ends (missed known member)
  | inr rest =>
    cases rest with
    | inl waits =>
      obtain ⟨waiting, member, _⟩ := waits
      exact absurd member List.not_mem_nil
    | inr left => exact left

theorem popped (done pending new : List (List α)) (path : List α) :
    (done ++ [path]) ++ (pending ++ new) = (done ++ path :: pending) ++ new := by
  rw [List.append_assoc, List.singleton_append, List.append_assoc, List.cons_append]

/-- The first waiting walk is done: its onward walks to new ends wait at the back. -/
theorem expand (explored : Explored step starts limit cut done (path :: pending)) {node : α} {nexts : List α}
    (last : path.getLast? = some node) (room : path.length ≤ limit) (steps : ∀ next ∈ nexts, step node next)
    (all : ∀ next, step node next → next ∈ nexts ∨ ∃ other ∈ done ++ path :: pending, other.getLast? = some next) :
    Explored step starts limit cut (done ++ [path]) (pending ++ nexts.map fun next => path ++ [next]) := by
  have added : ∀ new ∈ nexts.map (fun next => path ++ [next]), new.length = path.length + 1 := by
    intro new member
    obtain ⟨next, _, eq⟩ := List.mem_map.mp member
    rw [← eq]
    exact List.length_append
  have among : path ∈ done ++ path :: pending := List.mem_append_right _ List.mem_cons_self
  have window := explored.level path List.mem_cons_self
  have kept : ∀ other, other ∈ done ++ path :: pending →
      other ∈ (done ++ [path]) ++ (pending ++ nexts.map fun next => path ++ [next]) := by
    intro other member
    rw [popped]
    exact List.mem_append_left _ member
  have split : ∀ other, other ∈ (done ++ [path]) ++ (pending ++ nexts.map fun next => path ++ [next]) →
      other ∈ done ++ path :: pending ∨ other ∈ nexts.map fun next => path ++ [next] := by
    intro other member
    rw [popped] at member
    exact List.mem_append.mp member
  refine ⟨?_, ?_, ?_, ?_, ?_, ?_⟩
  · intro other member
    cases split other member with
    | inl old => exact explored.walks other old
    | inr new =>
      obtain ⟨next, listed, eq⟩ := List.mem_map.mp new
      obtain ⟨end', walked⟩ := explored.walks path among
      have same : end' = node := Option.some.inj (walked.getLast.symm.trans last)
      exact ⟨next, eq ▸ walked.onward (same ▸ steps next listed)⟩
  · intro other member
    cases split other member with
    | inl old => exact explored.short other old
    | inr new =>
      have := added other new
      omega
  · intro start begun
    exact kept _ (explored.started start begun)
  · apply List.pairwise_append.mpr
    refine ⟨(List.pairwise_cons.mp explored.ordered).2, ?_, ?_⟩
    · apply List.pairwise_of_forall_mem_list
      intro before member after member'
      exact Nat.le_of_eq ((added before member).trans (added after member').symm)
    · intro before member after member'
      rw [added after member']
      exact window before (List.mem_append_right _ (List.mem_cons_of_mem _ member))
  · intro waiting member other member'
    have above : path.length ≤ waiting.length := by
      cases List.mem_append.mp member with
      | inl old => exact explored.first_le waiting (List.mem_cons_of_mem _ old)
      | inr new =>
        have := added waiting new
        omega
    cases split other member' with
    | inl old =>
      have := window other old
      omega
    | inr new =>
      have := added other new
      omega
  · intro other member end' next ends stepped
    cases List.mem_append.mp member with
    | inl old =>
      cases explored.closed other old end' next ends stepped with
      | inl found =>
        obtain ⟨known, member', ends', le⟩ := found
        exact .inl ⟨known, kept known member', ends', le⟩
      | inr left => exact .inr left
    | inr new =>
      have this := List.mem_singleton.mp new
      subst this
      have same : end' = node := Option.some.inj (ends.symm.trans last)
      rw [same] at stepped
      cases all next stepped with
      | inl listed =>
        have new' : other ++ [next] ∈ nexts.map fun next => other ++ [next] := List.mem_map_of_mem listed
        exact .inl ⟨other ++ [next], List.mem_append_right _ (List.mem_append_right _ new'), List.getLast?_concat,
          Nat.le_of_eq List.length_append⟩
      | inr found =>
        obtain ⟨known, member', ends'⟩ := found
        exact .inl ⟨known, kept known member', ends', window known member'⟩

/-- The first waiting walk is at the limit: a step to a new end is left out. -/
theorem stop (explored : Explored step starts limit cut done (path :: pending)) {node : α}
    (last : path.getLast? = some node) (full : path.length = limit + 1) (still : cut → cut')
    (all : ∀ next, step node next → cut' ∨ ∃ other ∈ done ++ path :: pending, other.getLast? = some next) :
    Explored step starts limit cut' (done ++ [path]) pending := by
  have window := explored.level path List.mem_cons_self
  have same : (done ++ [path]) ++ pending = done ++ path :: pending := by
    rw [List.append_assoc, List.singleton_append]
  refine ⟨?_, ?_, ?_, (List.pairwise_cons.mp explored.ordered).2, ?_, ?_⟩
  · rw [same]
    exact explored.walks
  · rw [same]
    exact explored.short
  · rw [same]
    exact explored.started
  · rw [same]
    intro waiting member
    exact explored.level waiting (List.mem_cons_of_mem _ member)
  · rw [same]
    intro other member end' next ends stepped
    cases List.mem_append.mp member with
    | inl old =>
      cases explored.closed other old end' next ends stepped with
      | inl found => exact .inl found
      | inr left => exact .inr ⟨still left.1, left.2⟩
    | inr new =>
      have this := List.mem_singleton.mp new
      subst this
      have eq : end' = node := Option.some.inj (ends.symm.trans last)
      rw [eq] at stepped
      cases all next stepped with
      | inl left => exact .inr ⟨left, full⟩
      | inr found =>
        obtain ⟨known, member', ends'⟩ := found
        exact .inl ⟨known, member', ends', window known member'⟩

end Explored

end Jiejian.Library.Walks
