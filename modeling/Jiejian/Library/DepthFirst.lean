import Jiejian.Library.Outcome
import Jiejian.Library.Topological
import Mathlib.Order.Lattice.Nat

namespace Jiejian.Library.DepthFirst

open Outcome Topological

variable {α : Type} {children : α → List α}

/-- No path from the node has more nodes than given. -/
def Bounded (children : α → List α) : Nat → α → Prop
  | 0, _ => False
  | most + 1, node => ∀ child ∈ children node, Bounded children most child

theorem Bounded.mono {few many : Nat} (more : few ≤ many) {node : α} (bounded : Bounded children few node) :
    Bounded children many node := by
  induction many generalizing few node with
  | zero =>
    have none' : few = 0 := by omega
    rw [none'] at bounded
    exact bounded
  | succ many ih =>
    cases few with
    | zero => exact bounded.elim
    | succ few =>
      intro child member
      exact ih (by omega) (bounded child member)

/-- The node is met on some path from the other. -/
abbrev Reaches (children : α → List α) : α → α → Prop := Relation.ReflTransGen fun node child => child ∈ children node

theorem Bounded.of_reaches {most : Nat} {node other : α} (bounded : Bounded children most node)
    (reached : Reaches children node other) : Bounded children most other := by
  induction reached with
  | refl => exact bounded
  | tail _ child ih =>
    cases most with
    | zero => exact ih.elim
    | succ most => exact (ih _ child).mono (Nat.le_succ most)

/-- Where the paths are bounded no child leads back to its parent. -/
theorem Bounded.not_reaches {most : Nat} {node child : α} (bounded : Bounded children most node)
    (member : child ∈ children node) : ¬Reaches children child node := by
  induction most generalizing node child with
  | zero => exact bounded.elim
  | succ most ih =>
    intro back
    have below : Bounded children most child := bounded child member
    cases Relation.ReflTransGen.cases_head back with
    | inl same =>
      rw [same] at below
      exact ih below (same ▸ member) (same ▸ back)
    | inr step =>
      obtain ⟨next, child', later⟩ := step
      exact ih below child' (later.tail member)

/-- Only which children a node has matters, not their order. -/
theorem bounded_congr {others : α → List α} (same : ∀ node child, child ∈ children node ↔ child ∈ others node)
    {most : Nat} {node : α} : Bounded children most node ↔ Bounded others most node := by
  induction most generalizing node with
  | zero => exact Iff.rfl
  | succ most ih =>
    constructor
    · intro bounded child member
      exact ih.mp (bounded child ((same node child).mpr member))
    · intro bounded child member
      exact ih.mpr (bounded child ((same node child).mp member))

/-- A node that stands in a causal order starts no path longer than the order before it. -/
theorem bounded_of_causal {order earlier later : List α} {node : α} (causal : Causal children order)
    (split : order = earlier ++ node :: later) : Bounded children (earlier.length + 1) node := by
  induction size : earlier.length using Nat.strongRecOn generalizing earlier node later with
  | ind most ih =>
    intro child member
    obtain ⟨front, back, inside⟩ := List.append_of_mem (causal earlier node later split child member)
    have shorter : front.length < most := by
      rw [← size, inside, List.length_append, List.length_cons]
      omega
    have whole : order = front ++ child :: (back ++ node :: later) := by
      rw [split, inside]
      simp
    exact (ih front.length shorter whole rfl).mono shorter

/-- The length of the longest path from a node, in nodes. -/
noncomputable def depth (children : α → List α) (node : α) : Nat := sInf {most | Bounded children most node}

theorem depth_le {most : Nat} {node : α} (bounded : Bounded children most node) : depth children node ≤ most :=
  Nat.sInf_le bounded

theorem bounded_depth {most : Nat} {node : α} (bounded : Bounded children most node) :
    Bounded children (depth children node) node :=
  @Nat.sInf_mem {most | Bounded children most node} ⟨most, bounded⟩

/-- The nodes that start the longest paths first. -/
noncomputable def deepestFirst (children : α → List α) (nodes : List α) : List α :=
  nodes.insertionSort fun left right => depth children right ≤ depth children left

theorem deepestFirst_perm (children : α → List α) (nodes : List α) : (deepestFirst children nodes).Perm nodes :=
  List.perm_insertionSort _ nodes

theorem deepestFirst_head {nodes rest : List α} {first : α} (sorted : deepestFirst children nodes = first :: rest)
    {node : α} (member : node ∈ nodes) : depth children node ≤ depth children first := by
  let before : α → α → Prop := fun left right => depth children right ≤ depth children left
  have total : Std.Total before := ⟨fun left right => le_total (depth children right) (depth children left)⟩
  have transitive : IsTrans α before := ⟨fun _ _ _ one other => le_trans other one⟩
  have ordered : (deepestFirst children nodes).Pairwise before := List.pairwise_insertionSort before nodes
  rw [sorted] at ordered
  have inside : node ∈ first :: rest := by
    rw [← sorted]
    exact (deepestFirst_perm children nodes).mem_iff.mpr member
  cases List.mem_cons.mp inside with
  | inl here => rw [here]
  | inr later => exact (List.pairwise_cons.mp ordered).1 node later

variable [DecidableEq α]

/-- Why a search stops early: a node was met inside its own visit, or the calls were nested too deeply. -/
inductive Fault where
  | cycle
  | tooDeep
  deriving DecidableEq, Repr

/-- The nodes whose visit is going on, and those whose visit has ended, in that order. -/
structure Marks (α : Type) where
  visiting : List α := []
  visited : List α := []

/-- A recursive visit; `frames` bounds how deeply the calls may be nested. -/
def visit (children : α → List α) : Nat → Marks α → α → Except Fault (Marks α)
  | 0, _, _ => .error .tooDeep
  | frames + 1, marks, node =>
    if node ∈ marks.visiting then .error .cycle
    else if node ∈ marks.visited then .ok marks
    else do
      let after ← (children node).foldlM (visit children frames) { marks with visiting := node :: marks.visiting }
      return { visiting := after.visiting.erase node, visited := after.visited ++ [node] }

/-- Visits all nodes, one after the other. -/
def search (children : α → List α) (frames : Nat) (nodes : List α) : Except Fault Unit := do
  let _ ← nodes.foldlM (visit children frames) ({} : Marks α)
  return ()

section Passing

/-- Visits that end leave the visits that are going on as they were. -/
theorem visit_visiting {frames : Nat} {marks after : Marks α} {node : α}
    (passed : visit children frames marks node = .ok after) : after.visiting = marks.visiting := by
  induction frames generalizing marks after node with
  | zero => cases passed
  | succ frames ih =>
    unfold visit at passed
    split at passed
    · cases passed
    · split at passed
      · cases passed
        rfl
      · obtain ⟨inner, walked, built⟩ := bind_eq_ok.mp passed
        have kept : inner.visiting = node :: marks.visiting :=
          @foldlM_invariant _ _ _ _ (fun state : Marks α => state.visiting = node :: marks.visiting) _
            (fun _ _ _ _ stepped same => (ih stepped).trans same) _ _ walked rfl
        rw [← Except.ok.inj built]
        simp [kept]

/-- Paths that are short enough and avoid the visits that are going on are visited without a fault. -/
theorem visit_total {frames : Nat} {marks : Marks α} {node : α} (bounded : Bounded children frames node)
    (fresh : ∀ outer ∈ marks.visiting, ¬Reaches children node outer) :
    ∃ after, visit children frames marks node = .ok after := by
  induction frames generalizing marks node with
  | zero => exact bounded.elim
  | succ frames ih =>
    unfold visit
    rw [if_neg fun going => fresh node going .refl]
    by_cases done : node ∈ marks.visited
    · rw [if_pos done]
      exact ⟨_, rfl⟩
    · rw [if_neg done]
      have walked : ∃ after, (children node).foldlM (visit children frames)
          { marks with visiting := node :: marks.visiting } = .ok after ∧ after.visiting = node :: marks.visiting := by
        refine @foldlM_total _ _ _ _ (fun state : Marks α => state.visiting = node :: marks.visiting) _ ?_ _ rfl
        intro state child member same
        have inner : ∀ outer ∈ state.visiting, ¬Reaches children child outer := by
          intro outer going back
          rw [same] at going
          cases List.mem_cons.mp going with
          | inl here =>
            rw [here] at back
            exact bounded.not_reaches member back
          | inr there => exact fresh outer there (.head member back)
        obtain ⟨next, stepped⟩ := ih (bounded child member) inner
        exact ⟨next, stepped, (visit_visiting stepped).trans same⟩
      obtain ⟨after, walked, _⟩ := walked
      rw [walked]
      exact ⟨_, rfl⟩

/-- Nodes whose paths are bounded are searched without a fault, in any order. -/
theorem search_total {frames : Nat} {nodes : List α} (bounded : ∀ node ∈ nodes, Bounded children frames node) :
    search children frames nodes = .ok () := by
  have walked : ∃ after, nodes.foldlM (visit children frames) ({} : Marks α) = .ok after ∧ after.visiting = [] := by
    refine @foldlM_total _ _ _ _ (fun state : Marks α => state.visiting = []) _ ?_ _ rfl
    intro state node member same
    have fresh : ∀ outer ∈ state.visiting, ¬Reaches children node outer := by
      intro outer going
      rw [same] at going
      cases going
    obtain ⟨next, stepped⟩ := visit_total (bounded node member) fresh
    exact ⟨next, stepped, (visit_visiting stepped).trans same⟩
  obtain ⟨after, walked, _⟩ := walked
  unfold search
  rw [walked]
  rfl

end Passing

section Ended

/-- A visit that ends has visited its node, after all that the node leads to. -/
theorem visit_causal {frames : Nat} {marks after : Marks α} {node : α}
    (passed : visit children frames marks node = .ok after) (causal : Causal children marks.visited) :
    Causal children after.visited ∧ marks.visited ⊆ after.visited ∧ node ∈ after.visited := by
  induction frames generalizing marks after node with
  | zero => cases passed
  | succ frames ih =>
    unfold visit at passed
    split at passed
    · cases passed
    · split at passed
      · rename_i done
        cases passed
        exact ⟨causal, List.Subset.refl _, done⟩
      · obtain ⟨inner, walked, built⟩ := bind_eq_ok.mp passed
        have kept := foldlM_reflecting (fun _ => True)
          (fun done (state : Marks α) => Causal children state.visited ∧ marks.visited ⊆ state.visited ∧
            ∀ child ∈ done, child ∈ state.visited) []
          (fun _ _ _ _ _ => trivial) (fun done state child next _ stepped _ before => by
            obtain ⟨ordered, wider, here⟩ := ih stepped before.1
            refine ⟨ordered, List.Subset.trans before.2.1 wider, ?_⟩
            intro other member
            cases List.mem_append.mp member with
            | inl old => exact wider (before.2.2 other old)
            | inr new => exact List.mem_singleton.mp new ▸ here) walked trivial
        obtain ⟨ordered, wider, all⟩ :=
          kept.2 ⟨causal, List.Subset.refl _, fun _ member => absurd member List.not_mem_nil⟩
        rw [← Except.ok.inj built]
        refine ⟨causal_snoc ordered all, ?_, List.mem_append_right _ List.mem_cons_self⟩
        exact List.Subset.trans wider (List.subset_append_left _ _)

/-- Every node of a search that passes starts only paths of bounded length. -/
theorem search_bounded {frames : Nat} {nodes : List α} (passed : search children frames nodes = .ok ()) {node : α}
    (member : node ∈ nodes) : ∃ most, Bounded children most node := by
  obtain ⟨after, walked, _⟩ := bind_eq_ok.mp passed
  have kept := foldlM_reflecting (fun _ => True)
    (fun done (state : Marks α) => Causal children state.visited ∧ ∀ node ∈ done, node ∈ state.visited) []
    (fun _ _ _ _ _ => trivial) (fun done state node next _ stepped _ before => by
      obtain ⟨ordered, wider, here⟩ := visit_causal stepped before.1
      refine ⟨ordered, ?_⟩
      intro other inside
      cases List.mem_append.mp inside with
      | inl old => exact wider (before.2 other old)
      | inr new => exact List.mem_singleton.mp new ▸ here) walked trivial
  obtain ⟨causal, all⟩ := kept.2 ⟨causal_nil, fun _ inside => absurd inside List.not_mem_nil⟩
  obtain ⟨earlier, later, split⟩ := List.append_of_mem (all node member)
  exact ⟨_, bounded_of_causal causal split⟩

end Ended

section Deepest

/-- Going down the longest path first, a first visit that is too deep fails. -/
theorem visit_fails {frames : Nat} {marks : Marks α} {node : α} (fresh : marks.visited = [])
    (finite : ∃ most, Bounded children most node) (deep : ¬Bounded children frames node) :
    ∀ after, visit (fun node => deepestFirst children (children node)) frames marks node ≠ .ok after := by
  induction frames generalizing marks node with
  | zero =>
    intro after passed
    cases passed
  | succ frames ih =>
    intro after passed
    unfold visit at passed
    split at passed
    · cases passed
    · rw [fresh, if_neg List.not_mem_nil] at passed
      obtain ⟨inner, walked, _⟩ := bind_eq_ok.mp passed
      have deeper : ∃ child ∈ children node, ¬Bounded children frames child := by
        by_contra shallow
        exact deep fun child member => not_not.mp fun bounded => shallow ⟨child, member, bounded⟩
      obtain ⟨child, member, unbounded⟩ := deeper
      have below : ∀ other ∈ children node, ∃ most, Bounded children most other := by
        intro other inside
        obtain ⟨most, bounded⟩ := finite
        exact ⟨most, bounded.of_reaches (.single inside)⟩
      cases sorted : deepestFirst children (children node) with
      | nil =>
        have none' := (deepestFirst_perm children (children node)).mem_iff.mpr member
        rw [sorted] at none'
        cases none'
      | cons first rest =>
        rw [sorted, List.foldlM_cons] at walked
        obtain ⟨next, stepped, _⟩ := bind_eq_ok.mp walked
        have inside : first ∈ children node := by
          apply (deepestFirst_perm children (children node)).mem_iff.mp
          rw [sorted]
          exact List.mem_cons_self
        have deepest : ¬Bounded children frames first := by
          intro bounded
          obtain ⟨most, finite'⟩ := below child member
          exact unbounded ((bounded_depth finite').mono ((deepestFirst_head sorted member).trans (depth_le bounded)))
        exact @ih ⟨node :: marks.visiting, []⟩ first rfl (below first inside) deepest next stepped

/-- A search that starts with a node of too long paths fails when it goes down the longest path first. -/
theorem search_fails {frames : Nat} {node : α} {rest : List α} (finite : ∃ most, Bounded children most node)
    (deep : ¬Bounded children frames node) :
    search (fun node => deepestFirst children (children node)) frames (node :: rest) ≠ .ok () := by
  intro passed
  obtain ⟨after, walked, _⟩ := bind_eq_ok.mp passed
  rw [List.foldlM_cons] at walked
  obtain ⟨next, stepped, _⟩ := bind_eq_ok.mp walked
  exact visit_fails rfl finite deep next stepped

end Deepest

end Jiejian.Library.DepthFirst
