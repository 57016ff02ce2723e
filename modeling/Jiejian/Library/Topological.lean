import Jiejian.Library.Sorting
import Mathlib.Data.Fintype.Defs
import Mathlib.Data.Set.Finite.Basic
import Mathlib.Logic.Relation
import Mathlib.Order.WellFounded

namespace Jiejian.Library.Topological

open Sorting

variable {α κ : Type} {parents : α → List α} {nodes : List α}

/-- The steps from a node to the nodes it is a parent of. -/
def ParentOf (parents : α → List α) (parent child : α) : Prop := parent ∈ parents child

/-- No node is among its own ancestors. -/
def Acyclic (parents : α → List α) (nodes : List α) : Prop :=
  ∀ node ∈ nodes, ¬ Relation.TransGen (ParentOf parents) node node

/-- Each node stands after all its parents. -/
def Causal (parents : α → List α) (order : List α) : Prop :=
  ∀ earlier node later, order = earlier ++ node :: later → ∀ parent ∈ parents node, parent ∈ earlier

/-- The parents of a node are nodes. -/
def Closed (parents : α → List α) (nodes : List α) : Prop :=
  ∀ node ∈ nodes, ∀ parent ∈ parents node, parent ∈ nodes

theorem causal_nil : Causal parents [] := by
  intro earlier node later split
  cases earlier <;> cases split

theorem causal_snoc {order : List α} {node : α} (causal : Causal parents order)
    (known : ∀ parent ∈ parents node, parent ∈ order) : Causal parents (order ++ [node]) := by
  intro earlier other later split
  cases List.eq_nil_or_concat later with
  | inl last =>
    rw [last] at split
    obtain ⟨same, end'⟩ := List.append_inj' split rfl
    rw [← same, ← List.singleton_inj.mp end']
    exact known
  | inr more =>
    obtain ⟨rest, final, eq⟩ := more
    rw [eq, List.concat_eq_append, ← List.cons_append, ← List.append_assoc] at split
    exact causal earlier other rest (List.append_inj' split rfl).1

/-- A node of a causal order has all its parents in the order. -/
theorem Causal.parent_mem {order : List α} (causal : Causal parents order) {node parent : α} (member : node ∈ order)
    (child : parent ∈ parents node) : parent ∈ order := by
  obtain ⟨earlier, later, split⟩ := List.append_of_mem member
  rw [split]
  exact List.mem_append_left _ (causal earlier node later split parent child)

/-- An acyclic set of nodes has one whose parents lie outside it. -/
theorem exists_source (acyclic : Acyclic parents nodes) {rest : List α} (among : ∀ node ∈ rest, node ∈ nodes)
    (some' : rest ≠ []) : ∃ node ∈ rest, ∀ parent ∈ parents node, parent ∉ rest := by
  let below : {node // node ∈ rest} → {node // node ∈ rest} → Prop :=
    fun ancestor node => Relation.TransGen (ParentOf parents) ancestor.1 node.1
  have irreflexive : Std.Irrefl below := ⟨fun node => acyclic node.1 (among node.1 node.2)⟩
  have transitive : IsTrans _ below := ⟨fun _ _ _ first second => first.trans second⟩
  have finite : Finite {node // node ∈ rest} := List.finite_toSet rest
  have founded : WellFounded below := Finite.wellFounded_of_trans_of_irrefl below
  obtain ⟨first, member⟩ := List.exists_mem_of_ne_nil rest some'
  obtain ⟨least, _, minimal⟩ := founded.has_min Set.univ ⟨⟨first, member⟩, trivial⟩
  refine ⟨least.1, least.2, ?_⟩
  intro parent child inside
  exact minimal ⟨parent, inside⟩ trivial (.single child)

/-- A sublist of the nodes in causal order. -/
structure Emitted (parents : α → List α) (nodes emitted : List α) : Prop where
  distinct : emitted.Nodup
  among : ∀ node ∈ emitted, node ∈ nodes
  causal : Causal parents emitted

theorem emitted_nil : Emitted parents nodes [] :=
  ⟨List.nodup_nil, fun _ member => absurd member List.not_mem_nil, causal_nil⟩

theorem Emitted.length_le {emitted : List α} (before : Emitted parents nodes emitted) : emitted.length ≤ nodes.length :=
  (List.subperm_of_subset before.distinct before.among).length_le

variable [DecidableEq α] [LinearOrder κ]

theorem Causal.idxOf_lt {order : List α} (causal : Causal parents order) {node parent : α} (member : node ∈ order)
    (child : parent ∈ parents node) : order.idxOf parent < order.idxOf node := by
  obtain ⟨earlier, later, split, first⟩ := List.eq_append_cons_of_mem member
  have before := causal earlier node later split parent child
  rw [split, List.idxOf_append_of_mem before, List.idxOf_append_of_notMem first, List.idxOf_cons_self]
  exact Nat.lt_add_right _ (List.idxOf_lt_length_of_mem before)

/-- What a causal order reaches stands before it, so nothing reaches itself. -/
theorem Causal.acyclic {order : List α} (causal : Causal parents order) (all : ∀ node ∈ nodes, node ∈ order) :
    Acyclic parents nodes := by
  intro node listed cycle
  have later : ∀ ancestor, Relation.TransGen (ParentOf parents) ancestor node →
      ancestor ∈ order ∧ order.idxOf ancestor < order.idxOf node := by
    intro ancestor reached
    induction reached using Relation.TransGen.head_induction_on with
    | single child => exact ⟨causal.parent_mem (all node listed) child, causal.idxOf_lt (all node listed) child⟩
    | head child _ ih => exact ⟨causal.parent_mem ih.1 child, Nat.lt_trans (causal.idxOf_lt ih.1 child) ih.2⟩
  exact Nat.lt_irrefl _ (later node cycle).2

/-- The nodes that are not in the order yet and whose parents all are. -/
def ready (parents : α → List α) (nodes emitted : List α) : List α :=
  nodes.filter fun node => node ∉ emitted ∧ ∀ parent ∈ parents node, parent ∈ emitted

theorem mem_ready {emitted : List α} {node : α} :
    node ∈ ready parents nodes emitted ↔ node ∈ nodes ∧ node ∉ emitted ∧ ∀ parent ∈ parents node, parent ∈ emitted := by
  rw [ready, List.mem_filter, decide_eq_true_eq]

/-- The order that always takes the ready node with the least key. -/
def emit (parents : α → List α) (key : α → κ) (nodes : List α) : Nat → List α → List α
  | 0, emitted => emitted
  | rounds + 1, emitted =>
    match sortedBy key (ready parents nodes emitted) with
    | [] => emitted
    | node :: _ => emit parents key nodes rounds (emitted ++ [node])

section Emit

variable {key : α → κ} {emitted : List α} {rounds : Nat}

theorem Emitted.snoc (before : Emitted parents nodes emitted) {node : α} (due : node ∈ ready parents nodes emitted) :
    Emitted parents nodes (emitted ++ [node]) := by
  obtain ⟨listed, fresh, known⟩ := mem_ready.mp due
  refine ⟨?_, ?_, causal_snoc before.causal known⟩
  · rw [List.nodup_append_comm]
    exact List.nodup_cons.mpr ⟨fresh, before.distinct⟩
  · intro other member
    cases List.mem_append.mp member with
    | inl old => exact before.among other old
    | inr new => exact List.mem_singleton.mp new ▸ listed

theorem emit_emitted (before : Emitted parents nodes emitted) :
    Emitted parents nodes (emit parents key nodes rounds emitted) := by
  induction rounds generalizing emitted with
  | zero => exact before
  | succ rounds ih =>
    unfold emit
    cases order : sortedBy key (ready parents nodes emitted) with
    | nil => exact before
    | cons node later =>
      apply ih
      apply before.snoc
      have first : node ∈ sortedBy key (ready parents nodes emitted) := by
        rw [order]
        exact List.mem_cons_self
      exact mem_sortedBy.mp first

/-- With a round for every node left nothing is ready in the end. -/
theorem emit_stuck (before : Emitted parents nodes emitted) (enough : nodes.length ≤ emitted.length + rounds) :
    ready parents nodes (emit parents key nodes rounds emitted) = [] := by
  induction rounds generalizing emitted with
  | zero =>
    apply List.eq_nil_iff_forall_not_mem.mpr
    intro node due
    have longer := (before.snoc due).length_le
    rw [List.length_append, List.length_singleton] at longer
    omega
  | succ rounds ih =>
    unfold emit
    cases order : sortedBy key (ready parents nodes emitted) with
    | nil =>
      have same := sortedBy_perm key (ready parents nodes emitted)
      rw [order] at same
      exact List.nil_perm.mp same
    | cons node later =>
      have first : node ∈ sortedBy key (ready parents nodes emitted) := by
        rw [order]
        exact List.mem_cons_self
      apply ih (before.snoc (mem_sortedBy.mp first))
      rw [List.length_append, List.length_singleton]
      omega

/-- The order is complete exactly when no node is among its own ancestors. -/
theorem emit_complete (closed : Closed parents nodes) :
    (∀ node ∈ nodes, node ∈ emit parents key nodes nodes.length []) ↔ Acyclic parents nodes := by
  have final : Emitted parents nodes (emit parents key nodes nodes.length []) := emit_emitted emitted_nil
  have stuck : ready parents nodes (emit parents key nodes nodes.length []) = [] :=
    emit_stuck emitted_nil (Nat.le_add_left _ _)
  generalize emit parents key nodes nodes.length [] = order at final stuck
  constructor
  · exact fun all => final.causal.acyclic all
  · intro acyclic node listed
    by_cases member : node ∈ order
    · exact member
    · have left : nodes.filter (· ∉ order) ≠ [] :=
        List.ne_nil_of_mem (List.mem_filter.mpr ⟨listed, decide_eq_true member⟩)
      obtain ⟨source, missing, known⟩ := exists_source acyclic (fun _ inside => (List.mem_filter.mp inside).1) left
      rw [List.mem_filter, decide_eq_true_eq] at missing
      have due : source ∈ ready parents nodes order := by
        refine mem_ready.mpr ⟨missing.1, missing.2, ?_⟩
        intro parent child
        by_cases inside : parent ∈ order
        · exact inside
        · exact absurd (List.mem_filter.mpr ⟨closed source missing.1 parent child, decide_eq_true inside⟩)
            (known parent child)
      rw [stuck] at due
      exact absurd due List.not_mem_nil

/-- The order does not depend on the order of the nodes. -/
theorem emit_perm {nodes' : List α} (perm : nodes.Perm nodes')
    (keyed : ∀ first ∈ nodes, ∀ second ∈ nodes, key first = key second → first = second) :
    emit parents key nodes rounds emitted = emit parents key nodes' rounds emitted := by
  induction rounds generalizing emitted with
  | zero => rfl
  | succ rounds ih =>
    have same : sortedBy key (ready parents nodes emitted) = sortedBy key (ready parents nodes' emitted) := by
      apply sortedBy_congr (perm.filter _)
      intro first inFirst second inSecond
      exact keyed first (mem_ready.mp inFirst).1 second (mem_ready.mp inSecond).1
    unfold emit
    rw [same]
    cases sortedBy key (ready parents nodes' emitted) with
    | nil => rfl
    | cons node later => exact ih

end Emit

end Jiejian.Library.Topological
