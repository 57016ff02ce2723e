import Mathlib.Data.List.Sort
import Mathlib.Data.List.Dedup

namespace Jiejian.Library.Sorting

variable {α κ : Type} [LinearOrder κ]

/-- The items in the order of their keys; items with equal keys keep their order. -/
def sortedBy (key : α → κ) (items : List α) : List α :=
  items.insertionSort fun left right => key left ≤ key right

/-- The distinct values in increasing order. -/
def sortedSet (values : List κ) : List κ :=
  values.dedup.insertionSort fun left right => left ≤ right

/-- The lists have the same members: they make equal sets. -/
def SameSet {β : Type} (left right : List β) : Prop := left ⊆ right ∧ right ⊆ left

instance {β : Type} [DecidableEq β] (left right : List β) : Decidable (SameSet left right) :=
  inferInstanceAs (Decidable (left ⊆ right ∧ right ⊆ left))

theorem SameSet.mem_iff {β : Type} {left right : List β} (same : SameSet left right) {value : β} :
    value ∈ left ↔ value ∈ right :=
  ⟨fun member => same.1 member, fun member => same.2 member⟩

theorem sameSet_of_mem_iff {β : Type} {left right : List β} (same : ∀ value, value ∈ left ↔ value ∈ right) :
    SameSet left right :=
  ⟨fun value => (same value).mp, fun value => (same value).mpr⟩

theorem sortedBy_perm (key : α → κ) (items : List α) : (sortedBy key items).Perm items :=
  List.perm_insertionSort _ items

@[simp] theorem mem_sortedBy {key : α → κ} {items : List α} {item : α} :
    item ∈ sortedBy key items ↔ item ∈ items :=
  (sortedBy_perm key items).mem_iff

@[simp] theorem sortedBy_nil (key : α → κ) : sortedBy key [] = [] := rfl

@[simp] theorem sortedBy_singleton (key : α → κ) (item : α) : sortedBy key [item] = [item] := rfl

theorem sortedBy_ordered (key : α → κ) (items : List α) :
    (sortedBy key items).Pairwise fun left right => key left ≤ key right := by
  let before : α → α → Prop := fun left right => key left ≤ key right
  have total : Std.Total before := ⟨fun left right => le_total (key left) (key right)⟩
  have transitive : IsTrans α before := ⟨fun _ _ _ first second => le_trans first second⟩
  exact List.pairwise_insertionSort before items

theorem sortedBy_eq_self {key : α → κ} {items : List α}
    (ordered : items.Pairwise fun left right => key left ≤ key right) : sortedBy key items = items :=
  ordered.insertionSort_eq

/-- Sorting twice by one key changes nothing more. -/
@[simp] theorem sortedBy_sortedBy (key : α → κ) (items : List α) :
    sortedBy key (sortedBy key items) = sortedBy key items :=
  sortedBy_eq_self (sortedBy_ordered key items)

/-- Sorting forgets the order the items came in, as long as no two share a key. -/
theorem sortedBy_congr {key : α → κ} {left right : List α} (perm : left.Perm right)
    (keyed : ∀ first ∈ left, ∀ second ∈ left, key first = key second → first = second) :
    sortedBy key left = sortedBy key right := by
  have same : (sortedBy key left).Perm (sortedBy key right) :=
    (sortedBy_perm key left).trans (perm.trans (sortedBy_perm key right).symm)
  apply same.eq_of_pairwise _ (sortedBy_ordered key left) (sortedBy_ordered key right)
  intro first second inLeft inRight before after
  apply keyed first (mem_sortedBy.mp inLeft) second (perm.mem_iff.mpr (mem_sortedBy.mp inRight))
  exact le_antisymm before after

theorem nodup_map_sortedBy {β : Type} {key : α → κ} {name : α → β} {items : List α} :
    ((sortedBy key items).map name).Nodup ↔ (items.map name).Nodup :=
  ((sortedBy_perm key items).map name).nodup_iff

@[simp] theorem mem_sortedSet {values : List κ} {value : κ} : value ∈ sortedSet values ↔ value ∈ values := by
  rw [sortedSet, (List.perm_insertionSort _ _).mem_iff, List.mem_dedup]

theorem sortedSet_increasing (values : List κ) : (sortedSet values).Pairwise (· < ·) := by
  have ordered : (sortedSet values).Pairwise (· ≤ ·) := List.pairwise_insertionSort _ _
  have distinct : (sortedSet values).Nodup :=
    (List.perm_insertionSort _ _).nodup_iff.mpr (List.nodup_dedup values)
  exact (ordered.and distinct).imp fun both => lt_of_le_of_ne both.1 both.2

/-- Increasing lists with the same members are equal. -/
theorem increasing_ext {left right : List κ} (leftUp : left.Pairwise (· < ·)) (rightUp : right.Pairwise (· < ·))
    (same : ∀ value, value ∈ left ↔ value ∈ right) : left = right :=
  leftUp.eq_of_mem_iff rightUp same

theorem sortedSet_eq_self {values : List κ} : sortedSet values = values ↔ values.Pairwise (· < ·) := by
  constructor
  · intro same
    rw [← same]
    exact sortedSet_increasing values
  · intro increasing
    exact increasing_ext (sortedSet_increasing values) increasing fun value => mem_sortedSet

/-- An increasing list of keys makes the items already sorted. -/
theorem sortedBy_of_increasing {key : α → κ} {items : List α} (increasing : (items.map key).Pairwise (· < ·)) :
    sortedBy key items = items := by
  apply sortedBy_eq_self
  rw [List.pairwise_map] at increasing
  exact increasing.imp fun before => le_of_lt before

theorem filter_orderedInsert (key : α → κ) (value : κ) (item : α) (items : List α)
    (ordered : items.Pairwise fun left right => key left ≤ key right) :
    (items.orderedInsert (fun left right => key left ≤ key right) item).filter (fun other => key other = value) =
      (item :: items).filter fun other => key other = value := by
  induction items with
  | nil => rfl
  | cons head items ih =>
    by_cases before : key item ≤ key head
    · rw [List.orderedInsert_cons, if_pos before]
    · rw [List.orderedInsert_cons, if_neg before, List.filter_cons, ih (List.pairwise_cons.mp ordered).2]
      by_cases first : key item = value
      · have other : key head ≠ value := by
          intro same
          exact before (by rw [first, same])
        simp [first, other]
      · simp [first, List.filter_cons]

/-- Sorting keeps the order of the items that share a key. -/
theorem filter_sortedBy (key : α → κ) (items : List α) (value : κ) :
    (sortedBy key items).filter (fun item => key item = value) = items.filter fun item => key item = value := by
  induction items with
  | nil => rfl
  | cons item items ih =>
    have step : sortedBy key (item :: items) =
        (sortedBy key items).orderedInsert (fun left right => key left ≤ key right) item := List.insertionSort_cons _ _ _
    rw [step, filter_orderedInsert key value item _ (sortedBy_ordered key items), List.filter_cons, List.filter_cons, ih]

/-- Two ordered lists are equal when the items of every key stand in them in the same order. -/
theorem ordered_ext {key : α → κ} {left right : List α} (leftUp : left.Pairwise fun first second => key first ≤ key second)
    (rightUp : right.Pairwise fun first second => key first ≤ key second)
    (same : ∀ value, left.filter (fun item => key item = value) = right.filter fun item => key item = value) :
    left = right := by
  induction left generalizing right with
  | nil =>
    cases right with
    | nil => rfl
    | cons head right => simpa using same (key head)
  | cons first left ih =>
    cases right with
    | nil => simpa using same (key first)
    | cons head right =>
      have least : ∀ item ∈ head :: right, key head ≤ key item := by
        intro item member
        cases List.mem_cons.mp member with
        | inl here => rw [here]
        | inr later => exact (List.pairwise_cons.mp rightUp).1 item later
      have least' : ∀ item ∈ first :: left, key first ≤ key item := by
        intro item member
        cases List.mem_cons.mp member with
        | inl here => rw [here]
        | inr later => exact (List.pairwise_cons.mp leftUp).1 item later
      have inRight : first ∈ (head :: right).filter fun item => key item = key first := by
        rw [← same (key first)]
        exact List.mem_filter.mpr ⟨List.mem_cons_self, decide_eq_true rfl⟩
      have inLeft : head ∈ (first :: left).filter fun item => key item = key head := by
        rw [same (key head)]
        exact List.mem_filter.mpr ⟨List.mem_cons_self, decide_eq_true rfl⟩
      have keys : key head = key first :=
        le_antisymm (least first (List.mem_filter.mp inRight).1) (least' head (List.mem_filter.mp inLeft).1)
      have heads := same (key first)
      simp only [List.filter_cons, keys, decide_true, if_true, List.cons.injEq] at heads
      rw [heads.1]
      apply congrArg
      apply ih (List.pairwise_cons.mp leftUp).2 (List.pairwise_cons.mp rightUp).2
      intro value
      have values := same value
      rw [heads.1] at values
      by_cases matched : key head = value <;> simpa [List.filter_cons, matched] using values

/-- Sorting depends only on the order of the items of each key. -/
theorem sortedBy_congr_filter {key : α → κ} {left right : List α}
    (same : ∀ value, left.filter (fun item => key item = value) = right.filter fun item => key item = value) :
    sortedBy key left = sortedBy key right := by
  apply ordered_ext (sortedBy_ordered key left) (sortedBy_ordered key right)
  intro value
  rw [filter_sortedBy, filter_sortedBy, same value]

/-- Items whose keys are not smaller are sorted behind. -/
theorem sortedBy_append {key : α → κ} {earlier later : List α}
    (after : ∀ first ∈ earlier, ∀ second ∈ later, key first ≤ key second) :
    sortedBy key (earlier ++ later) = sortedBy key earlier ++ sortedBy key later := by
  apply ordered_ext (sortedBy_ordered key _)
  · apply List.pairwise_append.mpr
    refine ⟨sortedBy_ordered key earlier, sortedBy_ordered key later, ?_⟩
    intro first inEarlier second inLater
    exact after first (mem_sortedBy.mp inEarlier) second (mem_sortedBy.mp inLater)
  · intro value
    rw [filter_sortedBy, List.filter_append, List.filter_append, filter_sortedBy, filter_sortedBy]

/-- The first of the sorted items has the least key. -/
theorem head?_sortedBy {key : α → κ} {items : List α} {first : α} (found : (sortedBy key items).head? = some first) :
    first ∈ items ∧ ∀ item ∈ items, key first ≤ key item := by
  cases sorted : sortedBy key items with
  | nil => simp [sorted] at found
  | cons head rest =>
    rw [sorted, List.head?_cons, Option.some.injEq] at found
    have ordered := sortedBy_ordered key items
    rw [sorted, found] at ordered
    have inside : ∀ item, item ∈ first :: rest ↔ item ∈ items := by
      intro item
      rw [← found, ← sorted, mem_sortedBy]
    refine ⟨(inside first).mp List.mem_cons_self, fun item member => ?_⟩
    cases List.mem_cons.mp ((inside item).mpr member) with
    | inl here => rw [here]
    | inr later => exact (List.pairwise_cons.mp ordered).1 item later

/-- Where no two items share a key, the item with the least key is the first. -/
theorem head?_sortedBy_iff {key : α → κ} {items : List α} {first : α}
    (keyed : ∀ item ∈ items, key item = key first → item = first) :
    (sortedBy key items).head? = some first ↔ first ∈ items ∧ ∀ item ∈ items, key first ≤ key item := by
  refine ⟨head?_sortedBy, fun least => ?_⟩
  cases found : (sortedBy key items).head? with
  | none =>
    rw [List.head?_eq_none_iff] at found
    have member : first ∈ sortedBy key items := mem_sortedBy.mpr least.1
    rw [found] at member
    cases member
  | some other =>
    obtain ⟨member, before⟩ := head?_sortedBy found
    rw [keyed other member (le_antisymm (before first least.1) (least.2 other member))]

end Jiejian.Library.Sorting
