import Mathlib.Data.List.Induction
import Mathlib.Data.List.Nodup

namespace Jiejian.Library.Grouping

variable {κ ι α : Type} [DecidableEq κ] [DecidableEq ι]

/-- `groups.setdefault(key(row), []).append(row)`. -/
def addTo (key : α → κ) (groups : List (κ × List α)) (row : α) : List (κ × List α) :=
  if key row ∈ groups.map Prod.fst then
    groups.map fun group => if group.1 = key row then (group.1, group.2 ++ [row]) else group
  else groups ++ [(key row, [row])]

/-- The rows under each key, the keys in the order of their first rows. -/
def groupBy (key : α → κ) (rows : List α) : List (κ × List α) :=
  rows.foldl (addTo key) []

@[simp] theorem groupBy_nil (key : α → κ) : groupBy key ([] : List α) = [] := rfl

theorem groupBy_snoc (key : α → κ) (rows : List α) (row : α) :
    groupBy key (rows ++ [row]) = addTo key (groupBy key rows) row := by
  unfold groupBy
  rw [List.foldl_append]
  rfl

theorem addTo_keys (key : α → κ) (groups : List (κ × List α)) (row : α) :
    (addTo key groups row).map Prod.fst =
      if key row ∈ groups.map Prod.fst then groups.map Prod.fst else groups.map Prod.fst ++ [key row] := by
  unfold addTo
  by_cases known : key row ∈ groups.map Prod.fst
  · rw [if_pos known, if_pos known, List.map_map]
    apply List.map_congr_left
    intro group _
    by_cases here : group.1 = key row <;> simp [here]
  · rw [if_neg known, if_neg known, List.map_append]
    rfl

/-- The keys of the groups are the keys of the rows. -/
theorem mem_groupBy_keys {key : α → κ} {rows : List α} {wanted : κ} :
    wanted ∈ (groupBy key rows).map Prod.fst ↔ wanted ∈ rows.map key := by
  induction rows using List.reverseRecOn with
  | nil => simp
  | append_singleton rows row ih =>
    rw [groupBy_snoc, addTo_keys, List.map_append, List.mem_append, ← ih]
    by_cases known : key row ∈ (groupBy key rows).map Prod.fst
    · rw [if_pos known]
      constructor
      · exact .inl
      · rintro (before | new)
        · exact before
        · rw [List.map_singleton, List.mem_singleton] at new
          exact new ▸ known
    · rw [if_neg known, List.mem_append]
      rfl

theorem addTo_append {key : α → κ} (before after : List (κ × List α)) (row : α)
    (unknown : key row ∉ before.map Prod.fst) :
    addTo key (before ++ after) row = before ++ addTo key after row := by
  have apart : before.map (fun group => if group.1 = key row then (group.1, group.2 ++ [row]) else group) = before := by
    calc
      _ = before.map id := by
        apply List.map_congr_left
        intro group member
        have other : group.1 ≠ key row := fun same => unknown (same ▸ List.mem_map_of_mem member)
        exact if_neg other
      _ = before := List.map_id _
  have keys : key row ∈ (before ++ after).map Prod.fst ↔ key row ∈ after.map Prod.fst := by
    rw [List.map_append, List.mem_append]
    exact or_iff_right unknown
  unfold addTo
  by_cases known : key row ∈ after.map Prod.fst
  · rw [if_pos (keys.mpr known), if_pos known, List.map_append, apart]
  · rw [if_neg fun member => known (keys.mp member), if_neg known, List.append_assoc]

/-- Rows whose keys are new make groups of their own. -/
theorem groupBy_append {key : α → κ} {before after : List α}
    (apart : ∀ row ∈ after, key row ∉ before.map key) :
    groupBy key (before ++ after) = groupBy key before ++ groupBy key after := by
  induction after using List.reverseRecOn with
  | nil => simp
  | append_singleton after row ih =>
    have unknown : key row ∉ (groupBy key before).map Prod.fst := by
      rw [mem_groupBy_keys]
      exact apart row (by simp)
    rw [← List.append_assoc, groupBy_snoc, ih fun old inside => apart old (List.mem_append_left _ inside),
      groupBy_snoc, addTo_append _ _ _ unknown]

theorem filter_addTo (key : α → κ) (groups : List (κ × List α)) (row : α) (wanted : κ → Bool) :
    (addTo key groups row).filter (fun group => wanted group.1) =
      if wanted (key row) then addTo key (groups.filter fun group => wanted group.1) row
      else groups.filter fun group => wanted group.1 := by
  have keys : key row ∈ (groups.filter fun group => wanted group.1).map Prod.fst ↔
      key row ∈ groups.map Prod.fst ∧ wanted (key row) = true := by
    constructor
    · intro member
      obtain ⟨group, inside, same⟩ := List.mem_map.mp member
      obtain ⟨listed, chosen⟩ := List.mem_filter.mp inside
      exact ⟨same ▸ List.mem_map_of_mem listed, same ▸ chosen⟩
    · rintro ⟨member, chosen⟩
      obtain ⟨group, inside, same⟩ := List.mem_map.mp member
      exact List.mem_map.mpr ⟨group, List.mem_filter.mpr ⟨inside, same ▸ chosen⟩, same⟩
  -- a group that is extended keeps its key
  have kept : (fun group : κ × List α => wanted group.1) ∘
      (fun group => if group.1 = key row then (group.1, group.2 ++ [row]) else group) = fun group => wanted group.1 := by
    funext group
    by_cases here : group.1 = key row <;> simp [here]
  unfold addTo
  by_cases known : key row ∈ groups.map Prod.fst
  · rw [if_pos known, List.filter_map, kept]
    by_cases chosen : wanted (key row) = true
    · rw [if_pos chosen, if_pos (keys.mpr ⟨known, chosen⟩)]
    · rw [if_neg chosen]
      calc
        _ = (groups.filter fun group => wanted group.1).map id := by
          apply List.map_congr_left
          intro group member
          have other : group.1 ≠ key row := fun here => chosen (here ▸ (List.mem_filter.mp member).2)
          exact if_neg other
        _ = _ := List.map_id _
  · rw [if_neg known, List.filter_append]
    by_cases chosen : wanted (key row) = true
    · rw [if_pos chosen, if_neg fun member => known (keys.mp member).1]
      simp [chosen]
    · rw [if_neg chosen]
      simp [chosen]

/-- Rows that share their key are one group. -/
theorem groupBy_uniform {key : α → κ} {rows : List α} {shared : κ} (same : ∀ row ∈ rows, key row = shared) :
    groupBy key rows = if rows.isEmpty then [] else [(shared, rows)] := by
  induction rows using List.reverseRecOn with
  | nil => rfl
  | append_singleton rows row ih =>
    have last : key row = shared := same row (by simp)
    rw [groupBy_snoc, ih fun other member => same other (List.mem_append_left _ member)]
    cases rows with
    | nil => simp [addTo, last]
    | cons head rest => simp [addTo, last]

/-- The groups of some of the keys are the groups of the rows under those keys. -/
theorem groupBy_filter (key : α → κ) (rows : List α) (wanted : κ → Bool) :
    (groupBy key rows).filter (fun group => wanted group.1) = groupBy key (rows.filter fun row => wanted (key row)) := by
  induction rows using List.reverseRecOn with
  | nil => rfl
  | append_singleton rows row ih =>
    rw [groupBy_snoc, filter_addTo, List.filter_append, ih]
    by_cases chosen : wanted (key row) = true
    · have last : [row].filter (fun row => wanted (key row)) = [row] := by simp [chosen]
      rw [if_pos chosen, last, groupBy_snoc]
    · have last : [row].filter (fun row => wanted (key row)) = [] := by simp [chosen]
      rw [if_neg chosen, last, List.append_nil]

/-- Keys that are told apart alike make the same groups. -/
theorem groupBy_relabel {key : α → κ} {other : α → ι} {label : κ → ι} (injective : Function.Injective label)
    {rows : List α} (same : ∀ row ∈ rows, other row = label (key row)) :
    groupBy other rows = (groupBy key rows).map fun group => (label group.1, group.2) := by
  induction rows using List.reverseRecOn with
  | nil => rfl
  | append_singleton rows row ih =>
    have here : other row = label (key row) := same row (by simp)
    have keys : label (key row) ∈ ((groupBy key rows).map fun group => (label group.1, group.2)).map Prod.fst ↔
        key row ∈ (groupBy key rows).map Prod.fst := by
      rw [List.map_map]
      constructor
      · intro member
        obtain ⟨group, inside, equal⟩ := List.mem_map.mp member
        exact injective equal ▸ List.mem_map_of_mem inside
      · intro member
        obtain ⟨group, inside, equal⟩ := List.mem_map.mp member
        exact List.mem_map.mpr ⟨group, inside, congrArg label equal⟩
    rw [groupBy_snoc, groupBy_snoc, ih fun old inside => same old (List.mem_append_left _ inside)]
    unfold addTo
    rw [here]
    by_cases known : key row ∈ (groupBy key rows).map Prod.fst
    · rw [if_pos known, if_pos (keys.mpr known), List.map_map, List.map_map]
      apply List.map_congr_left
      intro group _
      by_cases equal : group.1 = key row
      · simp [equal]
      · have apart : label group.1 ≠ label (key row) := fun labels => equal (injective labels)
        simp [equal, apart]
    · rw [if_neg known, if_neg fun member => known (keys.mp member), List.map_append]
      rfl

end Jiejian.Library.Grouping
