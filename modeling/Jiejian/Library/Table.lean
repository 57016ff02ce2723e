import Mathlib.Data.List.Nodup
import Mathlib.Tactic.Tauto

namespace Jiejian.Library.Table

variable {κ α : Type}

/-- The row stored under a primary key. -/
def lookup [DecidableEq κ] (key : α → κ) (rows : List α) (wanted : κ) : Option α :=
  rows.find? fun row => key row = wanted

/-- Overwrite the row that has the new row's key. -/
def replace [DecidableEq κ] (key : α → κ) (rows : List α) (new : α) : List α :=
  rows.map fun row => if key row = key new then new else row

/-- `INSERT INTO rows`; `none` when the key is taken. -/
def insert [DecidableEq κ] (key : α → κ) (rows : List α) (new : α) : Option (List α) :=
  if (lookup key rows (key new)).isSome then none else some (rows ++ [new])

/-- `UPDATE rows SET set WHERE condition RETURNING key`. -/
def updateReturning (key : α → κ) (rows : List α) (condition : α → Bool) (set : α → α) : Option κ × List α :=
  ((rows.find? condition).map key, rows.map fun row => if condition row then set row else row)

/-- `ORDER BY before LIMIT 1`; the earlier of two equal rows wins. -/
def first (before : α → α → Bool) : List α → Option α
  | [] => none
  | row :: rows =>
    match first before rows with
    | none => some row
    | some best => if before best row then some best else some row

/-- `rows[key new] = new`: a taken key keeps its place. -/
def put [DecidableEq κ] (key : α → κ) (rows : List α) (new : α) : List α :=
  if key new ∈ rows.map key then replace key rows new else rows ++ [new]

/-- `{key(row): row for row in rows}.get(wanted)`; the last row under a key wins. -/
def latest [DecidableEq κ] (key : α → κ) (rows : List α) (wanted : κ) : Option α :=
  lookup key rows.reverse wanted

/-- No two rows share a key. -/
def Keyed (key : α → κ) (rows : List α) : Prop := (rows.map key).Nodup

theorem lookup_some [DecidableEq κ] {key : α → κ} {rows : List α} {wanted : κ} {row : α}
    (found : lookup key rows wanted = some row) : row ∈ rows ∧ key row = wanted := by
  have same := List.find?_some found
  exact ⟨List.mem_of_find?_eq_some found, by simpa using same⟩

theorem lookup_none [DecidableEq κ] {key : α → κ} {rows : List α} {wanted : κ} :
    lookup key rows wanted = none ↔ ∀ row ∈ rows, key row ≠ wanted := by
  simp [lookup, List.find?_eq_none]

theorem Keyed.eq_of_mem {key : α → κ} {rows : List α} (keyed : Keyed key rows) {a b : α}
    (ha : a ∈ rows) (hb : b ∈ rows) (same : key a = key b) : a = b :=
  List.inj_on_of_nodup_map keyed ha hb same

theorem Keyed.lookup_mem [DecidableEq κ] {key : α → κ} {rows : List α} (keyed : Keyed key rows) {row : α}
    (member : row ∈ rows) : lookup key rows (key row) = some row := by
  cases found : lookup key rows (key row) with
  | none => exact absurd rfl (lookup_none.mp found row member)
  | some other =>
    obtain ⟨stored, same⟩ := lookup_some found
    rw [keyed.eq_of_mem stored member same]

/-- One row stands under a key. -/
theorem Keyed.filter_mem [DecidableEq κ] {key : α → κ} {rows : List α} (keyed : Keyed key rows) {row : α}
    (member : row ∈ rows) : rows.filter (fun other => key other = key row) = [row] := by
  induction rows with
  | nil => cases member
  | cons head rows ih =>
    have distinct := List.nodup_cons.mp keyed
    rcases List.mem_cons.mp member with rfl | inside
    · have alone : rows.filter (fun other => key other = key row) = [] := by
        rw [List.filter_eq_nil_iff]
        intro other listed same
        exact distinct.1 (of_decide_eq_true same ▸ List.mem_map_of_mem listed)
      simp [alone]
    · have other : key head ≠ key row := fun same => distinct.1 (same ▸ List.mem_map_of_mem inside)
      rw [List.filter_cons_of_neg (by simpa using other)]
      exact ih distinct.2 inside

/-- A row and the rows under other keys are all rows. -/
theorem Keyed.perm_cons_filter [DecidableEq κ] {key : α → κ} {rows : List α} (keyed : Keyed key rows) {row : α}
    (member : row ∈ rows) : rows.Perm (row :: rows.filter fun other => key other ≠ key row) := by
  obtain ⟨front, back, split⟩ := List.append_of_mem member
  have distinct : ((front ++ row :: back).map key).Nodup := split ▸ keyed
  rw [List.map_append, List.map_cons, List.nodup_middle, List.nodup_cons, ← List.map_append] at distinct
  have others : ∀ other ∈ front ++ back, key other ≠ key row := by
    intro other inside same
    exact distinct.1 (same ▸ List.mem_map_of_mem inside)
  have kept : rows.filter (fun other => key other ≠ key row) = front ++ back := by
    rw [split, List.filter_append, List.filter_cons_of_neg (by simp), ← List.filter_append]
    exact List.filter_eq_self.mpr fun other inside => decide_eq_true (others other inside)
  rw [kept, split]
  exact List.perm_middle

/-- A lookup by a key does not depend on the order of the rows. -/
theorem Keyed.lookup_perm [DecidableEq κ] {key : α → κ} {left right : List α} (keyed : Keyed key left)
    (perm : left.Perm right) (wanted : κ) : lookup key left wanted = lookup key right wanted := by
  have keyed' : Keyed key right := (perm.map key).nodup_iff.mp keyed
  cases found : lookup key left wanted with
  | none =>
    have absent := lookup_none.mp found
    exact (lookup_none.mpr fun row stored => absent row (perm.mem_iff.mpr stored)).symm
  | some row =>
    obtain ⟨stored, same⟩ := lookup_some found
    rw [← same]
    exact (keyed'.lookup_mem (perm.mem_iff.mp stored)).symm

@[simp] theorem replace_keys [DecidableEq κ] (key : α → κ) (rows : List α) (new : α) :
    (replace key rows new).map key = rows.map key := by
  simp only [replace, List.map_map]
  apply List.map_congr_left
  intro row _
  by_cases same : key row = key new <;> simp [same]

theorem Keyed.replace [DecidableEq κ] {key : α → κ} {rows : List α} (keyed : Keyed key rows) (new : α) :
    Keyed key (replace key rows new) := by
  unfold Keyed
  rw [replace_keys]
  exact keyed

/-- The rows after an overwrite: the new row and every row under another key. -/
theorem mem_replace [DecidableEq κ] {key : α → κ} {rows : List α} {new row : α} (present : key new ∈ rows.map key) :
    row ∈ replace key rows new ↔ row = new ∨ (row ∈ rows ∧ key row ≠ key new) := by
  simp only [Table.replace, List.mem_map]
  constructor
  · rintro ⟨old, stored, rfl⟩
    by_cases same : key old = key new
    · exact .inl (if_pos same)
    · rw [if_neg same]
      exact .inr ⟨stored, same⟩
  · rintro (rfl | ⟨stored, other⟩)
    · obtain ⟨old, stored, same⟩ := List.mem_map.mp present
      exact ⟨old, stored, if_pos same⟩
    · exact ⟨row, stored, if_neg other⟩

theorem insert_eq_some [DecidableEq κ] {key : α → κ} {rows result : List α} {new : α} :
    insert key rows new = some result ↔ (∀ row ∈ rows, key row ≠ key new) ∧ result = rows ++ [new] := by
  unfold insert
  cases taken : lookup key rows (key new) with
  | none =>
    have free := lookup_none.mp taken
    simp only [Option.isSome_none, Bool.false_eq_true, if_false, Option.some.injEq, eq_comm (a := rows ++ [new])]
    exact (and_iff_right free).symm
  | some row =>
    obtain ⟨stored, same⟩ := lookup_some taken
    simp only [Option.isSome_some, if_true, reduceCtorEq, false_iff, not_and]
    exact fun free => absurd same (free row stored)

theorem insert_keyed [DecidableEq κ] {key : α → κ} {rows : List α} {new : α} (keyed : Keyed key rows)
    (free : ∀ row ∈ rows, key row ≠ key new) : Keyed key (rows ++ [new]) := by
  simp only [Keyed, List.map_append, List.map_cons, List.map_nil]
  apply List.Nodup.append keyed (List.nodup_singleton _)
  simpa [List.disjoint_singleton] using free

theorem latest_some [DecidableEq κ] {key : α → κ} {rows : List α} {wanted : κ} {row : α}
    (found : latest key rows wanted = some row) : row ∈ rows ∧ key row = wanted := by
  have stored := lookup_some found
  exact ⟨List.mem_reverse.mp stored.1, stored.2⟩

theorem Keyed.latest_mem [DecidableEq κ] {key : α → κ} {rows : List α} (keyed : Keyed key rows) {row : α}
    (member : row ∈ rows) : latest key rows (key row) = some row := by
  have reversed : Keyed key rows.reverse := by
    rw [Keyed, List.map_reverse]
    exact List.nodup_reverse.mpr keyed
  exact reversed.lookup_mem (List.mem_reverse.mpr member)

/-- The rows of a dict after an assignment. -/
theorem mem_put [DecidableEq κ] {key : α → κ} {rows : List α} {new row : α} :
    row ∈ put key rows new ↔ row = new ∨ (row ∈ rows ∧ key row ≠ key new) := by
  unfold put
  by_cases taken : key new ∈ rows.map key
  · rw [if_pos taken]
    exact mem_replace taken
  · rw [if_neg taken, List.mem_append, List.mem_singleton, or_comm]
    have other : row ∈ rows → key row ≠ key new := by
      intro stored same
      exact taken (List.mem_map.mpr ⟨row, stored, same⟩)
    tauto

theorem Keyed.put [DecidableEq κ] {key : α → κ} {rows : List α} (keyed : Keyed key rows) (new : α) :
    Keyed key (put key rows new) := by
  unfold Table.put
  by_cases taken : key new ∈ rows.map key
  · rw [if_pos taken]
    exact keyed.replace new
  · rw [if_neg taken]
    apply insert_keyed keyed
    intro row stored same
    exact taken (List.mem_map.mpr ⟨row, stored, same⟩)

theorem lookup_put_self [DecidableEq κ] {key : α → κ} (rows : List α) (new : α) :
    lookup key (put key rows new) (key new) = some new := by
  cases found : lookup key (put key rows new) (key new) with
  | none => exact absurd rfl (lookup_none.mp found new (mem_put.mpr (.inl rfl)))
  | some row =>
    obtain ⟨stored, same⟩ := lookup_some found
    rcases mem_put.mp stored with equal | ⟨-, other⟩
    · rw [equal]
    · exact absurd same other

/-- A selection that keeps the rows under a key leaves its lookup alone. -/
theorem lookup_filter [DecidableEq κ] {key : α → κ} {rows : List α} {wanted : κ} {kept : α → Bool}
    (keeps : ∀ row ∈ rows, key row = wanted → kept row = true) :
    lookup key (rows.filter kept) wanted = lookup key rows wanted := by
  unfold lookup
  rw [List.find?_filter]
  induction rows with
  | nil => rfl
  | cons row rows ih =>
    rw [List.find?_cons, List.find?_cons, ih fun other member => keeps other (List.mem_cons_of_mem row member)]
    by_cases same : key row = wanted
    · simp [same, keeps row List.mem_cons_self same]
    · simp [same]

/-- A change that keeps the keys commutes with a lookup. -/
theorem lookup_map [DecidableEq κ] {key : α → κ} {set : α → α} (keeps : ∀ row, key (set row) = key row)
    (rows : List α) (wanted : κ) : lookup key (rows.map set) wanted = (lookup key rows wanted).map set := by
  have same : ((fun row => decide (key row = wanted)) ∘ set) = fun row => decide (key row = wanted) := by
    funext row
    exact congrArg (fun found => decide (found = wanted)) (keeps row)
  unfold lookup
  rw [List.find?_map, same]

/-- An assignment leaves the other keys alone. -/
theorem lookup_put_other [DecidableEq κ] {key : α → κ} (rows : List α) {new : α} {wanted : κ}
    (other : wanted ≠ key new) : lookup key (put key rows new) wanted = lookup key rows wanted := by
  unfold put
  by_cases taken : key new ∈ rows.map key
  · have keeps : ∀ row, key (if key row = key new then new else row) = key row := by
      intro row
      by_cases same : key row = key new
      · rw [if_pos same, same]
      · rw [if_neg same]
    rw [if_pos taken]
    unfold replace
    rw [lookup_map keeps]
    cases found : lookup key rows wanted with
    | none => rfl
    | some row =>
      obtain ⟨-, same⟩ := lookup_some found
      exact congrArg some (if_neg fun equal => other (same.symm.trans equal))
  · rw [if_neg taken]
    unfold lookup
    rw [List.find?_append, List.find?_singleton, if_neg (by simpa using other.symm), Option.or_none]

/-- A new key goes to the end. -/
theorem put_fresh [DecidableEq κ] {key : α → κ} {rows : List α} {new : α} (fresh : key new ∉ rows.map key) :
    put key rows new = rows ++ [new] := if_neg fresh

theorem Keyed.foldl_put [DecidableEq κ] {key : α → κ} {start : List α} (keyed : Keyed key start) (rows : List α) :
    Keyed key (rows.foldl (Table.put key) start) := by
  induction rows generalizing start with
  | nil => exact keyed
  | cons new rows ih => exact ih (keyed.put new)

/-- The rows of `{key(row): row for row in rows}` come from the last rows under their keys. -/
theorem mem_foldl_put [DecidableEq κ] {key : α → κ} {rows start : List α} {row : α}
    (member : row ∈ rows.foldl (put key) start) :
    row ∈ rows ∨ (row ∈ start ∧ ∀ other ∈ rows, key other ≠ key row) := by
  induction rows generalizing start with
  | nil => exact .inr ⟨member, by simp⟩
  | cons new rows ih =>
    rcases ih member with later | ⟨stored, silent⟩
    · exact .inl (List.mem_cons_of_mem new later)
    · rcases mem_put.mp stored with same | ⟨old, other⟩
      · exact .inl (same ▸ List.mem_cons_self)
      · refine .inr ⟨old, fun entry inside => ?_⟩
        rcases List.mem_cons.mp inside with now | later
        · exact fun equal => other (now ▸ equal.symm)
        · exact silent entry later

/-- A dict has the keys of the rows it was built from. -/
theorem keys_foldl_put [DecidableEq κ] {key : α → κ} {rows start : List α} {wanted : κ} :
    wanted ∈ (rows.foldl (put key) start).map key ↔ wanted ∈ start.map key ∨ wanted ∈ rows.map key := by
  induction rows generalizing start with
  | nil => simp
  | cons new rows ih =>
    have grown : wanted ∈ (put key start new).map key ↔ wanted = key new ∨ wanted ∈ start.map key := by
      unfold put
      by_cases taken : key new ∈ start.map key
      · rw [if_pos taken, replace_keys]
        exact ⟨.inr, fun either => either.elim (fun same => same ▸ taken) id⟩
      · rw [if_neg taken, List.map_append, List.mem_append, List.map_singleton, List.mem_singleton, or_comm]
    rw [List.foldl_cons, ih, grown, List.map_cons, List.mem_cons]
    tauto

/-- An update that moves no row to another key. -/
theorem Keyed.map {key : α → κ} {rows : List α} (keyed : Keyed key rows) {set : α → α}
    (keeps : ∀ row ∈ rows, key (set row) = key row) : Keyed key (rows.map set) := by
  have keys : (rows.map set).map key = rows.map key := by
    rw [List.map_map]
    exact List.map_congr_left keeps
  unfold Keyed
  rw [keys]
  exact keyed

/-- Overwriting a stored row with itself changes nothing. -/
theorem Keyed.replace_self [DecidableEq κ] {key : α → κ} {rows : List α} (keyed : Keyed key rows) {row : α}
    (stored : row ∈ rows) : Table.replace key rows row = rows := by
  calc
    _ = rows.map id := by
      apply List.map_congr_left
      intro other present
      by_cases same : key other = key row
      · rw [if_pos same]
        exact (keyed.eq_of_mem present stored same).symm
      · exact if_neg same
    _ = rows := List.map_id rows

/-- Of two overwrites under one key the later one remains. -/
theorem replace_replace [DecidableEq κ] (key : α → κ) (rows : List α) {old new : α} (same : key old = key new) :
    replace key (replace key rows old) new = replace key rows new := by
  simp only [replace, List.map_map]
  apply List.map_congr_left
  intro row _
  by_cases matched : key row = key new <;> simp [matched, same]

theorem lookup_replace_self [DecidableEq κ] {key : α → κ} {rows : List α} (keyed : Keyed key rows) {new : α}
    (present : key new ∈ rows.map key) : lookup key (replace key rows new) (key new) = some new :=
  (keyed.replace new).lookup_mem ((mem_replace present).mpr (.inl rfl))

/-- A conditional update of one key either matches nothing and changes nothing, or it overwrites
the one row that satisfies its condition. -/
theorem updateReturning_cases [DecidableEq κ] {key : α → κ} {rows : List α} (keyed : Keyed key rows)
    {condition : α → Bool} {set : α → α} {wanted : κ} (targeted : ∀ row, condition row = true → key row = wanted)
    (keeps : ∀ row, key (set row) = key row) :
    updateReturning key rows condition set = (none, rows) ∨
      ∃ row ∈ rows, condition row = true ∧
        updateReturning key rows condition set = (some wanted, replace key rows (set row)) := by
  cases found : rows.find? condition with
  | none =>
    left
    have skipped := List.find?_eq_none.mp found
    simp only [updateReturning, found, Option.map_none, Prod.mk.injEq, true_and]
    calc
      _ = rows.map id := by
        apply List.map_congr_left
        intro row stored
        simp [skipped row stored]
      _ = rows := List.map_id rows
  | some row =>
    right
    have stored := List.mem_of_find?_eq_some found
    have holds := List.find?_some found
    refine ⟨row, stored, holds, ?_⟩
    simp only [updateReturning, found, Option.map_some, targeted row holds, Table.replace, Prod.mk.injEq, true_and]
    apply List.map_congr_left
    intro other present
    by_cases same : key other = key row
    · have identical := keyed.eq_of_mem present stored same
      subst identical
      simp [holds, keeps]
    · have unmatched : condition other ≠ true := by
        intro matched
        exact same ((targeted other matched).trans (targeted row holds).symm)
      simp [unmatched, keeps, same]

theorem first_mem {before : α → α → Bool} {rows : List α} {best : α} (found : first before rows = some best) :
    best ∈ rows := by
  induction rows generalizing best with
  | nil => simp [first] at found
  | cons row rows ih =>
    simp only [first] at found
    cases rest : first before rows with
    | none =>
      rw [rest] at found
      have same : row = best := by simpa using found
      simp [same]
    | some other =>
      rw [rest] at found
      have stored := ih rest
      by_cases earlier : before other row = true
      · simp only [earlier, if_true, Option.some.injEq] at found
        subst found
        exact List.mem_cons_of_mem row stored
      · simp only [earlier] at found
        have same : row = best := by simpa using found
        simp [same]

theorem first_none {before : α → α → Bool} {rows : List α} (missing : first before rows = none) : rows = [] := by
  cases rows with
  | nil => rfl
  | cons row rows =>
    simp only [first] at missing
    split at missing
    · exact absurd missing (by simp)
    · split at missing <;> exact absurd missing (by simp)

/-- `ORDER BY measure DESC LIMIT 1` finds the greatest. -/
theorem first_greatest {measure : α → Nat} {rows : List α} {best : α}
    (found : first (fun one other => measure other < measure one) rows = some best) :
    ∀ row ∈ rows, measure row ≤ measure best := by
  induction rows generalizing best with
  | nil => simp
  | cons row rows ih =>
    simp only [first] at found
    cases rest : first (fun one other => measure other < measure one) rows with
    | none =>
      rw [rest] at found
      have same : row = best := by simpa using found
      intro other member
      rw [first_none rest, List.mem_singleton] at member
      exact Nat.le_of_eq (congrArg measure (member.trans same))
    | some candidate =>
      rw [rest] at found
      have greatest := ih rest
      by_cases later : measure row < measure candidate
      · simp only [decide_eq_true later, if_true, Option.some.injEq] at found
        subst found
        intro other member
        rcases List.mem_cons.mp member with rfl | inside
        · omega
        · exact greatest other inside
      · simp only [decide_eq_false later, Bool.false_eq_true, if_false, Option.some.injEq] at found
        subst found
        intro other member
        rcases List.mem_cons.mp member with rfl | inside
        · exact Nat.le_refl _
        · have below := greatest other inside
          omega

end Jiejian.Library.Table
