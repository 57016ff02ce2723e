import Jiejian.Preparation.Identities

namespace Jiejian.Preparation.Merging

open Library Library.Outcome Library.Sorting Errors Models Identities

theorem countP_lt_countP {α : Type} {items : List α} {small large : α → Bool}
    (wider : ∀ item, small item = true → large item = true) {extra : α} (member : extra ∈ items)
    (inside : large extra = true) (outside : small extra = false) : items.countP small < items.countP large := by
  induction items with
  | nil => cases member
  | cons item rest ih =>
    have grows := List.countP_mono_left (l := rest) fun other _ => wider other
    rcases List.mem_cons.mp member with rfl | later
    · rw [List.countP_cons, List.countP_cons, inside, outside]
      simp only [if_true, Bool.false_eq_true, if_false]
      omega
    · have smaller := ih later
      rw [List.countP_cons, List.countP_cons]
      by_cases counted : small item = true
      · rw [if_pos counted, if_pos (wider item counted)]
        omega
      · rw [if_neg counted]
        omega

/-- What every merge respects has one value along each chain of parents. -/
def Respecting {β : Type} (value : Position → β) (parents : Parents) : Prop :=
  ∀ position parent, parentOf parents position = some parent → value parent = value position

theorem Respecting.root_eq {β : Type} {value : Position → β} {parents : Parents}
    (respects : Respecting value parents) (position : Position) : value (root parents position) = value position := by
  have walk : ∀ fuel start, value (rootWithin parents fuel start) = value start := by
    intro fuel
    induction fuel with
    | zero => exact fun _ => rfl
    | succ fuel ih =>
      intro start
      rw [rootWithin]
      cases stored : parentOf parents start with
      | none => rfl
      | some parent =>
        dsimp only
        by_cases done : parent = start
        · rw [if_pos done]
        · rw [if_neg done, ih parent]
          exact respects start parent stored
  exact walk _ position

/-- Parents come earlier in the order of positions, and are positions themselves. -/
structure Forest (parents : Parents) : Prop where
  keyed : Table.Keyed Prod.fst parents
  closed : ∀ position parent, parentOf parents position = some parent → (parentOf parents parent).isSome
  descending : ∀ position parent, parentOf parents position = some parent →
    parent = position ∨ positionOrder parent < positionOrder position

/-- The chain of parents of a position ends in a root. -/
inductive Reaches (parents : Parents) : Position → Position → Prop
  | here {position : Position} (fixed : parentOf parents position = some position) :
      Reaches parents position position
  | step {position parent top : Position} (stored : parentOf parents position = some parent)
      (moves : parent ≠ position) (later : Reaches parents parent top) : Reaches parents position top

theorem Reaches.unique {parents : Parents} {position first second : Position}
    (left : Reaches parents position first) (right : Reaches parents position second) : first = second := by
  induction left with
  | here fixed =>
    cases right with
    | here _ => rfl
    | step stored moves _ => exact absurd (Option.some.inj (stored.symm.trans fixed)) moves
  | step stored moves _ ih =>
    cases right with
    | here fixed => exact absurd (Option.some.inj (stored.symm.trans fixed)) moves
    | step stored' _ later' =>
      have same := Option.some.inj (stored.symm.trans stored')
      subst same
      exact ih later'

theorem Reaches.top_fixed {parents : Parents} {position top : Position}
    (reaches : Reaches parents position top) : parentOf parents top = some top := by
  induction reaches with
  | here fixed => exact fixed
  | step _ _ _ ih => exact ih

theorem mem_of_parentOf {parents : Parents} {position parent : Position}
    (stored : parentOf parents position = some parent) : (position, parent) ∈ parents := by
  obtain ⟨entry, found, same⟩ := Option.map_eq_some_iff.mp stored
  obtain ⟨member, key⟩ := Table.lookup_some found
  obtain ⟨child, other⟩ := entry
  subst key
  subst same
  exact member

theorem Forest.parentOf_mem {parents : Parents} (forest : Forest parents) {position parent : Position}
    (member : (position, parent) ∈ parents) : parentOf parents position = some parent := by
  have found := forest.keyed.lookup_mem member
  simp only [parentOf, found, Option.map_some]

/-- How many positions come before one. -/
def positionsBefore (parents : Parents) (position : Position) : Nat :=
  parents.countP fun entry => positionOrder entry.1 < positionOrder position

theorem Forest.rootWithin_reaches {parents : Parents} (forest : Forest parents) (fuel : Nat) :
    ∀ position, (parentOf parents position).isSome → positionsBefore parents position < fuel →
      Reaches parents position (rootWithin parents fuel position) := by
  induction fuel with
  | zero => intro position _ few; omega
  | succ fuel ih =>
    intro position known few
    obtain ⟨parent, stored⟩ := Option.isSome_iff_exists.mp known
    rw [rootWithin, stored]
    dsimp only
    by_cases done : parent = position
    · rw [if_pos done]
      subst done
      exact .here stored
    · rw [if_neg done]
      have closed := forest.closed position parent stored
      have before := (forest.descending position parent stored).resolve_left done
      obtain ⟨grand, stored'⟩ := Option.isSome_iff_exists.mp closed
      have fewer : positionsBefore parents parent < positionsBefore parents position := by
        apply countP_lt_countP _ (mem_of_parentOf stored')
        · simpa using before
        · simp
        · intro entry smaller
          have less : positionOrder entry.1 < positionOrder parent := by simpa using smaller
          simpa using less.trans before
      exact .step stored done (ih parent closed (by omega))

theorem Forest.reaches_root {parents : Parents} (forest : Forest parents) {position : Position}
    (known : (parentOf parents position).isSome) : Reaches parents position (root parents position) := by
  apply forest.rootWithin_reaches _ position known
  obtain ⟨parent, stored⟩ := Option.isSome_iff_exists.mp known
  have counted := @countP_lt_countP _ parents (fun entry => decide (positionOrder entry.1 < positionOrder position))
    (fun _ => true) (fun _ _ => rfl) _ (mem_of_parentOf stored) rfl (by simp)
  simpa [positionsBefore] using counted

/-- Pointing one root at another moves its chains there and leaves the others alone. -/
theorem Reaches.redirect {parents : Parents} (forest : Forest parents) {first second : Position}
    (differ : first ≠ second) (firstRoot : parentOf parents first = some first)
    (secondRoot : parentOf parents second = some second) {position top : Position}
    (reaches : Reaches parents position top) :
    Reaches (Table.replace Prod.fst parents (second, first)) position (if top = second then first else top) := by
  have present : second ∈ parents.map Prod.fst := List.mem_map.mpr ⟨_, mem_of_parentOf secondRoot, rfl⟩
  have keyed := forest.keyed.replace (second, first)
  have moved : parentOf (Table.replace Prod.fst parents (second, first)) second = some first := by
    have found := keyed.lookup_mem ((Table.mem_replace present).mpr (.inl rfl))
    simp only [parentOf, found, Option.map_some]
  have kept : ∀ child parent, parentOf parents child = some parent → child ≠ second →
      parentOf (Table.replace Prod.fst parents (second, first)) child = some parent := by
    intro child parent stored other
    have found := keyed.lookup_mem ((Table.mem_replace present).mpr (.inr ⟨mem_of_parentOf stored, other⟩))
    simp only [parentOf, found, Option.map_some]
  induction reaches with
  | here fixed =>
    rename_i position
    by_cases same : position = second
    · rw [if_pos same]
      subst same
      exact .step moved differ (.here (kept first first firstRoot differ))
    · rw [if_neg same]
      exact .here (kept position position fixed same)
  | step stored moves _ ih =>
    apply Reaches.step (kept _ _ stored ?_) moves ih
    intro same
    subst same
    exact moves (Option.some.inj (stored.symm.trans secondRoot))

/-- The effect of a merge: the keys stay, the two chains are joined, chains once joined stay
joined, and whatever respects the old parents and the new pair respects the new parents. -/
structure Merged (parents next : Parents) (left right : Position) : Prop where
  forest : Forest next
  keys : ∀ position, (parentOf next position).isSome = (parentOf parents position).isSome
  joined : root next left = root next right
  kept : ∀ {first second}, (parentOf parents first).isSome → (parentOf parents second).isSome →
    root parents first = root parents second → root next first = root next second
  respecting : ∀ {β : Type} {value : Position → β}, Respecting value parents → value left = value right →
    Respecting value next

theorem parentOf_isSome_iff {parents : Parents} {position : Position} :
    (parentOf parents position).isSome ↔ position ∈ parents.map Prod.fst := by
  rw [parentOf, Option.isSome_map]
  constructor
  · intro known
    obtain ⟨entry, found⟩ := Option.isSome_iff_exists.mp known
    obtain ⟨member, same⟩ := Table.lookup_some found
    exact List.mem_map.mpr ⟨entry, member, same⟩
  · intro member
    by_contra missing
    have absent := Table.lookup_none.mp (Option.not_isSome_iff_eq_none.mp missing)
    obtain ⟨entry, stored, same⟩ := List.mem_map.mp member
    exact absent entry stored same

theorem merged_of_redirect {parents : Parents} (forest : Forest parents) {left right first second : Position}
    (knownLeft : (parentOf parents left).isSome) (knownRight : (parentOf parents right).isSome)
    (roots : (root parents left = first ∧ root parents right = second) ∨
      (root parents left = second ∧ root parents right = first))
    (ordered : positionOrder first ≤ positionOrder second) :
    Merged parents (Table.replace Prod.fst parents (second, first)) left right := by
  have reachesLeft := forest.reaches_root knownLeft
  have reachesRight := forest.reaches_root knownRight
  have fixed : parentOf parents first = some first ∧ parentOf parents second = some second := by
    rcases roots with ⟨one, two⟩ | ⟨one, two⟩
    · rw [one] at reachesLeft
      rw [two] at reachesRight
      exact ⟨reachesLeft.top_fixed, reachesRight.top_fixed⟩
    · rw [one] at reachesLeft
      rw [two] at reachesRight
      exact ⟨reachesRight.top_fixed, reachesLeft.top_fixed⟩
  by_cases same : first = second
  · -- The two chains already end in one root.
    subst same
    have unchanged : Table.replace Prod.fst parents (first, first) = parents :=
      forest.keyed.replace_self (mem_of_parentOf fixed.1)
    rw [unchanged]
    have equal : root parents left = root parents right := by
      rcases roots with ⟨one, two⟩ | ⟨one, two⟩ <;> rw [one, two]
    exact ⟨forest, fun _ => rfl, equal, fun _ _ joined => joined, fun respects _ => respects⟩
  have present : second ∈ parents.map Prod.fst := List.mem_map.mpr ⟨_, mem_of_parentOf fixed.2, rfl⟩
  have keys : (Table.replace Prod.fst parents (second, first)).map Prod.fst = parents.map Prod.fst :=
    Table.replace_keys Prod.fst parents (second, first)
  have known : ∀ position, (parentOf (Table.replace Prod.fst parents (second, first)) position).isSome =
      (parentOf parents position).isSome := by
    intro position
    rw [Bool.eq_iff_iff, parentOf_isSome_iff, parentOf_isSome_iff, keys]
  have entries : ∀ position parent,
      parentOf (Table.replace Prod.fst parents (second, first)) position = some parent →
        (position = second ∧ parent = first) ∨ parentOf parents position = some parent := by
    intro position parent stored
    rcases (Table.mem_replace present).mp (mem_of_parentOf stored) with new | old
    · exact .inl (Prod.mk.inj new)
    · exact .inr (forest.parentOf_mem old.1)
  have after : Forest (Table.replace Prod.fst parents (second, first)) := by
    refine ⟨forest.keyed.replace _, ?_, ?_⟩
    · intro position parent stored
      rw [known]
      rcases entries position parent stored with ⟨-, rfl⟩ | old
      · simp [fixed.1]
      · exact forest.closed position parent old
    · intro position parent stored
      rcases entries position parent stored with ⟨rfl, rfl⟩ | old
      · refine .inr (lt_of_le_of_ne ordered ?_)
        intro equal
        apply same
        have pair := toLex.injective equal
        obtain ⟨firstId, firstPlace⟩ := parent
        obtain ⟨secondId, secondPlace⟩ := position
        simp only [Prod.mk.injEq] at pair
        obtain ⟨rfl, places⟩ := pair
        cases firstPlace <;> cases secondPlace <;> simp [Place.value] at places ⊢
      · exact forest.descending position parent old
  have moved : ∀ {position}, (parentOf parents position).isSome →
      root (Table.replace Prod.fst parents (second, first)) position =
        if root parents position = second then first else root parents position := by
    intro position inside
    have now := after.reaches_root (by rw [known]; exact inside)
    have redirected := (forest.reaches_root inside).redirect forest same fixed.1 fixed.2
    exact now.unique redirected
  refine ⟨after, known, ?_, ?_, ?_⟩
  · rw [moved knownLeft, moved knownRight]
    rcases roots with ⟨one, two⟩ | ⟨one, two⟩
    · rw [one, two, if_neg same, if_pos rfl]
    · rw [one, two, if_neg same, if_pos rfl]
  · intro one two insideOne insideTwo equal
    rw [moved insideOne, moved insideTwo, equal]
  · intro β value respects agree position parent stored
    rcases entries position parent stored with ⟨rfl, rfl⟩ | old
    · have atLeft := respects.root_eq left
      have atRight := respects.root_eq right
      rcases roots with ⟨one, two⟩ | ⟨one, two⟩
      · rw [← one, ← two, atLeft, atRight, agree]
      · rw [← one, ← two, atLeft, atRight, agree]
    · exact respects position parent old

/-- An accepted merge joins two positions of one actor. -/
theorem merge_merged {ordered : List PermissionIntentRevision} {parents next : Parents} (forest : Forest parents)
    {left right : Position} (done : merge ordered parents left right = .ok next) :
    Merged parents next left right ∧ actorOf ordered left = actorOf ordered right ∧
      (parentOf parents left).isSome ∧ (parentOf parents right).isSome := by
  unfold merge at done
  obtain ⟨_, checked, later⟩ := bind_eq_ok.mp done
  obtain ⟨knownLeft, knownRight, actors⟩ := require_eq_ok.mp checked
  refine ⟨?_, actors, knownLeft, knownRight⟩
  have sorted : sortedBy positionOrder [root parents left, root parents right] =
      if positionOrder (root parents left) ≤ positionOrder (root parents right) then
        [root parents left, root parents right] else [root parents right, root parents left] := by
    by_cases before : positionOrder (root parents left) ≤ positionOrder (root parents right)
    · simp [sortedBy, before]
    · simp [sortedBy, before]
  rw [sorted] at later
  by_cases before : positionOrder (root parents left) ≤ positionOrder (root parents right)
  · rw [if_pos before] at later
    have same : Table.replace Prod.fst parents (root parents right, root parents left) = next := by
      simpa [pure, Except.pure] using later
    rw [← same]
    exact merged_of_redirect forest knownLeft knownRight (.inl ⟨rfl, rfl⟩) before
  · rw [if_neg before] at later
    have same : Table.replace Prod.fst parents (root parents left, root parents right) = next := by
      simpa [pure, Except.pure] using later
    rw [← same]
    exact merged_of_redirect forest knownLeft knownRight (.inr ⟨rfl, rfl⟩) (le_of_not_ge before)

end Jiejian.Preparation.Merging
