import Jiejian.Preparation.Identities
import Mathlib.Logic.Equiv.Basic

namespace Jiejian.Preparation.Colors

open Library.Outcome Errors Identities

/-- No node shares its color with an earlier neighbor. -/
def Proper (neighbors : List (List Nat)) (nodes : Nat) (coloring : Nat → Nat) : Prop :=
  ∀ node < nodes, ∀ other ∈ neighbors.getD node [], other < node → coloring other ≠ coloring node

theorem not_unavailable {neighbors : List (List Nat)} {colors : List Nat} {coloring : Nat → Nat} {nodes : Nat}
    (proper : Proper neighbors nodes coloring) (inside : colors.length < nodes)
    (agrees : ∀ node color, colors[node]? = some color → coloring node = color) :
    coloring colors.length ∉ unavailable neighbors colors := by
  intro taken
  obtain ⟨other, neighbor, stored⟩ := List.mem_filterMap.mp taken
  have earlier : other < colors.length := (List.getElem?_eq_some_iff.mp stored).1
  exact proper colors.length inside other neighbor earlier (agrees other _ stored)

/-- Renaming colors keeps a coloring proper. -/
theorem Proper.rename {neighbors : List (List Nat)} {nodes : Nat} {coloring : Nat → Nat}
    (proper : Proper neighbors nodes coloring) (trade : Equiv.Perm Nat) :
    Proper neighbors nodes fun node => trade (coloring node) := by
  intro node inside other neighbor earlier same
  exact proper node inside other neighbor earlier (trade.injective same)

/-- The search succeeds when the colors chosen so far extend to a proper coloring below the limit. -/
theorem assign_complete {neighbors : List (List Nat)} {limit : Nat} (remaining : Nat) :
    ∀ (colors : List Nat) (used : Nat) (coloring : Nat → Nat),
      Proper neighbors (colors.length + remaining) coloring →
      (∀ node < colors.length + remaining, coloring node < limit) →
      (∀ node color, colors[node]? = some color → coloring node = color) →
      (∀ color ∈ colors, color < used) →
      (assign neighbors limit remaining colors used).isSome := by
  induction remaining with
  | zero =>
    intro colors used coloring _ _ _ _
    simp [assign]
  | succ remaining ih =>
    intro colors used coloring proper bounded agrees below
    -- A color above `used` trades its name with `used`, which no node has so far.
    have normalized : ∃ coloring' : Nat → Nat, Proper neighbors (colors.length + (remaining + 1)) coloring' ∧
        (∀ node < colors.length + (remaining + 1), coloring' node < limit) ∧
        (∀ node color, colors[node]? = some color → coloring' node = color) ∧
        coloring' colors.length < used + 1 := by
      by_cases fits : coloring colors.length < used + 1
      · exact ⟨coloring, proper, bounded, agrees, fits⟩
      · have here := bounded colors.length (by omega)
        refine ⟨_, proper.rename (Equiv.swap used (coloring colors.length)), ?_, ?_, ?_⟩
        · intro node inside
          have bound := bounded node inside
          by_cases first : coloring node = used
          · rw [first, Equiv.swap_apply_left]
            exact here
          · by_cases second : coloring node = coloring colors.length
            · rw [second, Equiv.swap_apply_right]
              omega
            · rw [Equiv.swap_apply_of_ne_of_ne first second]
              exact bound
        · intro node color stored
          have small := below color (List.mem_of_getElem? stored)
          rw [agrees node color stored]
          exact Equiv.swap_apply_of_ne_of_ne (by omega) (by omega)
        · rw [Equiv.swap_apply_right]
          omega
    obtain ⟨coloring', proper', bounded', agrees', fits⟩ := normalized
    have free : coloring' colors.length ∉ unavailable neighbors colors :=
      not_unavailable proper' (by omega) agrees'
    have inside := bounded' colors.length (by omega)
    have later : (assign neighbors limit remaining (colors ++ [coloring' colors.length])
        (max used (coloring' colors.length + 1))).isSome := by
      apply ih _ _ coloring'
      · simpa [Nat.add_assoc, Nat.add_comm 1 remaining] using proper'
      · intro node bound
        apply bounded'
        simp only [List.length_append, List.length_cons, List.length_nil] at bound
        omega
      · intro node color stored
        rw [List.getElem?_append] at stored
        by_cases old : node < colors.length
        · rw [if_pos old] at stored
          exact agrees' node color stored
        · rw [if_neg old] at stored
          have position : node = colors.length := by
            have bound := (List.getElem?_eq_some_iff.mp stored).1
            simp only [List.length_cons, List.length_nil] at bound
            omega
          subst position
          simpa using stored
      · intro color member
        rcases List.mem_append.mp member with old | new
        · have bound := below color old
          omega
        · have same : color = coloring' colors.length := by simpa using new
          omega
    rw [assign, List.findSome?_isSome_iff]
    refine ⟨coloring' colors.length, List.mem_range.mpr (by omega), ?_⟩
    rw [if_neg free]
    exact later

/-- What the search returns extends the given colors below the limit. -/
theorem assign_below {neighbors : List (List Nat)} {limit : Nat} (remaining : Nat) :
    ∀ (colors : List Nat) (used : Nat) (result : List Nat),
      assign neighbors limit remaining colors used = some result →
      (∀ color ∈ colors, color < limit) → ∀ color ∈ result, color < limit := by
  induction remaining with
  | zero =>
    intro colors used result found below
    have same : colors = result := by simpa [assign] using found
    subst same
    exact below
  | succ remaining ih =>
    intro colors used result found below
    rw [assign] at found
    obtain ⟨color, inside, tried⟩ := List.exists_of_findSome?_eq_some found
    by_cases taken : color ∈ unavailable neighbors colors
    · rw [if_pos taken] at tried
      cases tried
    · rw [if_neg taken] at tried
      apply ih _ _ result tried
      intro other member
      rcases List.mem_append.mp member with old | new
      · exact below other old
      · have same : other = color := by simpa using new
        have bound := List.mem_range.mp inside
        omega

theorem assign_length {neighbors : List (List Nat)} {limit : Nat} (remaining : Nat) :
    ∀ (colors : List Nat) (used : Nat) (result : List Nat),
      assign neighbors limit remaining colors used = some result → result.length = colors.length + remaining := by
  induction remaining with
  | zero =>
    intro colors used result found
    have same : colors = result := by simpa [assign] using found
    rw [same, Nat.add_zero]
  | succ remaining ih =>
    intro colors used result found
    rw [assign] at found
    obtain ⟨color, _, tried⟩ := List.exists_of_findSome?_eq_some found
    by_cases taken : color ∈ unavailable neighbors colors
    · rw [if_pos taken] at tried
      cases tried
    · rw [if_neg taken] at tried
      have length := ih _ _ result tried
      simp only [List.length_append, List.length_cons, List.length_nil] at length
      omega

theorem greedyColors_length {neighbors : List (List Nat)} (nodes : Nat) :
    ∀ colors, greedyColors neighbors nodes = .ok colors → colors.length = nodes := by
  induction nodes with
  | zero =>
    intro colors found
    have same : [] = colors := by simpa [greedyColors] using found
    rw [← same, List.length_nil]
  | succ nodes ih =>
    intro colors found
    rw [greedyColors] at found
    obtain ⟨earlier, here, later⟩ := bind_eq_ok.mp found
    obtain ⟨color, _, last⟩ := bind_eq_ok.mp later
    have same : earlier ++ [color] = colors := by simpa [pure, Except.pure] using last
    rw [← same, List.length_append, ih earlier here, List.length_singleton]

/-- Every node gets a color. -/
theorem colorComponents_length {neighbors : List (List Nat)} {colors : List Nat}
    (colored : colorComponents neighbors = .ok colors) : colors.length = neighbors.length := by
  unfold colorComponents at colored
  obtain ⟨greedy, here, later⟩ := bind_eq_ok.mp colored
  by_cases large : neighbors.length > 12 ∨ neighbors = []
  · rw [if_pos large] at later
    have same : greedy = colors := by simpa [pure, Except.pure] using later
    rw [← same]
    exact greedyColors_length _ greedy here
  · rw [if_neg large] at later
    obtain ⟨limit, _, found⟩ := List.exists_of_findSome?_eq_some (orRaise_eq_ok.mp later)
    have length := assign_length _ _ _ colors found
    simpa using length

theorem le_maximum {values : List Nat} {value : Nat} (member : value ∈ values) : value ≤ maximum values := by
  have general : ∀ start, start ≤ values.foldl max start ∧ ∀ other ∈ values, other ≤ values.foldl max start := by
    clear member
    induction values with
    | nil => simp
    | cons first rest ih =>
      intro start
      rw [List.foldl_cons]
      obtain ⟨grows, bounds⟩ := ih (max start first)
      refine ⟨by omega, ?_⟩
      intro other member
      rcases List.mem_cons.mp member with rfl | later
      · omega
      · exact bounds other later
  exact (general 0).2 value member

theorem maximum_lt {values : List Nat} {bound : Nat} (positive : 0 < bound)
    (below : ∀ value ∈ values, value < bound) : maximum values < bound := by
  have general : ∀ start, start < bound → values.foldl max start < bound := by
    induction values with
    | nil => exact fun _ small => small
    | cons value rest ih =>
      intro start small
      rw [List.foldl_cons]
      apply ih (fun other member => below other (by simp [member]))
      have here := below value (by simp)
      omega
  exact general 0 positive

/-- A small graph gets no more colors than any proper coloring of it has. -/
theorem colorComponents_minimal {neighbors : List (List Nat)} {colors : List Nat}
    (colored : colorComponents neighbors = .ok colors) (small : neighbors.length ≤ 12) (filled : neighbors ≠ [])
    {coloring : Nat → Nat} {limit : Nat} (proper : Proper neighbors neighbors.length coloring)
    (bounded : ∀ node < neighbors.length, coloring node < limit) : maximum colors + 1 ≤ limit := by
  unfold colorComponents at colored
  obtain ⟨greedy, -, later⟩ := bind_eq_ok.mp colored
  have exact : ¬(neighbors.length > 12 ∨ neighbors = []) := by
    simp only [not_or]
    exact ⟨by omega, filled⟩
  rw [if_neg exact] at later
  have found := orRaise_eq_ok.mp later
  obtain ⟨before, chosen, after, listed, here, failed⟩ := List.findSome?_eq_some_iff.mp found
  have positive : 0 < limit := by
    have nonempty : 0 < neighbors.length := List.length_pos_iff.mpr filled
    have bound := bounded 0 nonempty
    omega
  have chosenPositive : 0 < chosen := by
    have member : chosen ∈ List.range' 1 (maximum greedy + 1) := by simp [listed]
    have bound := List.mem_range'_1.mp member
    omega
  have least : chosen ≤ limit := by
    by_contra larger
    have earlier : limit ∈ before := by
      have increasing : (List.range' 1 (maximum greedy + 1)).Pairwise (· < ·) := List.pairwise_lt_range'
      have member : limit ∈ List.range' 1 (maximum greedy + 1) := by
        have inside : chosen ∈ List.range' 1 (maximum greedy + 1) := by simp [listed]
        have bound := List.mem_range'_1.mp inside
        exact List.mem_range'_1.mpr (by omega)
      rw [listed] at member increasing
      rcases List.mem_append.mp member with first | second
      · exact first
      · have sorted := (List.pairwise_append.mp increasing).2.1
        rcases List.mem_cons.mp second with same | beyond
        · omega
        · have bound := List.rel_of_pairwise_cons sorted beyond
          omega
    have searched := @assign_complete neighbors limit neighbors.length [] 0 coloring
      (by simpa using proper) (by simpa using bounded) (by simp) (by simp)
    rw [failed limit earlier] at searched
    cases searched
  have below := assign_below neighbors.length [] 0 colors here (by simp)
  have top := maximum_lt chosenPositive below
  omega

/-- A list of colors that leaves no smaller color out. -/
def GapFree (colors : List Nat) : Prop :=
  ∀ color ∈ colors, ∀ smaller < color, smaller ∈ colors

theorem unavailable_subset {neighbors : List (List Nat)} {colors : List Nat} :
    unavailable neighbors colors ⊆ colors := by
  intro color taken
  obtain ⟨other, -, stored⟩ := List.mem_filterMap.mp taken
  exact List.mem_of_getElem? stored

/-- The first free color has only taken colors below it. -/
theorem greedyColors_gapFree {neighbors : List (List Nat)} (nodes : Nat) :
    ∀ colors, greedyColors neighbors nodes = .ok colors → GapFree colors := by
  induction nodes with
  | zero =>
    intro colors found
    have same : [] = colors := by simpa [greedyColors] using found
    subst same
    intro color member
    cases member
  | succ nodes ih =>
    intro colors found
    rw [greedyColors] at found
    obtain ⟨earlier, here, later⟩ := bind_eq_ok.mp found
    obtain ⟨color, first, last⟩ := bind_eq_ok.mp later
    have same : earlier ++ [color] = colors := by simpa [pure, Except.pure] using last
    subst same
    intro other member smaller below
    rcases List.mem_append.mp member with old | new
    · exact List.mem_append_left _ (ih earlier here other old smaller below)
    · have last : other = color := by simpa using new
      subst last
      have free := orRaise_eq_ok.mp first
      have taken : smaller ∈ unavailable neighbors earlier := by
        have passed := List.find?_range_eq_some.mp free
        simpa using passed.2.2 smaller below
      exact List.mem_append_left _ (unavailable_subset taken)

/-- The search uses a new color only after all smaller ones. -/
theorem assign_gapFree {neighbors : List (List Nat)} {limit : Nat} (remaining : Nat) :
    ∀ (colors : List Nat) (used : Nat) (result : List Nat),
      assign neighbors limit remaining colors used = some result →
      (∀ color, color < used ↔ color ∈ colors) → GapFree result := by
  induction remaining with
  | zero =>
    intro colors used result found counted
    have same : colors = result := by simpa [assign] using found
    subst same
    intro color member smaller below
    have bound := (counted color).mpr member
    exact (counted smaller).mp (by omega)
  | succ remaining ih =>
    intro colors used result found counted
    rw [assign] at found
    obtain ⟨color, inside, tried⟩ := List.exists_of_findSome?_eq_some found
    have bound := List.mem_range.mp inside
    by_cases taken : color ∈ unavailable neighbors colors
    · rw [if_pos taken] at tried
      cases tried
    · rw [if_neg taken] at tried
      apply ih _ _ result tried
      intro other
      rw [List.mem_append, List.mem_singleton, ← counted other]
      omega

theorem colorComponents_gapFree {neighbors : List (List Nat)} {colors : List Nat}
    (colored : colorComponents neighbors = .ok colors) : GapFree colors := by
  unfold colorComponents at colored
  obtain ⟨greedy, here, later⟩ := bind_eq_ok.mp colored
  by_cases large : neighbors.length > 12 ∨ neighbors = []
  · rw [if_pos large] at later
    have same : greedy = colors := by simpa [pure, Except.pure] using later
    rw [← same]
    exact greedyColors_gapFree _ greedy here
  · rw [if_neg large] at later
    obtain ⟨limit, _, found⟩ := List.exists_of_findSome?_eq_some (orRaise_eq_ok.mp later)
    apply assign_gapFree _ _ _ colors found
    intro color
    simp

theorem maximum_mem {values : List Nat} (filled : values ≠ []) : maximum values ∈ values := by
  have general : ∀ start, values.foldl max start = start ∨ values.foldl max start ∈ values := by
    clear filled
    induction values with
    | nil => exact fun start => .inl rfl
    | cons value rest ih =>
      intro start
      rw [List.foldl_cons]
      rcases ih (max start value) with same | later
      · rw [same]
        by_cases less : start ≤ value
        · exact .inr (by simp [Nat.max_eq_right less])
        · exact .inl (Nat.max_eq_left (by omega))
      · exact .inr (List.mem_cons_of_mem value later)
  rcases general 0 with zero | member
  · cases values with
    | nil => exact absurd rfl filled
    | cons value rest =>
      have small := le_maximum (List.mem_cons_self (a := value) (l := rest))
      have none : maximum (value :: rest) = 0 := zero
      have same : maximum (value :: rest) = value := by omega
      rw [same]
      exact List.mem_cons_self
  · exact member

/-- Every color up to the largest is in use. -/
theorem GapFree.mem {colors : List Nat} (full : GapFree colors) (filled : colors ≠ []) {color : Nat}
    (small : color ≤ maximum colors) : color ∈ colors := by
  have top := maximum_mem filled
  rcases Nat.lt_or_eq_of_le small with less | same
  · exact full _ top color less
  · rw [same]
    exact top

end Jiejian.Preparation.Colors
