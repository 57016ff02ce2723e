import Jiejian.Library.DepthFirst
import Jiejian.Library.Table
import Jiejian.Library.Topological

namespace Jiejian.Library.Closures

open Outcome DepthFirst

variable {α : Type} [DecidableEq α]

/-- The sets that are formed so far, each under its node. -/
abbrev Cache (α : Type) := List (α × List α)

def stored (cache : Cache α) (node : α) : Option (List α) := (Table.lookup Prod.fst cache node).map Prod.snd

/-- All that a node leads to, from the sets of what it leads to at once; a set that is there is not formed again. -/
def collect (next : α → List α) : Nat → Cache α → α → Except Unit (Cache α)
  | 0, _, _ => .error ()
  | frames + 1, cache, node =>
    if (stored cache node).isSome then .ok cache
    else do
      let after ← (next node).foldlM (collect next frames) cache
      return (node, (next node).flatMap fun child => child :: (stored after child).getD []) :: after

/-- The sets of all nodes, one after the other. -/
def closures (next : α → List α) (frames : Nat) (nodes : List α) : Except Unit (Cache α) :=
  nodes.foldlM (collect next frames) []

variable {next : α → List α}

/-- The node leads to the other in one step or more. -/
abbrev Leads (next : α → List α) : α → α → Prop := Relation.TransGen fun node child => child ∈ next node

/-- Every set that is there has exactly what its node leads to. -/
def Sound (next : α → List α) (cache : Cache α) : Prop :=
  ∀ node set, stored cache node = some set → ∀ other, other ∈ set ↔ Leads next node other

/-- What is stored stays stored. -/
def Grows (before after : Cache α) : Prop := ∀ node, (stored before node).isSome → (stored after node).isSome

theorem sound_nil : Sound next [] := by
  intro node set found
  cases found

theorem stored_cons {cache : Cache α} {node wanted : α} {set : List α} :
    stored ((node, set) :: cache) wanted = if node = wanted then some set else stored cache wanted := by
  unfold stored Table.lookup
  by_cases here : node = wanted
  · rw [if_pos here, List.find?_cons_of_pos (by simpa using here)]
    rfl
  · rw [if_neg here, List.find?_cons_of_neg (by simpa using here)]

omit [DecidableEq α] in
theorem leads_iff {node other : α} :
    Leads next node other ↔ ∃ child ∈ next node, other = child ∨ Leads next child other := by
  constructor
  · intro leads
    cases Relation.TransGen.head'_iff.mp leads with
    | intro child path =>
      obtain ⟨member, rest⟩ := path
      cases Relation.reflTransGen_iff_eq_or_transGen.mp rest with
      | inl same => exact ⟨child, member, .inl same⟩
      | inr later => exact ⟨child, member, .inr later⟩
  · intro found
    obtain ⟨child, member, rest⟩ := found
    cases rest with
    | inl same => exact same ▸ .single member
    | inr later => exact .head member later

theorem grows_cons {cache : Cache α} {node : α} {set : List α} : Grows cache ((node, set) :: cache) := by
  intro other there
  rw [stored_cons]
  by_cases here : node = other
  · rw [if_pos here]
    rfl
  · rw [if_neg here]
    exact there

/-- The set of a node whose children all have theirs. -/
theorem sound_cons {cache : Cache α} (sound : Sound next cache) {node : α}
    (known : ∀ child ∈ next node, (stored cache child).isSome) :
    Sound next ((node, (next node).flatMap fun child => child :: (stored cache child).getD []) :: cache) := by
  intro wanted set found other
  rw [stored_cons] at found
  by_cases here : node = wanted
  · rw [if_pos here] at found
    rw [← Option.some.inj found, ← here, List.mem_flatMap, leads_iff]
    refine exists_congr fun child => and_congr_right fun member => ?_
    obtain ⟨below, stored'⟩ := Option.isSome_iff_exists.mp (known child member)
    rw [stored', Option.getD_some, List.mem_cons, sound child below stored']
  · rw [if_neg here] at found
    exact sound wanted set found other

/-- What a pass over nodes does when each step stores its node and keeps the sets sound. -/
theorem foldlM_sound {step : Cache α → α → Except Unit (Cache α)}
    (stores : ∀ before node after, step before node = .ok after → Sound next before →
      Sound next after ∧ Grows before after ∧ (stored after node).isSome)
    {nodes : List α} {before after : Cache α} (walked : nodes.foldlM step before = .ok after) (sound : Sound next before) :
    Sound next after ∧ Grows before after ∧ ∀ node ∈ nodes, (stored after node).isSome := by
  induction nodes generalizing before with
  | nil =>
    have same : before = after := by simpa [pure, Except.pure] using walked
    rw [← same]
    exact ⟨sound, fun _ there => there, fun _ member => absurd member List.not_mem_nil⟩
  | cons node nodes ih =>
    rw [List.foldlM_cons] at walked
    obtain ⟨middle, stepped, later⟩ := bind_eq_ok.mp walked
    obtain ⟨sound', grows, here⟩ := stores before node middle stepped sound
    obtain ⟨sound'', grows', rest⟩ := ih later sound'
    refine ⟨sound'', fun other there => grows' other (grows other there), ?_⟩
    exact List.forall_mem_cons.mpr ⟨grows' node here, rest⟩

theorem collect_sound {frames : Nat} {before after : Cache α} {node : α} (done : collect next frames before node = .ok after)
    (sound : Sound next before) : Sound next after ∧ Grows before after ∧ (stored after node).isSome := by
  induction frames generalizing before after node with
  | zero => cases done
  | succ frames ih =>
    unfold collect at done
    by_cases known : (stored before node).isSome = true
    · rw [if_pos known] at done
      rw [← Except.ok.inj done]
      exact ⟨sound, fun _ there => there, known⟩
    · rw [if_neg known] at done
      obtain ⟨middle, walked, same⟩ := bind_eq_ok.mp done
      obtain ⟨sound', grows, children⟩ := foldlM_sound (fun _ _ _ stepped => ih stepped) walked sound
      have built := Except.ok.inj same
      rw [← built]
      refine ⟨sound_cons sound' children, fun other there => grows_cons other (grows other there), ?_⟩
      rw [stored_cons, if_pos rfl]
      rfl

/-- The set of every node is what the node leads to. -/
theorem closures_sound {frames : Nat} {nodes : List α} {cache : Cache α} (done : closures next frames nodes = .ok cache)
    {node : α} (member : node ∈ nodes) :
    ∃ set, stored cache node = some set ∧ ∀ other, other ∈ set ↔ Leads next node other := by
  obtain ⟨sound, _, known⟩ := foldlM_sound (fun _ _ _ stepped => collect_sound stepped) done sound_nil
  obtain ⟨set, found⟩ := Option.isSome_iff_exists.mp (known node member)
  exact ⟨set, found, sound node set found⟩

/-- Nodes that start short paths only have their sets formed. -/
theorem collect_total {frames : Nat} {cache : Cache α} {node : α} (bounded : Bounded next frames node) :
    ∃ after, collect next frames cache node = .ok after := by
  induction frames generalizing cache node with
  | zero => exact bounded.elim
  | succ frames ih =>
    unfold collect
    by_cases known : (stored cache node).isSome = true
    · rw [if_pos known]
      exact ⟨_, rfl⟩
    · rw [if_neg known]
      have walked := @foldlM_total _ _ _ (collect next frames) (fun _ => True) (next node)
        (fun state child member _ => by
          obtain ⟨after, stepped⟩ := @ih state child (bounded child member)
          exact ⟨after, stepped, trivial⟩) cache trivial
      obtain ⟨after, walked, _⟩ := walked
      rw [walked]
      exact ⟨_, rfl⟩

theorem closures_total {frames : Nat} {nodes : List α} (bounded : ∀ node ∈ nodes, Bounded next frames node) :
    ∃ cache, closures next frames nodes = .ok cache := by
  obtain ⟨cache, done, _⟩ := @foldlM_total _ _ _ (collect next frames) (fun _ => True) nodes
    (fun state node member _ => by
      obtain ⟨after, stepped⟩ := @collect_total _ _ _ frames state node (bounded node member)
      exact ⟨after, stepped, trivial⟩) [] trivial
  exact ⟨cache, done⟩

/-- Nodes whose sets are all there already add nothing. -/
theorem foldlM_stored {frames : Nat} {cache : Cache α} {nodes : List α}
    (known : ∀ node ∈ nodes, (stored cache node).isSome = true) :
    nodes.foldlM (collect next (frames + 1)) cache = .ok cache := by
  induction nodes with
  | nil => rfl
  | cons node nodes ih =>
    have here : collect next (frames + 1) cache node = .ok cache := by
      unfold collect
      rw [if_pos (known node List.mem_cons_self)]
    rw [List.foldlM_cons, here]
    exact ih fun other member => known other (List.mem_cons_of_mem _ member)

/-- Taken after all that they lead to, nodes have their sets formed without nested calls, however long the paths are. -/
theorem closures_causal {frames : Nat} {nodes : List α} (causal : Topological.Causal next nodes) :
    ∃ cache, closures next (frames + 2) nodes = .ok cache := by
  have rest : ∀ later earlier cache, nodes = earlier ++ later → (∀ node ∈ earlier, (stored cache node).isSome = true) →
      ∃ after, later.foldlM (collect next (frames + 2)) cache = .ok after := by
    intro later
    induction later with
    | nil => exact fun _ cache _ _ => ⟨cache, rfl⟩
    | cons node later ih =>
      intro earlier cache split known
      have children := causal earlier node later split
      have whole : nodes = (earlier ++ [node]) ++ later := by
        rw [split, List.append_assoc]
        rfl
      have step : ∃ after, collect next (frames + 2) cache node = .ok after ∧ Grows cache after ∧
          (stored after node).isSome = true := by
        unfold collect
        by_cases there : (stored cache node).isSome = true
        · rw [if_pos there]
          exact ⟨cache, rfl, fun _ stored => stored, there⟩
        · rw [if_neg there, foldlM_stored fun child member => known child (children child member)]
          refine ⟨_, rfl, grows_cons, ?_⟩
          rw [stored_cons, if_pos rfl]
          rfl
      obtain ⟨after, done, grows, here⟩ := step
      rw [List.foldlM_cons, done]
      apply ih (earlier ++ [node]) after whole
      intro other member
      cases List.mem_append.mp member with
      | inl old => exact grows other (known other old)
      | inr new => exact List.mem_singleton.mp new ▸ here
  exact rest nodes [] [] rfl fun _ member => absurd member List.not_mem_nil

end Jiejian.Library.Closures
