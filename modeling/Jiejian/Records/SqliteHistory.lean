import Jiejian.Library.Sizes
import Jiejian.Records.SqliteViews

namespace Jiejian.Records.SqliteHistory

open Library Library.Document Library.Sorting Library.Grouping
open Models Collections SqliteCapture SqliteSource SqliteViews

section Statements

variable {table transactionId key : String} {requestNonce : Option String} {state : Capture}

theorem present_iff : Present state key ↔ key ∈ state.objects.map ObjectRow.resourceId := by
  unfold Present objectOf
  cases found : Table.lookup ObjectRow.resourceId state.objects key with
  | none =>
    have absent := Table.lookup_none.mp found
    simp only [Option.isSome_none, Bool.false_eq_true, List.mem_map, false_iff, not_exists, not_and]
    exact absent
  | some row =>
    obtain ⟨stored, same⟩ := Table.lookup_some found
    simp only [Option.isSome_some, true_iff]
    exact List.mem_map.mpr ⟨row, stored, same⟩

/-- What the rows that one transaction adds to an object's history tell of the object. -/
structure Told (before after : Capture) (key transactionId : String) (told : List JournalRow) : Prop where
  named : ∀ row ∈ told, row.transactionId = transactionId
  numbered : ∀ row ∈ told, before.journal.length < row.seq ∧ row.seq ≤ after.journal.length
  grown : before.journal.length ≤ after.journal.length
  unchanged : told = [] → (Present after key ↔ Present before key)
  found : ∀ first, told.head? = some first → (first.beforeData.isSome ↔ Present before key)
  left : ∀ last, told.getLast? = some last → (last.afterData.isSome ↔ Present after key)

/-- The rows of a transaction about an object are written one after the other. -/
theorem Told.append {before middle after : Capture} {first second : List JournalRow}
    (earlier : Told before middle key transactionId first) (later : Told middle after key transactionId second) :
    Told before after key transactionId (first ++ second) where
  named row member := by
    rcases List.mem_append.mp member with inFirst | inSecond
    · exact earlier.named row inFirst
    · exact later.named row inSecond
  numbered row member := by
    have early := earlier.grown
    have late := later.grown
    rcases List.mem_append.mp member with inFirst | inSecond
    · have bounds := earlier.numbered row inFirst
      omega
    · have bounds := later.numbered row inSecond
      omega
  grown := Nat.le_trans earlier.grown later.grown
  unchanged none := by
    obtain ⟨noFirst, noSecond⟩ := List.append_eq_nil_iff.mp none
    exact (later.unchanged noSecond).trans (earlier.unchanged noFirst)
  found row heads := by
    cases first with
    | nil => exact (later.found row heads).trans (earlier.unchanged rfl)
    | cons head rest => exact earlier.found row heads
  left row lasts := by
    by_cases none : second = []
    · subst none
      rw [List.append_nil] at lasts
      exact (earlier.left row lasts).trans (later.unchanged rfl).symm
    · rw [List.getLast?_append_of_ne_nil _ none] at lasts
      exact later.left row lasts

theorem Told.nil (state : Capture) (key transactionId : String) : Told state state key transactionId [] where
  named row member := by cases member
  numbered row member := by cases member
  grown := Nat.le_refl _
  unchanged _ := Iff.rfl
  found row heads := by cases heads
  left row lasts := by cases lasts

theorem history_append {row : JournalRow} {next : Capture}
    (written : next.journal = state.journal ++ [row]) :
    history table next key = history table state key ++
      if row.tableName = table ∧ row.resourceId = key then [row] else [] := by
  unfold history tableRows
  rw [written, List.filter_append, List.filter_append]
  congr 1
  by_cases here : row.tableName = table
  · by_cases about : row.resourceId = key <;> simp [here, about]
  · simp [here]

/-- A row that tells of the object tells whether it was there, and a row that does not leaves it. -/
theorem told_of_row {next : Capture} {row : JournalRow} (written : next.journal = state.journal ++ [row])
    (named : row.transactionId = transactionId) (numbered : row.seq = state.journal.length + 1)
    (about : row.tableName = table → row.resourceId = key →
      (row.beforeData.isSome ↔ Present state key) ∧ (row.afterData.isSome ↔ Present next key))
    (apart : ¬ (row.tableName = table ∧ row.resourceId = key) → (Present next key ↔ Present state key)) :
    ∃ told, history table next key = history table state key ++ told ∧ Told state next key transactionId told := by
  have grown : next.journal.length = state.journal.length + 1 := by
    rw [written, List.length_append, List.length_singleton]
  refine ⟨_, history_append written, ?_⟩
  by_cases tells : row.tableName = table ∧ row.resourceId = key
  · obtain ⟨before, after⟩ := about tells.1 tells.2
    rw [if_pos tells]
    refine ⟨?_, ?_, by omega, ?_, ?_, ?_⟩
    · intro other member
      rw [List.mem_singleton.mp member]
      exact named
    · intro other member
      rw [List.mem_singleton.mp member]
      omega
    · intro none
      cases none
    · intro first heads
      cases heads
      exact before
    · intro last lasts
      cases lasts
      exact after
  · rw [if_neg tells]
    refine ⟨?_, ?_, by omega, fun _ => apart tells, ?_, ?_⟩
    · intro other member
      cases member
    · intro other member
      cases member
    · intro first heads
      cases heads
    · intro last lasts
      cases lasts

theorem told_of_same (key : String) :
    ∃ told, history table state key = history table state key ++ told ∧ Told state state key transactionId told :=
  ⟨[], (List.append_nil _).symm, Told.nil state key transactionId⟩

/-- One statement that keeps the ids in place. -/
theorem execute_told {statement : Statement}
    (inPlace : ∀ resourceId row, statement = .update resourceId row → row.resourceId = resourceId) (key : String) :
    ∃ told, history table (execute table transactionId requestNonce state statement) key =
        history table state key ++ told ∧
      Told state (execute table transactionId requestNonce state statement) key transactionId told := by
  cases statement with
  | insert row =>
    unfold execute
    dsimp only
    cases found : objectOf state row.resourceId with
    | some old => exact told_of_same key
    | none =>
      have absent : ¬ Present state row.resourceId := by
        rw [Present, found]
        decide
      refine told_of_row rfl rfl rfl ?_ ?_
      · rintro - rfl
        refine ⟨iff_of_false Bool.false_ne_true absent, iff_of_true rfl ?_⟩
        rw [present_iff, List.map_append]
        exact List.mem_append_right _ (List.mem_singleton_self _)
      · intro apart
        have other : key ≠ row.resourceId := fun same => apart ⟨rfl, same.symm⟩
        rw [present_iff, present_iff]
        simp [other]
  | update resourceId row =>
    have same : row.resourceId = resourceId := inPlace resourceId row rfl
    subst same
    unfold execute
    dsimp only
    cases found : objectOf state row.resourceId with
    | none => exact told_of_same key
    | some old =>
      have present : Present state row.resourceId := by
        rw [Present, found]
        rfl
      have keys : ∀ key, key ∈ (state.objects.map fun other => if other.resourceId = row.resourceId then row else other).map
          ObjectRow.resourceId ↔ key ∈ state.objects.map ObjectRow.resourceId := by
        intro key
        rw [← Table.replace_keys ObjectRow.resourceId state.objects row]
        rfl
      dsimp only
      rw [if_neg fun both => both.1 rfl]
      refine told_of_row rfl rfl rfl ?_ ?_
      · rintro - rfl
        refine ⟨iff_of_true rfl present, iff_of_true rfl ?_⟩
        rw [present_iff]
        exact (keys _).mpr (present_iff.mp present)
      · intro _
        rw [present_iff, present_iff]
        exact keys key
  | delete resourceId =>
    unfold execute
    dsimp only
    cases found : objectOf state resourceId with
    | none => exact told_of_same key
    | some old =>
      have present : Present state resourceId := by
        rw [Present, found]
        rfl
      have named : old.resourceId = resourceId := (Table.lookup_some found).2
      refine told_of_row rfl rfl rfl ?_ ?_
      · rintro - same
        have itself : resourceId = key := named.symm.trans same
        subst itself
        refine ⟨iff_of_true rfl present, iff_of_false Bool.false_ne_true ?_⟩
        rw [present_iff]
        simp
      · intro apart
        have other : key ≠ resourceId := fun same => apart ⟨rfl, named.trans same.symm⟩
        rw [present_iff, present_iff]
        simp only [List.mem_map, List.mem_filter, decide_eq_true_eq]
        constructor
        · rintro ⟨row, ⟨stored, -⟩, same⟩
          exact ⟨row, stored, same⟩
        · rintro ⟨row, stored, same⟩
          exact ⟨row, ⟨stored, same ▸ other⟩, same⟩
  | elsewhere entry =>
    unfold execute
    dsimp only
    by_cases here : entry.tableName = table
    · rw [if_pos here]
      exact told_of_same key
    · rw [if_neg here]
      refine told_of_row rfl rfl rfl ?_ fun _ => Iff.rfl
      intro same
      exact absurd same here

/-- A committed transaction that keeps the ids in place. -/
theorem commit_told {made : Transaction} (inPlace : InPlace made) (state : Capture) (key : String) :
    ∃ told, history table (commit table state made) key = history table state key ++ told ∧
      Told state (commit table state made) key made.transactionId told := by
  obtain ⟨transactionId, statements⟩ := made
  unfold commit
  dsimp only
  induction statements generalizing state with
  | nil => exact told_of_same key
  | cons statement statements ih =>
    obtain ⟨first, rows, told⟩ := @execute_told table transactionId statement.1 state statement.2
      (inPlace statement List.mem_cons_self) key
    obtain ⟨second, rows', told'⟩ := ih (execute table transactionId statement.1 state statement.2)
      fun other member => inPlace other (List.mem_cons_of_mem _ member)
    refine ⟨first ++ second, ?_, told.append told'⟩
    rw [List.foldl_cons, rows', rows, List.append_assoc]

end Statements

section Runs

variable {table generation : String} {objects : List ObjectRow}

/-- The state after a history that started from a prepared copy. -/
def after (table generation : String) (objects : List ObjectRow) (made : List Transaction) : Capture :=
  runCapture table (prepared generation objects) made

/-- Transactions that draw their own ids, none of which gives an object another id. -/
structure Ordinary (made : List Transaction) : Prop where
  drawn : (made.map Transaction.transactionId).Nodup
  inPlace : ∀ transaction ∈ made, InPlace transaction

theorem Ordinary.earlier {first second : List Transaction} (ordinary : Ordinary (first ++ second)) : Ordinary first where
  drawn := by
    have drawn := ordinary.drawn
    rw [List.map_append] at drawn
    exact (List.nodup_append.mp drawn).1
  inPlace transaction member := ordinary.inPlace transaction (List.mem_append_left _ member)

theorem after_snoc (made : List Transaction) (last : Transaction) :
    after table generation objects (made ++ [last]) = commit table (after table generation objects made) last :=
  Transition.run_snoc _ _ _ _

/-- The history of an object names transactions that were made. -/
theorem history_named {made : List Transaction} (ordinary : Ordinary made) (key : String) :
    ∀ row ∈ history table (after table generation objects made) key,
      row.transactionId ∈ made.map Transaction.transactionId := by
  induction made using List.reverseRecOn with
  | nil =>
    intro row member
    cases member
  | append_singleton made last ih =>
    intro row member
    obtain ⟨told, rows, tells⟩ := @commit_told table last (ordinary.inPlace last (by simp))
      (after table generation objects made) key
    rw [after_snoc, rows] at member
    rw [List.map_append, List.mem_append]
    rcases List.mem_append.mp member with before | new
    · exact .inl (ih ordinary.earlier row before)
    · rw [tells.named row new]
      exact .inr (List.mem_singleton_self _)

/-- The last transaction adds one change to the history of an object, or none. -/
theorem groups_snoc {made : List Transaction} {last : Transaction} (ordinary : Ordinary (made ++ [last])) (key : String) :
    ∃ told, Told (after table generation objects made) (after table generation objects (made ++ [last])) key
        last.transactionId told ∧
      historyGroups table (after table generation objects (made ++ [last])) key =
        historyGroups table (after table generation objects made) key ++
          if told.isEmpty then [] else [(last.transactionId, told)] := by
  obtain ⟨told, rows, tells⟩ := @commit_told table last (ordinary.inPlace last (by simp))
    (after table generation objects made) key
  rw [← after_snoc] at rows tells
  refine ⟨told, tells, ?_⟩
  have apart : ∀ row ∈ told, row.transactionId ∉
      (history table (after table generation objects made) key).map JournalRow.transactionId := by
    intro row member listed
    obtain ⟨other, inside, same⟩ := List.mem_map.mp listed
    have drawn := ordinary.drawn
    rw [List.map_append, List.nodup_append] at drawn
    have named := history_named ordinary.earlier key other inside
    rw [same, tells.named row member] at named
    exact drawn.2.2 _ named _ (List.mem_singleton_self _) rfl
  rw [historyGroups, rows, groupBy_append apart, groupBy_uniform tells.named]
  rfl

/-- The object has been in the table all along. -/
def AllAlong (table generation : String) (objects : List ObjectRow) (made : List Transaction) (key : String) : Prop :=
  ∀ earlier, earlier <+: made → Present (after table generation objects earlier) key

theorem allAlong_snoc {made : List Transaction} {last : Transaction} {key : String} :
    AllAlong table generation objects (made ++ [last]) key ↔
      AllAlong table generation objects made key ∧ Present (after table generation objects (made ++ [last])) key := by
  constructor
  · intro along
    exact ⟨fun earlier before => along earlier (before.trans (List.prefix_append _ _)), along _ (List.prefix_refl _)⟩
  · rintro ⟨along, present⟩ earlier before
    rcases List.prefix_concat_iff.mp before with whole | inside
    · rw [whole]
      exact present
    · exact along earlier inside

section Told

variable {before next : Capture} {key transactionId : String} {told : List JournalRow}

theorem updates_iff (tells : Told before next key transactionId told) (some' : told ≠ []) :
    updates told = true ↔ Present before key ∧ Present next key := by
  have heads := List.head?_eq_some_head some'
  have lasts := List.getLast?_eq_some_getLast some'
  unfold updates
  rw [heads, lasts, ← tells.found _ heads, ← tells.left _ lasts]
  exact Bool.and_eq_true_iff

theorem creates_iff (tells : Told before next key transactionId told) (some' : told ≠ []) :
    creates told = true ↔ ¬ Present before key ∧ Present next key := by
  have heads := List.head?_eq_some_head some'
  have lasts := List.getLast?_eq_some_getLast some'
  unfold creates
  rw [heads, lasts, ← tells.found _ heads, ← tells.left _ lasts]
  simp

end Told

/-- Every change of a present object updated it, as long as it has been there all along, and not otherwise. -/
theorem updated_iff_allAlong {made : List Transaction} (ordinary : Ordinary made) {key : String}
    (present : Present (after table generation objects made) key) :
    (∀ group ∈ historyGroups table (after table generation objects made) key, updates group.2) ↔
      AllAlong table generation objects made key := by
  induction made using List.reverseRecOn with
  | nil =>
    constructor
    · intro _ earlier before
      rw [List.prefix_nil.mp before]
      exact present
    · intro _ group member
      cases member
  | append_singleton made last ih =>
    obtain ⟨told, tells, groups⟩ := @groups_snoc table generation objects made last ordinary key
    rw [groups, allAlong_snoc]
    cases told with
    | nil =>
      have before := (tells.unchanged rfl).mp present
      simp only [List.isEmpty_nil, if_true, List.append_nil, ih ordinary.earlier before, present, and_true]
    | cons first rest =>
      have updated := updates_iff tells (List.cons_ne_nil first rest)
      constructor
      · intro all
        have before := (updated.mp (all (last.transactionId, first :: rest) (by simp))).1
        refine ⟨(ih ordinary.earlier before).mp fun group member => ?_, present⟩
        exact all group (List.mem_append_left _ member)
      · rintro ⟨along, -⟩ group member
        have before : Present (after table generation objects made) key := along made (List.prefix_refl made)
        rcases List.mem_append.mp member with earlier | new
        · exact (ih ordinary.earlier before).mpr along group earlier
        · have here : group = (last.transactionId, first :: rest) := by simpa using new
          rw [here]
          exact updated.mpr ⟨before, present⟩

/-- What the walk remembers of an object's incarnation. -/
def incarnationOf (table : String) (state : Capture) (key : String) : Option String :=
  ((historyGroups table state key).map Prod.snd).foldl incarnationAfter none

theorem incarnation_snoc {made : List Transaction} {last : Transaction} (ordinary : Ordinary (made ++ [last]))
    {key : String} (present : Present (after table generation objects (made ++ [last])) key) :
    (Present (after table generation objects made) key →
        incarnationOf table (after table generation objects (made ++ [last])) key =
          incarnationOf table (after table generation objects made) key) ∧
      (¬ Present (after table generation objects made) key →
        ∃ seq, incarnationOf table (after table generation objects (made ++ [last])) key =
            some (createdIncarnation seq) ∧
          (after table generation objects made).journal.length < seq ∧
          seq ≤ (after table generation objects (made ++ [last])).journal.length) := by
  obtain ⟨told, tells, groups⟩ := @groups_snoc table generation objects made last ordinary key
  cases told with
  | nil =>
    have same := tells.unchanged rfl
    refine ⟨fun _ => ?_, fun absent => absurd (same.mp present) absent⟩
    rw [incarnationOf, groups]
    simp [incarnationOf]
  | cons first rest =>
    have created := creates_iff tells (List.cons_ne_nil first rest)
    have stepped : incarnationOf table (after table generation objects (made ++ [last])) key =
        incarnationAfter (incarnationOf table (after table generation objects made) key) (first :: rest) := by
      rw [incarnationOf, groups, List.map_append, List.foldl_append]
      rfl
    rw [stepped, incarnationAfter]
    constructor
    · intro before
      rw [if_neg fun creates => (created.mp creates).1 before]
    · intro absent
      rw [if_pos (created.mpr ⟨absent, present⟩)]
      exact ⟨first.seq, rfl, tells.numbered first List.mem_cons_self⟩

/-- An incarnation that the walk remembers was drawn from the journal. -/
theorem incarnation_drawn {made : List Transaction} (ordinary : Ordinary made) (key incarnation : String)
    (remembered : incarnationOf table (after table generation objects made) key = some incarnation) :
    ∃ seq, incarnation = createdIncarnation seq ∧ seq ≤ (after table generation objects made).journal.length := by
  induction made using List.reverseRecOn with
  | nil => cases remembered
  | append_singleton made last ih =>
    obtain ⟨told, tells, groups⟩ := @groups_snoc table generation objects made last ordinary key
    have grown := tells.grown
    have earlier : incarnationOf table (after table generation objects made) key = some incarnation →
        ∃ seq, incarnation = createdIncarnation seq ∧
          seq ≤ (after table generation objects (made ++ [last])).journal.length := by
      intro before
      obtain ⟨seq, drawn, bound⟩ := ih ordinary.earlier before
      exact ⟨seq, drawn, Nat.le_trans bound grown⟩
    unfold incarnationOf at remembered
    rw [groups] at remembered
    cases told with
    | nil =>
      rw [List.isEmpty_nil, if_pos rfl, List.append_nil] at remembered
      exact earlier remembered
    | cons first rest =>
      rw [List.map_append, List.foldl_append] at remembered
      by_cases created : creates (first :: rest) = true
      · have here : incarnation = createdIncarnation first.seq := by
          have drawn : some (createdIncarnation first.seq) = some incarnation := by
            simpa [incarnationAfter, created] using remembered
          exact (Option.some.inj drawn).symm
        exact ⟨first.seq, here, (tells.numbered first List.mem_cons_self).2⟩
      · apply earlier
        simpa [incarnationAfter, created, incarnationOf] using remembered

theorem journal_grown {first second : List Transaction} (ordinary : Ordinary (first ++ second)) :
    (after table generation objects first).journal.length ≤
      (after table generation objects (first ++ second)).journal.length := by
  induction second using List.reverseRecOn with
  | nil => rw [List.append_nil]
  | append_singleton second last ih =>
    rw [← List.append_assoc] at ordinary ⊢
    obtain ⟨told, tells, -⟩ := @groups_snoc table generation objects (first ++ second) last ordinary ""
    exact Nat.le_trans (ih ordinary.earlier) tells.grown

/-- An object that never left the table keeps its incarnation, and one that did and came back has a later one. -/
theorem incarnation_along {first second : List Transaction} (ordinary : Ordinary (first ++ second)) {key : String}
    (ended : Present (after table generation objects (first ++ second)) key) :
    ((∀ earlier, earlier <+: second → Present (after table generation objects (first ++ earlier)) key) →
        incarnationOf table (after table generation objects (first ++ second)) key =
          incarnationOf table (after table generation objects first) key) ∧
      ((∃ earlier, earlier <+: second ∧ ¬ Present (after table generation objects (first ++ earlier)) key) →
        ∃ seq, incarnationOf table (after table generation objects (first ++ second)) key =
            some (createdIncarnation seq) ∧ (after table generation objects first).journal.length < seq) := by
  induction second using List.reverseRecOn with
  | nil =>
    refine ⟨fun _ => by rw [List.append_nil], ?_⟩
    rintro ⟨earlier, before, absent⟩
    rw [List.prefix_nil.mp before] at absent
    exact absurd ended absent
  | append_singleton second last ih =>
    rw [← List.append_assoc] at ordinary ended ⊢
    obtain ⟨kept, renewed⟩ := incarnation_snoc ordinary ended
    have grown := @journal_grown table generation objects first second ordinary.earlier
    constructor
    · intro along
      have before := along second (List.prefix_append _ _)
      rw [kept before]
      exact (ih ordinary.earlier before).1 fun earlier inside => along earlier (inside.trans (List.prefix_append _ _))
    · rintro ⟨earlier, inside, absent⟩
      by_cases before : Present (after table generation objects (first ++ second)) key
      · rw [kept before]
        apply (ih ordinary.earlier before).2
        rcases List.prefix_concat_iff.mp inside with whole | within
        · rw [whole, ← List.append_assoc] at absent
          exact absurd ended absent
        · exact ⟨earlier, within, absent⟩
      · obtain ⟨seq, drawn, later, -⟩ := renewed before
        exact ⟨seq, drawn, by omega⟩

theorem seed_ne_created (reader : Reader) (key : String) (seq : Nat) :
    seedIncarnation reader table key ≠ createdIncarnation seq := by
  intro same
  have lists := congrArg String.toList same
  simp [seedIncarnation, createdIncarnation] at lists

/-- The incarnation of a member changes when the object left the table and came back, and only then. -/
theorem sqlite_incarnations {reader : Reader} {first second : List Transaction} (ordinary : Ordinary (first ++ second))
    {scope scope' : Option RecordRequestScope} {view view' : CreationView} {member member' : CreationMember}
    (read : readCollection reader table (after table generation objects first) scope = .ok view)
    (read' : readCollection reader table (after table generation objects (first ++ second)) scope' = .ok view')
    (listed : member ∈ view.members) (listed' : member' ∈ view'.members)
    (same : member'.resourceId = member.resourceId) :
    member'.incarnation ≠ member.incarnation ↔
      ∃ earlier, earlier <+: second ∧ ¬ Present (after table generation objects (first ++ earlier)) member.resourceId := by
  obtain ⟨-, -, -, members⟩ := readCollection_members read
  obtain ⟨-, -, -, members'⟩ := readCollection_members read'
  obtain ⟨row, -, made⟩ := (members member).mp listed
  obtain ⟨row', stored', made'⟩ := (members' member').mp listed'
  have named : row.resourceId = member.resourceId := by rw [made, memberOf]
  have named' : row'.resourceId = member.resourceId := by
    rw [← same, made', memberOf]
  have incarnation : member.incarnation = (incarnationOf table (after table generation objects first)
      member.resourceId).getD (seedIncarnation reader table member.resourceId) := by
    conv_lhs => rw [made, memberOf, (@walkGroups_object reader table scope _ row.resourceId).2, named]
    rfl
  have incarnation' : member'.incarnation = (incarnationOf table (after table generation objects (first ++ second))
      member.resourceId).getD (seedIncarnation reader table member.resourceId) := by
    conv_lhs => rw [made', memberOf, (@walkGroups_object reader table scope' _ row'.resourceId).2, named']
    rfl
  have ended : Present (after table generation objects (first ++ second)) member.resourceId := by
    rw [present_iff, ← named']
    exact List.mem_map_of_mem stored'
  obtain ⟨kept, renewed⟩ := incarnation_along ordinary ended
  rw [incarnation, incarnation']
  constructor
  · intro changed
    by_contra along
    push Not at along
    exact changed (by rw [kept along])
  · intro left equal
    obtain ⟨seq, drawn, later⟩ := renewed left
    rw [drawn, Option.getD_some] at equal
    cases remembered : incarnationOf table (after table generation objects first) member.resourceId with
    | none =>
      rw [remembered, Option.getD_none] at equal
      exact seed_ne_created reader member.resourceId seq equal.symm
    | some old =>
      obtain ⟨number, itself, bound⟩ := incarnation_drawn ordinary.earlier member.resourceId old remembered
      rw [remembered, Option.getD_some, itself] at equal
      have numbers := Numerals.label_injective equal
      omega

end Runs

end Jiejian.Records.SqliteHistory
