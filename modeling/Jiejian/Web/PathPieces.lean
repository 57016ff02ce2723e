import Jiejian.Web.Faithfulness

namespace Jiejian.Web.PathPieces

open Library Library.Document Library.Outcome Errors JsonPaths Templates Rendering Faithfulness

/-- The pieces of the characters of a path. -/
def piecesOf (chars : List Char) : List Piece := scanPieces chars.length chars

theorem pieces_eq (path : String) : pieces path = piecesOf path.toList := by
  rw [pieces, piecesOf, String.length_toList]

theorem matchSlot_shorter {chars after : List Char} {slotId : String} (found : matchSlot chars = some (slotId, after)) :
    after.length < chars.length := by
  rw [matchSlot_eq_some found]
  simp only [List.length_cons, List.length_append]
  omega

/-- More fuel than characters changes nothing. -/
theorem scanPieces_fuel {fuel : Nat} {chars : List Char} (enough : chars.length ≤ fuel) :
    scanPieces fuel chars = piecesOf chars := by
  suffices same : ∀ bound (chars : List Char), chars.length ≤ bound → ∀ first second, chars.length ≤ first →
      chars.length ≤ second → scanPieces first chars = scanPieces second chars from
    same _ chars (Nat.le_refl _) fuel chars.length enough (Nat.le_refl _)
  intro bound
  induction bound with
  | zero =>
    intro chars small first second _ _
    have none' : chars = [] := List.eq_nil_of_length_eq_zero (by omega)
    rw [none']
    cases first <;> cases second <;> rfl
  | succ bound ih =>
    intro chars small first second one two
    cases chars with
    | nil => cases first <;> cases second <;> rfl
    | cons char rest =>
      rw [List.length_cons] at small one two
      cases first with
      | zero => omega
      | succ first =>
        cases second with
        | zero => omega
        | succ second =>
          rw [scanPieces, scanPieces]
          cases found : matchSlot (char :: rest) with
          | none =>
            dsimp only
            rw [ih rest (by omega) first second (by omega) (by omega)]
          | some matched =>
            obtain ⟨slotId, after⟩ := matched
            have shorter := matchSlot_shorter found
            rw [List.length_cons] at shorter
            dsimp only
            rw [ih after (by omega) first second (by omega) (by omega)]

theorem piecesOf_cons (char : Char) (rest : List Char) : piecesOf (char :: rest) =
    match matchSlot (char :: rest) with
    | some (slotId, after) => .slot slotId :: piecesOf after
    | none => .char char :: piecesOf rest := by
  rw [piecesOf, List.length_cons, scanPieces]
  cases found : matchSlot (char :: rest) with
  | none => rfl
  | some matched =>
    obtain ⟨slotId, after⟩ := matched
    have shorter := matchSlot_shorter found
    rw [List.length_cons] at shorter
    dsimp only
    rw [scanPieces_fuel (by omega)]

theorem spanUpTo_before {accepts : Char → Bool} {stop : Char} (stops : accepts stop = false) (limit : Nat)
    (front back : List Char) : spanUpTo accepts limit (front ++ stop :: back) =
      ((spanUpTo accepts limit front).1, (spanUpTo accepts limit front).2 ++ stop :: back) := by
  induction limit generalizing front with
  | zero => rfl
  | succ limit ih =>
    cases front with
    | nil => simp [spanUpTo, stops]
    | cons char front =>
      rw [List.cons_append, spanUpTo, spanUpTo, ih front]
      cases accepts char <;> rfl

/-- No reference to a slot reaches beyond an opening brace that follows it. -/
theorem matchSlot_before (char : Char) (front back : List Char) :
    matchSlot (char :: (front ++ '\x7b' :: back)) =
      (matchSlot (char :: front)).map fun found => (found.1, found.2 ++ '\x7b' :: back) := by
  by_cases opens : char = '\x7b'
  · rw [opens]
    cases front with
    | nil =>
      simp only [List.nil_append, matchSlot, Option.map_none]
      split
      · rfl
      · rfl
    | cons first rest =>
      simp only [List.cons_append, matchSlot]
      rw [spanUpTo_before (by decide)]
      cases spanned : spanUpTo idChar 63 rest with
      | mk name after =>
        cases after with
        | nil => rfl
        | cons next after =>
          by_cases closes : next = '\x7d'
          · rw [closes]
            dsimp only [List.cons_append]
            cases first.isAlpha <;> rfl
          · simp [closes]
  · have none' : ∀ rest, matchSlot (char :: rest) = none := by
      intro rest
      unfold matchSlot
      split
      · rename_i same
        exact absurd (List.cons.inj same).1 opens
      · rfl
    rw [none', none']
    rfl

/-- What is before an opening brace is read by itself. -/
theorem piecesOf_before (front back : List Char) :
    piecesOf (front ++ '\x7b' :: back) = piecesOf front ++ piecesOf ('\x7b' :: back) := by
  suffices split : ∀ bound (front : List Char), front.length ≤ bound →
      piecesOf (front ++ '\x7b' :: back) = piecesOf front ++ piecesOf ('\x7b' :: back) from
    split _ front (Nat.le_refl _)
  intro bound
  induction bound with
  | zero =>
    intro front small
    rw [List.eq_nil_of_length_eq_zero (by omega : front.length = 0)]
    rfl
  | succ bound ih =>
    intro front small
    cases front with
    | nil => rfl
    | cons char front =>
      rw [List.length_cons] at small
      rw [List.cons_append, piecesOf_cons, matchSlot_before, piecesOf_cons char front]
      cases found : matchSlot (char :: front) with
      | none =>
        dsimp only [Option.map_none]
        rw [ih front (by omega)]
        rfl
      | some matched =>
        obtain ⟨slotId, after⟩ := matched
        have shorter := matchSlot_shorter found
        rw [List.length_cons] at shorter
        dsimp only [Option.map_some]
        rw [ih after (by omega)]
        rfl

theorem piecesOf_slot {slotId : String} {back : List Char}
    (found : matchSlot ('\x7b' :: (slotId.toList ++ '\x7d' :: back)) = some (slotId, back)) (front : List Char) :
    piecesOf (front ++ '\x7b' :: (slotId.toList ++ '\x7d' :: back)) = piecesOf front ++ .slot slotId :: piecesOf back := by
  rw [piecesOf_before, piecesOf_cons, found]

theorem piecesOf_written (chars : List Char) : (piecesOf chars).flatMap writtenPiece = chars :=
  scanPieces_written (Nat.le_refl _)

/-- Characters without a reference are kept one by one. -/
theorem piecesOf_plain {chars : List Char} (plain : (piecesOf chars).filterMap Piece.slotId = []) :
    piecesOf chars = chars.map Piece.char := by
  have kept : ∀ piece ∈ piecesOf chars, ∃ char, piece = .char char := by
    intro piece member
    cases piece with
    | char char => exact ⟨char, rfl⟩
    | slot slotId =>
      have named : slotId ∈ (piecesOf chars).filterMap Piece.slotId := List.mem_filterMap.mpr ⟨_, member, rfl⟩
      rw [plain] at named
      cases named
  have spelled : ∀ pieces : List Piece, (∀ piece ∈ pieces, ∃ char, piece = .char char) →
      pieces = (pieces.flatMap writtenPiece).map Piece.char := by
    intro pieces
    induction pieces with
    | nil => exact fun _ => rfl
    | cons piece pieces ih =>
      intro each
      obtain ⟨char, same⟩ := each piece List.mem_cons_self
      rw [List.flatMap_cons, List.map_append, ← ih fun other member => each other (List.mem_cons_of_mem _ member), same]
      rfl
  have same := spelled _ kept
  rw [piecesOf_written] at same
  exact same

variable {values : SlotValues}

theorem renderPieces_chars (chars : List Char) :
    (chars.map Piece.char).mapM (renderPiece values) = .ok (chars.map fun char => [char]) := by
  induction chars with
  | nil => rfl
  | cons char chars ih =>
    rw [List.map_cons, List.mapM_cons, ih]
    rfl

theorem flatten_singletons (chars : List Char) : (chars.map fun char => [char]).flatten = chars := by
  induction chars with
  | nil => rfl
  | cons char chars ih => rw [List.map_cons, List.flatten_cons, ih, List.singleton_append]

/-- A path without references is sent as it is. -/
theorem renderPath_plain {path : List Char} (plain : (piecesOf path).filterMap Piece.slotId = []) :
    renderPath values (String.ofList path) = .ok (String.ofList path) := by
  unfold renderPath
  rw [pieces_eq, String.toList_ofList, piecesOf_plain plain, renderPieces_chars]
  show Except.ok _ = _
  rw [flatten_singletons]

/-- A path with one reference is sent with the quoted value in its place. -/
theorem renderPath_slot {front back : List Char} {slotId text : String} {value : Json}
    (found : matchSlot ('\x7b' :: (slotId.toList ++ '\x7d' :: back)) = some (slotId, back))
    (plainFront : (piecesOf front).filterMap Piece.slotId = []) (plainBack : (piecesOf back).filterMap Piece.slotId = [])
    (given : values slotId = some value) (written : boundedSlotValue value = .ok text) :
    renderPath values (String.ofList (front ++ '\x7b' :: (slotId.toList ++ '\x7d' :: back))) =
      .ok (String.ofList (front ++ quote text ++ back)) := by
  unfold renderPath
  rw [pieces_eq, String.toList_ofList, piecesOf_slot found, piecesOf_plain plainFront, piecesOf_plain plainBack,
    List.mapM_append, List.mapM_cons, renderPieces_chars, renderPieces_chars]
  have piece : renderPiece values (.slot slotId) = .ok (quote text) := by
    rw [renderPiece, given]
    exact bind_eq_ok.mpr ⟨_, rfl, bind_eq_ok.mpr ⟨text, written, rfl⟩⟩
  rw [piece]
  show Except.ok _ = _
  rw [List.flatten_append, List.flatten_cons, flatten_singletons, flatten_singletons, List.append_assoc]

end Jiejian.Web.PathPieces
