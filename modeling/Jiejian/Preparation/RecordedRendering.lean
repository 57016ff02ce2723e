import Jiejian.Preparation.RecordedRequests
import Jiejian.Web.PathPieces

namespace Jiejian.Preparation.RecordedRendering

open Library Library.Document Library.Outcome Library.Placeholders Library.Substrings Library.Segments Errors
open Web.Templates Web.Rendering Web.PathPieces RecordedRequests

section Kept

theorem mem_kept {char : Char} {signs : List Char} (keeps : (unreserved char || char ∈ signs) = true) :
    char.isAlphanum = true ∨ char ∈ ['_', '.', '-', '~'] ++ signs := by
  rcases Bool.or_eq_true_iff.mp keeps with plain | sign
  · rcases Bool.or_eq_true_iff.mp plain with letter | other
    · exact .inl letter
    · exact .inr (List.mem_append_left _ (of_decide_eq_true other))
  · exact .inr (List.mem_append_right _ (of_decide_eq_true sign))

theorem plain_of_signs {signs : List Char}
    (ascii : (['_', '.', '-', '~'] ++ signs).all (fun char => char.toNat < 128 && char != '%') = true) :
    PercentEncoding.Plain fun char => unreserved char || char ∈ signs := by
  intro char keeps
  cases mem_kept keeps with
  | inl letter =>
    refine ⟨PercentEncoding.alphanum_ascii letter, fun same => ?_⟩
    rw [same] at letter
    revert letter
    decide
  | inr sign =>
    have both := Bool.and_eq_true_iff.mp (List.all_eq_true.mp ascii char sign)
    exact ⟨of_decide_eq_true both.1, bne_iff_ne.mp both.2⟩

theorem pathKept_plain : PercentEncoding.Plain pathKept := plain_of_signs (by decide)

theorem queryKept_formal : FormEncoding.Formal queryKept where
  plain := plain_of_signs (by decide)
  plus := by decide
  equals := by decide
  ampersand := by decide

theorem unreserved_plain : PercentEncoding.Plain unreserved := by
  have same : unreserved = fun char => unreserved char || char ∈ ([] : List Char) := by
    funext char
    simp
  rw [same]
  exact plain_of_signs (by decide)

/-- The adapter quotes a value as the library does. -/
theorem quote_unreserved (text : String) : quote text = PercentEncoding.quote unreserved text.toList := rfl

theorem quote_marker : PercentEncoding.quote pathKept marker.toList = marker.toList := by decide

theorem marker_unescaped {char : Char} (member : char ∈ '\x7b' :: marker.toList.tail) : char ≠ '%' := by
  have clean : ('\x7b' :: marker.toList.tail).all (· != '%') = true := by decide
  exact bne_iff_ne.mp (List.all_eq_true.mp clean char member)

theorem quote_append {kept : Char → Bool} (front back : List Char) :
    PercentEncoding.quote kept (front ++ back) = PercentEncoding.quote kept front ++ PercentEncoding.quote kept back :=
  List.flatMap_append

theorem marker_quoted {text : List Char} (inside : marker.toList <:+: text) :
    marker.toList <:+: PercentEncoding.quote pathKept text := by
  obtain ⟨before, after, built⟩ := inside
  rw [← built, quote_append, quote_append, quote_marker]
  exact ⟨_, _, rfl⟩

end Kept

section Path

variable {resource segment : List Char} {segments : List (List Char)}

theorem placeSegment_closed (sign : Char) (dropped : pathKept sign = false) (escape : sign ≠ '%')
    (special : sign.isAlphanum = false) : sign ∉ placeSegment resource segment :=
  PercentEncoding.not_mem_quote dropped escape special

theorem placeSegment_resource (nonempty : segment ≠ []) (same : segment = resource) :
    placeSegment resource segment = marker.toList := by
  unfold placeSegment
  rw [if_pos ⟨nonempty, same⟩, quote_marker]

theorem placeSegment_other (other : ¬(segment ≠ [] ∧ segment = resource)) :
    placeSegment resource segment = PercentEncoding.quote pathKept segment := by
  unfold placeSegment
  rw [if_neg other]

theorem marker_infix_self : marker.toList <:+: marker.toList := List.infix_rfl

/-- A segment that is written without the marker is read back, and has no marker of its own. -/
theorem unmarked_segment (unmarked : ¬marker.toList <:+: placeSegment resource segment) :
    PercentEncoding.unquote (placeSegment resource segment) = segment ∧ ¬marker.toList <:+: segment := by
  by_cases here : segment ≠ [] ∧ segment = resource
  · rw [placeSegment_resource here.1 here.2] at unmarked
    exact absurd marker_infix_self unmarked
  · rw [placeSegment_other here] at unmarked ⊢
    exact ⟨PercentEncoding.unquote_quote pathKept_plain segment, fun inside => unmarked (marker_quoted inside)⟩

theorem unmarked_segments (unmarked : ∀ segment ∈ segments, ¬marker.toList <:+: placeSegment resource segment) :
    segments.map (fun segment => PercentEncoding.unquote (placeSegment resource segment)) = segments :=
  (List.map_congr_left fun segment member => (unmarked_segment (unmarked segment member)).1).trans (List.map_id _)

theorem placePath_segments (some' : segments ≠ []) :
    (placePath resource segments).splitOn '/' = segments.map (placeSegment resource) := by
  refine List.splitOn_intercalate '/' ?_ (by simp [some'])
  intro written listed
  obtain ⟨segment, _, built⟩ := List.mem_map.mp listed
  exact built ▸ placeSegment_closed '/' (by decide) (by decide) (by decide)

/-- No segment but the resource itself has the marker in it, unless the marker is the resource. -/
def PlainPath (resource : List Char) (segments : List (List Char)) : Prop :=
  resource = marker.toList ∨ ∀ segment ∈ segments, segment ≠ resource → ¬marker.toList <:+: segment

theorem middle_segment {last first : List Char} (written : placeSegment resource segment = last ++ marker.toList ++ first) :
    PercentEncoding.unquote (last ++ PercentEncoding.quote unreserved resource ++ first) = segment ↔
      resource = marker.toList ∨ segment = resource := by
  by_cases here : segment ≠ [] ∧ segment = resource
  · rw [placeSegment_resource here.1 here.2] at written
    have lengths := congrArg List.length written
    rw [List.length_append, List.length_append] at lengths
    have noLast : last = [] := List.eq_nil_of_length_eq_zero (by omega)
    have noFirst : first = [] := List.eq_nil_of_length_eq_zero (by omega)
    rw [noLast, noFirst, List.nil_append, List.append_nil, PercentEncoding.unquote_quote unreserved_plain]
    exact ⟨fun _ => .inr here.2, fun _ => here.2.symm⟩
  · rw [placeSegment_other here, List.append_assoc] at written
    obtain ⟨before, after, shape, front, back⟩ :=
      @PercentEncoding.quote_infix pathKept '\x7b' marker.toList.tail last first segment (fun _ => marker_unescaped)
        (by decide) written
    have mark : '\x7b' :: marker.toList.tail = marker.toList := by decide
    rw [mark] at shape
    have read : PercentEncoding.unquote (last ++ PercentEncoding.quote unreserved resource ++ first) =
        before ++ resource ++ after := by
      refine PercentEncoding.unquote_writes ((PercentEncoding.Writes.append ?_ ?_).append ?_)
      · exact front ▸ PercentEncoding.writes_quote pathKept_plain before
      · exact PercentEncoding.writes_quote unreserved_plain resource
      · exact back ▸ PercentEncoding.writes_quote pathKept_plain after
    have nonempty : segment ≠ [] := by
      intro empty
      rw [shape] at empty
      exact absurd (List.append_eq_nil_iff.mp (List.append_eq_nil_iff.mp empty).2).1 (by decide)
    have other : segment ≠ resource := fun same => here ⟨nonempty, same⟩
    rw [read, shape, List.append_assoc, List.append_right_inj, List.append_left_inj]
    refine ⟨.inl, fun either => either.elim id fun same => ?_⟩
    exact absurd (shape.trans same) other

theorem slotName_chars : (slotName 0).toList = ['r', 'e', 's', 'o', 'u', 'r', 'c', 'e', '_', '0'] := by decide

theorem matchSlot_slotName (back : List Char) :
    matchSlot ('\x7b' :: ((slotName 0).toList ++ '\x7d' :: back)) = some (slotName 0, back) := by
  have name : String.ofList ['r', 'e', 's', 'o', 'u', 'r', 'c', 'e', '_', '0'] = slotName 0 := by decide
  rw [slotName_chars, ← name]
  rfl

variable {values : SlotValues}

theorem bounded_text {text : String} (short : text.length ≤ slotMaxLength) : boundedSlotValue (.str text) = .ok text :=
  bind_eq_ok.mpr ⟨text, rfl, bind_eq_ok.mpr ⟨(), require_eq_ok.mpr short, rfl⟩⟩

/-- A path with the marker gets one slot, in its place. -/
theorem slotPath_marked {written path : List Char} {afterPath : Nat} (slotted : slotPath written = .ok (path, afterPath))
    (marked : marker.toList <:+: written) : afterPath = 1 ∧ ∃ before after, written = before ++ marker.toList ++ after ∧
      ¬marker.toList <:+: before ∧ ¬marker.toList <:+: after ∧
      path = before ++ '\x7b' :: ((slotName 0).toList ++ '\x7d' :: after) := by
  unfold slotPath at slotted
  rw [if_pos marked] at slotted
  by_cases once : count marker.toList written = 1
  · rw [if_pos once] at slotted
    obtain ⟨before, after, shape, noBefore, noAfter, replaced⟩ := count_one (by decide) once
      ('\x7b' :: ((slotName 0).toList ++ ['\x7d']))
    obtain ⟨path', counted⟩ := Prod.mk.inj (Except.ok.inj slotted)
    refine ⟨counted.symm, before, after, shape, noBefore, noAfter, ?_⟩
    rw [← path', replaced]
    simp
  · rw [if_neg once] at slotted
    cases slotted

theorem slotPath_unmarked {written path : List Char} {afterPath : Nat} (slotted : slotPath written = .ok (path, afterPath))
    (unmarked : ¬marker.toList <:+: written) : path = written ∧ afterPath = 0 := by
  unfold slotPath at slotted
  rw [if_neg unmarked] at slotted
  obtain ⟨path', counted⟩ := Prod.mk.inj (Except.ok.inj slotted)
  exact ⟨path'.symm, counted.symm⟩

/-- The one slot of a path has no other reference beside it. -/
theorem only_slot {before after : List Char}
    (only : ∀ slotId ∈ (piecesOf (before ++ '\x7b' :: ((slotName 0).toList ++ '\x7d' :: after))).filterMap Piece.slotId,
      slotId = slotName 0)
    (unique : ((piecesOf (before ++ '\x7b' :: ((slotName 0).toList ++ '\x7d' :: after))).filterMap Piece.slotId).Nodup) :
    (piecesOf before).filterMap Piece.slotId = [] ∧ (piecesOf after).filterMap Piece.slotId = [] := by
  have names : (piecesOf (before ++ '\x7b' :: ((slotName 0).toList ++ '\x7d' :: after))).filterMap Piece.slotId =
      (piecesOf before).filterMap Piece.slotId ++ slotName 0 :: (piecesOf after).filterMap Piece.slotId := by
    rw [piecesOf_slot (matchSlot_slotName after), List.filterMap_append]
    rfl
  rw [names] at only unique
  constructor
  · refine List.eq_nil_iff_forall_not_mem.mpr fun slotId member => ?_
    have same := only slotId (List.mem_append_left _ member)
    exact (List.nodup_append.mp unique).2.2 slotId member (slotName 0) List.mem_cons_self same
  · refine List.eq_nil_iff_forall_not_mem.mpr fun slotId member => ?_
    have same := only slotId (List.mem_append_right _ (List.mem_cons_of_mem _ member))
    exact (List.nodup_cons.mp (List.nodup_append.mp unique).2.1).1 (same ▸ member)

/-- The marker of a path lies in one segment; the segments before and after it are written without it. -/
theorem marked_segments {before after : List Char} (some' : segments ≠ [])
    (written : placePath resource segments = before ++ marker.toList ++ after)
    (noBefore : ¬marker.toList <:+: before) (noAfter : ¬marker.toList <:+: after) :
    ∃ front segment back last first, segments = front ++ segment :: back ∧
      placeSegment resource segment = last ++ marker.toList ++ first ∧
      (∀ other ∈ front, ¬marker.toList <:+: placeSegment resource other) ∧
      (∀ other ∈ back, ¬marker.toList <:+: placeSegment resource other) ∧
      ∀ inner : List Char, '/' ∉ inner → (before ++ inner ++ after).splitOn '/' =
        front.map (placeSegment resource) ++ (last ++ inner ++ first) :: back.map (placeSegment resource) := by
  obtain ⟨earlier, last, first, later, cutBefore, cutAfter, around⟩ := @splitOn_around Char _ '/' before after
  have cut := around marker.toList (by decide)
  rw [← written, placePath_segments some'] at cut
  obtain ⟨front, rest, shape, mappedFront, mappedRest⟩ := List.map_eq_append_iff.mp cut
  obtain ⟨segment, back, shape', here, mappedBack⟩ := List.map_eq_cons_iff.mp mappedRest
  refine ⟨front, segment, back, last, first, shape.trans (congrArg _ shape'), here, ?_, ?_, ?_⟩
  · intro other member inside
    have listed : placeSegment resource other ∈ before.splitOn '/' := by
      rw [cutBefore, ← mappedFront]
      exact List.mem_append_left _ (List.mem_map_of_mem member)
    exact noBefore (inside.trans (infix_of_mem_splitOn listed))
  · intro other member inside
    have listed : placeSegment resource other ∈ after.splitOn '/' := by
      rw [cutAfter, ← mappedBack]
      exact List.mem_cons_of_mem _ (List.mem_map_of_mem member)
    exact noAfter (inside.trans (infix_of_mem_splitOn listed))
  · intro inner closed
    rw [around inner closed, mappedFront, mappedBack]

/-- Only the segment of the marker decides whether a path is plain. -/
theorem plainPath_iff {front back : List (List Char)} {last first : List Char}
    (here : placeSegment resource segment = last ++ marker.toList ++ first)
    (unmarkedFront : ∀ other ∈ front, ¬marker.toList <:+: placeSegment resource other)
    (unmarkedBack : ∀ other ∈ back, ¬marker.toList <:+: placeSegment resource other) :
    PlainPath resource (front ++ segment :: back) ↔ resource = marker.toList ∨ segment = resource := by
  unfold PlainPath
  constructor
  · intro either
    refine either.imp_right fun plain => ?_
    by_contra differs
    refine plain segment (List.mem_append_right _ List.mem_cons_self) differs ?_
    rw [placeSegment_other fun both => differs both.2, List.append_assoc] at here
    obtain ⟨before, after, built, _⟩ :=
      @PercentEncoding.quote_infix pathKept '\x7b' marker.toList.tail last first segment (fun _ => marker_unescaped)
        (by decide) here
    exact ⟨before, after, by rw [built, List.append_assoc]; rfl⟩
  · intro either
    refine either.imp_right fun same other member differs => ?_
    rcases List.mem_append.mp member with inFront | inRest
    · exact (unmarked_segment (unmarkedFront other inFront)).2
    · rcases List.mem_cons.mp inRest with mid | inBack
      · exact absurd (mid.trans same) differs
      · exact (unmarked_segment (unmarkedBack other inBack)).2

/-- The path that is sent has the recorded segments exactly when the marker is none of their own text. -/
theorem path_reproduced {resource : String} {path : List Char} {afterPath : Nat} (some' : segments ≠ [])
    (slotted : slotPath (placePath resource.toList segments) = .ok (path, afterPath))
    (declared : ∀ slotId ∈ pathSlots (String.ofList path), slotId ∈ (List.range' 0 afterPath).map slotName)
    (unique : (pathSlots (String.ofList path)).Nodup)
    (given : ∀ index < afterPath, values (slotName index) = some (.str resource))
    (short : 0 < afterPath → resource.length ≤ slotMaxLength) :
    ∃ sent, renderPath values (String.ofList path) = .ok sent ∧
      (decodedSegments sent = segments ↔ PlainPath resource.toList segments) := by
  have pieces' : pathSlots (String.ofList path) = (piecesOf path).filterMap Piece.slotId := by
    rw [pathSlots, pieces_eq, String.toList_ofList]
  rw [pieces'] at declared unique
  by_cases marked : marker.toList <:+: placePath resource.toList segments
  · obtain ⟨counted, before, after, written, noBefore, noAfter, built⟩ := slotPath_marked slotted marked
    rw [counted] at declared
    rw [built] at declared unique
    have only := only_slot (fun slotId member => List.mem_singleton.mp (declared slotId member)) unique
    refine ⟨_, built ▸ renderPath_slot (matchSlot_slotName after) only.1 only.2 (given 0 (by omega))
      (bounded_text (short (by omega))), ?_⟩
    obtain ⟨front, segment, back, last, first, shape, here, unmarkedFront, unmarkedBack, around⟩ :=
      marked_segments some' written noBefore noAfter
    have closed : '/' ∉ PercentEncoding.quote unreserved resource.toList :=
      PercentEncoding.not_mem_quote (by decide) (by decide) (by decide)
    have sent : decodedSegments (String.ofList (before ++ quote resource ++ after)) =
        front ++ PercentEncoding.unquote (last ++ PercentEncoding.quote unreserved resource.toList ++ first) :: back := by
      unfold decodedSegments
      rw [String.toList_ofList, quote_unreserved, around _ closed, List.map_append, List.map_cons, List.map_map,
        List.map_map]
      congr 1
      · exact unmarked_segments unmarkedFront
      · exact congrArg _ (unmarked_segments unmarkedBack)
    rw [sent, shape, plainPath_iff here unmarkedFront unmarkedBack, List.append_right_inj, List.cons_eq_cons,
      and_iff_left rfl, middle_segment here]
  · obtain ⟨path', counted⟩ := slotPath_unmarked slotted marked
    have parts := @placePath_segments resource.toList segments some'
    have unmarked : ∀ segment ∈ segments, ¬marker.toList <:+: placeSegment resource.toList segment := by
      intro segment member inside
      have listed : placeSegment resource.toList segment ∈ (placePath resource.toList segments).splitOn '/' := by
        rw [parts]
        exact List.mem_map_of_mem member
      exact marked (inside.trans (infix_of_mem_splitOn listed))
    have plain : (piecesOf path).filterMap Piece.slotId = [] := by
      refine List.eq_nil_iff_forall_not_mem.mpr fun slotId member => ?_
      have listed := declared slotId member
      rw [counted] at listed
      cases listed
    refine ⟨_, renderPath_plain plain, ?_⟩
    have sent : decodedSegments (String.ofList path) = segments := by
      unfold decodedSegments
      rw [String.toList_ofList, path', parts, List.map_map]
      exact unmarked_segments unmarked
    exact iff_of_true sent (.inr fun segment member _ => (unmarked_segment (unmarked segment member)).2)

end Path

section Query

variable {values : SlotValues} {patterns : Patterns} {resource : String}

/-- The value that is sent for a parameter of the template. -/
def sentValue (resource : String) (pair : List Char × List Char) : String × String :=
  (String.ofList pair.1, if pair.2 = marker.toList then resource else String.ofList pair.2)

theorem literal_short {item : HttpParameter} {text : String} (valid : item.validate patterns = .ok ())
    (literal : item.value = .literal text) : text.length ≤ slotMaxLength := by
  obtain ⟨_, _, valid⟩ := bind_eq_ok.mp valid
  rw [literal] at valid
  have bounded : text.length ≤ literalMaxLength := (require_eq_ok.mp valid).2.1
  have limits : literalMaxLength ≤ slotMaxLength := by decide
  omega

theorem slotQuery_grows {next after : Nat} {pairs : List (List Char × List Char)} {items : List HttpParameter}
    (slotted : slotQuery next pairs = .ok (items, after)) :
    next ≤ after ∧ ((∃ pair ∈ pairs, pair.2 = marker.toList) → next < after) := by
  induction pairs generalizing next items with
  | nil =>
    obtain ⟨_, same⟩ := Prod.mk.inj (Except.ok.inj slotted)
    exact ⟨by omega, fun found => by obtain ⟨_, none', _⟩ := found; cases none'⟩
  | cons pair pairs ih =>
    obtain ⟨name, value⟩ := pair
    rw [slotQuery] at slotted
    by_cases slot : value = marker.toList
    · rw [if_pos slot] at slotted
      obtain ⟨rest, later, same⟩ := bind_eq_ok.mp slotted
      obtain ⟨_, last⟩ := Prod.mk.inj (Except.ok.inj same)
      obtain ⟨grown, _⟩ := @ih (next + 1) rest.1 (last ▸ later)
      exact ⟨by omega, fun _ => by omega⟩
    · rw [if_neg slot] at slotted
      by_cases inside : marker.toList <:+: value
      · rw [if_pos inside] at slotted
        cases slotted
      · rw [if_neg inside] at slotted
        obtain ⟨rest, later, same⟩ := bind_eq_ok.mp slotted
        obtain ⟨_, last⟩ := Prod.mk.inj (Except.ok.inj same)
        obtain ⟨grown, counts⟩ := @ih next rest.1 (last ▸ later)
        refine ⟨grown, fun found => counts ?_⟩
        obtain ⟨pair, member, marks⟩ := found
        cases List.mem_cons.mp member with
        | inl first =>
          rw [first] at marks
          exact absurd marks slot
        | inr other => exact ⟨pair, other, marks⟩

theorem renderParameter_slot {name : String} {slotId : String} (given : values slotId = some (.str resource))
    (short : resource.length ≤ slotMaxLength) : renderParameter values ⟨name, .slot slotId⟩ = .ok (name, resource) := by
  unfold renderParameter
  refine bind_eq_ok.mpr ⟨.str resource, ?_, bind_eq_ok.mpr ⟨resource, bounded_text short, rfl⟩⟩
  dsimp only
  rw [givenValue, given]
  rfl

/-- Every parameter is sent under its name, with its value, in its place. -/
theorem slotQuery_renders {next after : Nat} {pairs : List (List Char × List Char)} {items : List HttpParameter}
    (slotted : slotQuery next pairs = .ok (items, after)) (valid : ∀ item ∈ items, item.validate patterns = .ok ())
    (given : ∀ index, next ≤ index → index < after → values (slotName index) = some (.str resource))
    (short : next < after → resource.length ≤ slotMaxLength) :
    renderParameters values items = .ok (pairs.map (sentValue resource)) := by
  induction pairs generalizing next items with
  | nil =>
    obtain ⟨none', _⟩ := Prod.mk.inj (Except.ok.inj slotted)
    rw [← none']
    rfl
  | cons pair pairs ih =>
    obtain ⟨name, value⟩ := pair
    rw [slotQuery] at slotted
    by_cases slot : value = marker.toList
    · rw [if_pos slot] at slotted
      obtain ⟨rest, later, same⟩ := bind_eq_ok.mp slotted
      obtain ⟨built, last⟩ := Prod.mk.inj (Except.ok.inj same)
      have later' : slotQuery (next + 1) pairs = .ok (rest.1, after) := last ▸ later
      have grown := (slotQuery_grows later').1
      rw [← built] at valid ⊢
      have rendered := ih later' (fun item member => valid item (List.mem_cons_of_mem _ member))
        (fun index lower upper => given index (by omega) upper) fun more => short (by omega)
      unfold renderParameters at rendered ⊢
      rw [List.mapM_cons, renderParameter_slot (given next (Nat.le_refl _) (by omega)) (short (by omega)), rendered,
        List.map_cons, sentValue, if_pos slot]
      rfl
    · rw [if_neg slot] at slotted
      by_cases inside : marker.toList <:+: value
      · rw [if_pos inside] at slotted
        cases slotted
      · rw [if_neg inside] at slotted
        obtain ⟨rest, later, same⟩ := bind_eq_ok.mp slotted
        obtain ⟨built, last⟩ := Prod.mk.inj (Except.ok.inj same)
        have later' : slotQuery next pairs = .ok (rest.1, after) := last ▸ later
        rw [← built] at valid ⊢
        have rendered := ih later' (fun item member => valid item (List.mem_cons_of_mem _ member)) given short
        have bounded := literal_short (valid _ List.mem_cons_self) rfl
        have first : renderParameter values ⟨String.ofList name, .literal (String.ofList value)⟩ =
            .ok (String.ofList name, String.ofList value) := by
          unfold renderParameter
          exact bind_eq_ok.mpr ⟨.str (String.ofList value), rfl, bind_eq_ok.mpr ⟨_, bounded_text bounded, rfl⟩⟩
        unfold renderParameters at rendered ⊢
        rw [List.mapM_cons, first, rendered, List.map_cons, sentValue, if_neg slot]
        rfl

/-- No value of the query but the resource itself is the marker. -/
def PlainQuery (resource : String) (pairs : List (List Char × List Char)) : Prop :=
  ∀ pair ∈ pairs, pair.2 = marker.toList → pair.2 = resource.toList

def textPair (pair : List Char × List Char) : String × String := (String.ofList pair.1, String.ofList pair.2)

theorem sentValue_placeValue (pair : List Char × List Char) :
    sentValue resource (placeValue resource.toList pair) = textPair pair ↔
      (pair.2 = marker.toList → pair.2 = resource.toList) := by
  unfold sentValue placeValue textPair
  by_cases own : pair.2 = resource.toList
  · rw [if_pos own, if_pos rfl, own, String.ofList_toList]
    exact iff_of_true rfl fun _ => rfl
  · rw [if_neg own]
    by_cases marks : pair.2 = marker.toList
    · rw [if_pos marks]
      refine iff_of_false (fun same => own ?_) fun plain => own (plain marks)
      have value : resource = String.ofList pair.2 := (Prod.mk.inj same).2
      rw [value, String.toList_ofList]
    · rw [if_neg marks]
      exact iff_of_true rfl fun clash => absurd clash marks

theorem query_reproduced (pairs : List (List Char × List Char)) :
    (pairs.map (placeValue resource.toList)).map (sentValue resource) = pairs.map textPair ↔ PlainQuery resource pairs := by
  rw [List.map_map, List.map_inj_left]
  exact forall₂_congr fun pair _ => sentValue_placeValue pair

end Query

section Body

variable {values : SlotValues} {patterns : Patterns} {resource : String}

mutual

/-- The body that rendering gives back. -/
def restored (resource : String) : Json → Json
  | .str text => if text = resource ∨ text = marker then .str resource else .str text
  | .int value => if toString value = resource then .str resource else .int value
  | .list items => .list (restoredItems resource items)
  | .dict entries => (marked slotKey entries).elim (.dict (restoredFields resource entries)) fun _ => .str resource
  | value => value

def restoredItems (resource : String) : List Json → List Json
  | [] => []
  | item :: items => restored resource item :: restoredItems resource items

def restoredFields (resource : String) : List (String × Json) → List (String × Json)
  | [] => []
  | (name, value) :: fields => (name, restored resource value) :: restoredFields resource fields

end

mutual

/-- No number reads as the resource, no text but the resource is the marker, no object is a slot reference. -/
def PlainDocument (resource : String) : Json → Prop
  | .str text => text = marker → text = resource
  | .int value => toString value ≠ resource
  | .list items => PlainItems resource items
  | .dict entries => marked slotKey entries = none ∧ PlainFields resource entries
  | _ => True

def PlainItems (resource : String) : List Json → Prop
  | [] => True
  | item :: items => PlainDocument resource item ∧ PlainItems resource items

def PlainFields (resource : String) : List (String × Json) → Prop
  | [] => True
  | (_, value) :: fields => PlainDocument resource value ∧ PlainFields resource fields

end

attribute [local simp] replaceJsonValue replaceItems replaceFields
attribute [local simp] bodyValue bodyItems bodyFields
attribute [local simp] restored restoredItems restoredFields PlainDocument PlainItems PlainFields

theorem restoredItems_iff {items : List Json}
    (each : ∀ item ∈ items, restored resource item = item ↔ PlainDocument resource item) :
    restoredItems resource items = items ↔ PlainItems resource items := by
  induction items with
  | nil => simp
  | cons item items ih =>
    rw [restoredItems, PlainItems, List.cons_eq_cons, each item List.mem_cons_self,
      ih fun other member => each other (List.mem_cons_of_mem _ member)]

theorem restoredFields_iff {entries : List (String × Json)}
    (each : ∀ entry ∈ entries, restored resource entry.2 = entry.2 ↔ PlainDocument resource entry.2) :
    restoredFields resource entries = entries ↔ PlainFields resource entries := by
  induction entries with
  | nil => simp
  | cons entry entries ih =>
    obtain ⟨name, value⟩ := entry
    rw [restoredFields, PlainFields, List.cons_eq_cons, Prod.mk.injEq, and_iff_right rfl, each _ List.mem_cons_self,
      ih fun other member => each other (List.mem_cons_of_mem _ member)]

/-- The body comes back as it was recorded exactly when it is plain. -/
theorem restored_eq_self_iff (document : Json) : restored resource document = document ↔ PlainDocument resource document := by
  induction document using document_induction with
  | flat document flat =>
    cases document with
    | str text =>
      rw [restored, PlainDocument]
      by_cases own : text = resource
      · rw [if_pos (.inl own), own]
        exact iff_of_true rfl fun _ => rfl
      · by_cases marks : text = marker
        · rw [if_pos (.inr marks)]
          exact iff_of_false (fun same => own (Json.str.inj same).symm) fun plain => own (plain marks)
        · rw [if_neg (by rintro (first | second); exacts [own first, marks second])]
          exact iff_of_true rfl fun clash => absurd clash marks
    | int value =>
      rw [restored, PlainDocument]
      by_cases reads : toString value = resource
      · rw [if_pos reads]
        exact iff_of_false (fun same => by cases same) fun differs => differs reads
      · rw [if_neg reads]
        exact iff_of_true rfl reads
    | list items => exact flat.elim
    | dict entries => exact flat.elim
    | _ => simp
  | list items ih =>
    rw [restored, PlainDocument, Json.list.injEq]
    exact restoredItems_iff ih
  | dict entries ih =>
    rw [restored, PlainDocument]
    cases found : marked slotKey entries with
    | none =>
      rw [Option.elim_none, Json.dict.injEq, and_iff_right rfl]
      exact restoredFields_iff ih
    | some content =>
      rw [Option.elim_some]
      exact iff_of_false (fun same => by cases same) fun plain => by cases plain.1

theorem bodyFields_keys (next : Nat) (entries : List (String × Json)) :
    (bodyFields next entries).1.map Prod.fst = entries.map Prod.fst := by
  induction entries generalizing next with
  | nil => rw [bodyFields]
  | cons entry entries ih =>
    obtain ⟨name, value⟩ := entry
    rw [bodyFields, List.map_cons, ih, List.map_cons]

theorem replaceFields_keys (entries : List (String × Json)) :
    (replaceFields resource entries).1.map Prod.fst = entries.map Prod.fst := by
  induction entries with
  | nil => rw [replaceFields]
  | cons entry entries ih =>
    obtain ⟨name, value⟩ := entry
    rw [replaceFields, List.map_cons, ih, List.map_cons]

theorem fillItems_body {items : List Json}
    (each : ∀ item ∈ items, ∀ next, fill slotKey (fun _ => .str resource)
      (bodyValue next (replaceJsonValue resource item).1).1 = restored resource item) (next : Nat) :
    fillItems slotKey (fun _ => .str resource) (bodyItems next (replaceItems resource items).1).1 =
      restoredItems resource items := by
  induction items generalizing next with
  | nil => rw [replaceItems, bodyItems, fillItems, restoredItems]
  | cons item items ih =>
    rw [replaceItems, bodyItems, fillItems, restoredItems, each item List.mem_cons_self,
      ih fun other member => each other (List.mem_cons_of_mem _ member)]

theorem fillFields_body {entries : List (String × Json)}
    (each : ∀ entry ∈ entries, ∀ next, fill slotKey (fun _ => .str resource)
      (bodyValue next (replaceJsonValue resource entry.2).1).1 = restored resource entry.2) (next : Nat) :
    fillFields slotKey (fun _ => .str resource) (bodyFields next (replaceFields resource entries).1).1 =
      restoredFields resource entries := by
  induction entries generalizing next with
  | nil => rw [replaceFields, bodyFields, fillFields, restoredFields]
  | cons entry entries ih =>
    obtain ⟨name, value⟩ := entry
    rw [replaceFields, bodyFields, fillFields, restoredFields, each (name, value) List.mem_cons_self,
      ih fun other member => each other (List.mem_cons_of_mem _ member)]

/-- The resource in every slot of the body. -/
theorem fill_body (document : Json) (next : Nat) : fill slotKey (fun _ => .str resource)
    (bodyValue next (replaceJsonValue resource document).1).1 = restored resource document := by
  induction document using document_induction generalizing next with
  | flat document flat =>
    cases document with
    | str text =>
      rw [replaceJsonValue, restored]
      by_cases own : text = resource
      · rw [if_pos own, if_pos (.inl own), bodyValue, if_pos rfl, fill_placeholder]
      · rw [if_neg own, bodyValue]
        by_cases marks : text = marker
        · rw [if_pos marks, if_pos (.inr marks), fill_placeholder]
        · rw [if_neg marks, if_neg (by rintro (first | second); exacts [own first, marks second])]
          exact fill_flat slotKey _ flat
    | int value =>
      rw [replaceJsonValue, restored]
      by_cases reads : toString value = resource
      · rw [if_pos reads, if_pos reads, bodyValue, if_pos rfl, fill_placeholder]
      · rw [if_neg reads, if_neg reads]
        simp [fill]
    | list items => exact flat.elim
    | dict entries => exact flat.elim
    | _ => simp [fill]
  | list items ih =>
    rw [replaceJsonValue, bodyValue, fill, restored]
    exact congrArg Json.list (fillItems_body ih next)
  | dict entries ih =>
    rw [replaceJsonValue, bodyValue, restored]
    have keys : entries.map Prod.fst = (bodyFields next (replaceFields resource entries).1).1.map Prod.fst := by
      rw [bodyFields_keys, replaceFields_keys]
    cases found : marked slotKey entries with
    | none =>
      rw [fill, marked_none_of_keys slotKey keys found, Option.elim_none, Option.elim_none]
      exact congrArg Json.dict (fillFields_body ih next)
    | some content =>
      have shape := (marked_eq_some slotKey).mp found
      rw [shape, replaceFields, replaceFields, bodyFields, bodyFields, Option.elim_some]
      exact fill_placeholder slotKey _ _

theorem itemReferences_replaced {items : List Json}
    (each : ∀ item ∈ items, ∀ next, (replaceJsonValue resource item).2 = true →
      references slotKey (bodyValue next (replaceJsonValue resource item).1).1 ≠ [])
    (next : Nat) (replaced : (replaceItems resource items).2 = true) :
    itemReferences slotKey (bodyItems next (replaceItems resource items).1).1 ≠ [] := by
  induction items generalizing next with
  | nil =>
    rw [replaceItems] at replaced
    cases replaced
  | cons item items ih =>
    rw [replaceItems] at replaced
    rw [replaceItems, bodyItems, itemReferences]
    intro none'
    obtain ⟨first, rest⟩ := List.append_eq_nil_iff.mp none'
    cases Bool.or_eq_true_iff.mp replaced with
    | inl here => exact each item List.mem_cons_self _ here first
    | inr later => exact ih (fun other member => each other (List.mem_cons_of_mem _ member)) _ later rest

theorem fieldReferences_replaced {entries : List (String × Json)}
    (each : ∀ entry ∈ entries, ∀ next, (replaceJsonValue resource entry.2).2 = true →
      references slotKey (bodyValue next (replaceJsonValue resource entry.2).1).1 ≠ [])
    (next : Nat) (replaced : (replaceFields resource entries).2 = true) :
    fieldReferences slotKey (bodyFields next (replaceFields resource entries).1).1 ≠ [] := by
  induction entries generalizing next with
  | nil =>
    rw [replaceFields] at replaced
    cases replaced
  | cons entry entries ih =>
    obtain ⟨name, value⟩ := entry
    rw [replaceFields] at replaced
    rw [replaceFields, bodyFields, fieldReferences]
    intro none'
    obtain ⟨first, rest⟩ := List.append_eq_nil_iff.mp none'
    cases Bool.or_eq_true_iff.mp replaced with
    | inl here => exact each (name, value) List.mem_cons_self _ here first
    | inr later => exact ih (fun other member => each other (List.mem_cons_of_mem _ member)) _ later rest

/-- A body in which the resource was found has a slot. -/
theorem references_replaced (document : Json) (next : Nat) (replaced : (replaceJsonValue resource document).2 = true) :
    references slotKey (bodyValue next (replaceJsonValue resource document).1).1 ≠ [] := by
  induction document using document_induction generalizing next with
  | flat document flat =>
    cases document with
    | str text =>
      rw [replaceJsonValue] at replaced ⊢
      by_cases own : text = resource
      · rw [if_pos own, bodyValue, if_pos rfl, references_placeholder]
        exact List.cons_ne_nil _ _
      · rw [if_neg own] at replaced
        cases replaced
    | int value =>
      rw [replaceJsonValue] at replaced ⊢
      by_cases reads : toString value = resource
      · rw [if_pos reads, bodyValue, if_pos rfl, references_placeholder]
        exact List.cons_ne_nil _ _
      · rw [if_neg reads] at replaced
        cases replaced
    | list items => exact flat.elim
    | dict entries => exact flat.elim
    | _ => simp at replaced
  | list items ih =>
    rw [replaceJsonValue] at replaced ⊢
    rw [bodyValue, references]
    exact itemReferences_replaced ih next replaced
  | dict entries ih =>
    rw [replaceJsonValue] at replaced ⊢
    rw [bodyValue, references]
    cases marked slotKey (bodyFields next (replaceFields resource entries).1).1 with
    | none => exact fieldReferences_replaced ih next replaced
    | some content => exact List.cons_ne_nil _ _

theorem renderReference_text {slotId : String} (given : values slotId = some (.str resource))
    (short : resource.length ≤ slotMaxLength) : renderReference values (.str slotId) = .ok (.str resource) := by
  rw [renderReference, given]
  exact bind_eq_ok.mpr ⟨.str resource, rfl, bind_eq_ok.mpr ⟨resource, bounded_text short, rfl⟩⟩

/-- A body whose slots are declared is rendered with the resource in each of them. -/
theorem body_reproduced {entries body : List (String × Json)} {next : Nat}
    (built : body = (bodyFields next (replaceFields resource entries).1).1) (accepted : Accepted patterns (.dict body))
    (given : ∀ slotId, .str slotId ∈ references slotKey (.dict body) → values slotId = some (.str resource))
    (short : resource.length ≤ slotMaxLength) :
    renderJson values (.dict body) = .ok (restored resource (.dict entries)) := by
  have each : ∀ content ∈ references slotKey (.dict body), renderReference values content = .ok (.str resource) := by
    intro content found
    obtain ⟨slotId, text⟩ := accepted_references accepted content found
    exact text ▸ renderReference_text (given slotId (text ▸ found)) short
  have filled : fill slotKey (fun _ => .str resource) (.dict body) = restored resource (.dict entries) := by
    rw [← fill_body (.dict entries) next, replaceJsonValue, bodyValue, built]
  refine renderJson_eq_ok.mpr ⟨fun content found => ⟨_, each content found⟩, ?_⟩
  rw [← filled]
  refine fill_congr fun content found => ?_
  rw [referenceValue, each content found]

end Body

section Rendered

variable {values : SlotValues} {patterns : Patterns} {resource : String} {template : HttpRequestTemplate}

theorem bounded_short {text rendered : String} (bounded : boundedSlotValue (.str text) = .ok rendered) :
    text.length ≤ slotMaxLength := by
  obtain ⟨written, same, bounded⟩ := bind_eq_ok.mp bounded
  obtain ⟨_, short, _⟩ := bind_eq_ok.mp bounded
  have text' : text = written := Except.ok.inj same
  exact text' ▸ require_eq_ok.mp short

theorem mem_of_mapM {ε α β : Type} {step : α → Except ε β} {items : List α} {results : List β}
    (done : items.mapM step = .ok results) {item : α} (member : item ∈ items) : ∃ result, step item = .ok result := by
  obtain ⟨result, _, here⟩ := partner_right (mapM_eq_ok_iff.mp done) member
  exact ⟨result, here⟩

theorem parameter_short {items : List HttpParameter} {pairs : List (String × String)}
    (rendered : renderParameters values items = .ok pairs) {slotId : String}
    (named : slotId ∈ items.filterMap fun item => item.value.slotId) (given : values slotId = some (.str resource)) :
    resource.length ≤ slotMaxLength := by
  obtain ⟨item, member, slot⟩ := List.mem_filterMap.mp named
  obtain ⟨pair, here⟩ := mem_of_mapM rendered member
  unfold renderParameter at here
  cases shape : item.value with
  | literal text =>
    rw [shape] at slot
    cases slot
  | slot other =>
    rw [shape] at slot here
    obtain ⟨value, found, here⟩ := bind_eq_ok.mp here
    obtain ⟨text, bounded, _⟩ := bind_eq_ok.mp here
    have same : other = slotId := Option.some.inj slot
    simp only [givenValue, same, given] at found
    have value' : Json.str resource = value := Option.some.inj (orRaise_eq_ok.mp found)
    exact bounded_short (value' ▸ bounded)

theorem path_short {path sent : String} (rendered : renderPath values path = .ok sent) {slotId : String}
    (named : slotId ∈ pathSlots path) (given : values slotId = some (.str resource)) : resource.length ≤ slotMaxLength := by
  obtain ⟨piece, member, slot⟩ := List.mem_filterMap.mp named
  obtain ⟨written, done, _⟩ := bind_eq_ok.mp rendered
  obtain ⟨result, here⟩ := mem_of_mapM done member
  cases piece with
  | char char => cases slot
  | slot other =>
    have same : other = slotId := Option.some.inj slot
    rw [renderPiece, same, given] at here
    obtain ⟨value, found, here⟩ := bind_eq_ok.mp here
    obtain ⟨text, bounded, _⟩ := bind_eq_ok.mp here
    have value' : Json.str resource = value := Option.some.inj (orRaise_eq_ok.mp found)
    exact bounded_short (value' ▸ bounded)

theorem body_short {document image : Json} (rendered : renderJson values document = .ok image) {slotId : String}
    (named : .str slotId ∈ references slotKey document) (given : values slotId = some (.str resource)) :
    resource.length ≤ slotMaxLength := by
  obtain ⟨result, here⟩ := (renderJson_eq_ok.mp rendered).1 _ named
  rw [renderReference, given] at here
  obtain ⟨value, found, here⟩ := bind_eq_ok.mp here
  obtain ⟨text, bounded, _⟩ := bind_eq_ok.mp here
  have value' : Json.str resource = value := Option.some.inj (orRaise_eq_ok.mp found)
  exact bounded_short (value' ▸ bounded)

end Rendered

end Jiejian.Preparation.RecordedRendering
