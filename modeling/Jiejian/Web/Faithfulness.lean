import Jiejian.Library.Segments
import Jiejian.Web.Rendering

namespace Jiejian.Web.Faithfulness

open Library Library.Document Library.Outcome Library.Placeholders Library.Segments Errors JsonPaths Templates Rendering

/-- The text that the value of a slot is sent as. -/
def slotString (values : SlotValues) (slotId : String) : String :=
  match (values slotId).map slotText with
  | some (.ok text) => text
  | _ => ""

def declaredText (values : SlotValues) : ParameterValue → String
  | .literal text => text
  | .slot slotId => slotString values slotId

/-- The declared fields in their order, each slot replaced by its value. -/
def declaredPairs (values : SlotValues) (items : List HttpParameter) : List (String × String) :=
  items.map fun item => (item.name, declaredText values item.value)

def textPart (part : MultipartPart) (text : String) : RenderedPart :=
  match part.filename with
  | none => .field part.name text
  | some filename => .file ⟨part.name, filename, text.toUTF8.toList, part.contentType.getD defaultContentType⟩

def declaredPart (values : SlotValues) (fixtures : String → Option (List UInt8)) (part : MultipartPart) : RenderedPart :=
  match part.source with
  | .fixture artifactId => .file ⟨part.name, part.filename.getD "fixture.bin", (fixtures artifactId).getD [],
      part.contentType.getD defaultContentType⟩
  | .literal text => textPart part text
  | .slot slotId => textPart part (slotString values slotId)

def declaredValue (values : SlotValues) : Json → Json
  | .str slotId => .str (slotString values slotId)
  | content => placeholder slotKey content

def isSlash (piece : Piece) : Bool := piece = .char '/'

/-- The segments of a template path; no slot reference holds a slash. -/
def templateSegments (path : String) : List (List Piece) := (pieces path).splitOnP isSlash

/-- A piece with its slot replaced by a percent-encoding of its value. -/
def encodedPiece (values : SlotValues) : Piece → List Char
  | .char char => [char]
  | .slot slotId => quote (slotString values slotId)

def declaredSegments (values : SlotValues) (path : String) : List (List Char) :=
  (templateSegments path).map fun segment => segment.flatMap (encodedPiece values)

def sentSegments (path : String) : List (List Char) := path.toList.splitOnP (· = '/')

/-- The sent body is the declared one: the same shape, order and multiplicity, with only the slots replaced. -/
def FaithfulBody (values : SlotValues) (fixtures : String → Option (List UInt8)) : HttpBody → RenderedBody → Prop
  | .empty, .empty => True
  | .json template, .json document => document = fill slotKey (declaredValue values) template
  | .form fields, .data pairs => pairs = declaredPairs values fields
  | .multipart parts, .multipart data files =>
    data.map (fun field => .field field.1 field.2) ++ files.map .file = parts.map (declaredPart values fixtures)
  | _, _ => False

/-- A rendered request is what its template declares, also after the path was normalised. -/
structure Faithful (parser : Normalizer) (values : SlotValues) (fixtures : String → Option (List UInt8))
    (template : HttpRequestTemplate) (sent : RenderedRequest) : Prop where
  query : sent.query = declaredPairs values template.query
  body : FaithfulBody values fixtures template.body sent.body
  path : parser.normalize (sentSegments sent.path) = declaredSegments values template.path
  closed : '?' ∉ sent.path.toList ∧ '#' ∉ sent.path.toList

/-- No field name of a form comes twice. -/
def DistinctFields : HttpBody → Prop
  | .form fields => (fields.map (·.name)).Nodup
  | _ => True

def MultipartPart.isFile (part : MultipartPart) : Bool :=
  match part.source with
  | .fixture _ => true
  | _ => part.filename.isSome

/-- No part with a file name stands before one without. -/
def FieldsFirst : HttpBody → Prop
  | .multipart parts => parts.Pairwise fun first later => MultipartPart.isFile first = true → MultipartPart.isFile later = true
  | _ => True

def plainPiece (values : SlotValues) : Piece → List Char
  | .char char => [char]
  | .slot slotId => (slotString values slotId).toList

/-- No segment of the path reads as a dot segment when its slots are replaced by their values. -/
def NoDotSegment (values : SlotValues) (path : String) : Prop :=
  ∀ segment ∈ templateSegments path, ¬Dot (segment.flatMap (plainPiece values))

section Quoting

theorem hexDigit_alphanum : ∀ value < 16, (hexDigit value).isAlphanum = true := by decide

theorem mem_percentByte {byte : UInt8} {char : Char} (member : char ∈ percentByte byte) :
    char = '%' ∨ char.isAlphanum = true := by
  have small : byte.toNat < 256 := byte.toNat_lt
  rw [percentByte] at member
  rcases List.mem_cons.mp member with rfl | member
  · exact .inl rfl
  · rcases List.mem_cons.mp member with rfl | member
    · exact .inr (hexDigit_alphanum _ (by omega))
    · rw [List.mem_singleton.mp member]
      exact .inr (hexDigit_alphanum _ (by omega))

def quoteChar (char : Char) : List Char :=
  if unreserved char then [char] else (String.utf8EncodeChar char).flatMap percentByte

theorem quote_eq (text : String) : quote text = text.toList.flatMap quoteChar := rfl

theorem mem_quoteChar {char written : Char} (member : written ∈ quoteChar char) :
    unreserved written = true ∨ written = '%' := by
  unfold quoteChar at member
  by_cases kept : unreserved char = true
  · rw [if_pos kept, List.mem_singleton] at member
    exact .inl (member ▸ kept)
  · rw [if_neg kept] at member
    obtain ⟨byte, -, inside⟩ := List.mem_flatMap.mp member
    rcases mem_percentByte inside with percent | alphanum
    · exact .inr percent
    · exact .inl (by rw [unreserved, alphanum, Bool.true_or])

/-- A quoted text holds no character that ends a segment, a path or a query. -/
theorem mem_quote {text : String} {char : Char} (member : char ∈ quote text) :
    char ≠ '/' ∧ char ≠ '?' ∧ char ≠ '#' := by
  obtain ⟨source, -, inside⟩ := List.mem_flatMap.mp member
  rcases mem_quoteChar inside with kept | rfl
  · refine ⟨?_, ?_, ?_⟩
    · rintro rfl
      revert kept
      decide
    · rintro rfl
      revert kept
      decide
    · rintro rfl
      revert kept
      decide
  · decide

/-- Only dots are quoted to dots. -/
theorem quoteChar_dots {char : Char} (dots : ∀ written ∈ quoteChar char, written = '.') : quoteChar char = [char] := by
  unfold quoteChar at dots ⊢
  by_cases kept : unreserved char = true
  · rw [if_pos kept]
  · rw [if_neg kept] at dots
    exfalso
    have bytes : String.utf8EncodeChar char ≠ [] := by
      intro none
      have length := congrArg List.length none
      rw [String.length_utf8EncodeChar] at length
      have positive := Char.utf8Size_pos char
      simp at length
      omega
    obtain ⟨byte, rest, shape⟩ := List.exists_cons_of_ne_nil bytes
    have percent : '%' ∈ (String.utf8EncodeChar char).flatMap percentByte := by
      rw [shape, List.flatMap_cons]
      exact List.mem_append_left _ List.mem_cons_self
    exact absurd (dots '%' percent) (by decide)

theorem quote_dots {text : String} (dots : ∀ char ∈ quote text, char = '.') : quote text = text.toList := by
  rw [quote_eq] at dots ⊢
  have each : ∀ char ∈ text.toList, quoteChar char = [char] := fun char member =>
    quoteChar_dots fun written inside => dots written (List.mem_flatMap.mpr ⟨char, member, inside⟩)
  rw [List.flatMap_congr each]
  simp

theorem quote_of_dots {text : String} (dots : ∀ char ∈ text.toList, char = '.') : quote text = text.toList := by
  rw [quote_eq]
  have each : ∀ char ∈ text.toList, quoteChar char = [char] := by
    intro char member
    rw [dots char member]
    rfl
  rw [List.flatMap_congr each]
  simp

theorem dot_of_mem {segment : List Char} (dot : Dot segment) : ∀ char ∈ segment, char = '.' := by
  rcases dot with rfl | rfl
  · simp
  · simp

/-- A segment reads as a dot segment exactly when its encoding does. -/
theorem dot_encoded_iff {values : SlotValues} (segment : List Piece) :
    Dot (segment.flatMap (encodedPiece values)) ↔ Dot (segment.flatMap (plainPiece values)) := by
  constructor
  · intro dot
    have each : ∀ piece ∈ segment, encodedPiece values piece = plainPiece values piece := by
      intro piece member
      cases piece with
      | char char => rfl
      | slot slotId =>
        exact quote_dots fun char inside => dot_of_mem dot char (List.mem_flatMap.mpr ⟨_, member, inside⟩)
    rw [← List.flatMap_congr each]
    exact dot
  · intro dot
    have each : ∀ piece ∈ segment, encodedPiece values piece = plainPiece values piece := by
      intro piece member
      cases piece with
      | char char => rfl
      | slot slotId =>
        exact quote_of_dots fun char inside => dot_of_mem dot char (List.mem_flatMap.mpr ⟨_, member, inside⟩)
    rw [List.flatMap_congr each]
    exact dot

end Quoting

/-- A pass whose results are determined by its items. -/
theorem mapM_results {ε α β : Type} {step : α → Except ε β} {value : α → β} {items : List α} {results : List β}
    (passed : items.mapM step = .ok results) (each : ∀ item result, step item = .ok result → result = value item) :
    results = items.map value := by
  have pairwise := mapM_eq_ok_iff.mp passed
  induction pairwise with
  | nil => rfl
  | cons here later ih => rw [List.map_cons, each _ _ here, ih (mapM_eq_ok_iff.mpr later)]

section Values

variable {values : SlotValues} {fixtures : String → Option (List UInt8)}

theorem slotString_eq {slotId : String} {value : Json} {text : String} (given : values slotId = some value)
    (rendered : boundedSlotValue value = .ok text) : slotString values slotId = text := by
  obtain ⟨written, shown, bounded⟩ := bind_eq_ok.mp rendered
  obtain ⟨-, -, same⟩ := bind_eq_ok.mp bounded
  cases same
  rw [slotString, given, Option.map_some, shown]

theorem bounded_literal {text rendered : String} (bounded : boundedSlotValue (.str text) = .ok rendered) :
    rendered = text := by
  obtain ⟨written, shown, rest⟩ := bind_eq_ok.mp bounded
  obtain ⟨-, -, same⟩ := bind_eq_ok.mp rest
  cases shown
  exact (Except.ok.inj same).symm

theorem givenValue_some {slotId : String} {value : Json} (given : givenValue values slotId = some value) :
    values slotId = some value := by
  obtain ⟨stored, found, kept⟩ := Option.bind_eq_some_iff.mp given
  rw [found]
  split at kept
  · cases kept
  · exact kept

theorem renderParameter_eq {item : HttpParameter} {pair : String × String}
    (rendered : renderParameter values item = .ok pair) : pair = (item.name, declaredText values item.value) := by
  obtain ⟨value, chosen, rendered⟩ := bind_eq_ok.mp rendered
  obtain ⟨text, bounded, same⟩ := bind_eq_ok.mp rendered
  cases same
  cases source : item.value with
  | literal literal =>
    rw [source] at chosen
    cases chosen
    rw [declaredText, bounded_literal bounded]
  | slot slotId =>
    rw [source] at chosen
    rw [declaredText, slotString_eq (givenValue_some (orRaise_eq_ok.mp chosen)) bounded]

theorem renderParameters_eq {items : List HttpParameter} {pairs : List (String × String)}
    (rendered : renderParameters values items = .ok pairs) : pairs = declaredPairs values items :=
  mapM_results rendered fun _ _ => renderParameter_eq

theorem textPart_eq {part : MultipartPart} {text : String} {rendered : RenderedPart}
    (made : (match part.filename with
      | none => (.ok (.field part.name text) : Except Failure RenderedPart)
      | some filename => .ok (.file ⟨part.name, filename, text.toUTF8.toList,
          part.contentType.getD defaultContentType⟩)) = .ok rendered) : rendered = textPart part text := by
  rw [textPart]
  cases named : part.filename with
  | none =>
    rw [named] at made
    exact (Except.ok.inj made).symm
  | some filename =>
    rw [named] at made
    exact (Except.ok.inj made).symm

theorem renderPart_eq {part : MultipartPart} {rendered : RenderedPart}
    (made : renderPart values fixtures part = .ok rendered) : rendered = declaredPart values fixtures part := by
  rw [renderPart] at made
  cases source : part.source with
  | fixture artifactId =>
    rw [source] at made
    obtain ⟨artifact, found, same⟩ := bind_eq_ok.mp made
    cases same
    rw [declaredPart, source]
    simp only [orRaise_eq_ok.mp found, Option.getD_some]
  | literal literal =>
    rw [source] at made
    obtain ⟨value, chosen, made⟩ := bind_eq_ok.mp made
    obtain ⟨text, bounded, written⟩ := bind_eq_ok.mp made
    cases chosen
    have same := textPart_eq written
    rw [bounded_literal bounded] at same
    rw [declaredPart, source]
    exact same
  | slot slotId =>
    rw [source] at made
    obtain ⟨value, chosen, made⟩ := bind_eq_ok.mp made
    obtain ⟨text, bounded, written⟩ := bind_eq_ok.mp made
    rw [declaredPart, source]
    show rendered = textPart part (slotString values slotId)
    rw [slotString_eq (givenValue_some (orRaise_eq_ok.mp chosen)) bounded]
    exact textPart_eq written

/-- The rendered body of an accepted template has its shape, with exactly the slots replaced. -/
theorem renderJson_declared {patterns : Patterns} {template document : Json} (accepted : Accepted patterns template)
    (rendered : renderJson values template = .ok document) : document = fill slotKey (declaredValue values) template := by
  obtain ⟨fine, rfl⟩ := renderJson_eq_ok.mp rendered
  refine fill_congr fun content found => ?_
  obtain ⟨slotId, rfl⟩ := accepted_references accepted content found
  obtain ⟨value, shown⟩ := fine _ found
  rw [referenceValue, shown]
  obtain ⟨given, stored, rest⟩ := bind_eq_ok.mp shown
  obtain ⟨text, bounded, same⟩ := bind_eq_ok.mp rest
  cases same
  rw [declaredValue, slotString_eq (orRaise_eq_ok.mp stored) bounded]

theorem renderPath_eq {path sent : String} (rendered : renderPath values path = .ok sent) :
    sent.toList = (pieces path).flatMap (encodedPiece values) := by
  obtain ⟨parts, passed, same⟩ := bind_eq_ok.mp rendered
  cases same
  have each : ∀ piece part, renderPiece values piece = .ok part → part = encodedPiece values piece := by
    intro piece part made
    cases piece with
    | char char => exact (Except.ok.inj made).symm
    | slot slotId =>
      obtain ⟨value, stored, made⟩ := bind_eq_ok.mp made
      obtain ⟨text, bounded, same⟩ := bind_eq_ok.mp made
      cases same
      rw [encodedPiece, slotString_eq (orRaise_eq_ok.mp stored) bounded]
  rw [String.toList_ofList, mapM_results passed each, List.flatMap_def]

end Values

section Containers

/-- A partition keeps the order exactly when the items it puts last already stand last. -/
theorem partition_eq_self_iff {α : Type} (last : α → Bool) (items : List α) :
    (items.filter fun item => !last item) ++ items.filter last = items ↔
      items.Pairwise fun first later => last first = true → last later = true := by
  induction items with
  | nil => simp
  | cons item items ih =>
    rw [List.pairwise_cons, ← ih]
    cases here : last item with
    | false => simp [here]
    | true =>
      rw [List.filter_cons_of_neg (by simp [here]), List.filter_cons_of_pos here]
      constructor
      · intro same
        -- An item that is not put last would have to come first.
        have none : items.filter (fun other => !last other) = [] := by
          cases shape : items.filter fun other => !last other with
          | nil => rfl
          | cons first rest =>
            rw [shape] at same
            have equal := (List.cons.inj same).1
            have member : first ∈ items.filter fun other => !last other := by rw [shape]; exact List.mem_cons_self
            have unlike := (List.mem_filter.mp member).2
            rw [equal, here] at unlike
            cases unlike
        rw [none, List.nil_append] at same ⊢
        refine ⟨fun other member _ => ?_, (List.cons.inj same).2⟩
        have kept := List.filter_eq_nil_iff.mp none other member
        simpa using kept
      · rintro ⟨all, -⟩
        have kept : items.filter last = items := List.filter_eq_self.mpr fun other member => all other member rfl
        have none : items.filter (fun other => !last other) = [] :=
          List.filter_eq_nil_iff.mpr fun other member => by simp [all other member rfl]
        rw [none, kept, List.nil_append]

theorem foldl_put_keyed (pairs start : List (String × String)) (keyed : Table.Keyed Prod.fst start) :
    Table.Keyed Prod.fst (pairs.foldl (Table.put Prod.fst) start) := by
  induction pairs generalizing start with
  | nil => exact keyed
  | cons pair pairs ih => exact ih _ (keyed.put pair)

theorem foldl_put_distinct {pairs start : List (String × String)} (distinct : ((start ++ pairs).map Prod.fst).Nodup) :
    pairs.foldl (Table.put Prod.fst) start = start ++ pairs := by
  induction pairs generalizing start with
  | nil => simp
  | cons pair pairs ih =>
    have fresh : pair.1 ∉ start.map Prod.fst := by
      rw [List.map_append, List.nodup_append] at distinct
      exact fun member => distinct.2.2 _ member _ List.mem_cons_self rfl
    rw [List.foldl_cons, Table.put_fresh fresh, ih (by simpa using distinct)]
    simp

/-- A dict made of pairs holds the pairs exactly when no name comes twice. -/
theorem dictOf_eq_self_iff (pairs : List (String × String)) : dictOf pairs = pairs ↔ (pairs.map Prod.fst).Nodup := by
  constructor
  · intro same
    have keyed := foldl_put_keyed pairs [] (List.nodup_nil)
    rw [show pairs.foldl (Table.put Prod.fst) [] = pairs from same] at keyed
    exact keyed
  · intro distinct
    exact foldl_put_distinct distinct

def RenderedPart.isFile : RenderedPart → Bool
  | .field _ _ => false
  | .file _ => true

theorem fields_eq_filter (parts : List RenderedPart) :
    (parts.filterMap RenderedPart.asField).map (fun field => .field field.1 field.2) =
      parts.filter fun part => !RenderedPart.isFile part := by
  induction parts with
  | nil => rfl
  | cons part parts ih =>
    cases part with
    | field name text =>
      have kept : RenderedPart.asField (.field name text) = some (name, text) := rfl
      rw [List.filterMap_cons_some kept, List.map_cons, ih, List.filter_cons_of_pos rfl]
    | file part =>
      rw [List.filterMap_cons_none rfl, ih, List.filter_cons_of_neg Bool.false_ne_true]

theorem files_eq_filter (parts : List RenderedPart) :
    (parts.filterMap RenderedPart.asFile).map RenderedPart.file = parts.filter RenderedPart.isFile := by
  induction parts with
  | nil => rfl
  | cons part parts ih =>
    cases part with
    | field name text =>
      rw [List.filterMap_cons_none rfl, ih, List.filter_cons_of_neg Bool.false_ne_true]
    | file part =>
      have kept : RenderedPart.asFile (.file part) = some part := rfl
      rw [List.filterMap_cons_some kept, List.map_cons, ih, List.filter_cons_of_pos rfl]

theorem isFile_declaredPart (values : SlotValues) (fixtures : String → Option (List UInt8)) (part : MultipartPart) :
    RenderedPart.isFile (declaredPart values fixtures part) = MultipartPart.isFile part := by
  have text : ∀ text, RenderedPart.isFile (textPart part text) = part.filename.isSome := by
    intro text
    rw [textPart]
    cases part.filename <;> rfl
  unfold declaredPart MultipartPart.isFile
  cases part.source with
  | fixture artifactId => rfl
  | literal literal => exact text _
  | slot slotId => exact text _

/-- The lists of fields and of files keep the declared order exactly when the files come last. -/
theorem parts_in_order_iff {values : SlotValues} {fixtures : String → Option (List UInt8)} (parts : List MultipartPart) :
    ((parts.map (declaredPart values fixtures)).filterMap RenderedPart.asField).map (fun field => .field field.1 field.2) ++
        ((parts.map (declaredPart values fixtures)).filterMap RenderedPart.asFile).map .file =
      parts.map (declaredPart values fixtures) ↔ FieldsFirst (.multipart parts) := by
  rw [fields_eq_filter, files_eq_filter, partition_eq_self_iff, List.pairwise_map]
  simp only [isFile_declaredPart]
  rfl

theorem body_faithful_iff {patterns : Patterns} {values : SlotValues} {fixtures : String → Option (List UInt8)}
    {body : HttpBody} {sent : RenderedBody} (accepted : body.validate patterns = .ok ())
    (rendered : renderBody values fixtures body = .ok sent) :
    FaithfulBody values fixtures body sent ↔ DistinctFields body ∧ FieldsFirst body := by
  cases body with
  | empty =>
    cases rendered
    simp [FaithfulBody, DistinctFields, FieldsFirst]
  | json template =>
    obtain ⟨document, made, same⟩ := bind_eq_ok.mp rendered
    cases same
    have declared := renderJson_declared ⟨0, accepted⟩ made
    simp [FaithfulBody, DistinctFields, FieldsFirst, declared]
  | form fields =>
    obtain ⟨pairs, made, same⟩ := bind_eq_ok.mp rendered
    cases same
    have names : (declaredPairs values fields).map Prod.fst = fields.map (·.name) := by
      rw [declaredPairs, List.map_map]
      rfl
    show dictOf pairs = declaredPairs values fields ↔ (fields.map (·.name)).Nodup ∧ True
    rw [renderParameters_eq made, dictOf_eq_self_iff, names]
    simp
  | multipart parts =>
    obtain ⟨made, passed, same⟩ := bind_eq_ok.mp rendered
    cases same
    rw [mapM_results passed fun _ _ => renderPart_eq]
    show _ = parts.map (declaredPart values fixtures) ↔ True ∧ FieldsFirst (.multipart parts)
    rw [parts_in_order_iff]
    simp

end Containers

section Paths

variable {values : SlotValues}

theorem matchSlot_eq_some {chars after : List Char} {slotId : String} (found : matchSlot chars = some (slotId, after)) :
    chars = '\x7b' :: (slotId.toList ++ '\x7d' :: after) := by
  unfold matchSlot at found
  split at found
  · rename_i first rest
    split at found
    · rename_i name later spanned
      by_cases letter : first.isAlpha = true
      · rw [if_pos letter] at found
        obtain ⟨rfl, rfl⟩ := Prod.mk.inj (Option.some.inj found)
        have written := spanUpTo_append idChar 63 rest
        rw [spanned] at written
        rw [← written, String.toList_ofList]
        rfl
      · rw [if_neg letter] at found
        cases found
    · cases found
  · cases found

def writtenPiece : Piece → List Char
  | .char char => [char]
  | .slot slotId => '\x7b' :: (slotId.toList ++ ['\x7d'])

theorem scanPieces_written {fuel : Nat} {chars : List Char} (enough : chars.length ≤ fuel) :
    (scanPieces fuel chars).flatMap writtenPiece = chars := by
  induction fuel generalizing chars with
  | zero =>
    have none : chars = [] := List.eq_nil_of_length_eq_zero (by omega)
    rw [none]
    rfl
  | succ fuel ih =>
    cases chars with
    | nil => rfl
    | cons first rest =>
      rw [List.length_cons] at enough
      rw [scanPieces]
      cases found : matchSlot (first :: rest) with
      | none =>
        rw [List.flatMap_cons, ih (by omega)]
        rfl
      | some matched =>
        obtain ⟨slotId, after⟩ := matched
        have written := matchSlot_eq_some found
        have lengths := congrArg List.length written
        simp only [List.length_cons, List.length_append] at lengths
        rw [List.flatMap_cons, ih (by omega), written, writtenPiece]
        simp

/-- The pieces of a path spell it. -/
theorem pieces_written (path : String) : (pieces path).flatMap writtenPiece = path.toList :=
  scanPieces_written (by rw [String.length_toList])

/-- A character that is kept is a character of the path. -/
theorem mem_scanPieces {fuel : Nat} {chars : List Char} {char : Char} (member : .char char ∈ scanPieces fuel chars) :
    char ∈ chars := by
  induction fuel generalizing chars with
  | zero => cases member
  | succ fuel ih =>
    cases chars with
    | nil => cases member
    | cons first rest =>
      rw [scanPieces] at member
      cases found : matchSlot (first :: rest) with
      | none =>
        rw [found] at member
        rcases List.mem_cons.mp member with same | later
        · cases same
          exact List.mem_cons_self
        · exact List.mem_cons_of_mem first (ih later)
      | some matched =>
        obtain ⟨slotId, after⟩ := matched
        rw [found] at member
        have written := matchSlot_eq_some found
        rcases List.mem_cons.mp member with same | later
        · cases same
        · rw [written]
          exact List.mem_cons_of_mem _ (List.mem_append_right _ (List.mem_cons_of_mem _ (ih later)))

theorem isSlash_iff {piece : Piece} : isSlash piece = true ↔ piece = .char '/' := decide_eq_true_iff

theorem not_isSlash {char : Char} (plain : isSlash (.char char) = false) : char ≠ '/' := by
  rintro rfl
  rw [isSlash_iff.mpr rfl] at plain
  cases plain

/-- The rendered path has the segments of the template, with each slot replaced by a percent-encoding of its value. -/
theorem sentSegments_eq {path sent : String} (rendered : renderPath values path = .ok sent) :
    sentSegments sent = declaredSegments values path := by
  rw [sentSegments, renderPath_eq rendered]
  refine splitOnP_flatMap ?_ ?_ (pieces path)
  · intro piece slash
    rw [isSlash_iff.mp slash]
    exact ⟨'/', rfl, rfl⟩
  · intro piece plain mark member
    cases piece with
    | char char =>
      rw [List.mem_singleton.mp member]
      exact decide_eq_false (not_isSlash plain)
    | slot slotId => exact decide_eq_false (mem_quote member).1

theorem path_faithful_iff (parser : Normalizer) {path sent : String} (rendered : renderPath values path = .ok sent) :
    parser.normalize (sentSegments sent) = declaredSegments values path ↔ NoDotSegment values path := by
  rw [sentSegments_eq rendered, parser.fixed_iff]
  constructor
  · intro clean segment member dot
    exact clean _ (List.mem_map.mpr ⟨segment, member, rfl⟩) ((dot_encoded_iff segment).mpr dot)
  · intro clean encoded member dot
    obtain ⟨segment, inside, rfl⟩ := List.mem_map.mp member
    exact clean segment inside ((dot_encoded_iff segment).mp dot)

/-- No value brings a query or a fragment into the path of an accepted template. -/
theorem path_closed {path sent : String} (accepted : templatePath path = true) (rendered : renderPath values path = .ok sent)
    {char : Char} (ends : char = '?' ∨ char = '#') : char ∉ sent.toList := by
  rw [renderPath_eq rendered]
  intro member
  obtain ⟨piece, inside, written⟩ := List.mem_flatMap.mp member
  cases piece with
  | slot slotId =>
    obtain ⟨-, question, hash⟩ := mem_quote written
    rcases ends with rfl | rfl
    · exact question rfl
    · exact hash rfl
  | char kept =>
    have same : char = kept := List.mem_singleton.mp written
    have original := mem_scanPieces inside
    rw [← same] at original
    unfold templatePath at accepted
    split at accepted
    · rename_i rest shape
      rw [shape] at original
      rcases List.mem_cons.mp original with slash | later
      · rcases ends with rfl | rfl
        · cases slash
        · cases slash
      · have plain := List.all_eq_true.mp accepted char later
        rcases ends with rfl | rfl
        · revert plain
          decide
        · revert plain
          decide
    · cases accepted

end Paths

/-- Rendering an accepted template is faithful exactly when no form field name comes twice, no part with a file name
stands before one without, and no path segment reads as a dot segment. -/
theorem rendering_faithful_iff (parser : Normalizer) {patterns : Patterns} {values : SlotValues}
    {fixtures : String → Option (List UInt8)} {template : HttpRequestTemplate} {sent : RenderedRequest}
    (accepted : template.validate patterns = .ok template) (rendered : renderRequest values fixtures template = .ok sent) :
    Faithful parser values fixtures template sent ↔
      DistinctFields template.body ∧ FieldsFirst template.body ∧ NoDotSegment values template.path := by
  obtain ⟨-, valid, -⟩ := validate_eq_ok accepted
  obtain ⟨_, bounded, valid⟩ := bind_eq_ok.mp valid
  obtain ⟨-, -, valid⟩ := bind_eq_ok.mp valid
  obtain ⟨-, -, valid⟩ := bind_eq_ok.mp valid
  obtain ⟨-, -, valid⟩ := bind_eq_ok.mp valid
  obtain ⟨-, -, valid⟩ := bind_eq_ok.mp valid
  obtain ⟨⟨⟩, accepted_body, -⟩ := bind_eq_ok.mp valid
  obtain ⟨path, here, rendered⟩ := bind_eq_ok.mp rendered
  obtain ⟨query, asked, rendered⟩ := bind_eq_ok.mp rendered
  obtain ⟨headers, headed, rendered⟩ := bind_eq_ok.mp rendered
  obtain ⟨body, inside, same⟩ := bind_eq_ok.mp rendered
  cases same
  have route := path_faithful_iff parser here
  have whole := body_faithful_iff accepted_body inside
  have template_path := (require_eq_ok.mp bounded).2
  constructor
  · intro faithful
    obtain ⟨distinct, first⟩ := whole.mp faithful.body
    exact ⟨distinct, first, route.mp faithful.path⟩
  · rintro ⟨distinct, first, clean⟩
    exact {
      query := renderParameters_eq asked
      body := whole.mpr ⟨distinct, first⟩
      path := route.mpr clean
      closed := ⟨path_closed template_path here (.inl rfl), path_closed template_path here (.inr rfl)⟩ }

def anyText : Patterns := ⟨fun _ => false, fun _ => false, fun _ => true⟩

def taskTemplate : HttpRequestTemplate where
  method := .POST
  path := "/tasks/\x7bid\x7d/archive"
  inputSlots := [{ slotId := "id", source := .CASE_RESOURCE_ID, consumer := .PATH }]

def taskValues (resource : String) : SlotValues := fun slotId => if slotId = "id" then some (.str resource) else none

theorem rendering_faithful_at_seven :
    Faithful dropDots (taskValues "7") (fun _ => none) taskTemplate ⟨.POST, "/tasks/7/archive", [], [], .empty⟩ ↔
      DistinctFields taskTemplate.body ∧ FieldsFirst taskTemplate.body ∧ NoDotSegment (taskValues "7") taskTemplate.path :=
  @rendering_faithful_iff dropDots anyText _ _ _ _ rfl rfl

/-- A resource that is called `..` removes the segment before it. -/
theorem rendering_leaves_its_place : ¬∀ (parser : Normalizer) (patterns : Patterns) (values : SlotValues)
    (fixtures : String → Option (List UInt8)) (template : HttpRequestTemplate) (sent : RenderedRequest),
    template.validate patterns = .ok template → renderRequest values fixtures template = .ok sent →
      Faithful parser values fixtures template sent := by
  intro always
  have faithful := always dropDots anyText (taskValues "..") (fun _ => none) taskTemplate
    ⟨.POST, "/tasks/../archive", [], [], .empty⟩ rfl rfl
  have path := faithful.path
  revert path
  decide

end Jiejian.Web.Faithfulness
