import Jiejian.Library.StrictJson
import Jiejian.Protocol.Codec

namespace Jiejian.Protocol.Wire

open Library.Outcome Library.Document Library.JsonText Library.StrictJson

/-- What the interpreter settles: how many lists and objects its reader and its writer may open, and how it writes a float. -/
structure Interpreter where
  readRoom : Nat
  writeRoom : Nat
  floatText : String → String
  floats : FloatWriter floatText

/-- The exceptions of reading and writing; two of them are no plain `ValueError`. -/
inductive WireFailure where
  | ValueError (message : String)
  | UnicodeEncodeError
  | RecursionError
  deriving DecidableEq, Repr

/-- A document is handed over as bytes or as text. -/
inductive Raw where
  | bytes (content : List UInt8)
  | text (content : Points)
  deriving DecidableEq, Repr

section Encoding

mutual

/-- The checks of `json.dumps` with `allow_nan=False`, in the order in which it writes. -/
def writable : Nat → Value → Except WireFailure Unit
  | _, .null => .ok ()
  | _, .bool _ => .ok ()
  | _, .int value =>
    require ((digitsOf value.natAbs).length ≤ 4300)
      (.ValueError "Exceeds the limit (4300 digits) for integer string conversion")
  | _, .float numeral =>
    require (finiteNumeral numeral = true) (.ValueError "Out of range float values are not JSON compliant")
  | _, .str _ => .ok ()
  | 0, .list _ => .error .RecursionError
  | room + 1, .list items => writableItems room items
  | 0, .dict _ => .error .RecursionError
  | room + 1, .dict fields => writableFields room fields

def writableItems : Nat → List Value → Except WireFailure Unit
  | _, [] => .ok ()
  | room, item :: items => do
    writable room item
    writableItems room items

def writableFields : Nat → List (Points × Value) → Except WireFailure Unit
  | _, [] => .ok ()
  | room, (_, value) :: fields => do
    writable room value
    writableFields room fields

end

variable (interpreter : Interpreter)

/-- `encode_json`: `json.dumps(payload, ensure_ascii=False, sort_keys=True, separators=(",", ":"), allow_nan=False)` in UTF-8. -/
def encodeJson (payload : List (Points × Value)) : Except WireFailure (List UInt8) := do
  let document := sorted (.dict payload)
  writable interpreter.writeRoom document
  orRaise (encodeUtf8 (compact interpreter.floatText document)) .UnicodeEncodeError

end Encoding

section Decoding

def byteOrderMark : List UInt8 := [0xEF, 0xBB, 0xBF]

/-- `raw.encode("utf-8") if isinstance(raw, str) else raw`. -/
def wire : Raw → Option (List UInt8)
  | .bytes content => some content
  | .text content => encodeUtf8 content

def invalidDocument : WireFailure := .ValueError "invalid JSON document"

variable (interpreter : Interpreter)

/-- `decode_json`. -/
def decodeJson (raw : Raw) (limit : Option Nat) : Except WireFailure (List (Points × Value)) := do
  let content ← orRaise (wire raw) invalidDocument
  require ((∀ bound ∈ limit, content.length ≤ bound) ∧ byteOrderMark.isPrefixOf content = false) invalidDocument
  let text ← orRaise (strictUtf8 content) invalidDocument
  let payload ← (readText interpreter.floatText interpreter.readRoom text).mapError fun _ => invalidDocument
  match payload with
  | .dict fields => return fields
  | _ => .error (.ValueError "JSON root must be an object")

/-- `payload.get(name) == expected`. -/
def carries (payload : List (Points × Value)) (name expected : String) : Bool :=
  match payload.find? fun field => field.1 = points name with
  | some (_, .str text) => text = points expected
  | _ => false

/-- `decode_document`. -/
def decodeDocument (raw : List UInt8) (documentType version : String) (limit : Nat) :
    Except WireFailure (List (Points × Value)) := do
  let payload ← decodeJson interpreter (.bytes raw) (some limit)
  let foreign := WireFailure.ValueError "unsupported or noncanonical document"
  require (carries payload "document_type" documentType = true ∧ carries payload "schema_version" version = true) foreign
  let own ← encodeJson interpreter payload
  require (own = raw) foreign
  return payload

end Decoding

section Writing

variable {floatText : String → String}

theorem writableItems_eq_ok {room : Nat} {items : List Value} :
    writableItems room items = .ok () ↔ ∀ item ∈ items, writable room item = .ok () := by
  induction items with
  | nil => exact iff_of_true rfl fun item member => absurd member List.not_mem_nil
  | cons item items ih =>
    rw [writableItems, bind_eq_ok, List.forall_mem_cons, ← ih]
    exact ⟨fun ⟨_, first, later⟩ => ⟨first, later⟩, fun ⟨first, later⟩ => ⟨(), first, later⟩⟩

theorem writableFields_eq_ok {room : Nat} {fields : List (Points × Value)} :
    writableFields room fields = .ok () ↔ ∀ field ∈ fields, writable room field.2 = .ok () := by
  induction fields with
  | nil => exact iff_of_true rfl fun field member => absurd member List.not_mem_nil
  | cons field fields ih =>
    obtain ⟨name, value⟩ := field
    rw [writableFields, bind_eq_ok, List.forall_mem_cons, ← ih]
    exact ⟨fun ⟨_, first, later⟩ => ⟨first, later⟩, fun ⟨first, later⟩ => ⟨(), first, later⟩⟩

/-- The values that are written are the regular ones that do not lie too deep. -/
theorem regular_of_writable {value : Value} (proper : Proper floatText value) {room : Nat}
    (fine : writable room value = .ok ()) : Regular floatText value ∧ depth value ≤ room := by
  induction proper generalizing room with
  | null => exact ⟨.null, Nat.zero_le _⟩
  | bool value => exact ⟨.bool value, Nat.zero_le _⟩
  | int value =>
    rw [writable] at fine
    exact ⟨.int value (require_eq_ok.mp fine), Nat.zero_le _⟩
  | float numeral own =>
    rw [writable] at fine
    exact ⟨.float numeral (require_eq_ok.mp fine) own, Nat.zero_le _⟩
  | str text valid => exact ⟨.str text valid, Nat.zero_le _⟩
  | list items each ih =>
    cases room with
    | zero =>
      rw [writable] at fine
      cases fine
    | succ room =>
      rw [writable] at fine
      have parts := writableItems_eq_ok.mp fine
      refine ⟨.list items fun item member => (ih item member (parts item member)).1, ?_⟩
      rw [depth]
      exact Nat.succ_le_succ (itemDepth_le.mpr fun item member => (ih item member (parts item member)).2)
  | dict entries once valid each ih =>
    cases room with
    | zero =>
      rw [writable] at fine
      cases fine
    | succ room =>
      rw [writable] at fine
      have parts := writableFields_eq_ok.mp fine
      refine ⟨.dict entries once valid fun entry member => (ih entry member (parts entry member)).1, ?_⟩
      rw [depth]
      exact Nat.succ_le_succ (fieldDepth_le.mpr fun entry member => (ih entry member (parts entry member)).2)

variable {interpreter : Interpreter} {payload : List (Points × Value)} {raw : List UInt8}

/-- What is encoded is the text of the payload in the order of its names. -/
theorem encodeJson_eq_ok (proper : Proper interpreter.floatText (.dict payload))
    (encoded : encodeJson interpreter payload = .ok raw) :
    Regular interpreter.floatText (sorted (.dict payload)) ∧
      encodeUtf8 (compact interpreter.floatText (sorted (.dict payload))) = some raw := by
  obtain ⟨_, fine, written⟩ := bind_eq_ok.mp encoded
  exact ⟨(regular_of_writable (proper_sorted proper) fine).1, orRaise_eq_ok.mp written⟩

/-- An encoding starts with the brace of its object. -/
theorem encodeJson_start (encoded : encodeJson interpreter payload = .ok raw) :
    byteOrderMark.isPrefixOf raw = false := by
  obtain ⟨_, _, written⟩ := bind_eq_ok.mp encoded
  have bytes := orRaise_eq_ok.mp written
  rw [sorted, compact] at bytes
  unfold encodeUtf8 at bytes
  split at bytes
  · have same := Option.some.inj bytes
    rw [← same]
    rfl
  · cases bytes

end Writing

section RoundTrip

variable {interpreter : Interpreter} {payload : List (Points × Value)} {raw : List UInt8}

/-- The encoding of a document is decoded as the fields that were written. -/
theorem decodeJson_written {source : Raw} {limit : Option Nat} {written : List (Points × Value)}
    (regular : Regular interpreter.floatText (.dict written))
    (bytes : encodeUtf8 (compact interpreter.floatText (.dict written)) = some raw)
    (mark : byteOrderMark.isPrefixOf raw = false) (carried : wire source = some raw)
    (fits : ∀ bound ∈ limit, raw.length ≤ bound) (within : depth (.dict written) ≤ interpreter.readRoom) :
    decodeJson interpreter source limit = .ok written := by
  have text := strictUtf8_encode (compact_valid regular) bytes
  have read := readText_compact interpreter.floats regular within
  exact bind_eq_ok.mpr ⟨raw, orRaise_eq_ok.mpr carried, bind_eq_ok.mpr ⟨(), require_eq_ok.mpr ⟨fits, mark⟩,
    bind_eq_ok.mpr ⟨_, orRaise_eq_ok.mpr text, bind_eq_ok.mpr ⟨_, mapError_eq_ok.mpr read, rfl⟩⟩⟩⟩

/-- What is decoded can be written, and was read within the limit. -/
theorem decodeJson_regular {limit : Option Nat} (decoded : decodeJson interpreter (.bytes raw) limit = .ok payload) :
    Regular interpreter.floatText (.dict payload) ∧ depth (.dict payload) ≤ interpreter.readRoom ∧
      ∀ bound ∈ limit, raw.length ≤ bound := by
  obtain ⟨content, carried, decoded⟩ := bind_eq_ok.mp decoded
  obtain ⟨_, fine, decoded⟩ := bind_eq_ok.mp decoded
  obtain ⟨text, unwrapped, decoded⟩ := bind_eq_ok.mp decoded
  obtain ⟨value, read, decoded⟩ := bind_eq_ok.mp decoded
  cases orRaise_eq_ok.mp carried
  obtain ⟨regular, within⟩ := readText_regular interpreter.floats (mapError_eq_ok.mp read)
    (strictUtf8_valid (orRaise_eq_ok.mp unwrapped)).1
  cases value with
  | dict fields =>
    cases decoded
    exact ⟨regular, within, (require_eq_ok.mp fine).1⟩
  | _ => cases decoded

theorem sorted_object (fields : List (Points × Value)) : ∃ written, sorted (.dict fields) = .dict written := by
  rw [sorted]
  exact ⟨_, rfl⟩

end RoundTrip

section Canonical

mutual

/-- A document as a value. -/
def ofJson : Json → Value
  | .null => .null
  | .bool value => .bool value
  | .int value => .int value
  | .float text => .float text
  | .str text => .str (points text)
  | .list items => .list (ofItems items)
  | .dict entries => .dict (ofFields entries)

def ofItems : List Json → List Value
  | [] => []
  | item :: items => ofJson item :: ofItems items

def ofFields : List (String × Json) → List (Points × Value)
  | [] => []
  | (name, value) :: fields => (points name, ofJson value) :: ofFields fields

end

theorem points_injective : Function.Injective points := by
  intro left right same
  rw [← ascii_points left, same, ascii_points]

mutual

theorem ofJson_injective (left right : Json) (same : ofJson left = ofJson right) : left = right := by
  cases left <;> cases right <;> simp only [ofJson, reduceCtorEq, Value.bool.injEq, Value.int.injEq, Value.float.injEq,
    Value.str.injEq, Value.list.injEq, Value.dict.injEq] at same
  · rfl
  · rw [same]
  · rw [same]
  · rw [same]
  · rw [points_injective same]
  · rw [ofItems_injective _ _ same]
  · rw [ofFields_injective _ _ same]

theorem ofItems_injective (left right : List Json) (same : ofItems left = ofItems right) : left = right := by
  cases left with
  | nil =>
    cases right with
    | nil => rfl
    | cons item items => cases same
  | cons item items =>
    cases right with
    | nil => cases same
    | cons other others =>
      rw [ofItems, ofItems] at same
      injection same with first later
      rw [ofJson_injective item other first, ofItems_injective items others later]

theorem ofFields_injective (left right : List (String × Json)) (same : ofFields left = ofFields right) : left = right := by
  cases left with
  | nil =>
    cases right with
    | nil => rfl
    | cons field fields => cases same
  | cons field fields =>
    cases right with
    | nil => cases same
    | cons other others =>
      obtain ⟨name, value⟩ := field
      obtain ⟨otherName, otherValue⟩ := other
      rw [ofFields, ofFields] at same
      injection same with first later
      injection first with names values
      rw [points_injective names, ofJson_injective value otherValue values, ofFields_injective fields others later]

end

theorem ofFields_eq (fields : List (String × Json)) : ofFields fields = fields.map fun field => (points field.1, ofJson field.2) := by
  induction fields with
  | nil => rw [ofFields, List.map_nil]
  | cons field fields ih =>
    obtain ⟨name, value⟩ := field
    rw [ofFields, ih, List.map_cons]

theorem pointsBefore_points {left right : String} (before : left ≤ right) :
    pointsBefore (points left) (points right) = true := by
  apply pointsBefore_chars
  intro less
  exact not_lt_of_ge before (String.lt_iff_toList_lt.mpr less)

theorem valid_names (fields : List (String × Json)) : ∀ entry ∈ ofFields fields, Valid entry.1 := by
  intro entry member
  rw [ofFields_eq] at member
  obtain ⟨field, _, same⟩ := List.mem_map.mp member
  rw [← same]
  exact valid_points field.1

variable {floatText : String → String}

/-- The names of an object with each name once say how it is sorted. -/
theorem sorted_unique {left right : List (Points × Value)} (once : (left.map Prod.fst).Nodup) (perm : left.Perm right)
    (leftUp : left.Pairwise fun first second => pointsBefore first.1 second.1 = true)
    (rightUp : right.Pairwise fun first second => pointsBefore first.1 second.1 = true) : left = right := by
  refine List.Perm.eq_of_pairwise (fun first second member member' before after => ?_) leftUp rightUp perm
  exact List.inj_on_of_nodup_map once member (perm.mem_iff.mpr member') (pointsBefore_antisymm before after)

/-- The order in which an object has its fields is lost. -/
theorem sorted_perm_eq {left right : List (Points × Value)} (once : (left.map Prod.fst).Nodup) (perm : left.Perm right) :
    sorted (.dict left) = sorted (.dict right) := by
  have names : (sortedFields left).map Prod.fst = left.map Prod.fst := by
    rw [sortedFields_eq, List.map_map]
    rfl
  have parts : (sortedFields left).Perm (sortedFields right) := by
    rw [sortedFields_eq, sortedFields_eq]
    exact perm.map _
  have order := fun fields : List (Points × Value) =>
    List.mergeSort_perm fields fun first second => pointsBefore first.1 second.1
  have whole := ((order _).trans parts).trans (order (sortedFields right)).symm
  rw [sorted, sorted]
  refine congrArg Value.dict (sorted_unique ?_ whole (fields_ordered _) (fields_ordered _))
  rw [((order _).map Prod.fst).nodup_iff, names]
  exact once

theorem proper_perm {left right : List (Points × Value)} (proper : Proper floatText (.dict left)) (perm : left.Perm right) :
    Proper floatText (.dict right) := by
  cases proper with
  | dict _ once valid each =>
    exact .dict right ((perm.map Prod.fst).nodup_iff.mp once) (fun entry member => valid entry (perm.mem_iff.mpr member))
      fun entry member => each entry (perm.mem_iff.mpr member)

mutual

/-- The canonical form of a document is its value with all names sorted. -/
theorem ofJson_canonical (document : Json) (proper : Proper floatText (ofJson document)) :
    ofJson document.canonical = sorted (ofJson document) := by
  cases document with
  | list items =>
    rw [ofJson] at proper
    cases proper with
    | list _ each =>
      rw [Json.canonical, ofJson, ofJson, sorted, ofItems_canonical items each]
  | dict entries =>
    rw [ofJson] at proper
    cases proper with
    | dict _ once valid each =>
      have fields := ofFields_canonical entries each
      have perm : (ofFields (byName (canonicalFields entries))).Perm (sortedFields (ofFields entries)) := by
        rw [← fields, ofFields_eq, ofFields_eq]
        exact (List.perm_insertionSort _ _).map _
      have names : (sortedFields (ofFields entries)).map Prod.fst = (ofFields entries).map Prod.fst := by
        rw [sortedFields_eq, List.map_map]
        rfl
      have up : (ofFields (byName (canonicalFields entries))).Pairwise
          fun first second => pointsBefore first.1 second.1 = true := by
        rw [ofFields_eq, List.pairwise_map]
        exact (List.pairwise_insertionSort _ _).imp pointsBefore_points
      rw [Json.canonical, ofJson, ofJson, sorted]
      refine congrArg Value.dict (sorted_unique ?_ (perm.trans (List.mergeSort_perm _ _).symm) up (fields_ordered _))
      rw [(perm.map Prod.fst).nodup_iff, names]
      exact once
  | _ => simp [Json.canonical, ofJson, sorted]

theorem ofItems_canonical (items : List Json) (each : ∀ item ∈ ofItems items, Proper floatText item) :
    ofItems (canonicalItems items) = sortedItems (ofItems items) := by
  cases items with
  | nil => rw [canonicalItems, ofItems, sortedItems]
  | cons item items =>
    rw [ofItems] at each
    rw [canonicalItems, ofItems, ofItems, sortedItems, ofJson_canonical item (each _ List.mem_cons_self),
      ofItems_canonical items fun other member => each other (List.mem_cons_of_mem _ member)]

theorem ofFields_canonical (entries : List (String × Json)) (each : ∀ entry ∈ ofFields entries, Proper floatText entry.2) :
    ofFields (canonicalFields entries) = sortedFields (ofFields entries) := by
  cases entries with
  | nil => rw [canonicalFields, ofFields, sortedFields]
  | cons entry entries =>
    obtain ⟨name, value⟩ := entry
    rw [ofFields] at each
    rw [canonicalFields, ofFields, ofFields, sortedFields, ofJson_canonical value (each _ List.mem_cons_self),
      ofFields_canonical entries fun other member => each other (List.mem_cons_of_mem _ member)]

end

/-- Two texts that are the same are read as the same value. -/
theorem compact_injective (floats : FloatWriter floatText) {left right : Value} (regular : Regular floatText left)
    (regular' : Regular floatText right) (same : compact floatText left = compact floatText right) : left = right := by
  have read := readText_compact floats regular (Nat.le_max_left (depth left) (depth right))
  have read' := readText_compact floats regular' (Nat.le_max_right (depth left) (depth right))
  rw [same, read'] at read
  exact (Except.ok.inj read).symm

end Canonical

section Samples

/-- An interpreter that writes one and a half, and nothing else. -/
def plainInterpreter : Interpreter where
  readRoom := 900
  writeRoom := 900
  floatText := fun numeral => if numeral = "1.5" then "1.5" else "0.0"
  floats := by
    have shape : ∀ numeral : String, (if numeral = "1.5" then "1.5" else "0.0") = "1.5" ∨
        (if numeral = "1.5" then "1.5" else "0.0") = "0.0" := fun numeral => by
      by_cases one : numeral = "1.5"
      · exact .inl (if_pos one)
      · exact .inr (if_neg one)
    refine ⟨fun numeral _ => ?_, fun numeral _ => ?_, fun numeral => ?_⟩
    · rcases shape numeral with same | same
      · rw [same]
        exact ⟨false, [49], [46, 53], [], rfl, .inr ⟨49, [], rfl, by decide, by decide⟩, .inr ⟨[53], rfl, by decide, by decide⟩,
          .inl rfl, .inl (by decide)⟩
      · rw [same]
        exact ⟨false, [48], [46, 48], [], rfl, .inl rfl, .inr ⟨[48], rfl, by decide, by decide⟩, .inl rfl, .inl (by decide)⟩
    · rcases shape numeral with same | same <;> rw [same] <;> decide
    · rcases shape numeral with same | same <;> rw [same] <;> decide

def sampleFields : List (String × Json) :=
  [("schema_version", .str "1"), ("ratio", .float "1.5"), ("items", .list [.int (-7), .null]), ("document_type", .str "é")]

def sampleSorted : List (Points × Value) :=
  [(points "document_type", .str [233]), (points "items", .list [.int (-7), .null]), (points "ratio", .float "1.5"),
    (points "schema_version", .str [49])]

theorem sample_sorted : sorted (.dict (ofFields sampleFields)) = .dict sampleSorted := by
  have written : (ofFields sampleFields).map (fun field => (field.1, sorted field.2)) = sampleSorted.reverse := by
    simp [ofFields, ofJson, ofItems, sampleFields, sampleSorted, sorted, sortedItems, points]
  have perm : ((sortedFields (ofFields sampleFields)).mergeSort fun left right => pointsBefore left.1 right.1).Perm sampleSorted := by
    have same := sorted_perm (ofFields sampleFields)
    rw [written] at same
    exact same.trans (List.reverse_perm sampleSorted)
  rw [sorted]
  refine congrArg Value.dict (sorted_unique ?_ perm (fields_ordered _) ?_)
  · rw [(perm.map Prod.fst).nodup_iff]
    decide
  · decide

theorem sample_proper : Proper plainInterpreter.floatText (.dict (ofFields sampleFields)) := by
  refine .dict _ (by decide) (valid_names sampleFields) ?_
  intro entry member
  simp only [sampleFields, ofFields, List.mem_cons, List.not_mem_nil, or_false] at member
  rcases member with same | same | same | same <;> rw [same]
  · exact .str _ (valid_points "1")
  · exact .float "1.5" rfl
  · refine .list _ fun item listed => ?_
    simp only [ofItems, List.mem_cons, List.not_mem_nil, or_false] at listed
    rcases listed with one | two
    · rw [one]
      exact .int (-7)
    · rw [two]
      exact .null
  · exact .str _ (valid_points "é")

def sampleBytes : List UInt8 := (compact plainInterpreter.floatText (.dict sampleSorted)).flatMap pointBytes

theorem sample_encoded : encodeJson plainInterpreter (ofFields sampleFields) = .ok sampleBytes := by
  unfold encodeJson
  dsimp only
  rw [sample_sorted]
  rfl

theorem sample_reversed : (ofFields sampleFields).Perm (ofFields sampleFields.reverse) := by
  rw [ofFields_eq, ofFields_eq]
  exact (List.reverse_perm _).symm.map _

theorem sample_encoded_reversed : encodeJson plainInterpreter (ofFields sampleFields.reverse) = .ok sampleBytes := by
  have same := sorted_perm_eq (by decide) sample_reversed
  rw [← sample_encoded]
  unfold encodeJson
  dsimp only
  rw [same]

end Samples

section Results

variable {interpreter : Interpreter} {payload : List (Points × Value)} {raw : List UInt8}

/-- What is encoded is decoded as the same fields in the order of their names, at every depth. -/
theorem decodeJson_encodeJson {source : Raw} {limit : Option Nat} (proper : Proper interpreter.floatText (.dict payload))
    (encoded : encodeJson interpreter payload = .ok raw) (carried : wire source = some raw)
    (fits : ∀ bound ∈ limit, raw.length ≤ bound) (within : depth (.dict payload) ≤ interpreter.readRoom) :
    ∃ decoded, decodeJson interpreter source limit = .ok decoded ∧ Value.dict decoded = sorted (.dict payload) := by
  obtain ⟨regular, bytes⟩ := encodeJson_eq_ok proper encoded
  obtain ⟨written, object⟩ := sorted_object payload
  rw [← depth_sorted] at within
  rw [object] at regular bytes within
  exact ⟨written, decodeJson_written regular bytes (encodeJson_start encoded) carried fits within, object.symm⟩

theorem sample_decoded :
    ∃ decoded, decodeJson plainInterpreter (.text (compact plainInterpreter.floatText (.dict sampleSorted))) (some 100) = .ok decoded ∧
      Value.dict decoded = sorted (.dict (ofFields sampleFields)) :=
  decodeJson_encodeJson sample_proper sample_encoded (by rfl) (by decide) (by decide)

/-- The documents that are accepted are the encodings of payloads with their names in order, and each is the encoding of
what it is read as. -/
theorem decodeDocument_accepts {documentType version : String} {limit : Nat} :
    decodeDocument interpreter raw documentType version limit = .ok payload ↔
      Proper interpreter.floatText (.dict payload) ∧ sorted (.dict payload) = .dict payload ∧
        encodeJson interpreter payload = .ok raw ∧ raw.length ≤ limit ∧ depth (.dict payload) ≤ interpreter.readRoom ∧
        carries payload "document_type" documentType = true ∧ carries payload "schema_version" version = true := by
  constructor
  · intro accepted
    obtain ⟨found, decoded, accepted⟩ := bind_eq_ok.mp accepted
    obtain ⟨_, named, accepted⟩ := bind_eq_ok.mp accepted
    obtain ⟨own, encoded, accepted⟩ := bind_eq_ok.mp accepted
    obtain ⟨_, canonical, same⟩ := bind_eq_ok.mp accepted
    cases same
    rw [require_eq_ok.mp canonical] at encoded
    obtain ⟨regular, within, fits⟩ := decodeJson_regular decoded
    have fits' := fits limit rfl
    -- the bytes are an encoding, so what is read from them is in order
    obtain ⟨sortedRegular, bytes⟩ := encodeJson_eq_ok regular.proper encoded
    obtain ⟨written, object⟩ := sorted_object payload
    have deep := within
    rw [← depth_sorted] at deep
    rw [object] at sortedRegular bytes deep
    have back := @decodeJson_written interpreter raw (.bytes raw) (some limit) written sortedRegular bytes
      (encodeJson_start encoded) rfl fits deep
    have same : payload = written := Except.ok.inj (decoded.symm.trans back)
    exact ⟨regular.proper, by rw [object, same], encoded, fits', within, (require_eq_ok.mp named).1, (require_eq_ok.mp named).2⟩
  · rintro ⟨proper, inOrder, encoded, fits, within, typed, versioned⟩
    obtain ⟨regular, bytes⟩ := encodeJson_eq_ok proper encoded
    rw [inOrder] at regular bytes
    have decoded := @decodeJson_written interpreter raw (.bytes raw) (some limit) payload regular bytes
      (encodeJson_start encoded) rfl (fun bound same => Option.some.inj same ▸ fits) within
    exact bind_eq_ok.mpr ⟨payload, decoded, bind_eq_ok.mpr ⟨(), require_eq_ok.mpr ⟨typed, versioned⟩,
      bind_eq_ok.mpr ⟨raw, encoded, bind_eq_ok.mpr ⟨(), require_eq_ok.mpr rfl, rfl⟩⟩⟩⟩

/-- Two payloads are encoded in the same bytes exactly when their canonical documents are the same. -/
theorem encodings_agree {interpreter : Interpreter} {left right : List (String × Json)} {leftRaw rightRaw : List UInt8}
    (proper : Proper interpreter.floatText (.dict (ofFields left))) (proper' : Proper interpreter.floatText (.dict (ofFields right)))
    (encoded : encodeJson interpreter (ofFields left) = .ok leftRaw)
    (encoded' : encodeJson interpreter (ofFields right) = .ok rightRaw) :
    leftRaw = rightRaw ↔ Codec.encodeJson (.dict left) = Codec.encodeJson (.dict right) := by
  have object : ∀ fields, ofJson (.dict fields) = .dict (ofFields fields) := fun fields => by rw [ofJson]
  have canonical := ofJson_canonical (.dict left) (by rw [object]; exact proper)
  have canonical' := ofJson_canonical (.dict right) (by rw [object]; exact proper')
  rw [object] at canonical canonical'
  unfold Codec.encodeJson
  constructor
  · intro same
    obtain ⟨regular, bytes⟩ := encodeJson_eq_ok proper encoded
    obtain ⟨regular', bytes'⟩ := encodeJson_eq_ok proper' encoded'
    have text := strictUtf8_encode (compact_valid regular) bytes
    have text' := strictUtf8_encode (compact_valid regular') bytes'
    rw [same, text'] at text
    have values := compact_injective interpreter.floats regular regular' (Option.some.inj text).symm
    exact ofJson_injective _ _ (canonical.trans (values.trans canonical'.symm))
  · intro same
    have values : sorted (.dict (ofFields left)) = sorted (.dict (ofFields right)) := by
      rw [← canonical, same, canonical']
    unfold encodeJson at encoded encoded'
    rw [values, encoded'] at encoded
    exact (Except.ok.inj encoded).symm

theorem sample_agrees : sampleBytes = sampleBytes ↔
    Codec.encodeJson (.dict sampleFields) = Codec.encodeJson (.dict sampleFields.reverse) :=
  encodings_agree sample_proper (proper_perm sample_proper sample_reversed) sample_encoded sample_encoded_reversed

end Results

end Jiejian.Protocol.Wire
