import Jiejian.Library.Document

namespace Jiejian.Protocol.Codec
open Library.Document

/-- The digest that content addresses are made of. `sha256` is applied to an encoding only, and
`short` keeps the first 32 of its digits; no two encodings share a shortened digest. -/
structure Digest where
  sha256 : Json → String
  short : String → String
  collisionFree : ∀ left right, short (sha256 left) = short (sha256 right) → left = right

/-- `encode_json`: the bytes are determined by the document with its names sorted. -/
def encodeJson (payload : Json) : Json :=
  payload.canonical

/-- `canonical_sha256`. -/
def canonicalSha256 (digest : Digest) (payload : Json) : String :=
  digest.sha256 (encodeJson payload)

def contentHash (digest : Digest) (domain : String) (value : Json) : String :=
  canonicalSha256 digest (.dict [("kind", .str domain), ("facts", value)])

/-- `prefix + content_hash(domain, value)[:32]`. -/
def contentId (digest : Digest) (label domain : String) (value : Json) : String :=
  label ++ digest.short (contentHash digest domain value)

/-- Equal content hashes of one domain were made from the same encoding. -/
theorem contentHash_injective {digest : Digest} {domain : String} {left right : Json}
    (same : contentHash digest domain left = contentHash digest domain right) : left.canonical = right.canonical := by
  have documents := digest.collisionFree _ _ (congrArg digest.short same)
  have facts := field_of_canonical_eq documents "facts"
  simpa using facts

/-- Content hashes of different domains differ. -/
theorem contentHash_domain {digest : Digest} {domain domain' : String} {left right : Json}
    (same : contentHash digest domain left = contentHash digest domain' right) : domain = domain' := by
  have documents := digest.collisionFree _ _ (congrArg digest.short same)
  have kinds := field_of_canonical_eq documents "kind"
  simpa using kinds

/-- Equal content ids of one domain were made from the same encoding. -/
theorem contentId_injective {digest : Digest} {label domain : String} {left right : Json}
    (same : contentId digest label domain left = contentId digest label domain right) :
    left.canonical = right.canonical := by
  have shortened := (String.append_right_inj label).mp same
  have documents := digest.collisionFree _ _ shortened
  have facts := field_of_canonical_eq documents "facts"
  simpa using facts

/-- A value a schema may leave out: `none` is written as `null`. -/
def nullable {α : Type} (write : α → Json) : Option α → Json
  | none => .null
  | some value => write value

/-- `exclude_if`: a field that is written only when it has a value. -/
def optionalField {α : Type} (name : String) (write : α → Json) : Option α → List (String × Json)
  | none => []
  | some value => [(name, write value)]

def strings (values : List String) : Json :=
  .list (values.map .str)

def natural (value : Nat) : Json :=
  .int value

/-- A digest without collisions: every document is its own digest. -/
def textDigest : Digest where
  sha256 := Json.text
  short := id
  collisionFree := fun _ _ same => text_injective same

end Jiejian.Protocol.Codec
