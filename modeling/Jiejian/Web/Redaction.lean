import Jiejian.Library.JsonText
import Jiejian.Library.Outcome
import Jiejian.Library.PercentEncoding
import Jiejian.Library.Substrings
import Jiejian.Errors

namespace Jiejian.Web.Redaction

open Library Library.JsonText Library.Outcome Errors

/-- What the regular expressions of the redaction find: the names of secrets, and the secrets inside a text. -/
structure Masks where
  sensitiveKey : Points → Bool
  masked : Points → Points

/-- The known secrets: as they are listed, and the distinct ones with the longest first. -/
structure KnownSecrets where
  listed : List String
  bySize : List String
  same : ∀ secret, secret ∈ bySize ↔ secret ∈ listed ∧ secret ≠ ""
  distinct : bySize.Nodup
  falling : bySize.Pairwise fun left right => right.length ≤ left.length

def KnownSecrets.none : KnownSecrets where
  listed := []
  bySize := []
  same := by simp
  distinct := List.nodup_nil
  falling := List.Pairwise.nil

def redactedText : String := "[REDACTED]"

/-- `_redact_bytes`. -/
def redactBytes (secrets : KnownSecrets) (content : List UInt8) : List UInt8 :=
  secrets.listed.foldl (fun content secret =>
    if secret = "" then content
    else Substrings.replace (PercentEncoding.encode secret.toList) (PercentEncoding.encode redactedText.toList) content)
    content

section Values

variable (masks : Masks)

mutual

/-- `redact`. -/
def redact : Value → Value
  | .str text => .str (masks.masked text)
  | .list items => .list (redactItems items)
  | .dict entries => .dict (redactFields entries)
  | value => value

def redactItems : List Value → List Value
  | [] => []
  | item :: items => redact item :: redactItems items

def redactFields : List (Points × Value) → List (Points × Value)
  | [] => []
  | (name, value) :: fields =>
    (name, if masks.sensitiveKey name then .str (points redactedText) else redact value) :: redactFields fields

end

mutual

/-- How deep `redact` calls itself; the value of a secret is not looked into. -/
def redactFrames : Value → Nat
  | .list items => itemFrames items + 1
  | .dict entries => fieldFrames entries + 1
  | _ => 1

def itemFrames : List Value → Nat
  | [] => 0
  | item :: items => max (redactFrames item) (itemFrames items)

def fieldFrames : List (Points × Value) → Nat
  | [] => 0
  | (name, value) :: fields =>
    max (if masks.sensitiveKey name then 0 else redactFrames value) (fieldFrames fields)

end

variable (secrets : KnownSecrets)

def replaceText (text : Points) : Points :=
  secrets.bySize.foldl (fun text secret => Substrings.replace (points secret) (points redactedText) text) text

mutual

/-- `replace`; two names that become one name have the later value. -/
def replaceKnown : Value → Value
  | .str text => .str (replaceText secrets text)
  | .list items => .list (replaceItems items)
  | .dict entries => .dict ((replaceFields entries).foldl (Table.put Prod.fst) [])
  | value => value

def replaceItems : List Value → List Value
  | [] => []
  | item :: items => replaceKnown item :: replaceItems items

def replaceFields : List (Points × Value) → List (Points × Value)
  | [] => []
  | (name, value) :: fields => (replaceText secrets name, replaceKnown value) :: replaceFields fields

end

/-- `redact_known_secrets`; both walks call themselves at most so often. -/
def redactKnownSecrets (frames : Nat) (value : Value) : Except Raised Value := do
  require (redactFrames masks value ≤ frames) .RecursionError
  require (depth (redact masks value) < frames) .RecursionError
  return replaceKnown secrets (redact masks value)

end Values

section Frames

variable {masks : Masks} {secrets : KnownSecrets}

theorem itemFrames_le {items : List Value} (each : ∀ item ∈ items, redactFrames masks item ≤ depth (redact masks item) + 1) :
    itemFrames masks items ≤ itemDepth (redactItems masks items) + 1 := by
  induction items with
  | nil =>
    rw [itemFrames]
    omega
  | cons item items ih =>
    have first := each item List.mem_cons_self
    have rest := ih fun other member => each other (List.mem_cons_of_mem _ member)
    rw [itemFrames, redactItems, itemDepth]
    omega

theorem fieldFrames_le {fields : List (Points × Value)}
    (each : ∀ field ∈ fields, redactFrames masks field.2 ≤ depth (redact masks field.2) + 1) :
    fieldFrames masks fields ≤ fieldDepth (redactFields masks fields) + 1 := by
  induction fields with
  | nil =>
    rw [fieldFrames]
    omega
  | cons field fields ih =>
    obtain ⟨name, value⟩ := field
    have first := each (name, value) List.mem_cons_self
    have rest := ih fun other member => each other (List.mem_cons_of_mem _ member)
    dsimp only at first
    rw [fieldFrames, redactFields, fieldDepth]
    by_cases secret : masks.sensitiveKey name = true
    · rw [if_pos secret, if_pos secret]
      omega
    · rw [if_neg secret, if_neg secret]
      omega

/-- Nothing that is redacted is looked into deeper than it stays. -/
theorem redactFrames_le (value : Value) : redactFrames masks value ≤ depth (redact masks value) + 1 := by
  induction value using value_induction with
  | list items ih =>
    have inner := itemFrames_le ih
    rw [redactFrames, redact, depth]
    omega
  | dict entries ih =>
    have inner := fieldFrames_le ih
    rw [redactFrames, redact, depth]
    omega
  | _ => simp [redactFrames]

/-- Redaction ends when what is left is not too deep. -/
theorem redactKnownSecrets_eq_ok {frames : Nat} {value result : Value} :
    redactKnownSecrets masks secrets frames value = .ok result ↔
      depth (redact masks value) < frames ∧ replaceKnown secrets (redact masks value) = result := by
  unfold redactKnownSecrets
  constructor
  · intro done
    obtain ⟨_, _, done⟩ := bind_eq_ok.mp done
    obtain ⟨_, shallow, same⟩ := bind_eq_ok.mp done
    exact ⟨require_eq_ok.mp shallow, Except.ok.inj same⟩
  · intro holds
    obtain ⟨shallow, same⟩ := holds
    have walked : redactFrames masks value ≤ frames := by
      have bounded := @redactFrames_le masks value
      omega
    exact bind_eq_ok.mpr ⟨(), require_eq_ok.mpr walked, bind_eq_ok.mpr ⟨(), require_eq_ok.mpr shallow, congrArg Except.ok same⟩⟩

end Frames

end Jiejian.Web.Redaction
