import TypedQuery.Settings

/-!
# The parts of settings

Settings have nine parts, seven characters and two lengths, in a fixed order.  A
part holds a value of its own content, and settings are nothing but the values of
their parts: `get_ofParts` and `ext_get` say that the two determine each other.
So what is to be said about each part can be said once.
-/

namespace TypedQuery.Settings

/-- What a part of settings holds. -/
inductive Content where
  | character
  | length

/-- The values of a content. -/
def Content.Value : Content → Type
  | .character => Char
  | .length => UInt64

/-- A part of settings. -/
inductive Part where
  | querySeparator
  | pairSeparator
  | valueSeparator
  | listSeparator
  | rangeSeparator
  | sortModifier
  | wildcard
  | minLength
  | maxLength
  deriving DecidableEq

namespace Part

/-- The parts of settings, in their order. -/
def all : List Part :=
  [.querySeparator, .pairSeparator, .valueSeparator, .listSeparator, .rangeSeparator,
    .sortModifier, .wildcard, .minLength, .maxLength]

theorem mem_all (part : Part) : part ∈ all := by
  cases part <;> decide

/-- What a part holds. -/
def content : Part → Content
  | .minLength | .maxLength => .length
  | _ => .character

/-- The values of a part. -/
abbrev Value (part : Part) : Type :=
  part.content.Value

/-- The value of a part in settings. -/
def get : (part : Part) → Settings → part.Value
  | .querySeparator => Settings.querySeparator
  | .pairSeparator => Settings.pairSeparator
  | .valueSeparator => Settings.valueSeparator
  | .listSeparator => Settings.listSeparator
  | .rangeSeparator => Settings.rangeSeparator
  | .sortModifier => Settings.sortModifier
  | .wildcard => Settings.wildcard
  | .minLength => Settings.minLength
  | .maxLength => Settings.maxLength

end Part

/-- The settings of given parts. -/
def ofParts (value : (part : Part) → part.Value) : Settings where
  querySeparator := value .querySeparator
  pairSeparator := value .pairSeparator
  valueSeparator := value .valueSeparator
  listSeparator := value .listSeparator
  rangeSeparator := value .rangeSeparator
  sortModifier := value .sortModifier
  wildcard := value .wildcard
  minLength := value .minLength
  maxLength := value .maxLength

@[simp] theorem get_ofParts (value : (part : Part) → part.Value) (part : Part) :
    part.get (ofParts value) = value part := by
  cases part <;> rfl

@[simp] theorem ofParts_get (s : Settings) : (ofParts fun part => part.get s) = s :=
  rfl

/-- Settings that agree in their parts are the same. -/
theorem ext_get {s t : Settings} (h : ∀ part : Part, part.get s = part.get t) : s = t := by
  rw [← ofParts_get s, ← ofParts_get t, funext h]

end TypedQuery.Settings
