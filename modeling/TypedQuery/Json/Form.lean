import TypedQuery.Json
import TypedQuery.Decimal.Shortest
import TypedQuery.Text.Quoted
import TypedQuery.Vocabulary

/-!
# JSON forms

A type with a JSON form has a value written for each of its elements, and a
reader that says what is wrong with a value that is not of the form.
`LawfulForm` asks that every element is read back from what is written for it.

Records are read member by member, in their order.  A `Field` says how the member
with a certain name updates the record that is being read.  What is wrong with a
member does not depend on that record.  `overlay` starts from a record of
defaults and makes the updates of the members one after the other.  Members
without a field are ignored.  `overlayItems` does the same for a list that gives
the fields in their order, without their names.
-/

namespace TypedQuery

/-! ## Errors -/

/-- What is wrong with a JSON value that should have a certain form. -/
inductive FormError where
  /-- A record lacks a member. -/
  | missingMember (name : String)
  /-- A word is not in its vocabulary. -/
  | unknownWord (word : String) (known : List String)
  /-- A value is of another type than expected. -/
  | wrongType (found : Json) (expected : String)
  /-- A value is of the expected type, but not in the expected set. -/
  | wrongValue (found : Json) (expected : String)
  /-- A list is too long or too short. -/
  | wrongLength (length : Nat) (expected : String)
  deriving Repr

/-- How a value is named in a message. -/
def Json.description : Json → String
  | .null => "null"
  | .bool b => let word := if b then "true" else "false"; s!"boolean `{word}`"
  | .integer n => s!"integer `{Decimal.ofInt n}`"
  | .double x => s!"floating point `{x.text}`"
  | .text s => s!"string {Text.quoted s}"
  | .list _ => "sequence"
  | .record _ => "map"

namespace FormError

/-- A word in the quotes of messages. -/
def ticked (word : String) : String := s!"`{word}`"

/-- The words that would have been right. -/
def alternatives : List String → String
  | [a] => ticked a
  | [a, b] => s!"{ticked a} or {ticked b}"
  | words => "one of " ++ ", ".intercalate (words.map ticked)

/-- The wording of an error. -/
def message : FormError → String
  | missingMember name => s!"missing field {ticked name}"
  | unknownWord word known => s!"unknown variant {ticked word}, expected {alternatives known}"
  | wrongType found expected => s!"invalid type: {found.description}, expected {expected}"
  | wrongValue found expected => s!"invalid value: {found.description}, expected {expected}"
  | wrongLength length expected => s!"invalid length {Decimal.ofNat length}, expected {expected}"

end FormError

/-- Either an element or what is wrong with its JSON form. -/
abbrev Formed (α : Type) := Except FormError α

/-! ## Forms -/

/-- A type with a JSON form. -/
class JsonForm (α : Type) where
  toJson : α → Json
  ofJson : Json → Formed α

export JsonForm (toJson ofJson)

/-- What is written is read back. -/
class LawfulForm (α : Type) [JsonForm α] : Prop where
  ofJson_toJson : ∀ a : α, ofJson (toJson a) = .ok a

export LawfulForm (ofJson_toJson)

instance : JsonForm String where
  toJson := .text
  ofJson
    | .text s => .ok s
    | found => .error (.wrongType found "a string")

instance : LawfulForm String := ⟨fun _ => rfl⟩

instance : JsonForm Bool where
  toJson := .bool
  ofJson
    | .bool b => .ok b
    | found => .error (.wrongType found "a boolean")

instance : LawfulForm Bool := ⟨fun _ => rfl⟩

/-- A character is written as a string of its own. -/
instance : JsonForm Char where
  toJson c := .text (String.singleton c)
  ofJson
    | .text s =>
      match s.toList with
      | [c] => .ok c
      | _ => .error (.wrongValue (.text s) "a character")
    | found => .error (.wrongType found "a character")

instance : LawfulForm Char := ⟨fun c => by simp [toJson, ofJson]⟩

instance : JsonForm Int64 where
  toJson n := .integer n.toInt
  ofJson
    | .integer n =>
      if Decimal.fitsInt64 n then .ok (Int64.ofInt n) else .error (.wrongValue (.integer n) "i64")
    | found => .error (.wrongType found "i64")

instance : LawfulForm Int64 :=
  ⟨fun n => by simp [toJson, ofJson, Decimal.fitsInt64_toInt]⟩

instance : JsonForm UInt64 where
  toJson n := .integer n.toNat
  ofJson
    | .integer n =>
      if Decimal.fitsUInt64 n then .ok (UInt64.ofNat n.toNat)
      else .error (.wrongValue (.integer n) "usize")
    | found => .error (.wrongType found "usize")

instance : LawfulForm UInt64 :=
  ⟨fun n => by simp [toJson, ofJson, Decimal.fitsUInt64_toNat]⟩

instance {α : Type} [JsonForm α] : JsonForm (List α) where
  toJson as := .list (as.map toJson)
  ofJson
    | .list items => items.mapM ofJson
    | found => .error (.wrongType found "a sequence")

theorem mapM_ofJson_toJson {α : Type} [JsonForm α] [LawfulForm α] (as : List α) :
    (as.map toJson).mapM (ofJson : Json → Formed α) = .ok as := by
  induction as with
  | nil => rfl
  | cons a as ih => simp only [List.map_cons, List.mapM_cons, ofJson_toJson, ih]; rfl

instance {α : Type} [JsonForm α] [LawfulForm α] : LawfulForm (List α) :=
  ⟨mapM_ofJson_toJson⟩

/-! ## Words -/

namespace Vocabulary

variable {α : Type} [Vocabulary α]

/-- The member that a word names. -/
def ofWord (word : String) : Formed α :=
  match ofWord? word with
  | some a => .ok a
  | none => .error (.unknownWord word (words α))

/-- The member of a closed set that a tag names, which is a string with its word. -/
def ofTag : Json → Formed α
  | .text word => ofWord word
  | found => .error (.wrongType found "variant identifier")

/-- The member of a closed set that a JSON value names: a string with its word, or a
record with the word as its only name and `null` as its value. -/
def ofJson : Json → Formed α
  | .text word => ofWord word
  | .record [(word, payload)] => do
    let a ← ofWord word
    match payload with
    | .null => return a
    | found => throw (.wrongType found "unit")
  | .record members => .error (.wrongValue (.record members) "map with a single key")
  | found => .error (.wrongType found "string or map")

end Vocabulary

/-- A member of a closed set is written as its word. -/
instance {α : Type} [Vocabulary α] : JsonForm α where
  toJson a := .text (Vocabulary.word a)
  ofJson := Vocabulary.ofJson

theorem Vocabulary.ofWord_word {α : Type} [Vocabulary α] [LawfulVocabulary α] (a : α) :
    ofWord (word a) = .ok a := by
  rw [ofWord, ofWord?_word]

instance {α : Type} [Vocabulary α] [LawfulVocabulary α] : LawfulForm α := ⟨Vocabulary.ofWord_word⟩

/-! ## Records -/

/-- A member of the JSON form of a record, by its name: what is written for it, and how
reading it updates a record. -/
structure Field (ρ : Type) where
  name : String
  write : ρ → Json
  read : Json → Formed (ρ → ρ)

namespace Field

variable {ρ : Type}

/-- The field that holds a part of a record. -/
def of {α : Type} [JsonForm α] (name : String) (get : ρ → α) (set : α → ρ → ρ) : Field ρ where
  name := name
  write r := toJson (get r)
  read j := (ofJson j).map set

/-- The members that are written for a record. -/
def members (fields : List (Field ρ)) (r : ρ) : List (String × Json) :=
  fields.map fun f => (f.name, f.write r)

/-- How a member updates a record. -/
def update (fields : List (Field ρ)) (member : String × Json) : Formed (ρ → ρ) :=
  match fields.find? (·.name == member.1) with
  | some f => f.read member.2
  | none => .ok id

/-- Reads members into a record, one after the other. -/
def overlay (fields : List (Field ρ)) (base : ρ) (members : List (String × Json)) : Formed ρ :=
  members.foldlM (fun r member => (update fields member).map fun u => u r) base

/-- Reads the items of a list into the fields of a record, one after the other, and gives
the number of items that have no field. -/
def overlayItems (base : ρ) : List (Field ρ) → List Json → Formed (ρ × Nat)
  | f :: fields, item :: items => do
    let u ← f.read item
    overlayItems (u base) fields items
  | _, items => .ok (base, items.length)

theorem overlay_append (fields : List (Field ρ)) (base : ρ) (ms ns : List (String × Json)) :
    overlay fields base (ms ++ ns) =
      (overlay fields base ms).bind fun r => overlay fields r ns := by
  simp only [overlay, List.foldlM_append]
  rfl

/-- Members without a field change nothing. -/
theorem overlay_of_foreign {fields : List (Field ρ)} {ms : List (String × Json)}
    (h : ∀ m ∈ ms, fields.find? (·.name == m.1) = none) (base : ρ) :
    overlay fields base ms = .ok base := by
  induction ms with
  | nil => rfl
  | cons m rest ih =>
    have hm := h m (by simp)
    simp only [overlay, List.foldlM_cons, update, hm]
    exact ih fun n hn => h n (by simp [hn])

end Field

end TypedQuery
