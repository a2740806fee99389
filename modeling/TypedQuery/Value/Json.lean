import TypedQuery.Json.Pair
import TypedQuery.Value

/-!
# The JSON form of values

A value is written as a record with its kind under `type` and its content under
`value`.  When read, the two may also come as a list, whose first item is the
word of the kind and nothing else.

* A list of strings is a list, and so is a list of sort keys.
* A sort key is a record of `field` and `direction`, or the list of the two.
* A search term is a record of `term` and `position`.
* A range is a record of `min` and `max`.
-/

namespace TypedQuery

/-! ## Sort keys -/

namespace SortKey

/-- Reads a sort key. -/
def ofJson : Json → Formed SortKey
  | .record members => do
    let (field, direction) ← Json.readPair "field" "direction" members
    return ⟨field, direction⟩
  | .list (field :: direction :: more) => do
    let key : SortKey := ⟨← JsonForm.ofJson field, ← JsonForm.ofJson direction⟩
    if more.isEmpty then return key
    else throw (.wrongLength (more.length + 2) "fewer elements in array")
  | .list [field] => do
    let _ : String ← JsonForm.ofJson field
    throw (.wrongLength 1 "struct SortItem with 2 elements")
  | .list [] => .error (.wrongLength 0 "struct SortItem with 2 elements")
  | found => .error (.wrongType found "struct SortItem")

instance : JsonForm SortKey where
  toJson key := Json.pair "field" "direction" key.field key.direction
  ofJson := ofJson

end SortKey

/-! ## Terms -/

instance : JsonForm Term where
  toJson term := Json.pair "term" "position" term.text term.anchor
  ofJson
    | .record members => do
      let (text, anchor) ← Json.readPair "term" "position" members
      return ⟨text, anchor⟩
    | found => .error (.wrongType found "struct variant ParameterValue::SearchString")

/-! ## Values -/

namespace Value

/-- The content of a value. -/
def content : Value → Json
  | .strings items => toJson items
  | .search term => toJson term
  | .sort keys => toJson keys
  | .range low high => Json.pair "min" "max" low high
  | .integer n => toJson n
  | .boolean b => toJson b

/-- Reads the content of a value of a kind. -/
def ofContent (content : Json) : Kind → Formed Value
  | .strings => (ofJson content).map .strings
  | .search => (ofJson content).map .search
  | .sort => (ofJson content).map .sort
  | .range =>
    match content with
    | .record members => do
      let (low, high) ← Json.readPair "min" "max" members
      return .range low high
    | found => .error (.wrongType found "struct variant ParameterValue::IntegerRange")
  | .integer => (ofJson content).map .integer
  | .boolean => (ofJson content).map .boolean

/-- Reads a value. -/
def ofJson : Json → Formed Value
  | .record members => do
    let kind ← JsonForm.ofJson (← Json.required "type" (members.lookup "type"))
    ofContent (← Json.required "value" (members.lookup "value")) kind
  | .list (tag :: content :: more) => do
    let value ← ofContent content (← Vocabulary.ofTag tag)
    if more.isEmpty then return value
    else throw (.wrongLength (more.length + 2) "fewer elements in array")
  | .list [tag] => do
    let _ : Kind ← Vocabulary.ofTag tag
    throw (.wrongLength 1 "adjacently tagged enum ParameterValue")
  | .list [] => .error (.wrongLength 0 "adjacently tagged enum ParameterValue")
  | found => .error (.wrongType found "adjacently tagged enum ParameterValue")

instance : JsonForm Value where
  toJson v := .record [("type", toJson v.kind), ("value", v.content)]
  ofJson := ofJson

example : (ofJson (toJson (Value.integer 7))).toOption = some (.integer 7) := by decide

end Value

end TypedQuery
