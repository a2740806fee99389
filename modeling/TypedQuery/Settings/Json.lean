import TypedQuery.Json.Form
import TypedQuery.Settings

/-!
# The JSON form of settings

Settings are written as a record of nine members.  When read, a record may leave
out any of them, which then have their defaults.  A list gives the first of them
in their order and may end at any point.
-/

namespace TypedQuery.Settings

/-- The members of settings, in their order. -/
def fields : List (Field Settings) :=
  [ .of "query_separator" querySeparator fun c s => { s with querySeparator := c },
    .of "parameter_separator" pairSeparator fun c s => { s with pairSeparator := c },
    .of "key_value_separator" valueSeparator fun c s => { s with valueSeparator := c },
    .of "list_separator" listSeparator fun c s => { s with listSeparator := c },
    .of "range_separator" rangeSeparator fun c s => { s with rangeSeparator := c },
    .of "sort_modifier" sortModifier fun c s => { s with sortModifier := c },
    .of "wildcard" wildcard fun c s => { s with wildcard := c },
    .of "min_length" minLength fun n s => { s with minLength := n },
    .of "max_length" maxLength fun n s => { s with maxLength := n } ]

/-- Reads settings on top of the defaults. -/
def ofJson : Json → Formed Settings
  | .record members => Field.overlay fields default members
  | .list items => do
    let (s, more) ← Field.overlayItems default fields items
    if more = 0 then return s
    else throw (.wrongLength items.length "fewer elements in array")
  | found => .error (.wrongType found "struct ParserConfig")

instance : JsonForm Settings where
  toJson s := .record (Field.members fields s)
  ofJson := ofJson

end TypedQuery.Settings
