import TypedQuery.Settings
import TypedQuery.Decimal.Integer

/-!
# Settings from the environment

Each setting has a variable of its own, and a text that a variable stands at
while it is not set.  The variables count together or not at all: if one of them
is malformed, the default settings are used.

A character variable holds exactly one character.  A length is a number in
decimal, as `Decimal.uint64?` reads it.

The texts are written out here a second time, next to `Settings.default`.
`ofEnvironment?_empty` says that they are read as these settings.
-/

namespace TypedQuery

/-- The text of a variable, if it is set. -/
abbrev Environment := String → Option String

namespace Environment

/-- The only character of a text. -/
def onlyChar? (text : String) : Option Char :=
  match text.toList with
  | [c] => some c
  | _ => none

/-- The text of a variable that stands at some text while it is not set. -/
def textOf (env : Environment) (name standing : String) : String :=
  (env name).getD standing

/-- A variable that holds a character. -/
def char (env : Environment) (name standing : String) : Option Char :=
  onlyChar? (env.textOf name standing)

/-- A variable that holds a length. -/
def length (env : Environment) (name standing : String) : Option UInt64 :=
  Decimal.uint64? (env.textOf name standing)

end Environment

namespace Settings

/-- The settings that the variables give, if all of them are well formed. -/
def ofEnvironment? (env : Environment) : Option Settings := do
  return {
    querySeparator := ← env.char "QUERYSTRING_QUERY_SEPARATOR" "?"
    pairSeparator := ← env.char "QUERYSTRING_PARAMETER_SEPARATOR" "&"
    valueSeparator := ← env.char "QUERYSTRING_KEY_VALUE_SEPARATOR" "="
    listSeparator := ← env.char "QUERYSTRING_LIST_SEPARATOR" ","
    rangeSeparator := ← env.char "QUERYSTRING_RANGE_SEPARATOR" "-"
    sortModifier := ← env.char "QUERYSTRING_SORT_MODIFIER" "-"
    wildcard := ← env.char "QUERYSTRING_WILDCARD" "*"
    minLength := ← env.length "QUERYSTRING_MIN_LENGTH" "1"
    maxLength := ← env.length "QUERYSTRING_MAX_LENGTH" "100" }

/-- The settings of an environment. -/
def ofEnvironment (env : Environment) : Settings :=
  (ofEnvironment? env).getD default

/-- Variables that are not set stand at the default settings. -/
theorem ofEnvironment?_empty : ofEnvironment? (fun _ => none) = some default := by
  decide

end Settings

end TypedQuery
