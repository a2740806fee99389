import TypedQuery.Json
import TypedQuery.Decimal.Shortest

/-!
# Writing JSON

The compact form of a document: no blanks between tokens, members in their
order.  In strings only the double quote, the backslash and the control
characters below the space are escaped.
-/

namespace TypedQuery.Json

/-- The two hexadecimal digits of a number below 256. -/
def hexPair (n : Nat) : List Char :=
  [Nat.digitChar (n / 16), Nat.digitChar (n % 16)]

/-- A character as it is written in a string. -/
def escape (c : Char) : List Char :=
  if c = '"' ∨ c = '\\' then ['\\', c]
  else if c = '\x08' then ['\\', 'b']
  else if c = '\t' then ['\\', 't']
  else if c = '\n' then ['\\', 'n']
  else if c = '\x0c' then ['\\', 'f']
  else if c = '\r' then ['\\', 'r']
  else if c < ' ' then ['\\', 'u', '0', '0'] ++ hexPair c.toNat
  else [c]

/-- A string in its written form. -/
def quote (s : String) : String :=
  String.ofList ('"' :: s.toList.flatMap escape ++ ['"'])

mutual

/-- The compact form of a value. -/
def compact : Json → String
  | .null => "null"
  | .bool true => "true"
  | .bool false => "false"
  | .integer n => Decimal.ofInt n
  | .double x => x.text
  | .text s => quote s
  | .list items => "[" ++ ",".intercalate (compactItems items) ++ "]"
  | .record members => "\x7b" ++ ",".intercalate (compactMembers members) ++ "\x7d"

/-- The compact forms of the items of a list. -/
def compactItems : List Json → List String
  | [] => []
  | item :: rest => item.compact :: compactItems rest

/-- The compact forms of the members of a record. -/
def compactMembers : List (String × Json) → List String
  | [] => []
  | (name, value) :: rest => (quote name ++ ":" ++ value.compact) :: compactMembers rest

end

example : quote "a\"\n\x01é" = "\"a\\\"\\n\\u0001é\"" := by decide

end TypedQuery.Json
