import TypedQuery.Json.Token

/-!
# Reading JSON

A document is read token by token.  A state says which tokens may come next and
holds the containers that are still open, the innermost first.  A document is
complete when a value stands alone and nothing is open.

Containers nest at most 127 deep.  Of several members with one name the last
counts, and the members of a record are put in the order of their names.
-/

namespace TypedQuery.Json

/-- The greatest number of containers inside each other. -/
def maxDepth : Nat := 127

/-- A container that is still open. -/
inductive Frame where
  /-- A list with its items so far, the last first. -/
  | list (items : List Json)
  /-- A record with its members so far and the name of the member that is being read. -/
  | record (members : List (String × Json)) (name : String)

/-- What has been read of a document, by what may come next. -/
inductive State where
  /-- A value. -/
  | value (stack : List Frame)
  /-- The first item of a list, or its end. -/
  | firstItem (stack : List Frame)
  /-- The name of the first member of a record, or its end. -/
  | firstName (stack : List Frame)
  /-- The name of another member. -/
  | nextName (stack : List Frame) (members : List (String × Json))
  /-- The colon behind the name of a member. -/
  | colon (stack : List Frame) (members : List (String × Json)) (name : String)
  /-- What follows a value: a comma, the end of its container, or the end of the
  document. -/
  | after (stack : List Frame) (value : Json)

namespace State

/-- Reads a token where a value is due. -/
def stepValue (stack : List Frame) : Token → Option State
  | .scalar scalar => some (after stack scalar)
  | .openList => if stack.length < maxDepth then some (firstItem stack) else none
  | .openRecord => if stack.length < maxDepth then some (firstName stack) else none
  | _ => none

/-- Reads a token that follows a value. -/
def stepAfter (last : Json) : List Frame → Token → Option State
  | .list items :: stack, .comma => some (value (.list (last :: items) :: stack))
  | .list items :: stack, .closeList => some (after stack (.list (last :: items).reverse))
  | .record members name :: stack, .comma =>
    some (nextName stack (insertMember name last members))
  | .record members name :: stack, .closeRecord =>
    some (after stack (.record (insertMember name last members)))
  | _, _ => none

/-- Reads a token. -/
def step : State → Token → Option State
  | value stack, token => stepValue stack token
  | firstItem stack, .closeList => some (after stack (.list []))
  | firstItem stack, token => stepValue (.list [] :: stack) token
  | firstName stack, .closeRecord => some (after stack (.record []))
  | firstName stack, .scalar (.text name) => some (colon stack [] name)
  | nextName stack members, .scalar (.text name) => some (colon stack members name)
  | colon stack members name, .colon => some (value (.record members name :: stack))
  | after stack last, token => stepAfter last stack token
  | _, _ => none

/-- The document, if it is complete. -/
def document? : State → Option Json
  | after [] last => some last
  | _ => none

end State

/-- The document that a sequence of tokens stands for. -/
def ofTokens? (tokens : List Token) : Option Json := do
  (← tokens.foldlM State.step (.value [])).document?

/-- The document in a text, unless the text is not JSON. -/
def ofText? (text : String) : Option Json := do
  ofTokens? (← Token.ofChars? text.toList)

end TypedQuery.Json
