import TypedQuery.Kind
import TypedQuery.Term
import TypedQuery.SortKey

/-!
# Values

The value of a parameter, one shape per kind.
-/

namespace TypedQuery

/-- The value of a parameter. -/
inductive Value where
  /-- Strings, in the order of the query. -/
  | strings (items : List String)
  /-- A search term. -/
  | search (term : Term)
  /-- Fields to sort by, the most significant first. -/
  | sort (keys : List SortKey)
  /-- A range of integers, ends included. -/
  | range (low high : Int64)
  /-- An integer. -/
  | integer (n : Int64)
  /-- A truth value. -/
  | boolean (b : Bool)
  deriving DecidableEq, Repr

/-- The kind of parameter that has such values. -/
def Value.kind : Value → Kind
  | .strings _ => .strings
  | .search _ => .search
  | .sort _ => .sort
  | .range _ _ => .range
  | .integer _ => .integer
  | .boolean _ => .boolean

end TypedQuery
