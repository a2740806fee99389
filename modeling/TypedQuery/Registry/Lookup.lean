import TypedQuery.Registry

/-!
# Looking up values

The values of a query are asked for by the name and the kind of a parameter.  It
is an error to ask for a name that is not registered, or for a parameter of
another kind.  The value of a parameter that the query does not give is `none`,
except that an integer has a fallback.
-/

namespace TypedQuery.Registry

/-- The parameter with a name, if it is of a kind. -/
def findOfKind (r : Registry) (name : String) (kind : Kind) : Except QueryError Parameter :=
  match r.find? name with
  | none => .error (.unknownName name)
  | some p => if p.kind = kind then .ok p else .error (.otherKind name kind p.kind)

/-- The usable value of a parameter of a kind, if it has the shape that is asked for. -/
def lookup {α : Type} (r : Registry) (kind : Kind) (shape? : Value → Option α) (name : String) :
    Except QueryError (Option α) :=
  (r.findOfKind name kind).map fun p => p.usable.bind shape?

/-- The integer of a parameter, or the fallback of its rule. -/
def integer (r : Registry) (name : String) : Except QueryError Int64 := do
  let p ← r.findOfKind name .integer
  match p.integer? with
  | some n => return n
  | none => throw (.otherKind name .integer p.kind)

/-- The truth value of a parameter. -/
def boolean (r : Registry) : String → Except QueryError (Option Bool) :=
  r.lookup .boolean fun | .boolean b => some b | _ => none

/-- The strings of a parameter. -/
def strings (r : Registry) : String → Except QueryError (Option (List String)) :=
  r.lookup .strings fun | .strings items => some items | _ => none

/-- The search term of a parameter. -/
def search (r : Registry) : String → Except QueryError (Option Term) :=
  r.lookup .search fun | .search term => some term | _ => none

/-- The range of a parameter. -/
def range (r : Registry) : String → Except QueryError (Option (Int64 × Int64)) :=
  r.lookup .range fun | .range low high => some (low, high) | _ => none

/-- The sort keys of a parameter. -/
def sort (r : Registry) : String → Except QueryError (Option (List SortKey)) :=
  r.lookup .sort fun | .sort keys => some keys | _ => none

end TypedQuery.Registry
