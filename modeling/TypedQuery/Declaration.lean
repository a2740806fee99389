import TypedQuery.Occur
import TypedQuery.Rule

/-!
# Declarations

A declaration introduces a parameter: the key under which queries give it, how
its values are read, and how they take part in a full-text query.
-/

namespace TypedQuery

/-- A declared parameter. -/
structure Declaration where
  /-- The key in a query. -/
  name : String
  /-- The field that clauses are about, if it is not the name. -/
  output : Option String
  /-- Whether the parameter has clauses at all. -/
  included : Bool
  /-- How its clauses take part. -/
  occur : Occur
  /-- How its values are read. -/
  rule : Rule
  deriving DecidableEq, Repr

namespace Declaration

/-- An optional parameter whose field is its name. -/
def ofRule (name : String) (rule : Rule) : Declaration :=
  ⟨name, none, true, .should, rule⟩

/-- The field that clauses are about.  An empty field stands for the whole text that is
searched. -/
def field (d : Declaration) : String :=
  d.output.getD d.name

/-- The kind of parameter that is declared. -/
def kind (d : Declaration) : Kind :=
  d.rule.kind

end Declaration

end TypedQuery
