import TypedQuery.Declaration
import TypedQuery.QueryError

/-!
# Parameters

A parameter is a declaration together with what the last query left: a reading.
The declaration never changes.
-/

namespace TypedQuery

/-- A declared parameter and what has been read for it. -/
structure Parameter where
  declaration : Declaration
  reading : Reading
  deriving DecidableEq, Repr

namespace Parameter

/-- A parameter for which nothing has been read. -/
def fresh (d : Declaration) : Parameter := ⟨d, .blank⟩

/-- The key in a query. -/
def name (p : Parameter) : String := p.declaration.name

/-- The kind of the parameter. -/
def kind (p : Parameter) : Kind := p.declaration.kind

/-- Whether a usable value has been read. -/
def parsed (p : Parameter) : Bool := p.reading.parsed

/-- The value that has been read, also if its text was not accepted. -/
def value (p : Parameter) : Option Value := p.reading.value

/-- The parameter with nothing read. -/
def reset (p : Parameter) : Parameter := { p with reading := .blank }

/-- Reads the text of a value.  Nothing is kept of what was read before. -/
def read (p : Parameter) (text : String) : Except QueryError Unit × Parameter :=
  match p.declaration.rule.read text with
  | (result, reading) => (result.mapError (.badValue p.name), { p with reading })

/-- The value that has been read, if it is usable. -/
def usable (p : Parameter) : Option Value :=
  if p.parsed then p.value else none

/-- The integer of the parameter: the one that has been read, or else the fallback of its
rule.  Parameters of other kinds have none. -/
def integer? (p : Parameter) : Option Int64 :=
  match p.declaration.rule, p.usable with
  | .integer _, some (.integer n) => some n
  | .integer rule, _ => some rule.fallback
  | _, _ => none

@[simp] theorem declaration_reset (p : Parameter) : p.reset.declaration = p.declaration := rfl

@[simp] theorem reset_fresh (d : Declaration) : (fresh d).reset = fresh d := rfl

theorem reset_eq_fresh (p : Parameter) : p.reset = fresh p.declaration := rfl

@[simp] theorem declaration_read (p : Parameter) (text : String) :
    (p.read text).2.declaration = p.declaration := rfl

end Parameter

end TypedQuery
