import Std.Data.HashMap
import TypedQuery.Parameter

/-!
# Registries

A registry holds the parameters of a service in the order in which they were
first registered, together with the settings that take queries apart.  An index
from names to positions finds a parameter by its name.

A name is registered once.  Registering it again replaces the parameter at its
place and keeps the order.
-/

namespace TypedQuery

/-- The parameters of a service. -/
structure Registry where
  settings : Settings
  /-- In the order of their first registration. -/
  parameters : Array Parameter
  /-- The position of each name. -/
  index : Std.HashMap String Nat

namespace Registry

/-- A registry without parameters. -/
def empty (settings : Settings) : Registry := ⟨settings, #[], ∅⟩

instance : Inhabited Registry := ⟨empty .default⟩

/-- The number of parameters. -/
def size (r : Registry) : Nat := r.parameters.size

/-- Whether no parameter is registered. -/
def isEmpty (r : Registry) : Bool := r.parameters.isEmpty

/-- The parameter with a name. -/
def find? (r : Registry) (name : String) : Option Parameter := do
  r.parameters[← r.index[name]?]?

/-- Registers a parameter, in the place of the one with the same name if there is one. -/
def register (r : Registry) (d : Declaration) : Registry :=
  match r.index[d.name]? with
  | some position =>
    { r with parameters := r.parameters.setIfInBounds position (.fresh d) }
  | none =>
    { r with
      parameters := r.parameters.push (.fresh d)
      index := r.index.insert d.name r.parameters.size }

/-- Registers parameters one after the other. -/
def registerAll (r : Registry) (ds : List Declaration) : Registry :=
  ds.foldl register r

/-- Forgets all that has been read. -/
def reset (r : Registry) : Registry :=
  { r with parameters := r.parameters.map Parameter.reset }

/-- The number of parameters with a usable value. -/
def parsedCount (r : Registry) : Nat :=
  r.parameters.countP Parameter.parsed

@[simp] theorem settings_register (r : Registry) (d : Declaration) :
    (r.register d).settings = r.settings := by
  unfold register; split <;> rfl

end Registry

end TypedQuery
