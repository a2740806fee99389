import TypedQuery.Proofs.Registry.Index
import TypedQuery.Proofs.Registry.Origin
import TypedQuery.Registry.Lookup

/-!
# What is handed out by name

A value is asked for by the name and the kind of its parameter.  What comes back
depends on two things that are stored apart: the kind that was declared, and the
shape of the value.  `Gives` says which getter hands out which shape, and
`Reachable.gives_of_usable` that in a reachable registry the two agree: the
getter for the shape of a usable value returns it.
-/

namespace TypedQuery

namespace Parameter

theorem usable_eq_some_iff {p : Parameter} {value : Value} :
    p.usable = some value ↔ p.parsed = true ∧ p.value = some value := by
  simp [usable]

theorem exists_rule_of_integer {p : Parameter} (h : p.kind = .integer) :
    ∃ rule, p.declaration.rule = .integer rule := by
  unfold kind Declaration.kind at h
  cases hrule : p.declaration.rule with
  | integer rule => exact ⟨rule, rfl⟩
  | _ =>
    rw [hrule] at h
    cases h

theorem integer?_of_usable {p : Parameter} {rule : IntegerRule}
    (hrule : p.declaration.rule = .integer rule) {n : Int64}
    (h : p.usable = some (.integer n)) : p.integer? = some n := by
  simp [integer?, hrule, h]

end Parameter

namespace Registry

/-- The value is handed out under a name, by the getter for its shape. -/
def Gives (r : Registry) (name : String) : Value → Prop
  | .strings items => r.strings name = .ok (some items)
  | .search term => r.search name = .ok (some term)
  | .sort keys => r.sort name = .ok (some keys)
  | .range low high => r.range name = .ok (some (low, high))
  | .integer n => r.integer name = .ok n
  | .boolean b => r.boolean name = .ok (some b)

section

variable {r : Registry} {p : Parameter}

/-- A registered name is found if it is asked for with its kind. -/
theorem Indexed.findOfKind_of_mem (h : r.Indexed) (hp : p ∈ r.parameters) :
    r.findOfKind p.name p.kind = .ok p := by
  have hfind : r.find? p.name = some p := h.find?_eq_some_iff.mpr ⟨hp, rfl⟩
  simp [findOfKind, hfind]

theorem Indexed.lookup_of_mem (h : r.Indexed) (hp : p ∈ r.parameters) {α : Type}
    (shape? : Value → Option α) : r.lookup p.kind shape? p.name = .ok (p.usable.bind shape?) := by
  rw [lookup, h.findOfKind_of_mem hp]
  rfl

theorem Indexed.integer_of_mem (h : r.Indexed) (hp : p ∈ r.parameters) (hkind : p.kind = .integer)
    {n : Int64} (hn : p.integer? = some n) : r.integer p.name = .ok n := by
  have hfind := h.findOfKind_of_mem hp
  rw [hkind] at hfind
  simp [integer, hfind, bind, Except.bind, hn, pure, Except.pure]

/-- A value is one that the rule of its parameter allows, and so of the declared kind. -/
theorem Reachable.allows_value (hr : r.Reachable) (hp : p ∈ r.parameters) {value : Value}
    (hvalue : p.value = some value) :
    p.declaration.rule.Allows value ∧ value.kind = p.kind :=
  have hsound := (hr.readFrom hp).sound
  ⟨hsound.allows value hvalue, hsound.kind value hvalue⟩

/-- A usable value is handed out by the getter for its shape. -/
theorem Reachable.gives_of_usable (hr : r.Reachable) (hp : p ∈ r.parameters) {value : Value}
    (hvalue : p.usable = some value) : r.Gives p.name value := by
  have hkind := (hr.allows_value hp (Parameter.usable_eq_some_iff.mp hvalue).2).2
  have hlookup := fun (α : Type) (shape? : Value → Option α) =>
    hr.indexed.lookup_of_mem hp shape?
  rw [← hkind, hvalue] at hlookup
  cases value with
  | strings items => exact hlookup _ _
  | search term => exact hlookup _ _
  | sort keys => exact hlookup _ _
  | range low high => exact hlookup _ _
  | boolean b => exact hlookup _ _
  | integer n =>
    -- An integer has a fallback, and so a getter of its own.
    obtain ⟨rule, hrule⟩ := Parameter.exists_rule_of_integer hkind.symm
    exact hr.indexed.integer_of_mem hp hkind.symm (Parameter.integer?_of_usable hrule hvalue)

end

end Registry

end TypedQuery
