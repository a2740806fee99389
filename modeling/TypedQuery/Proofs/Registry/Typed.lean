import TypedQuery.Clause
import TypedQuery.Proofs.Registry.Getters

/-!
# Getters are typed

Asking for a value fails for two reasons: the name is not registered, or the
parameter is of another kind.  A getter is *typed* if it fails for these reasons
and for no other (`Typed`).  That a name is looked up first and the kind checked
before anything else makes all getters typed, once they are known to succeed for
parameters of their kind (`Indexed.typed`).

A getter of optional values *reports* what is stored if it returns the value of
every parsed parameter, and nothing for the others (`Reports`).  The getters look
at the shape of a value and have nothing to return for a wrong one.  In a
reachable registry that does not happen, since a parsed parameter holds a value
of its own kind.

`Reachable.getters_typed` says this of all seven getters.
-/

namespace TypedQuery

namespace Parameter

variable {p : Parameter} {rule : IntegerRule}

theorem usable_of_unparsed (h : p.parsed = false) : p.usable = none := by
  simp [usable, h]

theorem integer?_of_unparsed (hrule : p.declaration.rule = .integer rule)
    (h : p.parsed = false) : p.integer? = some rule.fallback := by
  simp [integer?, hrule, usable_of_unparsed h]

/-- A parameter for an integer always has one. -/
theorem exists_integer? (h : p.kind = .integer) : ∃ n, p.integer? = some n := by
  obtain ⟨rule, hrule⟩ := exists_rule_of_integer h
  cases husable : p.usable with
  | none => exact ⟨rule.fallback, by simp [integer?, hrule, husable]⟩
  | some value =>
    cases value with
    | integer n => exact ⟨n, integer?_of_usable hrule husable⟩
    | _ => exact ⟨rule.fallback, by simp [integer?, hrule, husable]⟩

end Parameter

namespace Registry

/-! ## How a getter fails -/

section

variable {α : Type} {r : Registry} {kind : Kind} {name : String} {p : Parameter}

/-- A getter for parameters of a kind.  It fails for a name that is not registered and for a
parameter of another kind, and for nothing else. -/
structure Typed (r : Registry) (kind : Kind) (get : String → Except QueryError α) : Prop where
  unknownName_iff : ∀ name, get name = .error (.unknownName name) ↔ name ∉ r.names
  otherKind_iff : ∀ name found, get name = .error (.otherKind name kind found) ↔
    ∃ p ∈ r.parameters, p.name = name ∧ p.kind = found ∧ found ≠ kind
  ok_iff : ∀ name, (∃ a, get name = .ok a) ↔ ∃ p ∈ r.parameters, p.name = name ∧ p.kind = kind

theorem Indexed.findOfKind_of_not_mem (h : r.Indexed) (hname : name ∉ r.names) (kind : Kind) :
    r.findOfKind name kind = .error (.unknownName name) := by
  rw [findOfKind, h.find?_eq_none_iff.mpr hname]

theorem Indexed.findOfKind_of_ne (h : r.Indexed) (hp : p ∈ r.parameters) (hkind : p.kind ≠ kind) :
    r.findOfKind p.name kind = .error (.otherKind p.name kind p.kind) := by
  have hfind : r.find? p.name = some p := h.find?_eq_some_iff.mpr ⟨hp, rfl⟩
  simp [findOfKind, hfind, hkind]

theorem kind_of_findOfKind (h : r.findOfKind name kind = .ok p) : p.kind = kind := by
  unfold findOfKind at h
  split at h
  · cases h
  · split at h
    · cases h
      assumption
    · cases h

/-- A getter that fails where the parameter is not found, and succeeds for all parameters of the
kind, is typed. -/
theorem Indexed.typed (h : r.Indexed) {get : String → Except QueryError α}
    (herror : ∀ name e, r.findOfKind name kind = .error e → get name = .error e)
    (hok : ∀ p ∈ r.parameters, p.kind = kind → ∃ a, get p.name = .ok a) : r.Typed kind get := by
  have hunknown : ∀ name, name ∉ r.names → get name = .error (.unknownName name) :=
    fun name hname => herror name _ (h.findOfKind_of_not_mem hname kind)
  have hother : ∀ p ∈ r.parameters, p.kind ≠ kind →
      get p.name = .error (.otherKind p.name kind p.kind) :=
    fun p hp hkind => herror p.name _ (h.findOfKind_of_ne hp hkind)
  have hcases : ∀ name, name ∉ r.names ∨ ∃ p ∈ r.parameters, p.name = name := by
    intro name
    rw [← mem_names]
    exact (Classical.em _).symm
  constructor
  · intro name
    refine ⟨?_, hunknown name⟩
    intro hget hname
    obtain ⟨p, hp, rfl⟩ := mem_names.mp hname
    by_cases hkind : p.kind = kind
    · obtain ⟨a, ha⟩ := hok p hp hkind
      cases ha.symm.trans hget
    · cases (hother p hp hkind).symm.trans hget
  · intro name found
    constructor
    · intro hget
      rcases hcases name with hname | ⟨p, hp, rfl⟩
      · cases (hunknown name hname).symm.trans hget
      · by_cases hkind : p.kind = kind
        · obtain ⟨a, ha⟩ := hok p hp hkind
          cases ha.symm.trans hget
        · cases (hother p hp hkind).symm.trans hget
          exact ⟨p, hp, rfl, rfl, hkind⟩
    · rintro ⟨p, hp, rfl, rfl, hkind⟩
      exact hother p hp hkind
  · intro name
    constructor
    · rintro ⟨a, ha⟩
      rcases hcases name with hname | ⟨p, hp, rfl⟩
      · cases (hunknown name hname).symm.trans ha
      · by_cases hkind : p.kind = kind
        · exact ⟨p, hp, rfl, hkind⟩
        · cases (hother p hp hkind).symm.trans ha
    · rintro ⟨p, hp, rfl, hkind⟩
      exact hok p hp hkind

end

/-! ## What a getter returns -/

section

variable {α : Type} {r : Registry} {kind : Kind} {p : Parameter}

/-- A getter of optional values returns what a parameter holds if the parameter is parsed, and
nothing otherwise. -/
structure Reports (r : Registry) (kind : Kind) (value : α → Value)
    (get : String → Except QueryError (Option α)) : Prop extends Typed r kind get where
  parsed : ∀ p ∈ r.parameters, p.kind = kind → p.parsed = true →
    ∃ a, p.value = some (value a) ∧ get p.name = .ok (some a)
  unparsed : ∀ p ∈ r.parameters, p.kind = kind → p.parsed = false → get p.name = .ok none

/-- A parsed parameter holds a value of its kind. -/
theorem Reachable.exists_value (hr : r.Reachable) (hp : p ∈ r.parameters)
    (hparsed : p.parsed = true) :
    ∃ value, p.value = some value ∧ p.usable = some value ∧ value.kind = p.kind := by
  have hsound := (hr.readFrom hp).sound
  obtain ⟨value, hvalue⟩ := Option.isSome_iff_exists.mp (hsound.value_of_parsed hparsed)
  have husable := Parameter.usable_eq_some_iff.mpr ⟨hparsed, hvalue⟩
  exact ⟨value, hvalue, husable, (hr.allows_value hp hvalue).2⟩

/-- Looking up a value reports what is stored if its shape is the one of the kind. -/
theorem Reachable.reports_lookup (hr : r.Reachable) {value : α → Value}
    {shape? : Value → Option α}
    (hshape : ∀ v : Value, v.kind = kind → ∃ a, value a = v ∧ shape? v = some a) :
    r.Reports kind value (r.lookup kind shape?) := by
  have hlookup : ∀ p ∈ r.parameters, p.kind = kind →
      r.lookup kind shape? p.name = .ok (p.usable.bind shape?) := by
    rintro p hp rfl
    exact hr.indexed.lookup_of_mem hp shape?
  refine ⟨hr.indexed.typed ?_ ?_, ?_, ?_⟩
  · intro name e he
    rw [lookup, he]
    rfl
  · intro p hp hkind
    exact ⟨_, hlookup p hp hkind⟩
  · intro p hp hkind hparsed
    obtain ⟨v, hvalue, husable, hv⟩ := hr.exists_value hp hparsed
    obtain ⟨a, rfl, ha⟩ := hshape v (hv.trans hkind)
    refine ⟨a, hvalue, ?_⟩
    rw [hlookup p hp hkind, husable, Option.bind_some, ha]
  · intro p hp hkind hparsed
    rw [hlookup p hp hkind, Parameter.usable_of_unparsed hparsed]
    rfl

theorem Indexed.sortTokens_of_mem (h : r.Indexed) (hp : p ∈ r.parameters)
    (hkind : p.kind = .sort) : r.sortTokens p.name = .ok p.sortTokens := by
  have hfind := h.findOfKind_of_mem hp
  rw [hkind] at hfind
  rw [sortTokens, hfind]
  rfl

/-- Getters fail exactly for names that are not registered and for parameters of another kind.
Otherwise they return what is stored if the parameter is parsed.  If it is not parsed they return
nothing, or the fallback of an integer.  So they never meet a value of the wrong shape. -/
theorem Reachable.getters_typed (hr : r.Reachable) :
    r.Reports .boolean .boolean r.boolean ∧
    r.Reports .strings .strings r.strings ∧
    r.Reports .search .search r.search ∧
    r.Reports .range (fun ends => .range ends.1 ends.2) r.range ∧
    r.Reports .sort .sort r.sort ∧
    r.Typed .integer r.integer ∧
    r.Typed .sort r.sortTokens ∧
    (∀ p ∈ r.parameters, ∀ rule, p.declaration.rule = .integer rule →
      (p.parsed = true → ∃ n, p.value = some (.integer n) ∧ r.integer p.name = .ok n) ∧
      (p.parsed = false → r.integer p.name = .ok rule.fallback)) ∧
    (∀ p ∈ r.parameters, ∀ rule, p.declaration.rule = .sort rule →
      (p.parsed = true → ∃ keys, p.value = some (.sort keys) ∧
        r.sortTokens p.name = .ok (keys.map (SortKey.token rule.modifier))) ∧
      (p.parsed = false → r.sortTokens p.name = .ok [])) ∧
    ∀ name p, r.findOfKind name .integer = .ok p → p.integer? ≠ none := by
  have h := hr.indexed
  have hkind : ∀ {p : Parameter} {rule : Rule}, p.declaration.rule = rule → p.kind = rule.kind :=
    fun hrule => congrArg Rule.kind hrule
  refine ⟨?_, ?_, ?_, ?_, ?_, ?_, ?_, ?_, ?_, ?_⟩
  · apply hr.reports_lookup
    -- Each of these kinds leaves one shape to a value.
    rintro (_ | _ | _ | _ | _ | b) hv <;> cases hv
    exact ⟨b, rfl, rfl⟩
  · apply hr.reports_lookup
    rintro (items | _ | _ | _ | _ | _) hv <;> cases hv
    exact ⟨items, rfl, rfl⟩
  · apply hr.reports_lookup
    rintro (_ | term | _ | _ | _ | _) hv <;> cases hv
    exact ⟨term, rfl, rfl⟩
  · apply hr.reports_lookup
    rintro (_ | _ | _ | ⟨low, high⟩ | _ | _) hv <;> cases hv
    exact ⟨(low, high), rfl, rfl⟩
  · apply hr.reports_lookup
    rintro (_ | _ | keys | _ | _ | _) hv <;> cases hv
    exact ⟨keys, rfl, rfl⟩
  · refine h.typed (fun name e he => ?_) (fun p hp hp' => ?_)
    · rw [integer, he]
      rfl
    · obtain ⟨n, hn⟩ := Parameter.exists_integer? hp'
      exact ⟨n, h.integer_of_mem hp hp' hn⟩
  · refine h.typed (fun name e he => ?_) (fun p hp hp' => ⟨_, h.sortTokens_of_mem hp hp'⟩)
    rw [sortTokens, he]
    rfl
  · intro p hp rule hrule
    constructor
    · intro hparsed
      obtain ⟨value, hvalue, husable, hv⟩ := hr.exists_value hp hparsed
      rw [hkind hrule] at hv
      cases value with
      | integer n =>
        have hn := Parameter.integer?_of_usable hrule husable
        exact ⟨n, hvalue, h.integer_of_mem hp (hkind hrule) hn⟩
      | _ => cases hv
    · intro hparsed
      exact h.integer_of_mem hp (hkind hrule) (Parameter.integer?_of_unparsed hrule hparsed)
  · intro p hp rule hrule
    rw [h.sortTokens_of_mem hp (hkind hrule)]
    constructor
    · intro hparsed
      obtain ⟨value, hvalue, husable, hv⟩ := hr.exists_value hp hparsed
      rw [hkind hrule] at hv
      cases value with
      | sort keys => exact ⟨keys, hvalue, by simp [Parameter.sortTokens, hrule, husable]⟩
      | _ => cases hv
    · intro hparsed
      simp [Parameter.sortTokens, Parameter.usable_of_unparsed hparsed]
  · intro name p hfind hnone
    obtain ⟨n, hn⟩ := Parameter.exists_integer? (kind_of_findOfKind hfind)
    cases hn.symm.trans hnone

theorem getters_typed_cut :
    let d : Declaration := ⟨"q", none, true, .should, .search ⟨'*', 1, 3⟩⟩
    let r := (empty .default).run [.register d, .read "q=*gamma*"]
    r.search "q" = .ok (some ⟨"gam", .anywhere⟩) ∧
      r.boolean "q" = .error (.otherKind "q" .boolean .search) ∧
      r.range "x" = .error (.unknownName "x") := by
  intro d r
  have hr : r.Reachable := (Reachable.empty .default).run _
  have hparameters : r.parameters = #[⟨d, ⟨true, some (.search ⟨"gam", .anywhere⟩)⟩⟩] := by
    have hread : r.parameters = #[((Parameter.fresh d).read "*gamma*").2] :=
      parameters_read_single (by decide) (by decide) (by decide)
    rw [hread]
    decide
  have hp : ⟨d, ⟨true, some (.search ⟨"gam", .anywhere⟩)⟩⟩ ∈ r.parameters := by
    simp [hparameters]
  have hunknown : "x" ∉ r.names := by
    simp [mem_names, hparameters, Parameter.name, d]
  obtain ⟨hboolean, -, hsearch, hrange, -⟩ := hr.getters_typed
  obtain ⟨term, hvalue, hget⟩ := hsearch.parsed _ hp rfl rfl
  cases hvalue
  exact ⟨hget, (hboolean.otherKind_iff "q" .search).mpr ⟨_, hp, rfl, rfl, by decide⟩,
    (hrange.unknownName_iff "x").mpr hunknown⟩

end

end Registry

end TypedQuery
