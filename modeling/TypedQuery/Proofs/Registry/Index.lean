import Mathlib.Data.List.Induction
import Mathlib.Data.List.Nodup
import TypedQuery.Proofs.Registry.Run

/-!
# The index of a registry

A registry keeps its parameters in a list and finds them by an index from names
to positions.  A registry is *indexed* if the index has a name at a position
exactly when the parameter at that position has the name.  Names are then
distinct, since a name has one position, and no position in the index is beyond
the end of the list.

Every step keeps a registry indexed (`Indexed.step`), so all reachable
registries are.  `run_refines_registrations` adds what the list holds: the names
in the order in which they were first registered, each with the declaration that
was registered for it last.
-/

namespace TypedQuery.Registry

/-! ## The invariant -/

/-- The index and the list of parameters agree. -/
def Indexed (r : Registry) : Prop :=
  ∀ (name : String) (i : Nat), r.index[name]? = some i ↔ r.names[i]? = some name

theorem Indexed.of_alike {r r' : Registry} (h : r.Indexed) (halike : r'.Alike r) :
    r'.Indexed := by
  intro name i
  rw [halike.index, halike.names]
  exact h name i

theorem names_getElem? (r : Registry) (i : Nat) :
    r.names[i]? = (r.parameters[i]?).map Parameter.name := by
  simp [names, declarations, Function.comp_def]
  rfl

theorem length_names (r : Registry) : r.names.length = r.parameters.size := by
  simp [names, declarations]

theorem mem_names {r : Registry} {name : String} :
    name ∈ r.names ↔ ∃ p ∈ r.parameters, p.name = name := by
  simp [names, declarations, Parameter.name]

namespace Indexed

variable {r : Registry}

theorem index_eq_none_iff (h : r.Indexed) {name : String} :
    r.index[name]? = none ↔ name ∉ r.names := by
  rw [Option.eq_none_iff_forall_ne_some, List.mem_iff_getElem?, not_exists]
  exact forall_congr' fun i => not_congr (h name i)

theorem lt_size (h : r.Indexed) {name : String} {i : Nat} (hi : r.index[name]? = some i) :
    i < r.parameters.size := by
  have hname := (h name i).mp hi
  rw [← length_names]
  exact (List.getElem?_eq_some_iff.mp hname).1

/-- The index in terms of the parameters themselves. -/
theorem index_eq_some_iff (h : r.Indexed) {name : String} {i : Nat} :
    r.index[name]? = some i ↔ ∃ hi : i < r.parameters.size, r.parameters[i].name = name := by
  rw [h name i, names_getElem?, Option.map_eq_some_iff]
  constructor
  · rintro ⟨p, hp, rfl⟩
    obtain ⟨hi, rfl⟩ := Array.getElem?_eq_some_iff.mp hp
    exact ⟨hi, rfl⟩
  · rintro ⟨hi, rfl⟩
    exact ⟨r.parameters[i], Array.getElem?_eq_getElem hi, rfl⟩

/-- A name has one position. -/
theorem nodup_names (h : r.Indexed) : r.names.Nodup := by
  rw [List.nodup_iff_getElem?_ne_getElem?]
  intro i j hij hj heq
  have hname : r.names[j]? = some r.names[j] := List.getElem?_eq_getElem hj
  have hi := (h _ i).mpr (heq.trans hname)
  have hj' := (h _ j).mpr hname
  have : i = j := Option.some.inj (hi.symm.trans hj')
  omega

/-- Looking up a name finds the one parameter that has it. -/
theorem find?_eq_some_iff (h : r.Indexed) {name : String} {p : Parameter} :
    r.find? name = some p ↔ p ∈ r.parameters ∧ p.name = name := by
  simp only [find?, Option.bind_eq_bind, Option.bind_eq_some_iff]
  constructor
  · rintro ⟨i, hi, hp⟩
    have hname := (h name i).mp hi
    rw [names_getElem?, hp] at hname
    exact ⟨Array.mem_of_getElem? hp, Option.some.inj hname⟩
  · rintro ⟨hp, rfl⟩
    obtain ⟨i, hi⟩ := Array.mem_iff_getElem?.mp hp
    refine ⟨i, (h p.name i).mpr ?_, hi⟩
    rw [names_getElem?, hi]
    rfl

theorem find?_eq_none_iff (h : r.Indexed) {name : String} :
    r.find? name = none ↔ name ∉ r.names := by
  rw [mem_names, Option.eq_none_iff_forall_ne_some]
  constructor
  · rintro hnone ⟨p, hp, hname⟩
    exact hnone p (h.find?_eq_some_iff.mpr ⟨hp, hname⟩)
  · intro hno p hp
    exact hno ⟨p, h.find?_eq_some_iff.mp hp⟩

/-- No two parameters have the same name. -/
theorem eq_of_name_eq (h : r.Indexed) {p q : Parameter} (hp : p ∈ r.parameters)
    (hq : q ∈ r.parameters) (hname : p.name = q.name) : p = q := by
  have hfind : r.find? q.name = some p := h.find?_eq_some_iff.mpr ⟨hp, hname⟩
  have hfind' : r.find? q.name = some q := h.find?_eq_some_iff.mpr ⟨hq, rfl⟩
  exact Option.some.inj (hfind.symm.trans hfind')

end Indexed

/-! ## Registering -/

variable {r : Registry} {d : Declaration}

theorem parameters_register_of_some {i : Nat} (hi : r.index[d.name]? = some i) :
    (r.register d).parameters = r.parameters.setIfInBounds i (.fresh d) := by
  simp only [register, hi]

theorem index_register_of_some {i : Nat} (hi : r.index[d.name]? = some i) :
    (r.register d).index = r.index := by
  simp only [register, hi]

theorem declarations_register_of_some {i : Nat} (hi : r.index[d.name]? = some i) :
    (r.register d).declarations = r.declarations.set i d := by
  rw [declarations, parameters_register_of_some hi, Array.toList_setIfInBounds, List.map_set]
  rfl

theorem declarations_register_of_none (hi : r.index[d.name]? = none) :
    (r.register d).declarations = r.declarations ++ [d] := by
  simp [declarations, register, hi, Parameter.fresh]

theorem index_register_of_none (hi : r.index[d.name]? = none) :
    (r.register d).index = r.index.insert d.name r.names.length := by
  simp only [register, hi, length_names]

/-- Registering a name again changes no name. -/
theorem names_register_of_some (h : r.Indexed) {i : Nat} (hi : r.index[d.name]? = some i) :
    (r.register d).names = r.names := by
  obtain ⟨hlt, hname⟩ := List.getElem?_eq_some_iff.mp ((h d.name i).mp hi)
  rw [names, declarations_register_of_some hi, List.map_set]
  show r.names.set i d.name = r.names
  rw [← hname, List.set_getElem_self]

theorem names_register_of_none (hi : r.index[d.name]? = none) :
    (r.register d).names = r.names ++ [d.name] := by
  rw [names, declarations_register_of_none hi, List.map_append]
  rfl

theorem indexed_empty (s : Settings) : (empty s).Indexed := by
  intro name i
  simp [empty, names, declarations]

/-- Registering keeps a registry indexed. -/
theorem Indexed.register (h : r.Indexed) (d : Declaration) : (r.register d).Indexed := by
  intro name i
  cases hi : r.index[d.name]? with
  | some position =>
    rw [index_register_of_some hi, names_register_of_some h hi]
    exact h name i
  | none =>
    rw [index_register_of_none hi, names_register_of_none hi, Std.HashMap.getElem?_insert]
    have hnew : d.name ∉ r.names := h.index_eq_none_iff.mp hi
    by_cases hname : d.name = name
    · -- The new name stands at the end, and nowhere before it.
      subst hname
      simp only [beq_self_eq_true, ↓reduceIte, Option.some.injEq]
      constructor
      · rintro rfl
        simp
      · intro hget
        rcases Nat.lt_trichotomy i r.names.length with hlt | heq | hgt
        · rw [List.getElem?_append_left hlt] at hget
          exact absurd (List.mem_of_getElem? hget) hnew
        · exact heq.symm
        · rw [List.getElem?_eq_none (by simp; omega)] at hget
          exact absurd hget (by simp)
    · -- The other names stand where they stood.
      simp only [beq_iff_eq, hname, ↓reduceIte]
      rw [h name i]
      rcases Nat.lt_trichotomy i r.names.length with hlt | heq | hgt
      · rw [List.getElem?_append_left hlt]
      · subst heq
        simp [hname]
      · rw [List.getElem?_eq_none (by omega), List.getElem?_eq_none (by simp; omega)]

/-- Every step keeps a registry indexed. -/
theorem Indexed.step (h : r.Indexed) (a : Step) : (r.step a).Indexed := by
  cases a with
  | register d => exact h.register d
  | read input => exact h.of_alike (r.alike_read input)
  | reset => exact h.of_alike r.alike_reset

theorem Reachable.indexed (hr : r.Reachable) : r.Indexed := by
  induction hr with
  | empty s => exact indexed_empty s
  | step a _ ih => exact ih.step a

/-! ## What the list holds -/

/-- The declarations that stand after registrations: the names at their first places, each
with its last declaration. -/
structure Standing (registered held : List Declaration) : Prop where
  names : held.map Declaration.name = (registered.map Declaration.name).eraseDups
  last : ∀ d ∈ held, ∃ before after,
    registered = before ++ d :: after ∧ ∀ later ∈ after, later.name ≠ d.name

/-- A declaration stays the last of its name when another name is registered. -/
theorem Standing.last_append {registered held : List Declaration}
    (h : Standing registered held) {d new : Declaration} (hd : d ∈ held)
    (hne : new.name ≠ d.name) :
    ∃ before after, registered ++ [new] = before ++ d :: after ∧
      ∀ later ∈ after, later.name ≠ d.name := by
  obtain ⟨before, after, rfl, hafter⟩ := h.last d hd
  refine ⟨before, after ++ [new], by simp, ?_⟩
  intro later hlater
  rcases List.mem_append.mp hlater with hmem | hmem
  · exact hafter later hmem
  · rw [List.mem_singleton.mp hmem]
    exact hne

/-- One registration more. -/
theorem Standing.register {registered : List Declaration} (hindexed : r.Indexed)
    (h : Standing registered r.declarations) (d : Declaration) :
    Standing (registered ++ [d]) (r.register d).declarations := by
  have hnames : r.names = (registered.map Declaration.name).eraseDups := h.names
  have hmem : d.name ∈ registered.map Declaration.name ↔ d.name ∈ r.names := by
    rw [hnames, List.mem_eraseDups]
  have hlast : ∃ before after, registered ++ [d] = before ++ d :: after ∧
      ∀ later ∈ after, later.name ≠ d.name := ⟨registered, [], rfl, by simp⟩
  cases hi : r.index[d.name]? with
  | some i =>
    have hold : d.name ∈ r.names := List.mem_of_getElem? ((hindexed d.name i).mp hi)
    constructor
    · -- The name is not new, so that its second place does not count.
      rw [List.map_append, List.eraseDups_append, ← hnames]
      have hnone : ([d].map Declaration.name).removeAll (registered.map Declaration.name) = [] := by
        simpa [List.removeAll] using hmem.mpr hold
      rw [hnone, List.eraseDups_nil, List.append_nil]
      exact names_register_of_some hindexed hi
    · intro e he
      rw [declarations_register_of_some hi] at he
      obtain ⟨j, hj⟩ := List.mem_iff_getElem?.mp he
      rw [List.getElem?_set] at hj
      split at hj
      next hij =>
        split at hj
        · cases hj
          exact hlast
        · exact absurd hj (by simp)
      next hij =>
        refine h.last_append (List.mem_of_getElem? hj) ?_
        intro heq
        have hjname : r.names[j]? = some d.name := by
          rw [Registry.names, List.getElem?_map, hj, heq]
          rfl
        exact hij (Option.some.inj (hi.symm.trans ((hindexed d.name j).mpr hjname)))
  | none =>
    have hnew : d.name ∉ r.names := hindexed.index_eq_none_iff.mp hi
    constructor
    · rw [List.map_append, List.eraseDups_append, ← hnames]
      have hone : ([d].map Declaration.name).removeAll (registered.map Declaration.name)
          = [d.name] := by
        simpa [List.removeAll] using mt hmem.mp hnew
      rw [hone]
      exact names_register_of_none hi
    · intro e he
      rw [declarations_register_of_none hi] at he
      rcases List.mem_append.mp he with hmem' | hmem'
      · refine h.last_append hmem' ?_
        intro heq
        exact hnew (heq ▸ List.mem_map_of_mem hmem')
      · rw [List.mem_singleton.mp hmem']
        exact hlast

theorem indexed_registerAll (h : r.Indexed) (ds : List Declaration) :
    (r.registerAll ds).Indexed := by
  induction ds generalizing r with
  | nil => exact h
  | cons d ds ih => exact ih (h.register d)

theorem standing_registerAll (s : Settings) (ds : List Declaration) :
    Standing ds ((empty s).registerAll ds).declarations := by
  induction ds using List.reverseRecOn with
  | nil => exact ⟨rfl, by simp [registerAll, empty, declarations]⟩
  | append_singleton ds d ih =>
    have hindexed := indexed_registerAll (indexed_empty s) ds
    have hstep : (empty s).registerAll (ds ++ [d]) = ((empty s).registerAll ds).register d := by
      simp [registerAll, List.foldl_append]
    rw [hstep]
    exact ih.register hindexed d

theorem settings_registerAll (r : Registry) (ds : List Declaration) :
    (r.registerAll ds).settings = r.settings := by
  induction ds generalizing r with
  | nil => rfl
  | cons d ds ih => exact (ih (r.register d)).trans (r.settings_register d)

/-- Names that are new and distinct replace nothing. -/
theorem parameters_registerAll (h : r.Indexed) {ds : List Declaration}
    (hnodup : (ds.map Declaration.name).Nodup) (hnew : ∀ d ∈ ds, d.name ∉ r.names) :
    (r.registerAll ds).parameters.toList = r.parameters.toList ++ ds.map Parameter.fresh := by
  induction ds generalizing r with
  | nil => simp [registerAll]
  | cons d ds ih =>
    obtain ⟨hd, hrest⟩ := List.nodup_cons.mp hnodup
    have hnone : r.index[d.name]? = none :=
      h.index_eq_none_iff.mpr (hnew d List.mem_cons_self)
    have hparameters : (r.register d).parameters.toList = r.parameters.toList ++ [.fresh d] := by
      simp [register, hnone]
    have hnew' : ∀ e ∈ ds, e.name ∉ (r.register d).names := by
      intro e he
      rw [names_register_of_none hnone, List.mem_append, List.mem_singleton, not_or]
      exact ⟨hnew e (List.mem_cons_of_mem _ he), fun heq => hd (heq ▸ List.mem_map_of_mem he)⟩
    have hstep := ih (h.register d) hrest hnew'
    rw [hparameters, List.append_assoc] at hstep
    exact hstep

/-- Declarations of distinct names give a registry of just these parameters. -/
theorem parameters_registerAll_empty (s : Settings) {ds : List Declaration}
    (h : (ds.map Declaration.name).Nodup) :
    ((empty s).registerAll ds).parameters.toList = ds.map Parameter.fresh := by
  have hnew : ∀ d ∈ ds, d.name ∉ (empty s).names := by simp [empty, names, declarations]
  simpa [empty] using parameters_registerAll (indexed_empty s) h hnew

theorem declarations_registerAll_empty (s : Settings) {ds : List Declaration}
    (h : (ds.map Declaration.name).Nodup) : ((empty s).registerAll ds).declarations = ds := by
  simp [declarations, parameters_registerAll_empty s h, Function.comp_def, Parameter.fresh]

/-- Replacing a parameter resets it and leaves the others what and where they are. -/
theorem getElem?_register_of_some (h : r.Indexed) {i : Nat} (hi : r.index[d.name]? = some i)
    (j : Nat) :
    (r.register d).parameters[j]? = if j = i then some (.fresh d) else r.parameters[j]? := by
  rw [parameters_register_of_some hi, Array.getElem?_setIfInBounds]
  have hlt := h.lt_size hi
  by_cases hij : i = j
  · simp [hij, hij ▸ hlt]
  · simp [hij, Ne.symm hij]

/-- What a registry holds after a run is determined by the registrations of the run, whatever
else is done in between.  The index is in step with the list, also while a query is being read.
Registering a name again is felt at its place only. -/
theorem run_refines_registrations (s : Settings) (steps : List Step) :
    let r := (empty s).run steps
    (∀ (name : String) (i : Nat),
      r.index[name]? = some i ↔ ∃ hi : i < r.parameters.size, r.parameters[i].name = name) ∧
    r.names.Nodup ∧
    (∀ (name : String) (p : Parameter),
      r.find? name = some p ↔ p ∈ r.parameters ∧ p.name = name) ∧
    (∀ (pairs : List (String × String)) (name : String) (i : Nat),
      (r.reset.feed pairs).2.index[name]? = some i →
        i < (r.reset.feed pairs).2.parameters.size) ∧
    Standing (registrations steps) r.declarations ∧
    ∀ (d : Declaration) (i : Nat), r.index[d.name]? = some i →
      (r.register d).settings = r.settings ∧ (r.register d).index = r.index ∧
      ∀ j, (r.register d).parameters[j]? =
        if j = i then some (.fresh d) else r.parameters[j]? := by
  intro r
  have h : r.Indexed := ((Reachable.empty s).run steps).indexed
  refine ⟨?_, h.nodup_names, ?_, ?_, ?_, ?_⟩
  · intro name i
    exact h.index_eq_some_iff
  · intro name p
    exact h.find?_eq_some_iff
  · intro pairs name i hi
    have hfeed : (r.reset.feed pairs).2.Indexed :=
      h.of_alike ((r.reset.alike_feed pairs).trans r.alike_reset)
    exact hfeed.lt_size hi
  · have halike := alike_run (.refl (empty s)) steps
    rw [halike.declarations]
    exact standing_registerAll s (registrations steps)
  · intro d i hi
    exact ⟨r.settings_register d, index_register_of_some hi, getElem?_register_of_some h hi⟩

end TypedQuery.Registry
