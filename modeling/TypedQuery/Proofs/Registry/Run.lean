import TypedQuery.Registry.Query

/-!
# Runs of a registry

A registry starts without parameters.  From then on three things are done to it,
in any order and any number of times: a parameter is registered, a query is
read, all that was read is forgotten.  A *run* is a list of such steps.  A
registry is *reachable* if a run leads to it.

Reading and forgetting change readings and nothing else.  The settings, the
index and the declarations stay as they are, whether or not the query is
accepted.  Two registries that agree in these three are *alike*, and
`alike_run` says what a run amounts to up to that: its registrations, one after
the other.

Registries that are alike read alike (`Alike.read_eq`), for a query is read with
nothing in mind of what was read before.  So no query of a run leaves a trace in
the next one, whatever became of it (`read_run`).
-/

namespace TypedQuery.Registry

/-! ## Steps -/

/-- What is done to a registry. -/
inductive Step where
  | register (d : Declaration)
  | read (input : String)
  | reset

/-- The registry after a step.  Whether a query is accepted does not matter. -/
def step (r : Registry) : Step → Registry
  | .register d => r.register d
  | .read input => (r.read input).2
  | .reset => r.reset

/-- The registry after a run. -/
def run (r : Registry) (steps : List Step) : Registry :=
  steps.foldl step r

/-- The declaration that a step registers. -/
def Step.declaration? : Step → Option Declaration
  | .register d => some d
  | .read _ => none
  | .reset => none

/-- The declarations that a run registers, in their order. -/
def registrations (steps : List Step) : List Declaration :=
  steps.filterMap Step.declaration?

/-- A registry to which a run leads. -/
inductive Reachable : Registry → Prop where
  | empty (s : Settings) : Reachable (empty s)
  | step (a : Step) : Reachable r → Reachable (r.step a)

theorem Reachable.run {r : Registry} (hr : r.Reachable) (steps : List Step) :
    (r.run steps).Reachable := by
  induction steps generalizing r with
  | nil => exact hr
  | cons a steps ih => exact ih (hr.step a)

/-! ## What reading keeps -/

section

variable {Q : Registry → Prop} {r : Registry}

/-- Pairs are fed value by value, so that feeding keeps what each of their values keeps. -/
theorem feed_keeps {pairs : List (String × String)}
    (hvalue : ∀ r name text, (name, text) ∈ pairs → Q r → Q (readValue r name text).2)
    (h : Q r) : Q (r.feed pairs).2 := by
  induction pairs generalizing r with
  | nil => exact h
  | cons pair rest ih =>
    obtain ⟨key, text⟩ := pair
    have hread := hvalue r key text List.mem_cons_self h
    have hrest := fun r' name text' hmem => hvalue r' name text' (List.mem_cons_of_mem _ hmem)
    rw [feed]
    split
    · -- Where the value is not accepted, the state it leaves is the last one.
      cases hresult : r.readValue key text with
      | mk result r' =>
        rw [hresult] at hread
        cases result with
        | ok u => exact ih hrest hread
        | error e => exact hread
    · exact h

/-- What holds with nothing read and is kept by each value of a query holds after the query.
Without parameters nothing is forgotten either. -/
theorem read_establishes {input : String} (hempty : r.isEmpty = true → Q r) (hreset : Q r.reset)
    (hvalue : ∀ r' name text, (name, text) ∈ r.settings.pairs (r.settings.queryText input) →
      Q r' → Q (readValue r' name text).2) : Q (r.read input).2 := by
  simp only [read]
  split
  next he => exact hempty he
  · split
    · exact hreset
    · exact feed_keeps hvalue hreset

theorem read_keeps (hreset : ∀ r, Q r → Q (reset r))
    (hvalue : ∀ r name text, Q r → Q (readValue r name text).2) (h : Q r) (input : String) :
    Q (r.read input).2 :=
  read_establishes (fun _ => h) (hreset r h) fun r' name text _ => hvalue r' name text

end

/-! ## Registries that are alike -/

/-- The declarations of the parameters, in the order of the parameters. -/
def declarations (r : Registry) : List Declaration :=
  r.parameters.toList.map Parameter.declaration

/-- The names of the parameters, in the order of the parameters. -/
def names (r : Registry) : List String :=
  r.declarations.map Declaration.name

/-- Agreement in everything but what has been read. -/
structure Alike (r r' : Registry) : Prop where
  settings : r.settings = r'.settings
  index : r.index = r'.index
  declarations : r.declarations = r'.declarations

theorem Alike.refl (r : Registry) : r.Alike r :=
  ⟨rfl, rfl, rfl⟩

theorem Alike.trans {r r' r'' : Registry} (h : r.Alike r') (h' : r'.Alike r'') : r.Alike r'' :=
  ⟨h.settings.trans h'.settings, h.index.trans h'.index, h.declarations.trans h'.declarations⟩

theorem Alike.names {r r' : Registry} (h : r.Alike r') : r.names = r'.names := by
  rw [Registry.names, Registry.names, h.declarations]

theorem Alike.size {r r' : Registry} (h : r.Alike r') : r.size = r'.size := by
  have hlen := congrArg List.length h.declarations
  simpa [Registry.declarations, Registry.size] using hlen

/-- Changing the parameters one by one keeps a registry alike if it keeps the
declaration of each. -/
theorem alike_map (r : Registry) {f : Parameter → Parameter}
    (hf : ∀ p, (f p).declaration = p.declaration) :
    Alike { r with parameters := r.parameters.map f } r := by
  refine ⟨rfl, rfl, ?_⟩
  simp [Registry.declarations, Function.comp_def, hf]

theorem alike_reset (r : Registry) : r.reset.Alike r :=
  r.alike_map Parameter.declaration_reset

theorem alike_readValue (r : Registry) (name text : String) :
    (r.readValue name text).2.Alike r := by
  cases hindex : r.index[name]? with
  | none =>
    simp only [readValue, hindex]
    exact .refl r
  | some position =>
    cases hp : r.parameters[position]? with
    | none =>
      simp only [readValue, hindex, hp]
      exact .refl r
    | some p =>
      simp only [readValue, hindex, hp]
      refine ⟨rfl, rfl, ?_⟩
      show ((r.parameters.setIfInBounds position _).toList).map _ = _
      -- The declaration is written over itself.
      obtain ⟨hlt, rfl⟩ := Array.getElem?_eq_some_iff.mp hp
      have hlen : position < (r.parameters.toList.map Parameter.declaration).length := by
        simpa using hlt
      have hself : r.parameters[position].declaration
          = (r.parameters.toList.map Parameter.declaration)[position] := by simp
      rw [Array.toList_setIfInBounds, List.map_set, Parameter.declaration_read, hself,
        List.set_getElem_self hlen]
      rfl

theorem alike_feed (r : Registry) (pairs : List (String × String)) :
    (r.feed pairs).2.Alike r :=
  feed_keeps (fun r' name text _ h => (r'.alike_readValue name text).trans h) (.refl r)

theorem alike_read (r : Registry) (input : String) : (r.read input).2.Alike r :=
  read_keeps (fun r' h => r'.alike_reset.trans h)
    (fun r' name text h => (r'.alike_readValue name text).trans h) (.refl r) input

/-! ## What a run amounts to -/

/-- Registries that are alike before a registration are alike after it. -/
theorem Alike.register {r r' : Registry} (h : r.Alike r') (d : Declaration) :
    (r.register d).Alike (r'.register d) := by
  have hsize : r.parameters.size = r'.parameters.size := h.size
  have hdecl := h.declarations
  simp only [Registry.declarations] at hdecl
  have hindex := congrArg (fun index => index[d.name]?) h.index
  cases hi : r'.index[d.name]? with
  | some position =>
    simp only [hi] at hindex
    simp only [Registry.register, hindex, hi]
    refine ⟨h.settings, h.index, ?_⟩
    simp [Registry.declarations, List.map_set, hdecl]
  | none =>
    simp only [hi] at hindex
    simp only [Registry.register, hindex, hi]
    refine ⟨h.settings, by simp only [h.index, hsize], ?_⟩
    simp [Registry.declarations, hdecl]

/-- A run leaves what its registrations alone leave, up to what has been read. -/
theorem alike_run {r r' : Registry} (h : r.Alike r') (steps : List Step) :
    (r.run steps).Alike (r'.registerAll (registrations steps)) := by
  induction steps generalizing r r' with
  | nil => exact h
  | cons a steps ih =>
    cases a with
    | register d => exact ih (h.register d)
    | read input => exact ih ((r.alike_read input).trans h)
    | reset => exact ih (r.alike_reset.trans h)

/-! ## Reading anew -/

/-- With nothing read, the parameters are their declarations. -/
theorem parameters_reset (r : Registry) :
    r.reset.parameters = (r.declarations.map Parameter.fresh).toArray := by
  apply Array.toList_inj.mp
  simp only [reset, declarations, Array.toList_map, List.map_map]
  rfl

/-- Registries that are alike are the same with nothing read. -/
theorem Alike.reset_eq {r r' : Registry} (h : r.Alike r') : r.reset = r'.reset := by
  have hparameters : r.reset.parameters = r'.reset.parameters := by
    rw [parameters_reset, parameters_reset, h.declarations]
  show Registry.mk r.settings r.reset.parameters r.index
    = Registry.mk r'.settings r'.reset.parameters r'.index
  rw [h.settings, hparameters, h.index]

/-- Without parameters there is nothing to forget. -/
theorem reset_of_isEmpty {r : Registry} (h : r.isEmpty = true) : r.reset = r := by
  have hparameters : r.parameters = #[] := Array.isEmpty_iff.mp h
  obtain ⟨settings, parameters, index⟩ := r
  cases hparameters
  simp [reset]

theorem Alike.isEmpty_eq {r r' : Registry} (h : r.Alike r') : r.isEmpty = r'.isEmpty := by
  have hsize : r.parameters.size = r'.parameters.size := h.size
  show (r.parameters.size == 0) = (r'.parameters.size == 0)
  rw [hsize]

/-- A query is read from the settings and the declarations, and from nothing else. -/
theorem Alike.read_eq {r r' : Registry} (h : r.Alike r') (input : String) :
    r.read input = r'.read input := by
  cases hempty : r.isEmpty with
  | true =>
    -- The state stays what it was, but there is no state.
    have hempty' : r'.isEmpty = true := h.isEmpty_eq ▸ hempty
    have hsame : r = r' := by
      rw [← reset_of_isEmpty hempty, ← reset_of_isEmpty hempty', h.reset_eq]
    rw [hsame]
  | false =>
    have hempty' : r'.isEmpty = false := h.isEmpty_eq ▸ hempty
    simp only [read, hempty, hempty', h.settings, h.reset_eq, Bool.false_eq_true, ↓reduceIte]

/-- A query after a run has the result and leaves the registry that it has and leaves after the
registrations of the run alone. -/
theorem read_run (s : Settings) (steps : List Step) (input : String) :
    ((empty s).run steps).read input
      = ((empty s).registerAll (registrations steps)).read input :=
  (alike_run (.refl (empty s)) steps).read_eq input

end TypedQuery.Registry
