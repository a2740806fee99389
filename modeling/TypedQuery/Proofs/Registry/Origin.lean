import TypedQuery.Proofs.Registry.Sound

/-!
# Where readings come from

A parameter holds what one text has left, and nothing else.  Either nothing has
been read since it was declared or reset, or the last text it was given accounts
for all it holds.  `ReadFrom` is this alternative, with a condition on the texts
that may have been given.

In a reachable registry every parameter is of this form
(`Reachable.readFrom`).  After a query, whatever the registry was before, the
texts are those of the pairs of this one query (`readFrom_read`).  So a property
of the rules is a property of registries: `ReadFrom.sound` is the example.
-/

namespace TypedQuery

namespace Parameter

/-- A parameter for which nothing has been read, or that has read one of some texts. -/
inductive ReadFrom (given : String → Prop) : Parameter → Prop where
  | fresh (d : Declaration) : ReadFrom given (.fresh d)
  | read (p : Parameter) {text : String} : given text → ReadFrom given (p.read text).2

/-- What a parameter holds keeps to its rule. -/
theorem ReadFrom.sound {given : String → Prop} {p : Parameter} (h : p.ReadFrom given) :
    p.reading.Sound p.declaration.rule := by
  cases h with
  | fresh d => exact Reading.sound_blank d.rule
  | @read q text _ => exact q.declaration.rule.sound_read text

end Parameter

namespace Registry

theorem Reachable.readFrom {r : Registry} (hr : r.Reachable) {p : Parameter}
    (hp : p ∈ r.parameters) : p.ReadFrom fun _ => True :=
  hr.forall_parameters .fresh (fun q _ _ => .read q trivial) p hp

/-- After a query the parameters hold what its pairs have left. -/
theorem readFrom_read (r : Registry) (input : String) :
    ∀ p ∈ (r.read input).2.parameters, p.ReadFrom fun text =>
      ∃ key, (key, text) ∈ r.settings.pairs (r.settings.queryText input) := by
  refine read_establishes (Q := fun r' => ∀ p ∈ r'.parameters, p.ReadFrom _) ?_ ?_ ?_
  · intro hempty p hp
    have hnone : r.parameters = #[] := Array.isEmpty_iff.mp hempty
    simp [hnone] at hp
  · exact forall_reset .fresh
  · intro r' name text hmem h
    exact forall_readValue (fun q _ => .read q ⟨name, hmem⟩) h name

/-- A single parameter that is given once. -/
theorem parameters_read_single {s : Settings} {d : Declaration} {input text : String}
    (hkey : Key.isNormal d.name = true) (hquery : s.queryText input ≠ "")
    (hpairs : s.pairs (s.queryText input) = [(d.name, text)]) :
    (((empty s).register d).read input).2.parameters = #[((Parameter.fresh d).read text).2] := by
  have hregister : (empty s).register d = ⟨s, #[.fresh d], .insert ∅ d.name 0⟩ := by
    simp [register, empty]
  have hvalue : ((empty s).register d).reset.readValue d.name text =
      (((Parameter.fresh d).read text).1,
        ⟨s, #[((Parameter.fresh d).read text).2], .insert ∅ d.name 0⟩) := by
    simp [hregister, readValue, reset]
  have hsettings : ((empty s).register d).settings = s := settings_register _ d
  have hnonempty : ((empty s).register d).isEmpty = false := by simp [hregister, isEmpty]
  simp only [read, hnonempty, hsettings, hpairs, feed, hkey, hvalue, Bool.false_eq_true,
    ↓reduceIte, String.isEmpty_iff, hquery]
  -- Whether or not the text is accepted, nothing comes after it.
  cases ((Parameter.fresh d).read text).1 with
  | ok u => rfl
  | error e => rfl

end Registry

end TypedQuery
