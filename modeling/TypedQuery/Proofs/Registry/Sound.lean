import TypedQuery.Proofs.Registry.Run
import TypedQuery.Proofs.Rule.Bounds

/-!
# What the parameters of a registry hold

A parameter of a reachable registry is a declaration for which nothing has been
read, or else it has read a text, and what it read before does not count.  So a
property of parameters holds throughout if fresh parameters have it and reading
keeps it (`Reachable.forall_parameters`).  No step of a run needs to be looked at
again, and neither do queries that were not accepted.

`Reachable.sound_reading` is such a property: what a parameter holds keeps to its
rule.
-/

namespace TypedQuery.Registry

/-! ## Properties of all parameters -/

section

variable {P : Parameter → Prop} {r : Registry}

theorem forall_register (hfresh : ∀ d, P (.fresh d)) (h : ∀ p ∈ r.parameters, P p)
    (d : Declaration) : ∀ p ∈ (r.register d).parameters, P p := by
  intro p hp
  cases hi : r.index[d.name]? with
  | some position =>
    simp only [register, hi] at hp
    rcases Array.mem_or_eq_of_mem_setIfInBounds hp with hold | rfl
    · exact h p hold
    · exact hfresh d
  | none =>
    simp only [register, hi] at hp
    rcases Array.mem_push.mp hp with hold | rfl
    · exact h p hold
    · exact hfresh d

theorem forall_reset (hfresh : ∀ d, P (.fresh d)) : ∀ p ∈ r.reset.parameters, P p := by
  intro p hp
  obtain ⟨q, -, rfl⟩ := Array.mem_map.mp hp
  rw [Parameter.reset_eq_fresh]
  exact hfresh q.declaration

theorem forall_readValue {text : String} (hread : ∀ p, P p → P (p.read text).2)
    (h : ∀ p ∈ r.parameters, P p) (name : String) :
    ∀ p ∈ (r.readValue name text).2.parameters, P p := by
  intro p hp
  cases hi : r.index[name]? with
  | none =>
    simp only [readValue, hi] at hp
    exact h p hp
  | some position =>
    cases hq : r.parameters[position]? with
    | none =>
      simp only [readValue, hi, hq] at hp
      exact h p hp
    | some q =>
      simp only [readValue, hi, hq] at hp
      rcases Array.mem_or_eq_of_mem_setIfInBounds hp with hold | rfl
      · exact h p hold
      · exact hread q (h q (Array.mem_of_getElem? hq))

theorem forall_read (hfresh : ∀ d, P (.fresh d)) (hread : ∀ p text, P p → P (p.read text).2)
    (h : ∀ p ∈ r.parameters, P p) (input : String) : ∀ p ∈ (r.read input).2.parameters, P p :=
  read_keeps (Q := fun r' => ∀ p ∈ r'.parameters, P p) (fun _ _ => forall_reset hfresh)
    (fun _ name text h' => forall_readValue (fun p => hread p text) h' name) h input

/-- What fresh parameters have and reading keeps is common to all parameters. -/
theorem Reachable.forall_parameters (hr : r.Reachable) (hfresh : ∀ d, P (.fresh d))
    (hread : ∀ p text, P p → P (p.read text).2) : ∀ p ∈ r.parameters, P p := by
  induction hr with
  | empty s =>
    intro p hp
    exact absurd hp (by simp [Registry.empty])
  | step a _ ih =>
    cases a with
    | register d => exact forall_register hfresh ih d
    | read input => exact forall_read hfresh hread ih input
    | reset => exact forall_reset hfresh

end

/-! ## Readings keep to their rules -/

/-- What a parameter holds keeps to its rule, at any time and also after a query that was not
accepted. -/
theorem Reachable.sound_reading {r : Registry} (hr : r.Reachable) {p : Parameter}
    (hp : p ∈ r.parameters) : p.reading.Sound p.declaration.rule := by
  refine hr.forall_parameters (P := fun q => q.reading.Sound q.declaration.rule) ?_ ?_ p hp
  · intro d
    exact Reading.sound_blank d.rule
  · intro q text _
    exact q.declaration.rule.sound_read text

theorem sound_reading_cut :
    let d : Declaration := ⟨"q", none, true, .should, .search ⟨'*', 1, 3⟩⟩
    let r := (empty .default).run [.register d, .read "q=*gamma*"]
    let p : Parameter := ⟨d, ⟨true, some (.search ⟨"gam", .anywhere⟩)⟩⟩
    r.Reachable ∧ p ∈ r.parameters ∧ p.reading.Sound d.rule := by
  intro d r p
  have hr : r.Reachable := (Reachable.empty .default).run _
  have hp : p ∈ r.parameters := by
    have hregister : (empty .default).register d = ⟨.default, #[.fresh d], .insert ∅ "q" 0⟩ := by
      simp [register, empty, d]
    have hquery : Settings.default.queryText "q=*gamma*" = "q=*gamma*" := by decide
    have hpairs : Settings.default.pairs "q=*gamma*" = [("q", "*gamma*")] := by decide
    have hread : (Parameter.fresh d).read "*gamma*"
        = (.error (.badValue "q" (.tooLong 5 3)), p) := rfl
    have hkey : Key.isNormal "q" = true := by decide
    show p ∈ (((empty .default).register d).read "q=*gamma*").2.parameters
    rw [hregister]
    simp [read, isEmpty, hquery, hpairs, feed, hkey, readValue, reset, hread]
  exact ⟨hr, hp, hr.sound_reading hp⟩

end TypedQuery.Registry
