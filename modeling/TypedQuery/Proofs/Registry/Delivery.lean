import TypedQuery.Proofs.Registry.Index

/-!
# Delivering texts by name

A registry is fed through its index: a key is looked up, and the parameter at
the position found reads the text.  This module says the same without positions.
`answer` is what the parameter with a name says about a text, and `give` lets
every parameter with the name read it.  In an indexed registry the two together
are what feeding a single pair does (`readValue_eq`).

`after` is the state that pairs lead to, in closed form.  A parameter reads
afresh the last text under its name and nothing else, so it is blank if there is
none.  `feed_after` is the invariant of the loop over the pairs: as long as
no pair is refused, the state is the one after the pairs so far.
-/

namespace TypedQuery

/-! ## Parameters -/

namespace Parameter

/-- What a parameter reads depends on its declaration only. -/
theorem read_congr {p q : Parameter} (h : p.declaration = q.declaration) (text : String) :
    p.read text = q.read text := by
  obtain ⟨d, reading⟩ := p
  obtain ⟨d', reading'⟩ := q
  cases h
  rfl

/-- The parameter after pairs: it has read the last text under its name. -/
def after (p : Parameter) (pairs : List (String × String)) : Parameter :=
  match pairs.reverse.lookup p.name with
  | some text => ((fresh p.declaration).read text).2
  | none => fresh p.declaration

@[simp] theorem declaration_after (p : Parameter) (pairs : List (String × String)) :
    (p.after pairs).declaration = p.declaration := by
  cases hlast : pairs.reverse.lookup p.name with
  | none =>
    rw [after, hlast]
    rfl
  | some text =>
    rw [after, hlast]
    rfl

@[simp] theorem name_after (p : Parameter) (pairs : List (String × String)) :
    (p.after pairs).name = p.name := by
  rw [name, declaration_after, name]

/-- A text under the name replaces all that was read before. -/
theorem after_append_self (p : Parameter) (pairs : List (String × String)) (text : String) :
    p.after (pairs ++ [(p.name, text)]) = ((p.after pairs).read text).2 := by
  rw [read_congr (p.declaration_after pairs) text]
  simp [after, read_congr (p := fresh p.declaration) (q := p) rfl]

/-- A text under another name changes nothing. -/
theorem after_append_of_ne {p : Parameter} {key : String} (h : p.name ≠ key)
    (pairs : List (String × String)) (text : String) :
    p.after (pairs ++ [(key, text)]) = p.after pairs := by
  have hkey : (p.name == key) = false := by simpa using h
  simp [after, List.lookup_cons, hkey]

end Parameter

namespace Registry

/-! ## One pair -/

/-- What the parameter with a name says about a text.  There is nothing to say if there is no
such parameter. -/
def answer (r : Registry) (name text : String) : Except QueryError Unit :=
  match r.declarations.find? (·.name == name) with
  | none => .ok ()
  | some d => ((Parameter.fresh d).read text).1

/-- The registry after every parameter with a name has read a text. -/
def give (r : Registry) (name text : String) : Registry :=
  { r with parameters := r.parameters.map fun p => if p.name = name then (p.read text).2 else p }

theorem Alike.answer {r r' : Registry} (h : r.Alike r') (name text : String) :
    r.answer name text = r'.answer name text := by
  rw [Registry.answer, Registry.answer, h.declarations]

theorem alike_give (r : Registry) (name text : String) : (r.give name text).Alike r := by
  apply r.alike_map
  intro p
  split <;> rfl

/-- Nobody hears a text under a name that is not registered. -/
theorem give_of_not_mem {r : Registry} {name : String} (h : name ∉ r.names) (text : String) :
    r.give name text = r := by
  have hid : r.parameters.map (fun p => if p.name = name then (p.read text).2 else p)
      = r.parameters := by
    apply Array.ext_getElem?
    intro i
    rw [Array.getElem?_map]
    cases hp : r.parameters[i]? with
    | none => rfl
    | some p =>
      have hne : p.name ≠ name := fun e => h (mem_names.mpr ⟨p, Array.mem_of_getElem? hp, e⟩)
      simp [hne]
  rw [give, hid]

theorem answer_of_not_mem {r : Registry} {name : String} (h : name ∉ r.names) (text : String) :
    r.answer name text = .ok () := by
  have hnone : r.declarations.find? (·.name == name) = none := by
    rw [List.find?_eq_none]
    intro d hd heq
    exact h (eq_of_beq heq ▸ List.mem_map_of_mem hd)
  rw [answer, hnone]

/-- The answer comes from the one parameter that has the name. -/
theorem Indexed.answer_of_mem {r : Registry} (h : r.Indexed) {d : Declaration}
    (hd : d ∈ r.declarations) (text : String) :
    r.answer d.name text = ((Parameter.fresh d).read text).1 := by
  have hfind : r.declarations.find? (·.name == d.name) = some d := by
    obtain ⟨found, hfound⟩ : ∃ e, r.declarations.find? (·.name == d.name) = some e := by
      rw [← Option.isSome_iff_exists, List.find?_isSome]
      exact ⟨d, hd, by simp⟩
    have hname : found.name = d.name := by simpa using List.find?_some hfound
    have hinj := List.inj_on_of_nodup_map h.nodup_names
    rw [hfound, hinj (List.mem_of_find?_eq_some hfound) hd hname]
  rw [answer, hfind]

/-- No other parameter has the name, so that giving writes at one position. -/
theorem Indexed.give_eq {r : Registry} (h : r.Indexed) {i : Nat} (hi : i < r.parameters.size)
    (text : String) :
    r.give r.parameters[i].name text =
      { r with parameters := r.parameters.setIfInBounds i (r.parameters[i].read text).2 } := by
  have hmap : (r.parameters.map fun p =>
        if p.name = r.parameters[i].name then (p.read text).2 else p)
      = r.parameters.setIfInBounds i (r.parameters[i].read text).2 := by
    apply Array.ext_getElem?
    intro j
    rw [Array.getElem?_map, Array.getElem?_setIfInBounds]
    by_cases hij : i = j
    · subst hij
      simp [hi]
    · rw [if_neg hij]
      cases hj : r.parameters[j]? with
      | none => rfl
      | some q =>
        have hne : q.name ≠ r.parameters[i].name := by
          intro heq
          obtain ⟨hjlt, rfl⟩ := Array.getElem?_eq_some_iff.mp hj
          have hposi := h.index_eq_some_iff.mpr ⟨hi, rfl⟩
          have hposj := h.index_eq_some_iff.mpr ⟨hjlt, heq⟩
          exact hij (Option.some.inj (hposi.symm.trans hposj))
        simp [hne]
  rw [give, hmap]

/-- Feeding a single pair, without positions. -/
theorem readValue_eq {r : Registry} (h : r.Indexed) (name text : String) :
    r.readValue name text = (r.answer name text, r.give name text) := by
  cases hi : r.index[name]? with
  | none =>
    have hname := h.index_eq_none_iff.mp hi
    simp only [readValue, hi, answer_of_not_mem hname, give_of_not_mem hname]
  | some i =>
    obtain ⟨hlt, rfl⟩ := h.index_eq_some_iff.mp hi
    have hmem : r.parameters[i].declaration ∈ r.declarations :=
      List.mem_map_of_mem (Array.getElem_mem_toList hlt)
    have hanswer : r.answer r.parameters[i].name text = (r.parameters[i].read text).1 :=
      h.answer_of_mem hmem text
    simp only [readValue, hi, Array.getElem?_eq_getElem hlt, hanswer, h.give_eq hlt]

/-! ## Many pairs -/

/-- Gives pairs to the parameters they name, up to the first text that is not accepted. -/
def supply (r : Registry) : List (String × String) → Except QueryError Unit × Registry
  | [] => (.ok (), r)
  | (name, text) :: rest =>
    match r.answer name text with
    | .ok _ => (r.give name text).supply rest
    | .error e => (.error e, r.give name text)

/-- Keys in normal form are fed as they are supplied. -/
theorem feed_eq_supply {r : Registry} (h : r.Indexed) {pairs : List (String × String)}
    (hkeys : ∀ pair ∈ pairs, Key.isNormal pair.1 = true) : r.feed pairs = r.supply pairs := by
  induction pairs generalizing r with
  | nil => rfl
  | cons pair rest ih =>
    obtain ⟨key, text⟩ := pair
    have hkey : Key.isNormal key = true := hkeys (key, text) (by simp)
    have hrest := ih (h.of_alike (r.alike_give key text)) fun q hq => hkeys q (by simp [hq])
    simp only [feed, hkey, ↓reduceIte, readValue_eq h, supply]
    cases r.answer key text with
    | ok u => exact hrest
    | error e => rfl

/-- The registry after pairs. -/
def after (r : Registry) (pairs : List (String × String)) : Registry :=
  { r with parameters := r.parameters.map fun p => p.after pairs }

theorem alike_after (r : Registry) (pairs : List (String × String)) : (r.after pairs).Alike r :=
  r.alike_map fun p => p.declaration_after pairs

theorem after_nil (r : Registry) : r.after [] = r.reset := rfl

theorem give_after (r : Registry) (pairs : List (String × String)) (key text : String) :
    (r.after pairs).give key text = r.after (pairs ++ [(key, text)]) := by
  have hstep : ∀ p : Parameter, (if p.name = key then ((p.after pairs).read text).2
      else p.after pairs) = p.after (pairs ++ [(key, text)]) := by
    intro p
    split
    next hname => rw [← hname, Parameter.after_append_self]
    next hname => rw [Parameter.after_append_of_ne hname]
  simp only [give, after, Array.map_map, Function.comp_def, Parameter.name_after, hstep]

/-- What a registry says about a pair. -/
def judge (r : Registry) (pair : String × String) : Except QueryError Unit :=
  if Key.isNormal pair.1 then r.answer pair.1 pair.2 else .error (.badKey pair.1)

/-- Pairs that are accepted are fed one after the other. -/
theorem feed_after {r : Registry} (h : r.Indexed) (before : List (String × String))
    {accepted : List (String × String)} (hall : ∀ pair ∈ accepted, r.judge pair = .ok ())
    (rest : List (String × String)) :
    (r.after before).feed (accepted ++ rest) = (r.after (before ++ accepted)).feed rest := by
  induction accepted generalizing before with
  | nil => simp
  | cons pair accepted ih =>
    obtain ⟨key, text⟩ := pair
    have hpair : r.judge (key, text) = .ok () := hall (key, text) (by simp)
    have halike := r.alike_after before
    by_cases hkey : Key.isNormal key = true
    · rw [judge, if_pos hkey] at hpair
      rw [List.cons_append, feed, if_pos hkey, readValue_eq (h.of_alike halike),
        halike.answer key text, hpair]
      show ((r.after before).give key text).feed (accepted ++ rest) = _
      rw [give_after, ih _ fun q hq => hall q (by simp [hq])]
      simp
    · rw [judge, if_neg hkey] at hpair
      exact absurd hpair (by simp)

/-- A key that is not in normal form stops the feeding where it stands. -/
theorem feed_badKey (r : Registry) {key : String} (hkey : Key.isNormal key = false)
    (text : String) (rest : List (String × String)) :
    r.feed ((key, text) :: rest) = (.error (.badKey key), r) := by
  simp [feed, hkey]

/-- A text that is not accepted stops the feeding, but is heard. -/
theorem feed_badValue {r : Registry} (h : r.Indexed) (before : List (String × String))
    {key text : String} {e : QueryError} (hkey : Key.isNormal key = true)
    (he : r.answer key text = .error e) (rest : List (String × String)) :
    (r.after before).feed ((key, text) :: rest)
      = (.error e, r.after (before ++ [(key, text)])) := by
  have halike := r.alike_after before
  rw [feed, if_pos hkey, readValue_eq (h.of_alike halike), halike.answer key text, he]
  show (Except.error e, (r.after before).give key text) = _
  rw [give_after]

end Registry

end TypedQuery
