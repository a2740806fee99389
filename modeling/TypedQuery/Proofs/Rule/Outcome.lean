import TypedQuery.Parameter
import TypedQuery.Proofs.Json.Overlay

/-!
# What reading leaves

A rule either accepts a text and leaves a value, or it refuses the text and leaves
nothing.  Search terms are the exception on both sides.  A term of the wrong
length is refused and left nevertheless, cut if it is too long.  And a term of
nothing but wildcards may be accepted without being usable.

Whether a term is too long is asked first.  So where the least length is above the
greatest, a text between the two is too long and not too short.

`Parameter.read_leaves` says this of parameters.  What was read before does not
count, and an error names the parameter.
-/

namespace TypedQuery

/-! ## Search terms -/

namespace SearchRule

/-- The characters of a text that are not wildcards. -/
def literal (rule : SearchRule) (text : String) : List Char :=
  text.toList.filter (· != rule.wildcard)

/-- The place that the wildcards of a text give. -/
def anchor (rule : SearchRule) (text : String) : Anchor :=
  (Term.ofPattern rule.wildcard text).anchor

/-- A text has more characters than its rule allows. -/
def TooLong (rule : SearchRule) (text : String) : Prop :=
  0 < rule.maxLength ∧ rule.maxLength.toNat < (rule.literal text).length

variable {rule : SearchRule} {text : String}

theorem ofPattern_eq (rule : SearchRule) (text : String) :
    Term.ofPattern rule.wildcard text = ⟨String.ofList (rule.literal text), rule.anchor text⟩ :=
  rfl

instance : Decidable (rule.TooLong text) :=
  inferInstanceAs (Decidable (_ ∧ _))

theorem tooLong_iff : 0 < rule.maxLength ∧ rule.maxLength.toNat < (rule.literal text).length ↔
    rule.TooLong text :=
  .rfl

/-- The greatest length is looked at before the least. -/
theorem result_eq (rule : SearchRule) (text : String) : (rule.read text).1 =
    if rule.TooLong text then .error (.tooLong (rule.literal text).length rule.maxLength)
    else if (rule.literal text).length < rule.minLength.toNat then
      .error (.tooShort (rule.literal text).length rule.minLength)
    else .ok () := by
  simp only [read, ofPattern_eq, String.length_ofList, tooLong_iff]
  split
  · rfl
  · split
    · rfl
    · rfl

/-- A term is left in any case, and only the greatest length counts for what is left. -/
theorem reading_eq (rule : SearchRule) (text : String) : (rule.read text).2 =
    ⟨decide (0 < (rule.literal text).length), some (.search
      ⟨String.ofList (if rule.TooLong text then (rule.literal text).take rule.maxLength.toNat
        else rule.literal text), rule.anchor text⟩)⟩ := by
  simp only [read, ofPattern_eq, String.length_ofList, tooLong_iff]
  split
  · rw [Term.take, String.toList_ofList]
  · split
    · rfl
    · rfl

theorem result_eq_tooLong_iff {length : Nat} {max : UInt64} :
    (rule.read text).1 = .error (.tooLong length max) ↔
      length = (rule.literal text).length ∧ max = rule.maxLength ∧ rule.TooLong text := by
  rw [result_eq]
  split
  next hlong => simp [hlong, eq_comm]
  next hlong =>
    split
    · simp [hlong]
    · simp [hlong]

theorem result_eq_tooShort_iff {length : Nat} {min : UInt64} :
    (rule.read text).1 = .error (.tooShort length min) ↔
      length = (rule.literal text).length ∧ min = rule.minLength ∧
        (rule.literal text).length < rule.minLength.toNat ∧ ¬ rule.TooLong text := by
  rw [result_eq]
  split
  next hlong => simp [hlong]
  next hlong =>
    split
    next hshort => simp [hlong, hshort, eq_comm]
    next hshort => simp [hshort]

theorem result_eq_ok_iff : (rule.read text).1 = .ok () ↔
    ¬ rule.TooLong text ∧ rule.minLength.toNat ≤ (rule.literal text).length := by
  rw [result_eq]
  split
  next hlong => simp [hlong]
  next hlong =>
    split
    next hshort => simp [hshort]
    next hshort => simp [hlong, Nat.not_lt.mp hshort]

/-- A search term is refused for its length only. -/
theorem isLength_of_read {fault : Fault} (h : (rule.read text).1 = .error fault) :
    fault.isLength = true := by
  rw [result_eq] at h
  split at h
  · cases h
    rfl
  · split at h
    · cases h
      rfl
    · cases h

end SearchRule

/-! ## The other kinds -/

theorem isLength_of_readInteger {text : String} {fault : Fault}
    (h : readInteger text = .error fault) : fault.isLength = false := by
  unfold readInteger at h
  split at h
  · cases h
  · cases h
    rfl

theorem RangeRule.isLength_of_readEnd {bound : Int64} {text : String} {fault : Fault}
    (h : readEnd text bound = .error fault) : fault.isLength = false := by
  unfold readEnd at h
  split at h
  · cases h
  · exact isLength_of_readInteger h

theorem RangeRule.isLength_of_ends {rule : RangeRule} {text : String} {fault : Fault}
    (h : rule.ends text = .error fault) : fault.isLength = false := by
  unfold ends at h
  split at h
  · cases h
    rfl
  next first second _ =>
    rcases bind_eq_error_iff.mp h with hfirst | ⟨a, -, hrest⟩
    · exact isLength_of_readEnd hfirst
    · rcases bind_eq_error_iff.mp hrest with hsecond | ⟨b, -, hends⟩
      · exact isLength_of_readEnd hsecond
      · cases hends

theorem isLength_of_readBoolean {text : String} {fault : Fault}
    (h : readBoolean text = .error fault) : fault.isLength = false := by
  simp only [readBoolean] at h
  split at h
  · cases h
  · split at h
    · cases h
    · cases h
      rfl

/-- Either a value is left that is no search term, or nothing with a fault that is not about a
length. -/
def Rule.AllOrNothing (rule : Rule) (text : String) : Prop :=
  (∃ value, value.kind ≠ .search ∧ rule.read text = (.ok (), .of value)) ∨
    ∃ fault, fault.isLength = false ∧ rule.read text = (.error fault, .blank)

namespace Rule

theorem allOrNothing_of_ofExcept {α : Type} {rule : Rule} {text : String}
    {result : Except Fault α} {f : α → Value}
    (hread : rule.read text = Reading.ofExcept (result.map f)) (hkind : ∀ a, (f a).kind ≠ .search)
    (hfault : ∀ fault, result = .error fault → fault.isLength = false) :
    rule.AllOrNothing text := by
  cases result with
  | ok a => exact .inl ⟨f a, hkind a, hread⟩
  | error fault => exact .inr ⟨fault, hfault fault rfl, hread⟩

/-- Only search terms are left with a fault. -/
theorem search_or_allOrNothing (rule : Rule) (text : String) :
    (∃ r, rule = .search r) ∨ rule.AllOrNothing text := by
  cases rule with
  | search rule => exact .inl ⟨rule, rfl⟩
  | strings rule => exact .inr (.inl ⟨.strings (rule.items text), by simp [Value.kind], rfl⟩)
  | sort rule => exact .inr (.inl ⟨.sort (rule.keys text), by simp [Value.kind], rfl⟩)
  | range rule =>
    refine .inr (allOrNothing_of_ofExcept rfl ?_ fun _ => RangeRule.isLength_of_ends)
    simp [Value.kind]
  | integer rule =>
    refine .inr (allOrNothing_of_ofExcept rfl ?_ fun _ => isLength_of_readInteger)
    simp [Value.kind]
  | boolean =>
    refine .inr (allOrNothing_of_ofExcept rfl ?_ fun _ => isLength_of_readBoolean)
    simp [Value.kind]

end Rule

/-! ## Parameters -/

namespace Parameter

variable {p : Parameter} {text : String}

/-- What a parameter makes of a text is what its rule makes of it, with the name in the error. -/
theorem read_eq (p : Parameter) (text : String) : p.read text =
    ((p.declaration.rule.read text).1.mapError (.badValue p.name),
      { p with reading := (p.declaration.rule.read text).2 }) :=
  rfl

theorem result_eq_error_iff {fault : Fault} :
    (p.read text).1 = .error (.badValue p.name fault) ↔
      (p.declaration.rule.read text).1 = .error fault := by
  constructor
  · intro h
    obtain ⟨found, hfound, heq⟩ := mapError_eq_error_iff.mp h
    cases heq
    exact hfound
  · intro h
    exact mapError_eq_error_iff.mpr ⟨fault, h, rfl⟩

theorem result_eq_ok_iff :
    (p.read text).1 = .ok () ↔ (p.declaration.rule.read text).1 = .ok () :=
  mapError_eq_ok_iff

/-- An error of a text is a fault in the value of this parameter. -/
theorem exists_fault_of_error {e : QueryError} (h : (p.read text).1 = .error e) :
    ∃ fault, e = .badValue p.name fault ∧ (p.declaration.rule.read text).1 = .error fault := by
  obtain ⟨fault, hfault, rfl⟩ := mapError_eq_error_iff.mp h
  exact ⟨fault, rfl, hfault⟩

/-- Nothing is left of a refused text that is no search term. -/
theorem blank_of_error (hrule : ∀ rule, p.declaration.rule ≠ .search rule) {e : QueryError}
    (h : (p.read text).1 = .error e) : (p.read text).2.reading = .blank := by
  obtain ⟨fault, -, hfault⟩ := exists_fault_of_error h
  rcases p.declaration.rule.search_or_allOrNothing text with
    ⟨rule, hsearch⟩ | ⟨value, -, hread⟩ | ⟨found, -, hread⟩
  · exact absurd hsearch (hrule rule)
  · rw [hread] at hfault
    cases hfault
  · rw [read_eq, hread]

section

variable {α : Type} {result : Except Fault α} {f : α → Value}

theorem read_eq_of_iff (h : p.declaration.rule.read text = Reading.ofExcept (result.map f))
    {value : Value} : p.read text = (.ok (), { p with reading := .of value }) ↔
      ∃ a, result = .ok a ∧ f a = value := by
  rw [read_eq, h]
  cases result with
  | ok a =>
    constructor
    · intro hread
      cases hread
      exact ⟨a, rfl, rfl⟩
    · rintro ⟨_, hok, rfl⟩
      cases hok
      rfl
  | error fault =>
    constructor
    · intro hread
      cases hread
    · rintro ⟨a, hok, -⟩
      cases hok

theorem read_eq_fault_iff (h : p.declaration.rule.read text = Reading.ofExcept (result.map f))
    {fault : Fault} :
    (p.read text).1 = .error (.badValue p.name fault) ↔ result = .error fault := by
  rw [result_eq_error_iff, h]
  cases result with
  | ok found => simp [Reading.ofExcept, Except.map]
  | error found => simp [Reading.ofExcept, Except.map]

end

/-- What a search term of the wrong length leaves, and what one of the right length does. -/
structure LeavesTerm (p : Parameter) (rule : SearchRule) (text : String) : Prop where
  tooLong_iff : ∀ length max, (p.read text).1 = .error (.badValue p.name (.tooLong length max)) ↔
    length = (rule.literal text).length ∧ max = rule.maxLength ∧ 0 < max ∧ max.toNat < length
  tooShort_iff : ∀ length min, (p.read text).1 = .error (.badValue p.name (.tooShort length min)) ↔
    length = (rule.literal text).length ∧ min = rule.minLength ∧ length < min.toNat ∧
      ¬ rule.TooLong text
  tooLong : ∀ length max, (p.read text).1 = .error (.badValue p.name (.tooLong length max)) →
    (p.read text).2.reading = ⟨true,
      some (.search ⟨String.ofList ((rule.literal text).take max.toNat), rule.anchor text⟩)⟩
  tooShort : ∀ length min, (p.read text).1 = .error (.badValue p.name (.tooShort length min)) →
    (p.read text).2.reading = ⟨decide (0 < length),
      some (.search ⟨String.ofList (rule.literal text), rule.anchor text⟩)⟩
  ok : (p.read text).1 = .ok () →
    (p.read text).2.reading = ⟨decide (0 < (rule.literal text).length),
      some (.search ⟨String.ofList (rule.literal text), rule.anchor text⟩)⟩ ∧
    ((p.read text).2.parsed = false → rule.minLength = 0)

theorem leavesTerm {rule : SearchRule} (hrule : p.declaration.rule = .search rule)
    (text : String) : p.LeavesTerm rule text := by
  have hread : p.declaration.rule.read text = rule.read text := by rw [hrule, Rule.read]
  have hreading : (p.read text).2.reading = (rule.read text).2 := by rw [read_eq, hread]
  constructor
  · intro length max
    rw [result_eq_error_iff, hread, SearchRule.result_eq_tooLong_iff]
    constructor
    · rintro ⟨rfl, rfl, hlong⟩
      exact ⟨rfl, rfl, hlong⟩
    · rintro ⟨rfl, rfl, hlong⟩
      exact ⟨rfl, rfl, hlong⟩
  · intro length min
    rw [result_eq_error_iff, hread, SearchRule.result_eq_tooShort_iff]
    constructor
    · rintro ⟨rfl, rfl, hshort⟩
      exact ⟨rfl, rfl, hshort⟩
    · rintro ⟨rfl, rfl, hshort⟩
      exact ⟨rfl, rfl, hshort⟩
  · intro length max h
    rw [result_eq_error_iff, hread, SearchRule.result_eq_tooLong_iff] at h
    obtain ⟨rfl, rfl, hlong⟩ := h
    have hpos : 0 < (rule.literal text).length := Nat.zero_lt_of_lt hlong.2
    rw [hreading, SearchRule.reading_eq, if_pos hlong, decide_eq_true hpos]
  · intro length min h
    rw [result_eq_error_iff, hread, SearchRule.result_eq_tooShort_iff] at h
    obtain ⟨rfl, rfl, -, hlong⟩ := h
    rw [hreading, SearchRule.reading_eq, if_neg hlong]
  · intro h
    rw [result_eq_ok_iff, hread, SearchRule.result_eq_ok_iff] at h
    rw [parsed, hreading, SearchRule.reading_eq, if_neg h.1]
    refine ⟨rfl, fun hempty => ?_⟩
    have hzero : ¬ 0 < (rule.literal text).length := of_decide_eq_false hempty
    apply UInt64.toNat_inj.mp
    have hmin := h.2
    show rule.minLength.toNat = 0
    omega

/-- What a text leaves does not depend on what was read before, and an error names the parameter.
A refused text leaves nothing, unless it is a search term of the wrong length.  An accepted text
leaves a value that is usable, unless it is a search term without a character. -/
theorem read_leaves (p : Parameter) (text : String) :
    (∀ q : Parameter, q.declaration = p.declaration → q.read text = p.read text) ∧
    (p.read text).2.declaration = p.declaration ∧
    (∀ e, (p.read text).1 = .error e → e.isValidation = true ∧
      (∃ fault, e = .badValue p.name fault) ∧ (e.isLength = true → p.kind = .search)) ∧
    (∀ fault, (p.read text).1 = .error (.badValue p.name fault) → fault.isLength = false →
      (p.read text).2.parsed = false ∧ (p.read text).2.value = none) ∧
    ((p.read text).1 = .ok () → ∃ value, (p.read text).2.value = some value ∧
      ((p.read text).2.parsed = false ↔ ∃ anchor, value = .search ⟨"", anchor⟩)) ∧
    ∀ rule, p.declaration.rule = .search rule → p.LeavesTerm rule text := by
  refine ⟨fun q hq => by rw [read_eq, read_eq, name, name, hq], rfl, ?_, ?_, ?_,
    fun rule hrule => leavesTerm hrule text⟩
  · intro e he
    obtain ⟨fault, rfl, hfault⟩ := exists_fault_of_error he
    refine ⟨rfl, ⟨fault, rfl⟩, fun hlength => ?_⟩
    rcases p.declaration.rule.search_or_allOrNothing text with
      ⟨rule, hrule⟩ | ⟨value, -, hread⟩ | ⟨found, hfound, hread⟩
    · rw [kind, Declaration.kind, hrule, Rule.kind]
    · rw [hread] at hfault
      cases hfault
    · rw [hread] at hfault
      cases hfault
      exact absurd hlength (by simp [QueryError.isLength, hfound])
  · intro fault h hfault
    have hrule : ∀ rule, p.declaration.rule ≠ .search rule := by
      intro rule hrule
      rw [result_eq_error_iff, hrule, Rule.read] at h
      rw [SearchRule.isLength_of_read h] at hfault
      cases hfault
    have hblank := blank_of_error hrule h
    exact ⟨congrArg Reading.parsed hblank, congrArg Reading.value hblank⟩
  · intro hok
    rcases p.declaration.rule.search_or_allOrNothing text with
      ⟨rule, hrule⟩ | ⟨value, hkind, hread⟩ | ⟨found, -, hread⟩
    · have hreading := ((leavesTerm hrule text).ok hok).1
      rw [parsed, value, hreading]
      refine ⟨_, rfl, ?_⟩
      simp
    · rw [read_eq, hread]
      refine ⟨value, rfl, ?_⟩
      constructor
      · intro h
        cases h
      · rintro ⟨anchor, rfl⟩
        exact absurd rfl hkind
    · rw [result_eq_ok_iff, hread] at hok
      cases hok

/-- The least length is above the greatest, and something has been read before. -/
theorem read_leaves_lengths_inverted :
    let p : Parameter := ⟨.ofRule "q" (.search ⟨'*', 5, 2⟩), .of (.integer 7)⟩
    (p.read "*gam*").1 = .error (.badValue "q" (.tooLong 3 2)) ∧
      (p.read "*gam*").2.reading = ⟨true, some (.search ⟨"ga", .anywhere⟩)⟩ ∧
      (p.read "*").1 = .error (.badValue "q" (.tooShort 0 5)) ∧
      (p.read "*").2.reading = ⟨false, some (.search ⟨"", .anywhere⟩)⟩ := by
  intro p
  obtain ⟨-, -, -, -, -, hlong⟩ := p.read_leaves "*gam*"
  obtain ⟨-, -, -, -, -, hshort⟩ := p.read_leaves "*"
  have htooLong : (p.read "*gam*").1 = .error (.badValue "q" (.tooLong 3 2)) :=
    ((hlong ⟨'*', 5, 2⟩ rfl).tooLong_iff 3 2).mpr ⟨by decide, rfl, by decide, by decide⟩
  have htooShort : (p.read "*").1 = .error (.badValue "q" (.tooShort 0 5)) :=
    ((hshort ⟨'*', 5, 2⟩ rfl).tooShort_iff 0 5).mpr ⟨by decide, rfl, by decide, by decide⟩
  exact ⟨htooLong, (hlong ⟨'*', 5, 2⟩ rfl).tooLong 3 2 htooLong, htooShort,
    (hshort ⟨'*', 5, 2⟩ rfl).tooShort 0 5 htooShort⟩

end Parameter

end TypedQuery
