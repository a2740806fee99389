import TypedQuery.Proofs.Clause.Table
import TypedQuery.Proofs.Rule.Reread

/-!
# Clauses are read back

A clause is the field of a declaration followed by a condition on it.  For search
terms, integers, truth values and strings that share a clause, the condition is a
text that a query could give for the parameter.  Giving it leads to the state
that the clause was rendered from (`Parameter.read_clauseText`).  This includes
terms that were cut or are too short, which the second reading refuses like the
first.

A range is two conditions, and strings that must or must not occur are a clause
each, so that there is no single text to read.
-/

namespace TypedQuery

/-- A parsed value is all there is to a reading. -/
theorem Reading.eq_of {reading : Reading} {value : Value} (hparsed : reading.parsed = true)
    (hvalue : reading.value = some value) : reading = .of value := by
  obtain ⟨parsed, value'⟩ := reading
  cases hparsed
  cases hvalue
  rfl

theorem Term.Written.read_back {rule : SearchRule} {term : Term} {pattern : String}
    (h : term.Written rule.wildcard pattern) (hallows : Rule.Allows (.search rule) (.search term))
    (hne : term.text ≠ "") : (Rule.read (.search rule) pattern).2 = .of (.search term) := by
  rw [← written_iff.mp h]
  cases hallows with
  | search hfree hfits => exact SearchRule.read_pattern hfree hne hfits

namespace Declaration

/-- The clause of such a declaration has its value as a query gives it. -/
def Literal (d : Declaration) : Prop :=
  d.kind = .search ∨ d.kind = .integer ∨ d.kind = .boolean ∨ d.kind = .strings ∧ d.occur = .should

/-- What stands in front of the value: the mark, and the field unless a term is searched for in
the whole text. -/
def lead (d : Declaration) : String :=
  if d.kind = .search ∧ d.field = "" then d.occur.mark else d.occur.mark ++ d.field ++ ":"

variable {d : Declaration}

theorem lead_of_kind_ne (h : d.kind ≠ .search) : d.lead = d.occur.mark ++ d.field ++ ":" :=
  if_neg fun hboth => h hboth.1

theorem lead_of_field_ne (h : d.field ≠ "") : d.lead = d.occur.mark ++ d.field ++ ":" :=
  if_neg fun hboth => h hboth.2

theorem lead_of_field_eq (hkind : d.kind = .search) (h : d.field = "") : d.lead = d.occur.mark :=
  if_pos ⟨hkind, h⟩

/-- A line of the table for a literal declaration, read from behind its lead. -/
theorem HasClauses.read_back {value : Value} {clauses : List String}
    (h : d.HasClauses value clauses) (hd : d.Literal) (hne : clauses ≠ [])
    (hallows : d.rule.Allows value) (hterm : ∀ term, value = .search term → term.text ≠ "") :
    ∃ rest, clauses = [d.lead ++ rest] ∧ (d.rule.read rest).2 = .of value := by
  cases h with
  | noStrings _ => exact absurd rfl hne
  | sort _ => exact absurd rfl hne
  | range hrule => simp [Literal, kind, hrule, Rule.kind] at hd
  | each hrule hoccur _ => simp [Literal, kind, hrule, Rule.kind, hoccur] at hd
  | @integer rule n hrule =>
    have hkind : d.kind ≠ .search := by simp [kind, hrule, Rule.kind]
    refine ⟨_, by rw [lead_of_kind_ne hkind], ?_⟩
    rw [hrule] at hallows ⊢
    cases hallows with
    | integer hlow hhigh =>
      rw [Rule.read, readInteger_ofInt]
      simp [Except.map, Reading.ofExcept, IntegerRule.clamp_of_bounds hlow hhigh]
  | true hrule =>
    have hkind : d.kind ≠ .search := by simp [kind, hrule, Rule.kind]
    refine ⟨_, by rw [lead_of_kind_ne hkind], ?_⟩
    rw [hrule]
    decide
  | false hrule =>
    have hkind : d.kind ≠ .search := by simp [kind, hrule, Rule.kind]
    refine ⟨_, by rw [lead_of_kind_ne hkind], ?_⟩
    rw [hrule]
    decide
  | @joined rule items hrule hoccur _ =>
    have hkind : d.kind ≠ .search := by simp [kind, hrule, Rule.kind]
    refine ⟨_, by rw [lead_of_kind_ne hkind, hoccur, Occur.mark, String.empty_append], ?_⟩
    rw [hrule] at hallows ⊢
    cases hallows with
    | strings hkeeps => rw [Rule.read, StringsRule.items_joined hkeeps]
  | @qualified rule term pattern hrule hwritten hfield =>
    refine ⟨_, by rw [lead_of_field_ne hfield], ?_⟩
    rw [hrule] at hallows ⊢
    exact hwritten.read_back hallows (hterm term rfl)
  | @unqualified rule term pattern hrule hwritten hfield =>
    have hkind : d.kind = .search := by simp [kind, hrule, Rule.kind]
    refine ⟨_, by rw [lead_of_field_eq hkind hfield], ?_⟩
    rw [hrule] at hallows ⊢
    exact hwritten.read_back hallows (hterm term rfl)

end Declaration

namespace Parameter

/-- A clause is read back.  What stands behind the lead, given to a parameter with the same
declaration, leads to the state that the clause was rendered from.  The text that led there first
may have been refused. -/
theorem read_clauseText (p : Parameter) (text : String) (hd : p.declaration.Literal)
    (hclause : (p.read text).2.clauseText ≠ "") :
    ∃ rest, (p.read text).2.clauseText = p.declaration.lead ++ rest ∧
      ∀ q : Parameter, q.declaration = p.declaration → (q.read rest).2 = (p.read text).2 := by
  have horigin : (p.read text).2.ReadFrom fun _ => True := .read p trivial
  have hsound := horigin.sound
  have htable := hasClauses_clauses hsound
  rw [ne_eq, clauseText_eq_empty_iff hsound] at hclause
  rw [clauseText_eq]
  generalize (p.read text).2.clauses = clauses at htable hclause
  cases htable with
  | silent _ => exact absurd rfl hclause
  | @value value _ hparsed _ hvalue hlines =>
    have hterm : ∀ term, value = .search term → term.text ≠ "" := by
      rintro term rfl
      exact (hsound.parsed_search term hvalue).mp hparsed
    obtain ⟨rest, rfl, hrest⟩ := hlines.read_back hd hclause (hsound.allows value hvalue) hterm
    have hreading : (p.declaration.rule.read text).2 = .of value := Reading.eq_of hparsed hvalue
    refine ⟨rest, by simp [Text.joined], ?_⟩
    intro q hq
    show (⟨q.declaration, (q.declaration.rule.read rest).2⟩ : Parameter)
      = ⟨p.declaration, (p.declaration.rule.read text).2⟩
    rw [hq, hreading]
    exact congrArg (Parameter.mk p.declaration) hrest

theorem read_clauseText_cut :
    let p : Parameter := .fresh ⟨"q", some "name", true, .must, .search ⟨'*', 1, 3⟩⟩
    p.declaration.Literal ∧ (p.read "*gam*ma").2.clauseText = "+name:*gam" ∧
      (p.read "*gam").2 = (p.read "*gam*ma").2 := by
  intro p
  have hd : p.declaration.Literal := .inl rfl
  have hclause : (p.read "*gam*ma").2.clauseText = "+name:*gam" := by decide
  refine ⟨hd, hclause, ?_⟩
  obtain ⟨rest, htext, hread⟩ := p.read_clauseText "*gam*ma" hd (by decide)
  have hlead : p.declaration.lead = "+name:" := by decide
  have hrest : "+name:" ++ "*gam" = "+name:" ++ rest := by
    rw [← hlead, ← htext, hclause]
    decide
  obtain rfl := (String.append_right_inj _).mp hrest
  exact hread p rfl

end Parameter

end TypedQuery
