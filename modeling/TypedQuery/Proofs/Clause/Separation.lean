import TypedQuery.Proofs.Clause.Table
import TypedQuery.Proofs.Query.Outcome
import TypedQuery.Proofs.Rule.Characters

/-!
# Clauses stay apart

A full-text query is taken apart at its spaces.  Where values hold spaces a
single value can pass for several clauses.  This module is about registries that
write no space themselves: fields, wildcards and the separators of strings are
free of spaces.  There a space in a clause comes from the input, since values are
made of characters of their texts.

So for an input without a space, cutting the full-text query at its spaces gives
back the clauses of the parameters, one after the other in the order of
registration (`pieces_fullText`).  No value adds a clause to the query, and none
merges or splits the clauses that are there.
-/

namespace TypedQuery

/-! ## Spaces in clauses -/

theorem Decimal.space_not_mem_ofInt (n : Int) : ' ' ∉ (ofInt n).toList := by
  have hdigits : ∀ n, ' ' ∉ digits n := fun _ h => absurd (isDigit_of_mem_digits h) (by decide)
  cases n with
  | ofNat n => simpa [ofInt] using hdigits n
  | negSucc n => simpa [ofInt] using hdigits (n + 1)

namespace Declaration

/-- Nothing that a declaration adds to its clauses is a space. -/
structure Spaceless (d : Declaration) : Prop where
  field : ' ' ∉ d.field.toList
  separator : ∀ rule, d.rule = .strings rule → rule.separator ≠ ' '
  wildcard : ∀ rule, d.rule = .search rule → rule.wildcard ≠ ' '

variable {d : Declaration}

theorem space_not_mem_mark (occur : Occur) : ' ' ∉ occur.mark.toList := by
  cases occur <;> decide

/-- A clause has a space only if its condition has one. -/
theorem Spaceless.not_mem_clause (h : d.Spaceless) {condition : String}
    (hcondition : ' ' ∉ condition.toList) :
    ' ' ∉ (d.occur.mark ++ d.field ++ ":" ++ condition).toList := by
  simp [space_not_mem_mark, h.field, hcondition]

theorem Spaceless.not_mem_written (h : d.Spaceless) {rule : SearchRule}
    (hrule : d.rule = .search rule) {term : Term} {pattern : String}
    (hwritten : term.Written rule.wildcard pattern) (hterm : ' ' ∉ term.text.toList) :
    ' ' ∉ pattern.toList := by
  have hwildcard : ' ' ≠ rule.wildcard := (h.wildcard rule hrule).symm
  cases hwritten with
  | start => simpa [hwildcard] using hterm
  | stop => simpa [hwildcard] using hterm
  | anywhere => simpa [hwildcard] using hterm

/-- The clauses of a value without spaces have none. -/
theorem HasClauses.space_not_mem (hd : d.Spaceless) {value : Value} {clauses : List String}
    (h : d.HasClauses value clauses) (hvalue : ' ' ∉ value.chars) :
    ∀ text ∈ clauses, ' ' ∉ text.toList := by
  intro text htext
  cases h with
  | noStrings _ => exact absurd htext List.not_mem_nil
  | sort _ => exact absurd htext List.not_mem_nil
  | integer _ =>
    obtain rfl := List.mem_singleton.mp htext
    exact hd.not_mem_clause (Decimal.space_not_mem_ofInt _)
  | true _ =>
    obtain rfl := List.mem_singleton.mp htext
    exact hd.not_mem_clause (by decide)
  | false _ =>
    obtain rfl := List.mem_singleton.mp htext
    exact hd.not_mem_clause (by decide)
  | range _ =>
    simp only [List.mem_cons, List.not_mem_nil, or_false] at htext
    rcases htext with rfl | rfl
    · exact hd.not_mem_clause (by simp [Decimal.space_not_mem_ofInt])
    · exact hd.not_mem_clause (by simp [Decimal.space_not_mem_ofInt])
  | @joined rule items hrule _ _ =>
    obtain rfl := List.mem_singleton.mp htext
    have hjoined : ' ' ∉ (Text.joined rule.separator items).toList := by
      intro hmem
      rcases Text.mem_joined hmem with hseparator | ⟨item, hitem, hc⟩
      · exact hd.separator rule hrule hseparator.symm
      · exact hvalue (List.mem_flatMap.mpr ⟨item, hitem, hc⟩)
    simp only [String.toList_append, List.mem_append, not_or]
    exact ⟨⟨hd.field, by decide⟩, hjoined⟩
  | each _ _ _ =>
    obtain ⟨item, hitem, rfl⟩ := List.mem_map.mp htext
    exact hd.not_mem_clause fun hc => hvalue (List.mem_flatMap.mpr ⟨item, hitem, hc⟩)
  | qualified hrule hwritten _ =>
    obtain rfl := List.mem_singleton.mp htext
    exact hd.not_mem_clause (hd.not_mem_written hrule hwritten hvalue)
  | unqualified hrule hwritten _ =>
    obtain rfl := List.mem_singleton.mp htext
    simp only [String.toList_append, List.mem_append, not_or]
    exact ⟨space_not_mem_mark _, hd.not_mem_written hrule hwritten hvalue⟩

end Declaration

/-- A parameter that has read a text without spaces has clauses without spaces. -/
theorem Parameter.HasClauses.space_not_mem {p : Parameter} {given : String → Prop}
    (hp : p.ReadFrom given) (hgiven : ∀ text, given text → ' ' ∉ text.toList)
    (hd : p.declaration.Spaceless) {clauses : List String} (h : p.HasClauses clauses) :
    ∀ text ∈ clauses, ' ' ∉ text.toList := by
  cases h with
  | silent _ => simp
  | value _ _ hvalue htable =>
    refine htable.space_not_mem hd fun hspace => ?_
    cases hp with
    | fresh d => exact absurd hvalue (by simp [Parameter.fresh, Parameter.value, Reading.blank])
    | @read q text htext => exact hgiven text htext (Rule.mem_text_of_mem_chars hvalue hspace)

/-! ## The full-text query -/

namespace Registry

/-- The full-text query is all clauses joined. -/
theorem fullText_eq {r : Registry} (h : ∀ p ∈ r.parameters, p.reading.Sound p.declaration.rule) :
    r.fullText = Text.joined ' ' (r.parameters.toList.map Parameter.clauses).flatten := by
  have htexts : r.parameters.toList.map Parameter.clauseText
      = (r.parameters.toList.map Parameter.clauses).map (Text.joined ' ') := by
    rw [List.map_map]
    rfl
  show Text.joined ' ' ((r.parameters.toList.map Parameter.clauseText).filter (!·.isEmpty)) = _
  rw [htexts]
  apply Text.joined_groups
  intro clauses hclauses
  obtain ⟨p, hp, rfl⟩ := List.mem_map.mp hclauses
  exact (Parameter.hasClauses_clauses (h p (Array.mem_toList_iff.mp hp))).ne_empty

/-- The clauses after an input without spaces are free of them. -/
theorem space_not_mem_clauses_read {r : Registry} {input : String}
    (hr : ∀ d ∈ r.declarations, d.Spaceless) (hinput : ' ' ∉ input.toList) :
    ∀ p ∈ (r.read input).2.parameters, ∀ clause ∈ p.clauses, ' ' ∉ clause.toList := by
  intro p hp
  have hspaceless : p.declaration.Spaceless := by
    apply hr
    rw [← (r.alike_read input).declarations]
    exact List.mem_map_of_mem (Array.mem_toList_iff.mpr hp)
  have horigin := r.readFrom_read input p hp
  refine (Parameter.hasClauses_clauses horigin.sound).space_not_mem horigin ?_ hspaceless
  rintro text ⟨key, hpair⟩ hspace
  exact hinput (Settings.mem_input_of_mem_pairs hpair hspace)

/-- An input without spaces cannot change how clauses are told apart.  Whatever becomes of it, the
clauses of the parameters are not empty, and the full-text query is cut at its spaces into these
clauses.  It is empty if there is no clause. -/
theorem pieces_fullText (r : Registry) {input : String} (hr : ∀ d ∈ r.declarations, d.Spaceless)
    (hinput : ' ' ∉ input.toList) :
    ∃ groups : List (List String),
      List.Forall₂ Parameter.HasClauses (r.read input).2.parameters.toList groups ∧
      (∀ clause ∈ groups.flatten, clause ≠ "") ∧
      ((r.read input).2.fullText = "" ↔ groups.flatten = []) ∧
      (groups.flatten ≠ [] → Text.pieces ' ' (r.read input).2.fullText = groups.flatten) := by
  have hfree := space_not_mem_clauses_read hr hinput
  have hsound := fun p hp => (r.readFrom_read input p hp).sound
  generalize (r.read input).2 = r' at hfree hsound
  have hmem : ∀ clause ∈ (r'.parameters.toList.map Parameter.clauses).flatten,
      clause ≠ "" ∧ ' ' ∉ clause.toList := by
    intro clause hclause
    obtain ⟨clauses, hclauses, hclause⟩ := List.mem_flatten.mp hclause
    obtain ⟨p, hp, rfl⟩ := List.mem_map.mp hclauses
    rw [Array.mem_toList_iff] at hp
    exact ⟨(Parameter.hasClauses_clauses (hsound p hp)).ne_empty clause hclause,
      hfree p hp clause hclause⟩
  have hfull := fullText_eq hsound
  refine ⟨_, ?_, fun clause hclause => (hmem clause hclause).1, ?_, ?_⟩
  · rw [List.forall₂_map_right_iff, List.forall₂_same]
    intro p hp
    exact Parameter.hasClauses_clauses (hsound p (Array.mem_toList_iff.mp hp))
  · rw [hfull]
    exact Text.joined_eq_empty_iff fun clause hclause => (hmem clause hclause).1
  · intro hne
    rw [hfull]
    exact Text.pieces_joined hne fun clause hclause => (hmem clause hclause).2

theorem pieces_fullText_two_parameters :
    let ds : List Declaration :=
      [⟨"age", none, true, .must, .range ⟨'-', 0, 0⟩⟩,
        ⟨"villages", some "profile.villages", true, .mustNot, .strings ⟨',', .all⟩⟩]
    let r := (empty .default).registerAll ds
    (∀ d ∈ r.declarations, d.Spaceless) ∧ ' ' ∉ "villages=alfa,+x:beta&age=45-18".toList ∧
      Text.pieces ' ' (r.read "villages=alfa,+x:beta&age=45-18").2.fullText =
        ["+age:>=18", "+age:<=45", "-profile.villages:alfa", "-profile.villages:+x:beta"] := by
  intro ds r
  have hdistinct : (ds.map Declaration.name).Nodup := by decide
  have hdeclarations : r.declarations = ds := declarations_registerAll_empty .default hdistinct
  have hspaceless : ∀ d ∈ r.declarations, d.Spaceless := by
    rw [hdeclarations]
    intro d hd
    simp only [ds, List.mem_cons, List.not_mem_nil, or_false] at hd
    rcases hd with rfl | rfl
    · exact ⟨by decide, by simp, by simp⟩
    · exact ⟨by decide, by simp, by simp⟩
  have hinput : ' ' ∉ "villages=alfa,+x:beta&age=45-18".toList := by decide
  refine ⟨hspaceless, hinput, ?_⟩
  let pairs := [("villages", "alfa,+x:beta"), ("age", "45-18")]
  have hparameters : (r.read "villages=alfa,+x:beta&age=45-18").2.parameters.toList
      = ds.map fun d => (Parameter.fresh d).after pairs := by
    apply parameters_read_registerAll (by decide) hdistinct (by decide) (by decide)
    intro pair hpair
    rw [judge, answer, hdeclarations]
    simp only [pairs, List.mem_cons, List.not_mem_nil, or_false] at hpair
    rcases hpair with rfl | rfl
    · decide
    · decide
  obtain ⟨groups, htable, -, -, hpieces⟩ := r.pieces_fullText hspaceless hinput
  rw [hparameters] at htable
  obtain rfl := Parameter.map_clauses_of_forall₂ htable
  exact hpieces (by decide)

end Registry

end TypedQuery
