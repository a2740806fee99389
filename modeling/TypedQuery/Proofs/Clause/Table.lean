import TypedQuery.Clause
import TypedQuery.Proofs.Registry.Getters
import TypedQuery.Proofs.Text.Pieces

/-!
# The table of clauses

`HasClauses` is the table of clauses as a relation, one rule per line: which
texts stand for which value, given the declaration.  Each line asks for the rule
that the value is read by, so that separators and wildcards are the rule's own.
Rendering computes the lines of the table (`HasClauses.eq`), and each value that
its rule allows has a line (`exists_hasClauses`).

The renderer looks at the shape of a value, the getters at the declared kind,
and separators come from the rule.  In a reachable registry the three agree, also
after a query that was not accepted.  `Reachable.clauseText_reported` says what
follows: a parameter is silent for a reason that can be seen from outside, and
otherwise its text is the line of the table for the value that its getter
returns.
-/

namespace TypedQuery

/-! ## The table -/

/-- A term with a wildcard on each side where other text may stand. -/
inductive Term.Written (wildcard : Char) : Term → String → Prop where
  | start {text : String} : Written wildcard ⟨text, .start⟩ (text ++ String.singleton wildcard)
  | stop {text : String} : Written wildcard ⟨text, .stop⟩ (String.singleton wildcard ++ text)
  | anywhere {text : String} : Written wildcard ⟨text, .anywhere⟩
      (String.singleton wildcard ++ text ++ String.singleton wildcard)

theorem Term.written_iff {wildcard : Char} {term : Term} {pattern : String} :
    term.Written wildcard pattern ↔ term.pattern wildcard = pattern := by
  obtain ⟨text, anchor⟩ := term
  constructor
  · intro h
    cases h <;> rfl
  · rintro rfl
    cases anchor with
    | start => exact .start
    | stop => exact .stop
    | anywhere => exact .anywhere

namespace Declaration

/-- The clauses of a value. -/
inductive HasClauses (d : Declaration) : Value → List String → Prop where
  | integer {rule : IntegerRule} {n : Int64} : d.rule = .integer rule →
      HasClauses d (.integer n) [d.occur.mark ++ d.field ++ ":" ++ Decimal.ofInt n.toInt]
  | true : d.rule = .boolean →
      HasClauses d (.boolean true) [d.occur.mark ++ d.field ++ ":" ++ "true"]
  | false : d.rule = .boolean →
      HasClauses d (.boolean false) [d.occur.mark ++ d.field ++ ":" ++ "false"]
  | range {rule : RangeRule} {low high : Int64} : d.rule = .range rule →
      HasClauses d (.range low high)
        [d.occur.mark ++ d.field ++ ":" ++ (">=" ++ Decimal.ofInt low.toInt),
          d.occur.mark ++ d.field ++ ":" ++ ("<=" ++ Decimal.ofInt high.toInt)]
  | noStrings {rule : StringsRule} : d.rule = .strings rule → HasClauses d (.strings []) []
  /-- Strings that may occur share a clause.  There is no mark for such clauses. -/
  | joined {rule : StringsRule} {items : List String} : d.rule = .strings rule →
      d.occur = .should → items ≠ [] →
      HasClauses d (.strings items) [d.field ++ ":" ++ Text.joined rule.separator items]
  | each {rule : StringsRule} {items : List String} : d.rule = .strings rule →
      d.occur ≠ .should → items ≠ [] →
      HasClauses d (.strings items)
        (items.map fun item => d.occur.mark ++ d.field ++ ":" ++ item)
  | qualified {rule : SearchRule} {term : Term} {pattern : String} : d.rule = .search rule →
      term.Written rule.wildcard pattern → d.field ≠ "" →
      HasClauses d (.search term) [d.occur.mark ++ d.field ++ ":" ++ pattern]
  | unqualified {rule : SearchRule} {term : Term} {pattern : String} : d.rule = .search rule →
      term.Written rule.wildcard pattern → d.field = "" →
      HasClauses d (.search term) [d.occur.mark ++ pattern]
  | sort {rule : SortRule} {keys : List SortKey} : d.rule = .sort rule →
      HasClauses d (.sort keys) []

theorem HasClauses.eq {d : Declaration} {value : Value} {clauses : List String}
    (h : d.HasClauses value clauses) : d.clauses value = clauses := by
  cases h with
  | integer _ => rfl
  | true _ => rfl
  | false _ => rfl
  | range _ => rfl
  | noStrings _ => rfl
  | @joined rule items hrule hoccur hitems =>
    obtain ⟨item, rest, rfl⟩ := List.exists_cons_of_ne_nil hitems
    simp [Declaration.clauses, hoccur, hrule, Rule.listSeparator?, clause, Occur.mark]
  | @each rule items _ hoccur hitems =>
    obtain ⟨item, rest, rfl⟩ := List.exists_cons_of_ne_nil hitems
    cases hmark : d.occur with
    | should => exact absurd hmark hoccur
    | must => simp [Declaration.clauses, hmark, clause]
    | mustNot => simp [Declaration.clauses, hmark, clause]
  | qualified hrule hwritten hfield =>
    simp [Declaration.clauses, searchClause, hrule, Rule.wildcard?, Term.written_iff.mp hwritten,
      hfield, clause]
  | unqualified hrule hwritten hfield =>
    simp [Declaration.clauses, searchClause, hrule, Rule.wildcard?, Term.written_iff.mp hwritten,
      hfield]
  | sort _ => rfl

/-- A value that its rule allows has a line in the table. -/
theorem exists_hasClauses {d : Declaration} {value : Value} (h : d.rule.Allows value) :
    ∃ clauses, d.HasClauses value clauses := by
  generalize hrule : d.rule = rule at h
  cases h with
  | @strings rule items _ =>
    by_cases hitems : items = []
    · subst hitems
      exact ⟨_, .noStrings hrule⟩
    · by_cases hoccur : d.occur = .should
      · exact ⟨_, .joined hrule hoccur hitems⟩
      · exact ⟨_, .each hrule hoccur hitems⟩
  | @search rule term _ _ =>
    have hwritten : term.Written rule.wildcard (term.pattern rule.wildcard) :=
      Term.written_iff.mpr rfl
    by_cases hfield : d.field = ""
    · exact ⟨_, .unqualified hrule hwritten hfield⟩
    · exact ⟨_, .qualified hrule hwritten hfield⟩
  | sort _ _ => exact ⟨_, .sort hrule⟩
  | range _ => exact ⟨_, .range hrule⟩
  | integer _ _ => exact ⟨_, .integer hrule⟩
  | @boolean b =>
    cases b with
    | true => exact ⟨_, .true hrule⟩
    | false => exact ⟨_, .false hrule⟩

/-- No clause is empty. -/
theorem HasClauses.ne_empty {d : Declaration} {value : Value} {clauses : List String}
    (h : d.HasClauses value clauses) : ∀ text ∈ clauses, text ≠ "" := by
  intro text htext
  cases h with
  | noStrings _ => exact absurd htext List.not_mem_nil
  | sort _ => exact absurd htext List.not_mem_nil
  | range _ =>
    simp only [List.mem_cons, List.not_mem_nil, or_false] at htext
    rcases htext with rfl | rfl <;> simp
  | each _ _ _ =>
    obtain ⟨item, -, rfl⟩ := List.mem_map.mp htext
    simp
  | unqualified _ hwritten _ =>
    -- The field says nothing, but there is always a wildcard.
    obtain rfl := List.mem_singleton.mp htext
    cases hwritten <;> simp
  | integer _ =>
    obtain rfl := List.mem_singleton.mp htext
    simp
  | true _ =>
    obtain rfl := List.mem_singleton.mp htext
    simp
  | false _ =>
    obtain rfl := List.mem_singleton.mp htext
    simp
  | joined _ _ _ =>
    obtain rfl := List.mem_singleton.mp htext
    simp
  | qualified _ _ _ =>
    obtain rfl := List.mem_singleton.mp htext
    simp

/-- The values without clauses. -/
theorem HasClauses.eq_nil_iff {d : Declaration} {value : Value} {clauses : List String}
    (h : d.HasClauses value clauses) :
    clauses = [] ↔ d.kind = .sort ∨ value = .strings [] := by
  cases h with
  | integer hrule => simp [kind, hrule, Rule.kind]
  | true hrule => simp [kind, hrule, Rule.kind]
  | false hrule => simp [kind, hrule, Rule.kind]
  | range hrule => simp [kind, hrule, Rule.kind]
  | noStrings hrule => simp
  | joined hrule _ hitems => simp [kind, hrule, Rule.kind, hitems]
  | each hrule _ hitems => simp [kind, hrule, Rule.kind, hitems]
  | qualified hrule _ _ => simp [kind, hrule, Rule.kind]
  | unqualified hrule _ _ => simp [kind, hrule, Rule.kind]
  | sort hrule => simp [kind, hrule, Rule.kind]

end Declaration

/-! ## Parameters -/

namespace Parameter

/-- The clauses of a parameter. -/
inductive HasClauses (p : Parameter) : List String → Prop where
  | silent : p.parsed = false ∨ p.declaration.included = false → HasClauses p []
  | value {value : Value} {clauses : List String} : p.parsed = true →
      p.declaration.included = true → p.value = some value →
      p.declaration.HasClauses value clauses → HasClauses p clauses

theorem HasClauses.eq {p : Parameter} {clauses : List String} (h : p.HasClauses clauses) :
    p.clauses = clauses := by
  cases h with
  | silent hwhy =>
    rcases hwhy with hparsed | hincluded
    · simp [Parameter.clauses, usable, hparsed]
    · simp [Parameter.clauses, hincluded]
  | value hparsed hincluded hvalue htable =>
    have husable := usable_eq_some_iff.mpr ⟨hparsed, hvalue⟩
    simp [Parameter.clauses, hincluded, husable, htable.eq]

/-- A parameter that keeps to its rule has clauses. -/
theorem exists_hasClauses {p : Parameter} (h : p.reading.Sound p.declaration.rule) :
    ∃ clauses, p.HasClauses clauses := by
  by_cases hwhy : p.parsed = false ∨ p.declaration.included = false
  · exact ⟨[], .silent hwhy⟩
  · simp only [not_or, Bool.not_eq_false] at hwhy
    obtain ⟨hparsed, hincluded⟩ := hwhy
    obtain ⟨value, hvalue⟩ := Option.isSome_iff_exists.mp (h.value_of_parsed hparsed)
    obtain ⟨clauses, htable⟩ := Declaration.exists_hasClauses (h.allows value hvalue)
    exact ⟨clauses, .value hparsed hincluded hvalue htable⟩

/-- Rendering computes the clauses of a parameter that keeps to its rule. -/
theorem hasClauses_clauses {p : Parameter} (h : p.reading.Sound p.declaration.rule) :
    p.HasClauses p.clauses := by
  obtain ⟨clauses, hclauses⟩ := exists_hasClauses h
  rw [hclauses.eq]
  exact hclauses

/-- Parameters have one list of clauses each. -/
theorem map_clauses_of_forall₂ {ps : List Parameter} {groups : List (List String)}
    (h : List.Forall₂ HasClauses ps groups) : ps.map clauses = groups := by
  induction h with
  | nil => rfl
  | cons hp _ ih => rw [List.map_cons, hp.eq, ih]

theorem HasClauses.ne_empty {p : Parameter} {clauses : List String} (h : p.HasClauses clauses) :
    ∀ text ∈ clauses, text ≠ "" := by
  cases h with
  | silent _ => simp
  | value _ _ _ htable => exact htable.ne_empty

/-- Why a parameter has no clauses. -/
theorem HasClauses.eq_nil_iff {p : Parameter} {clauses : List String} (h : p.HasClauses clauses) :
    clauses = [] ↔ p.parsed = false ∨ p.declaration.included = false ∨ p.kind = .sort ∨
      p.value = some (.strings []) := by
  cases h with
  | silent hwhy => exact iff_of_true rfl (hwhy.imp_right .inl)
  | value hparsed hincluded hvalue htable =>
    rw [htable.eq_nil_iff]
    simp [hparsed, hincluded, hvalue, kind]

theorem clauseText_eq (p : Parameter) : p.clauseText = Text.joined ' ' p.clauses := rfl

/-- A parameter whose text is empty has no clauses. -/
theorem clauseText_eq_empty_iff {p : Parameter} (h : p.reading.Sound p.declaration.rule) :
    p.clauseText = "" ↔ p.clauses = [] := by
  rw [clauseText_eq]
  exact Text.joined_eq_empty_iff (hasClauses_clauses h).ne_empty

end Parameter

/-! ## Registries -/

namespace Registry

/-- What a parameter contributes to the query is what its getter reports.  It contributes nothing
exactly if it is not parsed, is left out, holds sort keys or holds no strings.  Otherwise its
text is the line of the table for the value that the getter returns.  A value that is written
with a separator or a wildcard finds one in its own rule. -/
theorem Reachable.clauseText_reported {r : Registry} (hr : r.Reachable) {p : Parameter}
    (hp : p ∈ r.parameters) :
    (p.clauseText = "" ↔ p.parsed = false ∨ p.declaration.included = false ∨ p.kind = .sort ∨
      p.value = some (.strings [])) ∧
    (p.clauseText ≠ "" → ∃ value clauses, p.value = some value ∧ r.Gives p.name value ∧
      p.declaration.HasClauses value clauses ∧ p.clauseText = Text.joined ' ' clauses) ∧
    (∀ items, p.value = some (.strings items) → p.declaration.rule.listSeparator? ≠ none) ∧
    ∀ term, p.value = some (.search term) → p.declaration.rule.wildcard? ≠ none := by
  have hsound := (hr.readFrom hp).sound
  have htable := Parameter.hasClauses_clauses hsound
  refine ⟨?_, ?_, ?_, ?_⟩
  · rw [Parameter.clauseText_eq_empty_iff hsound]
    exact htable.eq_nil_iff
  · intro hne
    rw [ne_eq, Parameter.clauseText_eq_empty_iff hsound] at hne
    rw [Parameter.clauseText_eq]
    generalize p.clauses = clauses at htable hne
    cases htable with
    | silent _ => exact absurd rfl hne
    | value hparsed _ hvalue hclauses =>
      have husable := Parameter.usable_eq_some_iff.mpr ⟨hparsed, hvalue⟩
      exact ⟨_, _, hvalue, hr.gives_of_usable hp husable, hclauses, rfl⟩
  · intro items hvalue
    have hallows := hsound.allows _ hvalue
    generalize p.declaration.rule = rule at hallows
    cases hallows
    simp [Rule.listSeparator?]
  · intro term hvalue
    have hallows := hsound.allows _ hvalue
    generalize p.declaration.rule = rule at hallows
    cases hallows
    simp [Rule.wildcard?]

theorem clauseText_reported_cut :
    let d : Declaration := ⟨"q", some "name", true, .must, .search ⟨'*', 1, 3⟩⟩
    let r := (empty .default).run [.register d, .read "q=*gamma*"]
    let p : Parameter := ⟨d, ⟨true, some (.search ⟨"gam", .anywhere⟩)⟩⟩
    r.Reachable ∧ p ∈ r.parameters ∧ r.search "q" = .ok (some ⟨"gam", .anywhere⟩) ∧
      p.clauseText = "+name:*gam*" := by
  intro d r p
  have hr : r.Reachable := (Reachable.empty .default).run _
  have hp : p ∈ r.parameters := by
    have hparameters : r.parameters = #[((Parameter.fresh d).read "*gamma*").2] :=
      parameters_read_single (by decide) (by decide) (by decide)
    have hread : ((Parameter.fresh d).read "*gamma*").2 = p := by decide
    rw [hparameters, hread]
    simp
  obtain ⟨-, hreported, -, -⟩ := hr.clauseText_reported hp
  obtain ⟨value, clauses, hvalue, hgives, htable, htext⟩ := hreported (by decide)
  cases hvalue
  refine ⟨hr, hp, hgives, ?_⟩
  rw [htext, ← htable.eq]
  decide

end Registry

end TypedQuery
