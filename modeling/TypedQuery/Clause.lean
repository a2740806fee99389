import TypedQuery.Registry.Lookup

/-!
# Clauses

What has been read is handed on as a full-text query.  A full-text query is a
list of clauses with a space between neighbours.  Below, `±` is the mark of the
parameter's occurrence and `f` its field.

* An integer or a truth value `v` is the clause `±f:v`.
* A range is two clauses, `±f:>=low` and `±f:<=high`.
* Strings that may occur are one clause, `f:a,b`, with the list separator of the
  rule.
* Strings that must or must not occur are a clause each, `±f:a` and `±f:b`.
* A search term is `±f:` followed by its pattern, with the wildcard of the rule.
  If the field is empty the term is searched in the whole text, and its clause
  is `±` followed by the pattern.
* Sort keys are no part of the query.  They are handed on as a list of their
  written forms.

A parameter has clauses only if it is included and has a usable value.

Which clauses a value has is decided by the value alone.  The separator of a
list and the wildcard of a pattern are those of the rule, and the usual ones
stand in where the rule has none.
-/

namespace TypedQuery

namespace Rule

/-- The separator between strings, of a rule that has one. -/
def listSeparator? : Rule → Option Char
  | .strings rule => some rule.separator
  | _ => none

/-- The wildcard of a search term, of a rule that has one. -/
def wildcard? : Rule → Option Char
  | .search rule => some rule.wildcard
  | _ => none

end Rule

namespace Declaration

/-- A clause about the field of a declaration. -/
def clause (d : Declaration) (condition : String) : String :=
  d.occur.mark ++ d.field ++ ":" ++ condition

/-- The clause for a search term. -/
def searchClause (d : Declaration) (pattern : String) : String :=
  if d.field.isEmpty then d.occur.mark ++ pattern else d.clause pattern

/-- The clauses for a value. -/
def clauses (d : Declaration) : Value → List String
  | .integer n => [d.clause (Decimal.ofInt n.toInt)]
  | .boolean b => [d.clause (if b then "true" else "false")]
  | .range low high =>
    [d.clause (">=" ++ Decimal.ofInt low.toInt), d.clause ("<=" ++ Decimal.ofInt high.toInt)]
  | .strings [] => []
  | .strings items =>
    match d.occur with
    | .should =>
      let separator := d.rule.listSeparator?.getD Standard.listSeparator
      [d.clause (Text.joined separator items)]
    | _ => items.map d.clause
  | .search term =>
    let wildcard := d.rule.wildcard?.getD Standard.wildcard
    [d.searchClause (term.pattern wildcard)]
  -- Sort keys are handed on by themselves.
  | .sort _ => []

end Declaration

namespace Parameter

/-- The clauses of a parameter. -/
def clauses (p : Parameter) : List String :=
  if p.declaration.included then
    match p.usable with
    | some value => p.declaration.clauses value
    | none => []
  else []

/-- The clauses of a parameter, written one after the other. -/
def clauseText (p : Parameter) : String :=
  " ".intercalate p.clauses

/-- The written forms of the sort keys of a parameter. -/
def sortTokens (p : Parameter) : List String :=
  match p.declaration.rule, p.usable with
  | .sort rule, some (.sort keys) => keys.map (SortKey.token rule.modifier)
  | _, _ => []

end Parameter

namespace Registry

/-- The full-text query of a registry: the clauses of its parameters in the order of
registration. -/
def fullText (r : Registry) : String :=
  " ".intercalate ((r.parameters.toList.map Parameter.clauseText).filter (!·.isEmpty))

/-- The sort keys of a parameter in their written form. -/
def sortTokens (r : Registry) (name : String) : Except QueryError (List String) :=
  (r.findOfKind name .sort).map Parameter.sortTokens

end Registry

example : Declaration.clauses ⟨"age", some "profile.age", true, .must, .range ⟨'-', 0, 0⟩⟩
    (.range 1 9) = ["+profile.age:>=1", "+profile.age:<=9"] := by decide

example : Declaration.clauses ⟨"q", some "", true, .mustNot, .search ⟨'*', 1, 0⟩⟩
    (.search ⟨"alfa", .start⟩) = ["-alfa*"] := by decide

end TypedQuery
