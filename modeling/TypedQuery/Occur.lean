import TypedQuery.Vocabulary

/-!
# Occurrence

A clause of a full-text query is required, optional or excluded.  The query
marks which by a character in front of the clause.
-/

namespace TypedQuery

/-- How a clause takes part in a query. -/
inductive Occur where
  /-- The clause has to match. -/
  | must
  /-- The clause may match. -/
  | should
  /-- The clause has to fail. -/
  | mustNot
  deriving DecidableEq, Repr

instance : Vocabulary Occur where
  noun := "condition"
  members := [.must, .should, .mustNot]
  word
    | .must => "must"
    | .should => "should"
    | .mustNot => "not"
  ofLowercase?
    | "must" => some .must
    | "should" => some .should
    | "not" => some .mustNot
    | _ => none

/-- The mark in front of a clause. -/
def Occur.mark : Occur → String
  | .must => "+"
  | .should => ""
  | .mustNot => "-"

instance : LawfulVocabulary Occur where
  ofWord?_word occur := by cases occur <;> rfl
  ofLowercase?_word occur := by cases occur <;> rfl
  eq_word_of_ofLowercase? h := by
    simp only [Vocabulary.ofLowercase?] at h
    split at h <;> cases h <;> rfl

end TypedQuery
