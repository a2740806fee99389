import TypedQuery.Vocabulary

/-!
# Kinds of parameters

The kind of a parameter says what its values look like, and so which rule reads
them and how they are written in a clause.
-/

namespace TypedQuery

/-- What the values of a parameter look like. -/
inductive Kind where
  /-- A list of strings, as in `interest=friends,soccer`. -/
  | strings
  /-- A search term that may have wildcards, as in `q=*smith*`. -/
  | search
  /-- A list of fields to sort by, each with a direction, as in `sort=name,-age`. -/
  | sort
  /-- A range of integers that may be open at either end, as in `age=18-30`. -/
  | range
  /-- An integer that is kept within bounds, as in `offset=50`. -/
  | integer
  /-- A truth value, as in `active=true`. -/
  | boolean
  deriving DecidableEq, Repr

instance : Vocabulary Kind where
  noun := "parameter type"
  members := [.strings, .search, .sort, .range, .integer, .boolean]
  word
    | .strings => "strings"
    | .search => "search_string"
    | .sort => "sort_strings"
    | .range => "integer_range"
    | .integer => "integer"
    | .boolean => "boolean"
  ofLowercase?
    | "strings" => some .strings
    | "search_string" => some .search
    | "sort_strings" => some .sort
    | "integer_range" => some .range
    | "integer" => some .integer
    | "boolean" => some .boolean
    | _ => none

instance : LawfulVocabulary Kind where
  ofWord?_word kind := by cases kind <;> rfl
  ofLowercase?_word kind := by cases kind <;> rfl
  eq_word_of_ofLowercase? h := by
    simp only [Vocabulary.ofLowercase?] at h
    split at h <;> cases h <;> rfl

end TypedQuery
