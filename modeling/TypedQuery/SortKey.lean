import TypedQuery.Vocabulary

/-!
# Sort keys

A sort key is a field with a direction.  It is written as the name of the field,
with a modifier character in front if the direction is descending.

`ofToken_token` says that a key is read back from its written form.  The
exception is an ascending key whose field starts with the modifier, which would
be taken for a descending one.
-/

namespace TypedQuery

/-- The direction of a sort. -/
inductive Direction where
  | ascending
  | descending
  deriving DecidableEq, Repr

instance : Vocabulary Direction where
  noun := "sort direction"
  members := [.ascending, .descending]
  word
    | .ascending => "ascending"
    | .descending => "descending"

instance : LawfulVocabulary Direction where
  ofWord?_word direction := by cases direction <;> rfl
  ofLowercase?_word direction := by cases direction <;> rfl
  eq_word_of_ofLowercase? h := (Vocabulary.word_of_ofWord? h).symm

/-- A field to sort by. -/
structure SortKey where
  field : String
  direction : Direction
  deriving DecidableEq, Repr

namespace SortKey

/-- The sort key that a token stands for.  One modifier in front is not part of the
field. -/
def ofToken (modifier : Char) (token : String) : SortKey :=
  match token.toList with
  | [] => ⟨token, .ascending⟩
  | c :: rest => if c = modifier then ⟨String.ofList rest, .descending⟩ else ⟨token, .ascending⟩

/-- The written form of a sort key. -/
def token (modifier : Char) (key : SortKey) : String :=
  match key.direction with
  | .ascending => key.field
  | .descending => String.singleton modifier ++ key.field

theorem ofToken_token {modifier : Char} {key : SortKey}
    (h : key.direction = .ascending → key.field.toList.head? ≠ some modifier) :
    ofToken modifier (key.token modifier) = key := by
  obtain ⟨field, direction⟩ := key
  cases direction with
  | descending => simp [token, ofToken]
  | ascending =>
    simp only [token, ofToken]
    cases hf : field.toList with
    | nil => rfl
    | cons c rest =>
      have hc : c ≠ modifier := by simpa [hf] using h rfl
      simp [hc]

example : ofToken '-' "-age" = ⟨"age", .descending⟩ := by decide
example : ofToken '-' "--age" = ⟨"-age", .descending⟩ := by decide

end SortKey

end TypedQuery
