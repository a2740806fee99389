import TypedQuery.Vocabulary

/-!
# Search terms

A search term is a literal text together with the place where it stands in the
text that is searched for.  Wildcards give the place: `alfa*` stands at the
start, `*beta` at the end, and both `*gamma*` and the bare `gamma` stand
anywhere.  Wildcards inside the term say nothing and are dropped, so that the
literal text is free of them.
-/

namespace TypedQuery

/-- Where a term stands in the text that is searched for. -/
inductive Anchor where
  /-- The text starts with the term. -/
  | start
  /-- The text ends with the term. -/
  | stop
  /-- The term stands anywhere in the text. -/
  | anywhere
  deriving DecidableEq, Repr

instance : Vocabulary Anchor where
  noun := "match position"
  members := [.start, .stop, .anywhere]
  word
    | .start => "prefix"
    | .stop => "suffix"
    | .anywhere => "surrounded"
  ofLowercase?
    | "prefix" => some .start
    | "suffix" => some .stop
    | "surrounded" => some .anywhere
    | _ => none

instance : LawfulVocabulary Anchor where
  ofWord?_word anchor := by cases anchor <;> rfl
  ofLowercase?_word anchor := by cases anchor <;> rfl
  eq_word_of_ofLowercase? h := by
    simp only [Vocabulary.ofLowercase?] at h
    split at h <;> cases h <;> rfl

/-- The place that a leading and a trailing wildcard give. -/
def Anchor.ofWildcards (leading trailing : Bool) : Anchor :=
  match leading, trailing with
  | true, false => .stop
  | false, true => .start
  | _, _ => .anywhere

/-- A literal text and the place where it stands. -/
structure Term where
  text : String
  anchor : Anchor
  deriving DecidableEq, Repr

namespace Term

/-- The term that a text with wildcards stands for. -/
def ofPattern (wildcard : Char) (pattern : String) : Term where
  text := String.ofList (pattern.toList.filter (· != wildcard))
  anchor := Anchor.ofWildcards (pattern.toList.head? == some wildcard)
    (pattern.toList.getLast? == some wildcard)

/-- A term written with its wildcards. -/
def pattern (wildcard : Char) (term : Term) : String :=
  let star := String.singleton wildcard
  match term.anchor with
  | .start => term.text ++ star
  | .stop => star ++ term.text
  | .anywhere => star ++ term.text ++ star

/-- The first characters of a term, at the same place. -/
def take (count : Nat) (term : Term) : Term :=
  { term with text := String.ofList (term.text.toList.take count) }

theorem not_mem_text_ofPattern (wildcard : Char) (pattern : String) :
    wildcard ∉ (ofPattern wildcard pattern).text.toList := by
  simp [ofPattern]

example : ofPattern '*' "*be*ta" = ⟨"beta", .stop⟩ := by decide
example : pattern '*' ⟨"beta", .stop⟩ = "*beta" := by decide

end Term

end TypedQuery
