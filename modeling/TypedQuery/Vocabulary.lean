import TypedQuery.Unicode.Lowercase

/-!
# Words for closed sets

Several notions of the library are closed sets whose members are named by a
word: the kinds of parameters, the ways a clause may occur, the ends of a search
term.  A `Vocabulary` lists the members of such a set in their order, each with
its word.

A word is found in two ways.  `ofWord?` looks for the exact word among the
members.  `parse` reads the lowercase form of a text by a table of its own,
`ofLowercase?`, and has a message for a text that is no word of the set.

`LawfulVocabulary` asks that every member is found by its word, and that the table
has the same words.
-/

namespace TypedQuery

/-- A closed set, with a word for each of its members. -/
class Vocabulary (α : Type) where
  /-- What a member of the set is called. -/
  noun : String
  /-- The members of the set, each once. -/
  members : List α
  /-- The word for a member. -/
  word : α → String
  /-- The member that a text in small letters stands for.  A set that has no table for this is
  searched for the word. -/
  ofLowercase? : String → Option α := fun text => members.find? (word · == text)

/-- A text that is no word of a closed set. -/
structure UnknownWord (α : Type) where
  text : String
  deriving DecidableEq, Repr

/-- The wording of the error. -/
def UnknownWord.message {α : Type} [Vocabulary α] (e : UnknownWord α) : String :=
  "unknown " ++ Vocabulary.noun α ++ ": " ++ e.text

namespace Vocabulary

variable {α : Type} [Vocabulary α]

/-- The words of the set, in the order of its members. -/
def words (α : Type) [Vocabulary α] : List String :=
  (members : List α).map word

/-- The member with a given word. -/
def ofWord? (text : String) : Option α :=
  members.find? (word · == text)

/-- The member that the lowercase form of a text stands for. -/
def parse (text : String) : Except (UnknownWord α) α :=
  match ofLowercase? (Unicode.lowercase text) with
  | some a => .ok a
  | none => .error ⟨text⟩

/-- A member that is found has the word that was asked for. -/
theorem word_of_ofWord? {text : String} {a : α} (h : ofWord? text = some a) : word a = text := by
  simpa using List.find?_some h

end Vocabulary

/-- Every member is found by its word.  So no member is left out, and no two have the same
word.  In small letters the members stand for their words too, and for nothing else. -/
class LawfulVocabulary (α : Type) [Vocabulary α] : Prop where
  ofWord?_word : ∀ a : α, Vocabulary.ofWord? (Vocabulary.word a) = some a
  ofLowercase?_word : ∀ a : α, Vocabulary.ofLowercase? (Vocabulary.word a) = some a
  eq_word_of_ofLowercase? : ∀ {text : String} {a : α},
    Vocabulary.ofLowercase? text = some a → text = Vocabulary.word a

namespace Vocabulary

export LawfulVocabulary (ofWord?_word ofLowercase?_word eq_word_of_ofLowercase?)

variable {α : Type} [Vocabulary α] [LawfulVocabulary α]

/-- The table for small letters and the words agree. -/
theorem ofLowercase?_eq_some_iff {text : String} {a : α} :
    ofLowercase? text = some a ↔ text = word a := by
  constructor
  · exact eq_word_of_ofLowercase?
  · rintro rfl
    exact ofLowercase?_word a

theorem mem_members (a : α) : a ∈ (members : List α) :=
  List.mem_of_find?_eq_some (ofWord?_word a)

end Vocabulary

end TypedQuery
