import TypedQuery.Proofs.Rule.Outcome
import TypedQuery.Proofs.Text.CaseVariants

/-!
# Words for values

A truth value is given by a word, and so are the members of the closed sets that the
library has words for.  Words are found in letters of either case, and a text that is
no word is refused as it is.

All these words are plain.  So the texts that are found are the case variants of a
word and no others, whichever lowercase form is compared (`caseless_words`).
-/

namespace TypedQuery

open Text (CaseVariant Plain)
open Unicode (LowerForm)

/-! ## Closed sets -/

/-- A closed set whose words are plain. -/
class PlainVocabulary (α : Type) [Vocabulary α] : Prop where
  plain_of_mem_words : ∀ word ∈ Vocabulary.words α, Plain word

instance : PlainVocabulary Kind := ⟨by decide⟩

instance : PlainVocabulary Occur := ⟨by decide⟩

instance : PlainVocabulary Anchor := ⟨by decide⟩

namespace Vocabulary

variable {α : Type} [Vocabulary α]

/-- How a text is read as a member of a closed set: as the one whose word it is up to case, and
otherwise not at all. -/
structure Reads (α : Type) [Vocabulary α] (text : String) : Prop where
  ok_iff : ∀ a : α, parse text = .ok a ↔ CaseVariant text (word a)
  error_iff : ∀ e : UnknownWord α,
    parse text = .error e ↔ e = ⟨text⟩ ∧ ∀ a : α, ¬ CaseVariant text (word a)

variable [LawfulVocabulary α] [PlainVocabulary α]

theorem plain_word (a : α) : Plain (word a) :=
  PlainVocabulary.plain_of_mem_words _ (List.mem_map_of_mem (mem_members a))

theorem parse_eq_ok_iff {text : String} {a : α} :
    parse text = .ok a ↔ CaseVariant text (word a) := by
  rw [← LowerForm.lowercase_eq_iff (plain_word a), ← ofLowercase?_eq_some_iff, parse]
  cases (ofLowercase? (Unicode.lowercase text) : Option α) with
  | none => simp
  | some b => simp

theorem reads (α : Type) [Vocabulary α] [LawfulVocabulary α] [PlainVocabulary α] (text : String) :
    Reads α text where
  ok_iff _ := parse_eq_ok_iff
  error_iff e := by
    simp only [← parse_eq_ok_iff]
    unfold parse
    cases (ofLowercase? (Unicode.lowercase text) : Option α) with
    | none => simp [eq_comm]
    | some b => simp

end Vocabulary

/-! ## Truth values -/

/-- The words for a truth value: the whole word and its first letter. -/
def booleanWords : Bool → List String
  | true => ["true", "t"]
  | false => ["false", "f"]

theorem plain_of_mem_booleanWords : ∀ b, ∀ word ∈ booleanWords b, Plain word := by
  decide

section

variable {text : String}

theorem readBoolean_eq_ok_iff {b : Bool} :
    readBoolean text = .ok b ↔ Unicode.lowercase text ∈ booleanWords b := by
  unfold readBoolean
  cases b with
  | true =>
    simp only [booleanWords, List.mem_cons, List.not_mem_nil, or_false]
    split
    next htrue => simp [htrue]
    next hother =>
      split
      · simp [hother]
      · simp [hother]
  | false =>
    simp only [booleanWords, List.mem_cons, List.not_mem_nil, or_false]
    split
    next htrue =>
      -- The two truth values have no word in common.
      rcases htrue with hword | hletter
      · simp [hword]
      · simp [hletter]
    next hother =>
      split
      next hfalse => simp [hfalse]
      next hnone => simp [hnone]

/-- What is no word for a truth value is refused, with the text as it is. -/
theorem readBoolean_eq_error_iff {fault : Fault} :
    readBoolean text = .error fault ↔
      fault = .notBoolean text ∧ ∀ b, Unicode.lowercase text ∉ booleanWords b := by
  simp only [← readBoolean_eq_ok_iff]
  simp only [readBoolean]
  split
  · simp
  · split
    · simp
    · simp [eq_comm]

theorem lowercase_mem_booleanWords_iff {b : Bool} :
    Unicode.lowercase text ∈ booleanWords b ↔ ∃ word ∈ booleanWords b, CaseVariant text word := by
  constructor
  · intro h
    exact ⟨_, h, (LowerForm.lowercase_eq_iff (plain_of_mem_booleanWords b _ h)).mp rfl⟩
  · rintro ⟨word, hword, hvariant⟩
    rwa [(LowerForm.lowercase_eq_iff (plain_of_mem_booleanWords b word hword)).mpr hvariant]

end

/-! ## All words -/

/-- The words that are found in letters of either case. -/
inductive CaselessWord : String → Prop where
  | boolean {b : Bool} {word : String} : word ∈ booleanWords b → CaselessWord word
  | kind (kind : Kind) : CaselessWord (Vocabulary.word kind)
  | occur (occur : Occur) : CaselessWord (Vocabulary.word occur)
  | anchor (anchor : Anchor) : CaselessWord (Vocabulary.word anchor)

theorem CaselessWord.plain {word : String} (h : CaselessWord word) : Plain word := by
  cases h with
  | boolean hword => exact plain_of_mem_booleanWords _ _ hword
  | kind kind => exact Vocabulary.plain_word kind
  | occur occur => exact Vocabulary.plain_word occur
  | anchor anchor => exact Vocabulary.plain_word anchor

/-- Which texts are found as words: those that differ from a word in the case of ASCII letters
only.  Any other text is refused as it is.  So it does not matter which lowercase form of a text
is compared with the words. -/
theorem caseless_words (text : String) :
    (∀ p : Parameter, p.declaration.rule = .boolean →
      (∀ b, p.read text = (.ok (), { p with reading := .of (.boolean b) }) ↔
        ∃ word ∈ booleanWords b, CaseVariant text word) ∧
      ((p.read text).1 = .error (.badValue p.name (.notBoolean text)) ↔
        ∀ b, ∀ word ∈ booleanWords b, ¬ CaseVariant text word)) ∧
    Vocabulary.Reads Kind text ∧ Vocabulary.Reads Occur text ∧ Vocabulary.Reads Anchor text ∧
    ∀ form : String, LowerForm text.toList form.toList → ∀ word, CaselessWord word →
      (form = word ↔ CaseVariant text word) := by
  refine ⟨fun p hrule => ?_, Vocabulary.reads Kind text, Vocabulary.reads Occur text,
    Vocabulary.reads Anchor text, fun form hform word hword => hform.eq_word_iff hword.plain⟩
  have hread : p.declaration.rule.read text
      = Reading.ofExcept ((readBoolean text).map .boolean) := by
    rw [hrule, Rule.read]
  constructor
  · intro b
    rw [Parameter.read_eq_of_iff hread, ← lowercase_mem_booleanWords_iff,
      ← readBoolean_eq_ok_iff]
    simp
  · rw [Parameter.read_eq_fault_iff hread, readBoolean_eq_error_iff]
    simp [lowercase_mem_booleanWords_iff]

/-- Capitals, a letter that only looks like one of ASCII, one that becomes a letter of ASCII with
a mark, and a sigma at the end. -/
theorem caseless_words_look_alikes :
    let p : Parameter := .fresh (.ofRule "active" .boolean)
    p.read "tRuE" = (.ok (), { p with reading := .of (.boolean true) }) ∧
      (p.read "\u0422").1 = .error (.badValue "active" (.notBoolean "\u0422")) ∧
      Vocabulary.parse "Sort_STRINGS" = Except.ok Kind.sort ∧
      Vocabulary.parse "\u0130nteger" = Except.error (⟨"\u0130nteger"⟩ : UnknownWord Kind) ∧
      LowerForm "NOTΣ".toList "notς".toList ∧ ¬ CaseVariant "NOTΣ" "not" := by
  intro p
  have hrule : p.declaration.rule = .boolean := rfl
  have hsigma : LowerForm "NOTΣ".toList "notς".toList :=
    .cons 'N' (.cons 'O' (.cons 'T' (.final .nil)))
  obtain ⟨htrue, -⟩ := caseless_words "tRuE"
  obtain ⟨hcyrillic, -⟩ := caseless_words "\u0422"
  obtain ⟨-, hsort, -⟩ := caseless_words "Sort_STRINGS"
  obtain ⟨-, hdotted, -⟩ := caseless_words "\u0130nteger"
  obtain ⟨-, -, -, -, hforms⟩ := caseless_words "NOTΣ"
  refine ⟨((htrue p hrule).1 true).mpr ⟨"true", by decide, by decide⟩,
    (hcyrillic p hrule).2.mpr (by decide), (hsort.ok_iff .sort).mpr (by decide),
    (hdotted.error_iff _).mpr ⟨rfl, fun kind => ?_⟩, hsigma, ?_⟩
  · cases kind <;> decide
  · exact mt (hforms "notς" hsigma "not" (.occur .mustNot)).mpr (by decide)

end TypedQuery
