import TypedQuery.Rule
import TypedQuery.Text.Cut

/-!
# Selecting the tokens of a list

A list is written as tokens with a separator between them.  Empty tokens do not
count.  A selection keeps the tokens it accepts and, if it is distinct, of equal
tokens the first.  What is compared is the *label* of a token, which for a sort
key is its field without the direction.
-/

namespace TypedQuery

/-- The tokens of a list: its pieces that are not empty. -/
def Text.tokens (separator : Char) (text : String) : List String :=
  (pieces separator text).filter (!·.isEmpty)

namespace Selection

/-- Whether a token with a given label is accepted. -/
def accepts (s : Selection) (label : String) : Bool :=
  s.allowed.isEmpty || s.allowed.contains label

/-- The first token of each label. -/
def firsts {α : Type} (label : α → String) : List α → List α
  | [] => []
  | a :: rest => a :: (firsts label rest).filter fun b => label b != label a

/-- The tokens that a selection keeps, in their order. -/
def keep {α : Type} (s : Selection) (label : α → String) (tokens : List α) : List α :=
  let accepted := tokens.filter fun a => s.accepts (label a)
  if s.distinct then firsts label accepted else accepted

/-! ## What is kept -/

theorem firsts_sublist {α : Type} (label : α → String) (tokens : List α) :
    (firsts label tokens).Sublist tokens := by
  induction tokens with
  | nil => exact .slnil
  | cons a rest ih => exact .cons_cons a (.trans List.filter_sublist ih)

/-- No label is kept twice. -/
theorem nodup_firsts {α : Type} (label : α → String) (tokens : List α) :
    ((firsts label tokens).map label).Nodup := by
  induction tokens with
  | nil => simp [firsts]
  | cons a rest ih =>
    simp only [firsts, List.map_cons, List.nodup_cons]
    refine ⟨by simp, ?_⟩
    exact List.Sublist.nodup (List.filter_sublist.map label) ih

/-- No label is lost. -/
theorem exists_mem_firsts {α : Type} (label : α → String) {tokens : List α} {a : α}
    (h : a ∈ tokens) : ∃ b ∈ firsts label tokens, label b = label a := by
  induction tokens with
  | nil => simp at h
  | cons c rest ih =>
    by_cases hc : label a = label c
    · exact ⟨c, by simp [firsts], hc.symm⟩
    · have hmem : a ∈ rest := (List.mem_cons.mp h).resolve_left fun e => hc (by rw [e])
      obtain ⟨b, hb, hl⟩ := ih hmem
      exact ⟨b, by simp [firsts, hb, hl, hc], hl⟩

theorem keep_sublist {α : Type} (s : Selection) (label : α → String) (tokens : List α) :
    (s.keep label tokens).Sublist tokens := by
  simp only [keep]
  split
  · exact (firsts_sublist label _).trans List.filter_sublist
  · exact List.filter_sublist

theorem accepts_of_mem_keep {α : Type} {s : Selection} {label : α → String} {tokens : List α}
    {a : α} (h : a ∈ s.keep label tokens) : s.accepts (label a) = true := by
  simp only [keep] at h
  split at h
  · exact (List.mem_filter.mp ((firsts_sublist label _).subset h)).2
  · exact (List.mem_filter.mp h).2

example : Text.tokens ',' ",a,,b," = ["a", "b"] := by decide
example : keep ⟨[], true⟩ id ["b", "a", "b"] = ["b", "a"] := by decide
example : keep ⟨["b"], false⟩ id ["b", "a", "b"] = ["b", "b"] := by decide

end Selection

end TypedQuery
