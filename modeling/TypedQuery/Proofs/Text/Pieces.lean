import TypedQuery.Rule.Selection

/-!
# Pieces and tokens

The pieces of a text are free of the separator, and they are the only way to
write the text with separators between texts that are free of them
(`pieces_eq_iff`).  The tokens of a list are its pieces that are not empty.

Joining adds the separator and no other character.  Parts that are not empty are
joined to a text that is not empty, so that groups of such parts can be joined
one by one, the empty results left out, and the rest joined again
(`joined_groups`).
-/

namespace TypedQuery.Text

/-! ## Joining -/

theorem joined_nil (separator : Char) : joined separator [] = "" :=
  String.intercalate_nil

theorem joined_cons {separator : Char} {part : String} {parts : List String} (h : parts ≠ []) :
    joined separator (part :: parts)
      = part ++ String.singleton separator ++ joined separator parts :=
  String.intercalate_cons_of_ne_nil h

theorem joined_append {separator : Char} {parts parts' : List String} (h : parts ≠ [])
    (h' : parts' ≠ []) : joined separator (parts ++ parts')
      = joined separator parts ++ String.singleton separator ++ joined separator parts' :=
  String.intercalate_append_of_ne_nil h h'

/-- The characters of joined parts are the separator and those of the parts. -/
theorem mem_joined {separator c : Char} {parts : List String}
    (h : c ∈ (joined separator parts).toList) : c = separator ∨ ∃ part ∈ parts, c ∈ part.toList := by
  induction parts with
  | nil => simp [joined_nil] at h
  | cons part parts ih =>
    by_cases hparts : parts = []
    · subst hparts
      exact .inr ⟨part, List.mem_cons_self, by simpa [joined] using h⟩
    · simp only [joined_cons hparts, String.toList_append, List.mem_append] at h
      rcases h with (hpart | hsep) | hrest
      · exact .inr ⟨part, List.mem_cons_self, hpart⟩
      · exact .inl (by simpa using hsep)
      · rcases ih hrest with hsep | ⟨other, hother, hc⟩
        · exact .inl hsep
        · exact .inr ⟨other, List.mem_cons_of_mem _ hother, hc⟩

theorem mem_joined_of_mem {separator c : Char} {parts : List String} {part : String}
    (hpart : part ∈ parts) (hc : c ∈ part.toList) : c ∈ (joined separator parts).toList := by
  induction parts with
  | nil => exact absurd hpart List.not_mem_nil
  | cons first parts ih =>
    by_cases hparts : parts = []
    · subst hparts
      obtain rfl := List.mem_singleton.mp hpart
      simpa [joined] using hc
    · simp only [joined_cons hparts, String.toList_append, List.mem_append]
      rcases List.mem_cons.mp hpart with rfl | hpart
      · exact .inl (.inl hc)
      · exact .inr (ih hpart)

theorem joined_eq_empty_iff {separator : Char} {parts : List String}
    (h : ∀ part ∈ parts, part ≠ "") : joined separator parts = "" ↔ parts = [] := by
  cases parts with
  | nil => simp [joined_nil]
  | cons part parts =>
    have hpart : part ≠ "" := h part List.mem_cons_self
    by_cases hparts : parts = []
    · simp [hparts, joined, hpart]
    · simp [joined_cons hparts]

/-- Groups of parts may be joined one by one. -/
theorem joined_groups {separator : Char} {groups : List (List String)}
    (h : ∀ parts ∈ groups, ∀ part ∈ parts, part ≠ "") :
    joined separator ((groups.map (joined separator)).filter (!·.isEmpty))
      = joined separator groups.flatten := by
  induction groups with
  | nil => rfl
  | cons parts groups ih =>
    have hparts : joined separator parts = "" ↔ parts = [] :=
      joined_eq_empty_iff (h parts List.mem_cons_self)
    have hgroups : ∀ parts ∈ groups, ∀ part ∈ parts, part ≠ "" :=
      fun other hother => h other (List.mem_cons_of_mem _ hother)
    have hflatten : joined separator groups.flatten = "" ↔ groups.flatten = [] := by
      apply joined_eq_empty_iff
      intro part hpart
      obtain ⟨other, hother, hmem⟩ := List.mem_flatten.mp hpart
      exact hgroups other hother part hmem
    have hrest := ih hgroups
    by_cases hnil : parts = []
    · simpa [hnil, joined_nil] using hrest
    · have hkept : (!(joined separator parts).isEmpty) = true := by simp [hparts, hnil]
      rw [List.map_cons, List.filter_cons, if_pos hkept, List.flatten_cons]
      by_cases hempty : groups.flatten = []
      · -- No other group has a part, and so none of them is kept.
        have hnone : (groups.map (joined separator)).filter (!·.isEmpty) = [] := by
          rw [List.filter_eq_nil_iff]
          intro text htext
          obtain ⟨other, hother, rfl⟩ := List.mem_map.mp htext
          have hother' : other = [] := List.flatten_eq_nil_iff.mp hempty other hother
          simp [hother', joined_nil]
        rw [hnone, hempty, List.append_nil, joined, String.intercalate_singleton]
      · have hsome : (groups.map (joined separator)).filter (!·.isEmpty) ≠ [] := by
          intro hnone
          rw [hnone, joined_nil] at hrest
          exact hempty (hflatten.mp hrest.symm)
        rw [joined_cons hsome, hrest, joined_append hnil hempty]

/-! ## Pieces -/

theorem not_mem_of_mem_splitOn {separator : Char} {chars piece : List Char}
    (h : piece ∈ chars.splitOn separator) : separator ∉ piece := by
  induction chars generalizing piece with
  | nil =>
    rw [List.splitOn_nil, List.mem_singleton] at h
    subst h
    exact List.not_mem_nil
  | cons c rest ih =>
    rw [List.splitOn_cons_eq_if_modifyHead] at h
    split at h
    · rcases List.mem_cons.mp h with rfl | h
      · exact List.not_mem_nil
      · exact ih h
    next hc =>
      cases hsplit : rest.splitOn separator with
      | nil => exact absurd hsplit (List.splitOn_ne_nil _ _)
      | cons first others =>
        rw [hsplit, List.modifyHead_cons] at h
        rcases List.mem_cons.mp h with rfl | h
        · have hfirst : separator ∉ first := ih (by rw [hsplit]; exact List.mem_cons_self)
          intro hmem
          rcases List.mem_cons.mp hmem with rfl | hmem
          · exact hc (beq_self_eq_true _)
          · exact hfirst hmem
        · exact ih (by rw [hsplit]; exact List.mem_cons_of_mem _ h)

/-- A piece is free of the separator. -/
theorem not_mem_of_mem_pieces {separator : Char} {text piece : String}
    (h : piece ∈ pieces separator text) : separator ∉ piece.toList := by
  obtain ⟨chars, hchars, rfl⟩ := List.mem_map.mp h
  rw [String.toList_ofList]
  exact not_mem_of_mem_splitOn hchars

/-- A piece has no characters but those of the text. -/
theorem mem_of_mem_pieces {separator c : Char} {text piece : String}
    (h : piece ∈ pieces separator text) (hc : c ∈ piece.toList) : c ∈ text.toList := by
  rw [← joined_pieces separator text]
  exact mem_joined_of_mem h hc

/-- The pieces are the one way to write a text with separators between texts that are free
of them. -/
theorem pieces_eq_iff {separator : Char} {text : String} {parts : List String} :
    pieces separator text = parts ↔
      parts ≠ [] ∧ joined separator parts = text ∧ ∀ part ∈ parts, separator ∉ part.toList := by
  constructor
  · rintro rfl
    exact ⟨pieces_ne_nil separator text, joined_pieces separator text,
      fun part hpart => not_mem_of_mem_pieces hpart⟩
  · rintro ⟨hne, rfl, hfree⟩
    exact pieces_joined hne hfree

/-- The pieces of two texts with a separator between them are those of the one and of the other. -/
theorem pieces_append (separator : Char) (a b : String) :
    pieces separator (a ++ String.singleton separator ++ b)
      = pieces separator a ++ pieces separator b := by
  rw [pieces_eq_iff]
  refine ⟨by simp [pieces_ne_nil], ?_, ?_⟩
  · rw [joined_append (pieces_ne_nil _ _) (pieces_ne_nil _ _), joined_pieces, joined_pieces]
  · intro part hpart
    rcases List.mem_append.mp hpart with h | h
    · exact not_mem_of_mem_pieces h
    · exact not_mem_of_mem_pieces h

theorem pieces_of_not_mem {separator : Char} {text : String} (h : separator ∉ text.toList) :
    pieces separator text = [text] := by
  rw [pieces_eq_iff]
  refine ⟨by simp, String.intercalate_singleton, ?_⟩
  simpa using h

/-! ## Tokens -/

theorem mem_tokens {separator : Char} {text token : String} :
    token ∈ tokens separator text ↔ token ∈ pieces separator text ∧ token ≠ "" := by
  simp [tokens, List.mem_filter]

/-- A token is free of the separator. -/
theorem not_mem_of_mem_tokens {separator : Char} {text token : String}
    (h : token ∈ tokens separator text) : separator ∉ token.toList :=
  not_mem_of_mem_pieces (mem_tokens.mp h).1

/-- Texts that can be tokens are the tokens of the list that they are joined to. -/
theorem tokens_joined {separator : Char} {parts : List String} (hne : ∀ part ∈ parts, part ≠ "")
    (hfree : ∀ part ∈ parts, separator ∉ part.toList) :
    tokens separator (joined separator parts) = parts := by
  by_cases hparts : parts = []
  · subst hparts
    rfl
  · rw [tokens, pieces_joined hparts hfree, List.filter_eq_self]
    intro part hpart
    simp [hne part hpart]

end TypedQuery.Text
