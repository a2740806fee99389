/-!
# Cutting a text at a character

A query string is taken apart by separators, each a single character.  Two
operations do it.  `pieces` cuts a text at every occurrence of the separator,
`cut?` at the first occurrence only.  `joined` is the way back from pieces to a
text.

`cut?_eq_some_iff` says what a cut is: the two sides with the separator between
them give the text, and the first side is free of the separator.
-/

namespace TypedQuery.Text

/-- The pieces of a text between the occurrences of a separator.  There is one piece more
than there are separators, so an empty text has a single, empty piece. -/
def pieces (separator : Char) (text : String) : List String :=
  (text.toList.splitOn separator).map String.ofList

/-- The two sides of the first occurrence of a separator, if the text has one. -/
def cut? (separator : Char) (text : String) : Option (String × String) :=
  match text.toList.dropWhile (· != separator) with
  | [] => none
  | _ :: rest =>
    some (String.ofList (text.toList.takeWhile (· != separator)), String.ofList rest)

/-- Texts written one after the other with a separator between neighbours. -/
def joined (separator : Char) (parts : List String) : String :=
  (String.singleton separator).intercalate parts

/-! ## What a cut is -/

theorem not_mem_takeWhile_ne (separator : Char) (chars : List Char) :
    separator ∉ chars.takeWhile (· != separator) := by
  induction chars with
  | nil => simp
  | cons c rest ih =>
    by_cases h : c = separator
    · simp [h]
    · simp [h, ih, Ne.symm h]

theorem dropWhile_ne_append {separator : Char} {before : List Char} (h : separator ∉ before)
    (after : List Char) :
    (before ++ separator :: after).dropWhile (· != separator) = separator :: after := by
  induction before with
  | nil => simp
  | cons c rest ih =>
    have hc : c ≠ separator := fun e => h (by simp [e])
    simp [hc, ih (fun m => h (by simp [m]))]

theorem takeWhile_ne_append {separator : Char} {before : List Char} (h : separator ∉ before)
    (after : List Char) :
    (before ++ separator :: after).takeWhile (· != separator) = before := by
  induction before with
  | nil => simp
  | cons c rest ih =>
    have hc : c ≠ separator := fun e => h (by simp [e])
    simp [hc, ih (fun m => h (by simp [m]))]

/-- Reading a cut off a text that is written as one. -/
theorem cut?_append {separator : Char} {before : String} (h : separator ∉ before.toList)
    (after : String) :
    cut? separator (before ++ String.singleton separator ++ after) = some (before, after) := by
  simp [cut?, dropWhile_ne_append h, takeWhile_ne_append h]

/-- A text has no cut exactly if the separator does not occur in it. -/
theorem cut?_eq_none_iff {separator : Char} {text : String} :
    cut? separator text = none ↔ separator ∉ text.toList := by
  constructor
  · intro h hmem
    obtain ⟨before, after, hsplit⟩ := List.append_of_mem hmem
    have := not_mem_takeWhile_ne separator text.toList
    revert h
    unfold cut?
    cases hd : text.toList.dropWhile (· != separator) with
    | nil =>
      have heq := List.takeWhile_append_dropWhile (p := (· != separator)) (l := text.toList)
      rw [hd, List.append_nil] at heq
      rw [heq] at this
      exact absurd hmem this
    | cons c rest => simp
  · intro h
    cases hd : text.toList.dropWhile (· != separator) with
    | nil => simp [cut?, hd]
    | cons c rest =>
      have hc : c = separator := by
        have := List.head?_dropWhile_not (· != separator) text.toList
        simpa [hd] using this
      exact absurd ((List.dropWhile_sublist (· != separator)).subset (by simp [hd, hc])) h

/-- A cut is the way to write the text as two sides of a separator, the first side free of
it. -/
theorem cut?_eq_some_iff {separator : Char} {text before after : String} :
    cut? separator text = some (before, after) ↔
      text = before ++ String.singleton separator ++ after ∧ separator ∉ before.toList := by
  constructor
  · intro h
    have hmem : separator ∈ text.toList := by
      have hne : cut? separator text ≠ none := by simp [h]
      exact Classical.not_not.mp fun hn => hne (cut?_eq_none_iff.mpr hn)
    have heq := List.takeWhile_append_dropWhile (p := (· != separator)) (l := text.toList)
    unfold cut? at h
    cases hd : text.toList.dropWhile (· != separator) with
    | nil => simp [hd] at h
    | cons c rest =>
      simp only [hd, Option.some.injEq, Prod.mk.injEq] at h
      obtain ⟨rfl, rfl⟩ := h
      have hc : c = separator := by
        have := List.head?_dropWhile_not (· != separator) text.toList
        simpa [hd] using this
      refine ⟨?_, by simpa using not_mem_takeWhile_ne separator text.toList⟩
      apply String.toList_inj.mp
      rw [hd, hc] at heq
      simpa using heq.symm
  · rintro ⟨rfl, h⟩
    exact cut?_append h after

/-! ## Pieces -/

theorem pieces_ne_nil (separator : Char) (text : String) : pieces separator text ≠ [] := by
  simp [pieces, List.splitOn_ne_nil]

@[simp] theorem toList_joined (separator : Char) (parts : List String) :
    (joined separator parts).toList = [separator].intercalate (parts.map String.toList) := by
  simp [joined]

/-- Joining the pieces of a text gives the text. -/
theorem joined_pieces (separator : Char) (text : String) :
    joined separator (pieces separator text) = text := by
  apply String.toList_inj.mp
  have h : String.toList ∘ String.ofList = id := funext fun _ => String.toList_ofList
  simp [pieces, h, List.intercalate_splitOn]

/-- The pieces of joined texts are the texts, if none of them holds the separator. -/
theorem pieces_joined {separator : Char} {parts : List String} (hne : parts ≠ [])
    (h : ∀ part ∈ parts, separator ∉ part.toList) :
    pieces separator (joined separator parts) = parts := by
  have hid : String.ofList ∘ String.toList = id := funext fun _ => String.ofList_toList
  rw [pieces, toList_joined,
    List.splitOn_intercalate separator (by simpa using h) (by simpa using hne)]
  simp [hid]

example : pieces '&' "a&&b" = ["a", "", "b"] := by decide
example : pieces '&' "" = [""] := by decide
example : cut? '=' "a=b=c" = some ("a", "b=c") := by decide
example : joined ',' ["a", "b"] = "a,b" := by decide

end TypedQuery.Text
