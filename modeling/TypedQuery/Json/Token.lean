import TypedQuery.Json.Number

/-!
# Tokens of a JSON text

A JSON text is a sequence of tokens with blanks around them.  The tokens are the
brackets and separators of lists and records, and the scalar values.  A string
token serves as a value or as the name of a member, as its place asks for.

A string ends at the first double quote that is not escaped.  It must not hold
control characters below the space as they are.  An escape `\uXXXX` that is half
of a surrogate pair needs its other half right behind it.
-/

namespace TypedQuery.Json

/-- A token of a JSON text. -/
inductive Token where
  | openList
  | closeList
  | openRecord
  | closeRecord
  | comma
  | colon
  | scalar (value : Json)

/-! ## Strings -/

/-- The value of a hexadecimal digit. -/
def hexValue? (c : Char) : Option Nat :=
  if c.isDigit then some (c.toNat - '0'.toNat)
  else if 'a' ≤ c ∧ c ≤ 'f' then some (c.toNat - 'a'.toNat + 10)
  else if 'A' ≤ c ∧ c ≤ 'F' then some (c.toNat - 'A'.toNat + 10)
  else none

/-- A unit of four hexadecimal digits. -/
def scanUnit : List Char → Option (Nat × List Char)
  | a :: b :: c :: d :: rest => do
    let high := (← hexValue? a) * 16 + (← hexValue? b)
    let low := (← hexValue? c) * 16 + (← hexValue? d)
    return (high * 256 + low, rest)
  | _ => none

/-- The second half of a surrogate pair, with its escape. -/
def scanLowSurrogate : List Char → Option (Nat × List Char)
  | '\\' :: 'u' :: chars => do
    let (low, rest) ← scanUnit chars
    if 0xDC00 ≤ low ∧ low < 0xE000 then some (low, rest) else none
  | _ => none

/-- The character of an escape `\uXXXX`, read from behind the `u`. -/
def scanCodePoint (chars : List Char) : Option (Char × List Char) := do
  let (unit, rest) ← scanUnit chars
  if 0xD800 ≤ unit ∧ unit < 0xDC00 then
    let (low, rest) ← scanLowSurrogate rest
    some (Char.ofNat (0x10000 + (unit - 0xD800) * 0x400 + (low - 0xDC00)), rest)
  else if 0xDC00 ≤ unit ∧ unit < 0xE000 then none
  else some (Char.ofNat unit, rest)

/-- The character of an escape, read from behind the backslash. -/
def scanEscape : List Char → Option (Char × List Char)
  | '"' :: rest => some ('"', rest)
  | '\\' :: rest => some ('\\', rest)
  | '/' :: rest => some ('/', rest)
  | 'b' :: rest => some ('\x08', rest)
  | 'f' :: rest => some ('\x0c', rest)
  | 'n' :: rest => some ('\n', rest)
  | 'r' :: rest => some ('\r', rest)
  | 't' :: rest => some ('\t', rest)
  | 'u' :: rest => scanCodePoint rest
  | _ => none

theorem length_of_scanUnit {chars rest : List Char} {n : Nat}
    (h : scanUnit chars = some (n, rest)) : rest.length ≤ chars.length := by
  unfold scanUnit at h
  split at h
  · simp only [Option.bind_eq_bind, Option.bind_eq_some_iff, Option.pure_def, Option.some.injEq,
      Prod.mk.injEq] at h
    obtain ⟨_, _, _, _, _, _, _, _, _, rfl⟩ := h
    simp only [List.length_cons]
    omega
  · simp at h

theorem length_of_scanLowSurrogate {chars rest : List Char} {n : Nat}
    (h : scanLowSurrogate chars = some (n, rest)) : rest.length ≤ chars.length := by
  unfold scanLowSurrogate at h
  split at h
  · simp only [Option.bind_eq_bind, Option.bind_eq_some_iff, Prod.exists] at h
    obtain ⟨low, tail, hu, h⟩ := h
    have := length_of_scanUnit hu
    split at h
    · simp only [Option.some.injEq, Prod.mk.injEq] at h
      rw [← h.2]
      simp only [List.length_cons]
      omega
    · simp at h
  · simp at h

theorem length_of_scanCodePoint {chars rest : List Char} {c : Char}
    (h : scanCodePoint chars = some (c, rest)) : rest.length ≤ chars.length := by
  simp only [scanCodePoint, Option.bind_eq_bind, Option.bind_eq_some_iff, Prod.exists] at h
  obtain ⟨unit, tail, hu, h⟩ := h
  have h1 := length_of_scanUnit hu
  split at h
  · simp only [Option.bind_eq_some_iff, Prod.exists, Option.some.injEq, Prod.mk.injEq] at h
    obtain ⟨low, after, hl, -, rfl⟩ := h
    have h2 := length_of_scanLowSurrogate hl
    omega
  · split at h
    · simp at h
    · simp only [Option.some.injEq, Prod.mk.injEq] at h
      rw [← h.2]
      exact h1

theorem length_of_scanEscape {chars rest : List Char} {c : Char}
    (h : scanEscape chars = some (c, rest)) : rest.length < chars.length := by
  unfold scanEscape at h
  split at h
  case h_9 tail => exact Nat.lt_succ_of_le (length_of_scanCodePoint h)
  case h_10 => simp at h
  all_goals
    simp only [Option.some.injEq, Prod.mk.injEq] at h
    simp [← h.2]

/-- The characters of a string up to its closing quote, read from behind the opening
quote. -/
def scanString (chars : List Char) : Option (List Char × List Char) :=
  match chars with
  | [] => none
  | '"' :: rest => some ([], rest)
  | '\\' :: rest =>
    match _h : scanEscape rest with
    | none => none
    | some (c, rest) => (scanString rest).map fun (body, after) => (c :: body, after)
  | c :: rest =>
    if c < ' ' then none
    else (scanString rest).map fun (body, after) => (c :: body, after)
termination_by chars.length
decreasing_by
  · have := length_of_scanEscape _h
    simp only [List.length_cons]
    omega
  · simp

theorem length_of_scanString {chars body rest : List Char}
    (h : scanString chars = some (body, rest)) : rest.length ≤ chars.length := by
  fun_induction scanString chars generalizing body with
  | case1 => simp at h
  | case2 tail =>
    simp only [Option.some.injEq, Prod.mk.injEq] at h
    simp [← h.2]
  | case3 => simp at h
  | case4 tail c after he ih =>
    simp only [Option.map_eq_some_iff, Prod.exists, Prod.mk.injEq] at h
    obtain ⟨b, r, hs, -, rfl⟩ := h
    have h1 := ih hs
    have h2 := length_of_scanEscape he
    simp only [List.length_cons]
    omega
  | case5 => simp at h
  | case6 c tail _ _ _ ih =>
    simp only [Option.map_eq_some_iff, Prod.exists, Prod.mk.injEq] at h
    obtain ⟨b, r, hs, -, rfl⟩ := h
    have h1 := ih hs
    simp only [List.length_cons]
    omega

/-! ## Tokens -/

namespace Token

/-- The blanks between tokens. -/
def isBlank (c : Char) : Bool :=
  c == ' ' || c == '\t' || c == '\n' || c == '\r'

/-- The token at the start of a text, and what follows it. -/
def scan : List Char → Option (Token × List Char)
  | '[' :: rest => some (openList, rest)
  | ']' :: rest => some (closeList, rest)
  | '\x7b' :: rest => some (openRecord, rest)
  | '\x7d' :: rest => some (closeRecord, rest)
  | ',' :: rest => some (comma, rest)
  | ':' :: rest => some (colon, rest)
  | 'n' :: 'u' :: 'l' :: 'l' :: rest => some (scalar .null, rest)
  | 't' :: 'r' :: 'u' :: 'e' :: rest => some (scalar (.bool true), rest)
  | 'f' :: 'a' :: 'l' :: 's' :: 'e' :: rest => some (scalar (.bool false), rest)
  | '"' :: rest =>
    (scanString rest).map fun (body, after) => (scalar (.text (String.ofList body)), after)
  | chars => do
    let (literal, rest) ← NumberLiteral.scan chars
    let value ← literal.value?
    return (scalar value, rest)

/-- A token takes at least one character. -/
theorem length_of_scan {chars rest : List Char} {token : Token}
    (h : scan chars = some (token, rest)) : rest.length < chars.length := by
  unfold scan at h
  split at h
  case h_10 tail =>
    simp only [Option.map_eq_some_iff, Prod.exists, Prod.mk.injEq] at h
    obtain ⟨body, after, hs, -, rfl⟩ := h
    exact Nat.lt_succ_of_le (length_of_scanString hs)
  case h_11 =>
    simp only [Option.bind_eq_bind, Option.bind_eq_some_iff, Prod.exists, Option.pure_def,
      Option.some.injEq, Prod.mk.injEq] at h
    obtain ⟨literal, after, hn, _, _, _, rfl⟩ := h
    exact NumberLiteral.length_of_scan hn
  all_goals
    simp only [Option.some.injEq, Prod.mk.injEq] at h
    rw [← h.2]
    simp only [List.length_cons]
    omega

/-- The tokens of a text, if it is made of tokens and blanks. -/
def ofChars? (chars : List Char) : Option (List Token) :=
  match chars with
  | [] => some []
  | c :: rest =>
    if isBlank c then ofChars? rest
    else
      match _h : scan (c :: rest) with
      | none => none
      | some (token, after) => (ofChars? after).map (token :: ·)
termination_by chars.length
decreasing_by
  · simp
  · exact length_of_scan _h

end Token

end TypedQuery.Json
