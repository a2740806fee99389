import TypedQuery.Json
import TypedQuery.Decimal.Integer

/-!
# Reading numbers

A number of a JSON text is an optional minus sign, a whole part without
superfluous zeros in front, an optional fraction and an optional exponent.

A number without fraction and exponent is an integer if it fits 64 bits, with or
without a sign.  The literal `-0` is no integer, since it has a sign.  All other
numbers are doubles.  A double is computed from its digits in a few steps, each
rounded.

1. The *significand* takes the digits one after the other, as long as the number
   they make fits 64 bits without a sign.  Where they stop fitting, the digits
   that remain of the whole part count only by their number, and those that
   remain of the fraction do not count.
2. The significand is rounded to a double.
3. It is multiplied by the power of ten that the exponent and the point ask for,
   or divided by it if the exponent is negative.  The power, too, is rounded to
   a double.

A number too large for a double is no number at all.  A number too small is
zero.
-/

namespace TypedQuery.Json

/-- A number as it is written. -/
structure NumberLiteral where
  negative : Bool
  /-- The digits in front of the point. -/
  whole : List Char
  /-- The digits behind the point. -/
  fraction : Option (List Char)
  /-- The exponent. -/
  exponent : Option Int
  deriving DecidableEq, Repr

namespace NumberLiteral

/-! ## From the literal to the number -/

/-- Takes digits into a significand as long as it fits 64 bits, and says how many it
took. -/
def absorb (significand : Nat) : List Char → Nat × Nat
  | [] => (significand, 0)
  | c :: rest =>
    let next := significand * 10 + (c.toNat - '0'.toNat)
    if next < Nat.pow 2 64 then
      let (result, taken) := absorb next rest
      (result, taken + 1)
    else (significand, 0)

/-- A power of ten as a double. -/
def powerOfTen (n : Nat) : Option Binary64 :=
  Binary64.ofRat? false ((10 : Rat) ^ n)

/-- A double divided by a power of ten.  The powers of the format end at `10 ^ 308`.  A
greater one is divided out in several steps, until nothing is left. -/
def scaleDown (x : Binary64) (n : Nat) : Option Binary64 :=
  if n ≤ 308 then do
    Binary64.ofRat? x.negative (x.magnitude / (← powerOfTen n).magnitude)
  else if x.significand = 0 then some x
  else do
    let next ← Binary64.ofRat? x.negative (x.magnitude / (← powerOfTen 308).magnitude)
    scaleDown next (n - 308)
termination_by n

/-- A double multiplied by a power of ten, unless the product is too large. -/
def scaleUp (x : Binary64) (n : Nat) : Option Binary64 :=
  if x.significand = 0 then some x
  else if n ≤ 308 then do
    Binary64.ofRat? x.negative (x.magnitude * (← powerOfTen n).magnitude)
  else none

/-- The double that a literal stands for. -/
def double? (literal : NumberLiteral) : Option Binary64 := do
  let (whole, wholeTaken) := absorb 0 literal.whole
  let (significand, fractionTaken) := absorb whole (literal.fraction.getD [])
  let exponent : Int :=
    literal.exponent.getD 0 + (literal.whole.length - wholeTaken) - fractionTaken
  let x ← Binary64.ofRat? literal.negative significand
  if 0 ≤ exponent then scaleUp x exponent.toNat else scaleDown x (-exponent).toNat

/-- The integer that a literal stands for. -/
def integer? (literal : NumberLiteral) : Option Int :=
  if literal.fraction.isSome ∨ literal.exponent.isSome then none
  else
    let n := Nat.ofDigitChars 10 literal.whole 0
    if literal.negative then
      if 0 < n ∧ n ≤ Nat.pow 2 63 then some (-n) else none
    else if n < Nat.pow 2 64 then some n
    else none

/-- The value that a literal stands for. -/
def value? (literal : NumberLiteral) : Option Json :=
  match literal.integer? with
  | some n => some (.integer n)
  | none => literal.double?.map .double

/-! ## From the text to the literal -/

/-- The digits at the start of a text, and what follows them. -/
def spanDigits (chars : List Char) : List Char × List Char :=
  (chars.takeWhile Char.isDigit, chars.dropWhile Char.isDigit)

/-- One or more digits at the start of a text. -/
def scanDigits (chars : List Char) : Option (List Char × List Char) :=
  match spanDigits chars with
  | ([], _) => none
  | found => some found

/-- A fraction, if the text goes on with a point. -/
def scanFraction : List Char → Option (Option (List Char) × List Char)
  | '.' :: chars => (scanDigits chars).map fun (digits, rest) => (some digits, rest)
  | chars => some (none, chars)

/-- The sign of an exponent. -/
def scanExponentSign : List Char → Bool × List Char
  | '+' :: chars => (false, chars)
  | '-' :: chars => (true, chars)
  | chars => (false, chars)

/-- An exponent, if the text goes on with its letter. -/
def scanExponent : List Char → Option (Option Int × List Char)
  | c :: chars =>
    if c = 'e' ∨ c = 'E' then
      let (negative, chars) := scanExponentSign chars
      (scanDigits chars).map fun (digits, rest) =>
        let n : Int := Nat.ofDigitChars 10 digits 0
        (some (if negative then -n else n), rest)
    else some (none, c :: chars)
  | [] => some (none, [])

/-- A number without its sign. -/
def scanUnsigned (negative : Bool) (chars : List Char) : Option (NumberLiteral × List Char) := do
  let (whole, chars) ← scanDigits chars
  if whole.head? = some '0' ∧ whole.length ≠ 1 then none
  let (fraction, chars) ← scanFraction chars
  let (exponent, chars) ← scanExponent chars
  return (⟨negative, whole, fraction, exponent⟩, chars)

/-- The number at the start of a text, and what follows it. -/
def scan : List Char → Option (NumberLiteral × List Char)
  | '-' :: chars => scanUnsigned true chars
  | chars => scanUnsigned false chars

/-! ## What is scanned is used up -/

theorem length_of_scanDigits {chars digits rest : List Char}
    (h : scanDigits chars = some (digits, rest)) : rest.length < chars.length := by
  unfold scanDigits at h
  split at h
  · simp at h
  · next hne =>
    simp only [spanDigits, Option.some.injEq, Prod.mk.injEq] at h
    have hsum := congrArg List.length
      (List.takeWhile_append_dropWhile (p := Char.isDigit) (l := chars))
    have hpos : 0 < (chars.takeWhile Char.isDigit).length := by
      cases ht : chars.takeWhile Char.isDigit with
      | nil => exact absurd (by simp [spanDigits, ht]) (hne (chars.dropWhile Char.isDigit))
      | cons => simp
    rw [List.length_append] at hsum
    rw [← h.2]
    omega

theorem length_of_scanFraction {chars rest : List Char} {fraction : Option (List Char)}
    (h : scanFraction chars = some (fraction, rest)) : rest.length ≤ chars.length := by
  unfold scanFraction at h
  split at h
  · simp only [Option.map_eq_some_iff, Prod.exists, Prod.mk.injEq] at h
    obtain ⟨digits, tail, hd, -, rfl⟩ := h
    have := length_of_scanDigits hd
    simp only [List.length_cons]
    omega
  · simp only [Option.some.injEq, Prod.mk.injEq] at h
    simp [h.2]

theorem length_scanExponentSign (chars : List Char) :
    (scanExponentSign chars).2.length ≤ chars.length := by
  unfold scanExponentSign
  split <;> simp

theorem length_of_scanExponent {chars rest : List Char} {exponent : Option Int}
    (h : scanExponent chars = some (exponent, rest)) : rest.length ≤ chars.length := by
  unfold scanExponent at h
  split at h
  · next c tail =>
    split at h
    · simp only [Option.map_eq_some_iff, Prod.exists, Prod.mk.injEq] at h
      obtain ⟨digits, after, hd, -, rfl⟩ := h
      have h1 := length_of_scanDigits hd
      have h2 := length_scanExponentSign tail
      simp only [List.length_cons]
      omega
    · simp only [Option.some.injEq, Prod.mk.injEq] at h
      simp [← h.2]
  · simp only [Option.some.injEq, Prod.mk.injEq] at h
    simp [← h.2]

theorem length_of_scanUnsigned {negative : Bool} {chars rest : List Char}
    {literal : NumberLiteral} (h : scanUnsigned negative chars = some (literal, rest)) :
    rest.length < chars.length := by
  simp only [scanUnsigned, Option.bind_eq_bind, Option.bind_eq_some_iff, Prod.exists] at h
  obtain ⟨whole, afterWhole, hw, h⟩ := h
  split at h
  · simp at h
  · simp only [Option.bind_eq_some_iff, Prod.exists] at h
    obtain ⟨fraction, afterFraction, hf, exponent, afterExponent, he, h⟩ := h
    simp only [Option.pure_def, Option.some.injEq, Prod.mk.injEq] at h
    have h1 := length_of_scanDigits hw
    have h2 := length_of_scanFraction hf
    have h3 := length_of_scanExponent he
    rw [← h.2]
    omega

theorem length_of_scan {chars rest : List Char} {literal : NumberLiteral}
    (h : scan chars = some (literal, rest)) : rest.length < chars.length := by
  unfold scan at h
  split at h
  · have := length_of_scanUnsigned h
    simp only [List.length_cons]
    omega
  · exact length_of_scanUnsigned h

end NumberLiteral

end TypedQuery.Json
