/-!
# Double precision numbers

A finite number in the binary64 format is a sign and a magnitude `m * 2 ^ e`,
where `m` has at most 53 binary digits and `e` runs from -1074 to 971.  All
arithmetic here is exact, on rational numbers, with a single rounding at the
end: `ofRat?` takes the nearest number of the format, and of two equally near
the one with an even significand.
-/

namespace TypedQuery

/-- A finite number of the binary64 format. -/
structure Binary64 where
  negative : Bool
  significand : Nat
  exponent : Int
  deriving DecidableEq, Repr

namespace Binary64

/-- The number without its sign. -/
def magnitude (x : Binary64) : Rat :=
  (x.significand : Rat) * (2 : Rat) ^ x.exponent

/-- The zero of a sign. -/
def zero (negative : Bool) : Binary64 := ⟨negative, 0, -1074⟩

/-- The natural number nearest to a rational number that is not negative.  A half goes to
the even neighbour. -/
def roundEven (x : Rat) : Nat :=
  let n := x.floor.toNat
  let rest := x - n
  if 1 / 2 < rest ∨ (rest = 1 / 2 ∧ n % 2 = 1) then n + 1 else n

/-- The greatest `k` with `base ^ k ≤ x`, for a positive `x`.  The numbers of digits of
numerator and denominator leave two candidates. -/
def floorLog (base : Nat) (x : Rat) : Int :=
  let length (n : Nat) : Int := (Nat.toDigits base n).length
  let k := length x.num.toNat - length x.den
  if (base : Rat) ^ k ≤ x then k else k - 1

/-- The number of the format that is nearest to a magnitude, unless it is too large for
the format. -/
def ofRat? (negative : Bool) (x : Rat) : Option Binary64 :=
  if x ≤ 0 then some (zero negative)
  else
    let exponent := max (floorLog 2 x - 52) (-1074)
    let rounded := roundEven (x / (2 : Rat) ^ exponent)
    let (significand, exponent) :=
      if rounded = Nat.pow 2 53 then (Nat.pow 2 52, exponent + 1) else (rounded, exponent)
    if 971 < exponent then none else some ⟨negative, significand, exponent⟩

example : ofRat? false 1 = some ⟨false, 2 ^ 52, -52⟩ := by decide +kernel
example : ofRat? false (2 ^ 53 + 1) = some ⟨false, 2 ^ 52, 1⟩ := by decide +kernel
example : ofRat? false ((2 : Rat) ^ (-1075 : Int)) = some ⟨false, 0, -1074⟩ := by decide +kernel
example : ofRat? false (2 ^ 1024) = none := by decide +kernel

end Binary64

end TypedQuery
