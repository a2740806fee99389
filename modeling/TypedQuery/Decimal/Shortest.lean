import TypedQuery.Decimal.Binary64
import TypedQuery.Decimal.Integer

/-!
# The shortest decimal of a double

A decimal text stands for a double if it lies among the numbers that are rounded
to it.  `shortest` finds a decimal with the fewest digits that does, and of
several the one nearest to the double.

The decimals with at most `n` digits and the magnitude of the double form a
grid.  If any point of the grid is rounded to the double, then so is one of the
two neighbours of the double on the grid.  Seventeen digits always suffice.

`text` writes the decimal with a point and at least one digit on either side of
it, if the point stands within or next to the digits.  Very large and very small
numbers are written with an exponent.
-/

namespace TypedQuery.Binary64

/-- A decimal number `digits * 10 ^ exponent`. -/
structure Scientific where
  digits : Nat
  exponent : Int
  deriving DecidableEq, Repr

namespace Scientific

/-- The number as a rational. -/
def value (d : Scientific) : Rat :=
  (d.digits : Rat) * (10 : Rat) ^ d.exponent

/-- The same number without zeros at the end of its digits, as far as `count` zeros go. -/
def trim (d : Scientific) : Nat → Scientific
  | 0 => d
  | count + 1 =>
    if d.digits % 10 = 0 then trim ⟨d.digits / 10, d.exponent + 1⟩ count else d

end Scientific

/-- Whether a magnitude is rounded to a double that is not zero.  The numbers that are lie
within half a step of the double, ends included if the significand is even.  Below a power
of two the step is half as long. -/
def attracts (x : Binary64) (magnitude : Rat) : Bool :=
  let step := (2 : Rat) ^ x.exponent
  let below := if x.significand = Nat.pow 2 52 ∧ -1074 < x.exponent then step / 4 else step / 2
  let low := x.magnitude - below
  let high := x.magnitude + step / 2
  if x.significand % 2 = 0 then low ≤ magnitude && magnitude ≤ high
  else low < magnitude && magnitude < high

/-- The neighbour of a double on the grid of decimals with `count` digits that stands for
it, if one does: the nearer one if both do, and the even one if they are equally near. -/
def onGrid? (x : Binary64) (count : Nat) : Option Scientific :=
  let exponent := floorLog 10 x.magnitude + 1 - count
  let below : Scientific := ⟨(x.magnitude / (10 : Rat) ^ exponent).floor.toNat, exponent⟩
  let above : Scientific := ⟨below.digits + 1, exponent⟩
  match x.attracts below.value, x.attracts above.value with
  | true, true =>
    let down := x.magnitude - below.value
    let up := above.value - x.magnitude
    if down < up ∨ (down = up ∧ below.digits % 2 = 0) then some below else some above
  | true, false => some below
  | false, true => some above
  | false, false => none

/-- The shortest decimal that stands for a double, without zeros at its end. -/
def shortest (x : Binary64) : Scientific :=
  if x.significand = 0 then ⟨0, 0⟩
  else
    match (List.range 17).findSome? fun n => x.onGrid? (n + 1) with
    | some d => d.trim 17
    | none => ⟨0, 0⟩

/-- Digits with a point after the first `count` of them. -/
def withPoint (count : Nat) (digits : List Char) : List Char :=
  digits.take count ++ '.' :: digits.drop count

/-- A decimal that is not negative, written out.  The point stands after the `point`-th
digit. -/
def magnitudeText (d : Scientific) : List Char :=
  let digits := Decimal.digits d.digits
  let point := digits.length + d.exponent
  if 0 ≤ d.exponent ∧ point ≤ 16 then
    digits ++ List.replicate d.exponent.toNat '0' ++ ['.', '0']
  else if 0 < point ∧ point ≤ 16 then
    withPoint point.toNat digits
  else if -5 < point ∧ point ≤ 0 then
    '0' :: '.' :: List.replicate (-point).toNat '0' ++ digits
  else
    let lead := if digits.length = 1 then digits else withPoint 1 digits
    lead ++ 'e' :: (Decimal.ofInt (point - 1)).toList

/-- A double as text. -/
def text (x : Binary64) : String :=
  let magnitude := magnitudeText x.shortest
  String.ofList (if x.negative then '-' :: magnitude else magnitude)

example : (zero true).text = "-0.0" := by decide +kernel
example : (ofRat? false (1 / 10)).map text = some "0.1" := by decide +kernel
example : (ofRat? false 1000).map text = some "1000.0" := by decide +kernel
example : (ofRat? false (10 ^ 16)).map text = some "1e16" := by decide +kernel
example : (ofRat? false (2 ^ 64)).map text = some "1.8446744073709552e19" := by decide +kernel
example : (ofRat? true (1 / 100000)).map text = some "-0.00001" := by decide +kernel
example : (ofRat? false (15 / 10000000)).map text = some "1.5e-6" := by decide +kernel
example : text ⟨false, 1, -1074⟩ = "5e-324" := by decide +kernel

end TypedQuery.Binary64
