/-!
# Integers in decimal

How integers are written and read.  The written form is the usual one: decimal
digits without leading zeros, with a minus sign in front of a negative number.

Reading accepts more than writing produces: leading zeros, and a plus sign in
front.  It accepts nothing else.  Digits are the ASCII digits only, and neither
blanks nor separators between digits are allowed.  A number has to fit its type.
A signed number may have either sign.  An unsigned number may have a plus sign
but no minus sign, not even in front of a zero.

`int64?_ofInt` says that every signed number is read back from its written form.
-/

namespace TypedQuery.Decimal

/-! ## Writing -/

/-- The digits of a natural number. -/
def digits (n : Nat) : List Char :=
  Nat.toDigits 10 n

/-- The written form of an integer. -/
def ofInt : Int → String
  | .ofNat n => String.ofList (digits n)
  | .negSucc n => String.ofList ('-' :: digits (n + 1))

/-- The written form of a natural number. -/
def ofNat (n : Nat) : String :=
  String.ofList (digits n)

/-! ## Reading -/

/-- The value of one or more digits. -/
def natural? (chars : List Char) : Option Nat :=
  if !chars.isEmpty && chars.all Char.isDigit then some (Nat.ofDigitChars 10 chars 0) else none

/-- The value of one or more digits with at most one sign in front. -/
def integer? : List Char → Option Int
  | '-' :: chars => (natural? chars).map fun n => -(n : Int)
  | '+' :: chars => (natural? chars).map fun n => (n : Int)
  | chars => (natural? chars).map fun n => (n : Int)

-- The powers are spelled `Nat.pow`, since what `^` stands for depends on the imports.

/-- Whether an integer fits into 64 bits with a sign. -/
def fitsInt64 : Int → Bool
  | .ofNat n => n < Nat.pow 2 63
  | .negSucc n => n < Nat.pow 2 63

/-- Whether an integer fits into 64 bits without a sign. -/
def fitsUInt64 : Int → Bool
  | .ofNat n => n < Nat.pow 2 64
  | .negSucc _ => false

theorem fitsInt64_iff {n : Int} :
    fitsInt64 n = true ↔ Int64.minValue.toInt ≤ n ∧ n ≤ Int64.maxValue.toInt := by
  cases n with
  | ofNat n =>
    simp only [fitsInt64, decide_eq_true_eq, Int.ofNat_eq_natCast, Nat.pow_eq,
      Int64.toInt_minValue, Int64.toInt_maxValue]
    omega
  | negSucc n =>
    simp only [fitsInt64, decide_eq_true_eq, Nat.pow_eq, Int64.toInt_minValue,
      Int64.toInt_maxValue]
    omega

theorem fitsUInt64_iff {n : Int} : fitsUInt64 n = true ↔ 0 ≤ n ∧ n < UInt64.size := by
  cases n with
  | ofNat n =>
    simp only [fitsUInt64, decide_eq_true_eq, Int.ofNat_eq_natCast, Nat.pow_eq, UInt64.size]
    omega
  | negSucc n => simp only [fitsUInt64, Bool.false_eq_true, false_iff]; omega

/-- The signed 64-bit number that a text writes in decimal. -/
def int64? (text : String) : Option Int64 :=
  match integer? text.toList with
  | some n => if fitsInt64 n then some (Int64.ofInt n) else none
  | none => none

/-- The unsigned 64-bit number that a text writes in decimal. -/
def uint64? (text : String) : Option UInt64 :=
  let unsigned :=
    match text.toList with
    | '+' :: chars => natural? chars
    | chars => natural? chars
  match unsigned with
  | some n => if fitsUInt64 n then some (UInt64.ofNat n) else none
  | none => none

/-! ## Reading what was written -/

theorem isDigit_of_mem_digits {n : Nat} {c : Char} (h : c ∈ digits n) : c.isDigit = true :=
  Nat.isDigit_of_mem_toDigits (by decide) (by decide) h

theorem natural?_digits (n : Nat) : natural? (digits n) = some n := by
  have hall : (digits n).all Char.isDigit = true :=
    List.all_eq_true.mpr fun _ h => isDigit_of_mem_digits h
  have hne : (digits n).isEmpty = false := by
    simp [digits, Nat.toDigits_ne_nil]
  simp [natural?, hall, hne]
  exact Nat.ofDigitChars_toDigits (by decide) (by decide)

theorem head_digits_ne {n : Nat} {c : Char} (hc : c.isDigit = false) (rest : List Char) :
    digits n ≠ c :: rest := by
  intro h
  have := isDigit_of_mem_digits (n := n) (c := c) (by simp [h])
  simp [hc] at this

theorem integer?_ofInt (n : Int) : integer? (ofInt n).toList = some n := by
  cases n with
  | ofNat n =>
    simp only [ofInt, String.toList_ofList]
    unfold integer?
    split
    · next h => exact absurd h (head_digits_ne (by decide) _)
    · next h => exact absurd h (head_digits_ne (by decide) _)
    · simp [natural?_digits]
  | negSucc n =>
    simp only [ofInt, String.toList_ofList, integer?, natural?_digits]
    simp [Int.negSucc_eq]

theorem fitsInt64_toInt (n : Int64) : fitsInt64 n.toInt = true :=
  fitsInt64_iff.mpr ⟨Int64.minValue_le_toInt n, Int64.toInt_le n⟩

theorem fitsUInt64_toNat (n : UInt64) : fitsUInt64 n.toNat = true := by
  have h := n.toNat_lt_size
  exact fitsUInt64_iff.mpr (by omega)

theorem toInt_ofInt_of_fits {n : Int} (h : fitsInt64 n = true) : (Int64.ofInt n).toInt = n := by
  have hn := fitsInt64_iff.mp h
  rw [Int64.toInt_minValue, Int64.toInt_maxValue] at hn
  exact Int64.toInt_ofInt_of_le hn.1 (Int.lt_of_le_sub_one hn.2)

/-- Every signed number is read back from its written form. -/
theorem int64?_ofInt (n : Int64) : int64? (ofInt n.toInt) = some n := by
  simp [int64?, integer?_ofInt, fitsInt64_toInt]

example : int64? "+007" = some 7 := by decide
example : int64? "-9223372036854775808" = some Int64.minValue := by decide
example : int64? "9223372036854775808" = none := by decide
example : int64? "--1" = none ∧ int64? "+" = none ∧ int64? " 1" = none := by decide
example : uint64? "-0" = none ∧ uint64? "+0" = some 0 := by decide

end TypedQuery.Decimal
