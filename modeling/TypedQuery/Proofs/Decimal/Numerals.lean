import Mathlib.Data.List.Induction
import TypedQuery.Decimal.Integer

/-!
# Numerals

The grammar of integers.  Digits are the ASCII digits, at least one, and stand for
a number in positional notation: each digit more multiplies by ten.  A numeral is
digits with at most one sign in front.  A number that has no sign may only be
written with a plus.  Leading zeros do not count.

`Digits`, `Numeral` and `Unsigned` state the grammar as relations between characters
and what they stand for, and `natural?_eq_some_iff` and `integer?_eq_some_iff` say
that reading computes exactly these.  `int64?_eq_some_iff` and
`uint64?_eq_some_iff` add the bounds: a text is read as a number of 64 bits if it
writes this number.
-/

namespace TypedQuery.Decimal

/-! ## Digits -/

/-- One or more digits, with the number they stand for. -/
inductive Digits : List Char → Nat → Prop where
  | one {c : Char} : '0' ≤ c → c ≤ '9' → Digits [c] (c.toNat - '0'.toNat)
  | more {chars : List Char} {n : Nat} {c : Char} : Digits chars n → '0' ≤ c → c ≤ '9' →
      Digits (chars ++ [c]) (10 * n + (c.toNat - '0'.toNat))

theorem isDigit_iff {c : Char} : c.isDigit = true ↔ '0' ≤ c ∧ c ≤ '9' := by
  simp [Char.isDigit, Char.le_def, UInt32.le_iff_toNat_le]

theorem natural?_eq_some_iff_digits {chars : List Char} {n : Nat} :
    natural? chars = some n ↔
      chars ≠ [] ∧ (∀ c ∈ chars, c.isDigit = true) ∧ Nat.ofDigitChars 10 chars 0 = n := by
  simp [natural?, and_assoc]

theorem Digits.natural? {chars : List Char} {n : Nat} (h : Digits chars n) :
    natural? chars = some n := by
  rw [natural?_eq_some_iff_digits]
  induction h with
  | one hlow hhigh => simp [Nat.ofDigitChars, isDigit_iff.mpr ⟨hlow, hhigh⟩]
  | more _ hlow hhigh ih =>
    obtain ⟨-, hall, rfl⟩ := ih
    refine ⟨by simp, ?_, by simp [Nat.ofDigitChars]⟩
    intro d hd
    rcases List.mem_append.mp hd with hd | hd
    · exact hall d hd
    · obtain rfl := List.mem_singleton.mp hd
      exact isDigit_iff.mpr ⟨hlow, hhigh⟩

/-- Characters are read as a number exactly if they are digits that stand for it. -/
theorem natural?_eq_some_iff {chars : List Char} {n : Nat} :
    natural? chars = some n ↔ Digits chars n := by
  refine ⟨fun h => ?_, Digits.natural?⟩
  -- Digits grow at their end, and so does the induction.
  induction chars using List.reverseRecOn generalizing n with
  | nil => exact absurd rfl (natural?_eq_some_iff_digits.mp h).1
  | append_singleton chars c ih =>
    obtain ⟨-, hall, rfl⟩ := natural?_eq_some_iff_digits.mp h
    have hc : '0' ≤ c ∧ c ≤ '9' := isDigit_iff.mp (hall c (by simp))
    by_cases hchars : chars = []
    · subst hchars
      simpa [Nat.ofDigitChars] using Digits.one hc.1 hc.2
    · have hrest : natural? chars = some (Nat.ofDigitChars 10 chars 0) :=
        natural?_eq_some_iff_digits.mpr ⟨hchars, fun d hd => hall d (by simp [hd]), rfl⟩
      simpa [Nat.ofDigitChars_append, Nat.ofDigitChars] using Digits.more (ih hrest) hc.1 hc.2

/-- Digits do not start with a sign. -/
theorem Digits.head?_ne {chars : List Char} {n : Nat} (h : Digits chars n) :
    chars.head? ≠ some '+' ∧ chars.head? ≠ some '-' := by
  obtain ⟨-, hall, -⟩ := natural?_eq_some_iff_digits.mp h.natural?
  have hsign : ∀ c : Char, c.isDigit = false → chars.head? ≠ some c := by
    intro c hc hhead
    rw [hall c (List.mem_of_head? hhead)] at hc
    cases hc
  exact ⟨hsign '+' (by decide), hsign '-' (by decide)⟩

/-! ## Signs -/

/-- Digits with at most one sign in front, with the integer they stand for. -/
inductive Numeral : List Char → Int → Prop where
  | bare {chars : List Char} {n : Nat} : Digits chars n → Numeral chars n
  | plus {chars : List Char} {n : Nat} : Digits chars n → Numeral ('+' :: chars) n
  | minus {chars : List Char} {n : Nat} : Digits chars n → Numeral ('-' :: chars) (-n)

/-- Digits with at most a plus sign in front, with the number they stand for. -/
inductive Unsigned : List Char → Nat → Prop where
  | bare {chars : List Char} {n : Nat} : Digits chars n → Unsigned chars n
  | plus {chars : List Char} {n : Nat} : Digits chars n → Unsigned ('+' :: chars) n

/-- Characters are read as an integer exactly if they are a numeral for it. -/
theorem integer?_eq_some_iff {chars : List Char} {n : Int} :
    integer? chars = some n ↔ Numeral chars n := by
  constructor
  · intro h
    unfold integer? at h
    split at h
    next rest =>
      cases hread : natural? rest with
      | none => simp [hread] at h
      | some m =>
        obtain rfl : -(m : Int) = n := by simpa [hread] using h
        exact .minus (natural?_eq_some_iff.mp hread)
    next rest =>
      cases hread : natural? rest with
      | none => simp [hread] at h
      | some m =>
        obtain rfl : (m : Int) = n := by simpa [hread] using h
        exact .plus (natural?_eq_some_iff.mp hread)
    next =>
      cases hread : natural? chars with
      | none => simp [hread] at h
      | some m =>
        obtain rfl : (m : Int) = n := by simpa [hread] using h
        exact .bare (natural?_eq_some_iff.mp hread)
  · intro h
    cases h with
    | @bare chars m hdigits =>
      obtain ⟨hplus, hminus⟩ := hdigits.head?_ne
      unfold integer?
      split
      · exact absurd rfl hminus
      · exact absurd rfl hplus
      · simp [hdigits.natural?]
    | plus hdigits => simp [integer?, hdigits.natural?]
    | minus hdigits => simp [integer?, hdigits.natural?]

/-- A numeral has a character. -/
theorem Numeral.ne_nil {chars : List Char} {n : Int} (h : Numeral chars n) : chars ≠ [] := by
  rintro rfl
  cases integer?_eq_some_iff.mpr h

theorem Unsigned.ne_nil {chars : List Char} {n : Nat} (h : Unsigned chars n) : chars ≠ [] := by
  rintro rfl
  cases h with
  | bare hdigits => exact (natural?_eq_some_iff_digits.mp hdigits.natural?).1 rfl

/-! ## Numbers of 64 bits -/

/-- A text is read as a signed number exactly if it is a numeral for it. -/
theorem int64?_eq_some_iff {text : String} {n : Int64} :
    int64? text = some n ↔ Numeral text.toList n.toInt := by
  rw [← integer?_eq_some_iff]
  cases hread : integer? text.toList with
  | none => simp [int64?, hread]
  | some m =>
    by_cases hfits : fitsInt64 m = true
    · have hm := toInt_ofInt_of_fits hfits
      simp [int64?, hread, hfits, ← Int64.toInt_inj, hm]
    · -- What does not fit is no number of 64 bits.
      have hne : m ≠ n.toInt := fun heq => hfits (heq ▸ fitsInt64_toInt n)
      simp [int64?, hread, hfits, hne]

/-- The texts that are read as a signed number are the numerals for an integer that fits. -/
theorem exists_int64_iff {chars : List Char} :
    (∃ n : Int64, Numeral chars n.toInt) ↔
      ∃ n : Int, Numeral chars n ∧ Int64.minValue.toInt ≤ n ∧ n ≤ Int64.maxValue.toInt := by
  constructor
  · rintro ⟨n, hn⟩
    exact ⟨n.toInt, hn, fitsInt64_iff.mp (fitsInt64_toInt n)⟩
  · rintro ⟨n, hn, hbounds⟩
    exact ⟨.ofInt n, by rwa [toInt_ofInt_of_fits (fitsInt64_iff.mpr hbounds)]⟩

/-- The bound of unsigned numbers is looked at last. -/
theorem fits_eq_some_iff {found : Option Nat} {n : UInt64} :
    (match found with
      | some m => if fitsUInt64 m then some (UInt64.ofNat m) else none
      | none => none) = some n ↔ found = some n.toNat := by
  cases found with
  | none => simp
  | some m =>
    by_cases hfits : fitsUInt64 m = true
    · have hm := fitsUInt64_iff.mp hfits
      have hlt : m < UInt64.size := by omega
      simp [hfits, ← UInt64.toNat_inj, Nat.mod_eq_of_lt hlt]
    · have hne : m ≠ n.toNat := fun heq => hfits (heq ▸ fitsUInt64_toNat n)
      simp [hfits, hne]

/-- A text is read as an unsigned number exactly if it writes this number. -/
theorem uint64?_eq_some_iff {text : String} {n : UInt64} :
    uint64? text = some n ↔ Unsigned text.toList n.toNat := by
  unfold uint64?
  refine fits_eq_some_iff.trans ?_
  generalize text.toList = chars
  constructor
  · intro h
    split at h
    · exact .plus (natural?_eq_some_iff.mp h)
    · exact .bare (natural?_eq_some_iff.mp h)
  · intro h
    cases h with
    | bare hdigits =>
      split
      · exact absurd rfl hdigits.head?_ne.1
      · exact hdigits.natural?
    | plus hdigits => exact hdigits.natural?

/-- The texts that are read as an unsigned number are those that write one that fits. -/
theorem exists_uint64_iff {chars : List Char} :
    (∃ n : UInt64, Unsigned chars n.toNat) ↔ ∃ n, Unsigned chars n ∧ n < UInt64.size := by
  constructor
  · rintro ⟨n, hn⟩
    exact ⟨n.toNat, hn, n.toNat_lt_size⟩
  · rintro ⟨n, hn, hlt⟩
    exact ⟨.ofNat n, by rwa [UInt64.toNat_ofNat_of_lt' hlt]⟩

/-- The written form of a natural number writes it without a sign. -/
theorem unsigned_ofNat (n : Nat) : Unsigned (ofNat n).toList n := by
  rw [ofNat, String.toList_ofList]
  exact .bare (natural?_eq_some_iff.mp (natural?_digits n))

/-- The written form of an integer is a numeral for it. -/
theorem numeral_ofInt (n : Int) : Numeral (ofInt n).toList n :=
  integer?_eq_some_iff.mp (integer?_ofInt n)

example : Numeral "+007".toList 7 := integer?_eq_some_iff.mp (by decide)

end TypedQuery.Decimal
