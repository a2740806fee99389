/-!
# Lowercase letters

The lowercase form of a character, for all of Unicode.  A character has at most
one small letter, with a single exception: `U+0130`, a capital `I` with a dot
above, becomes `i` followed by the combining dot `U+0307`.

Capital letters stand in runs.  In most alphabets a run is contiguous and its
small letters are at a fixed distance (`A` to `Z`).  In the extensions of Latin
and Cyrillic capital and small letters alternate, so that a run takes every
second code point.

Besides `A` to `Z` only two characters have an ASCII letter in their lowercase
form: `U+0130`, and the Kelvin sign `U+212A`, whose small letter is `k`.
-/

namespace TypedQuery.Unicode

/-- A run of capital letters: every `step`-th code point from `first` to `last`.  The
capital `first + k` has the small letter `small + k`. -/
structure CapitalRun where
  first : Nat
  last : Nat
  step : Nat
  small : Nat

namespace CapitalRun

/-- Whether a character is a capital of the run. -/
def contains (r : CapitalRun) (c : Char) : Bool :=
  r.first ≤ c.toNat && c.toNat ≤ r.last && (c.toNat - r.first) % r.step == 0

/-- The small letter of a capital of the run. -/
def smallLetter (r : CapitalRun) (c : Char) : Char :=
  Char.ofNat (r.small + (c.toNat - r.first))

end CapitalRun

/-- The capital letters of Unicode with a single small letter, in code point order. -/
def capitalRuns : List CapitalRun :=
  [⟨0x41, 0x5A, 1, 0x61⟩, ⟨0xC0, 0xD6, 1, 0xE0⟩, ⟨0xD8, 0xDE, 1, 0xF8⟩, ⟨0x100, 0x12E, 2, 0x101⟩,
   ⟨0x132, 0x136, 2, 0x133⟩, ⟨0x139, 0x147, 2, 0x13A⟩, ⟨0x14A, 0x176, 2, 0x14B⟩,
   ⟨0x178, 0x178, 1, 0xFF⟩, ⟨0x179, 0x17D, 2, 0x17A⟩, ⟨0x181, 0x181, 1, 0x253⟩,
   ⟨0x182, 0x184, 2, 0x183⟩, ⟨0x186, 0x186, 1, 0x254⟩, ⟨0x187, 0x187, 1, 0x188⟩,
   ⟨0x189, 0x18A, 1, 0x256⟩, ⟨0x18B, 0x18B, 1, 0x18C⟩, ⟨0x18E, 0x18E, 1, 0x1DD⟩,
   ⟨0x18F, 0x18F, 1, 0x259⟩, ⟨0x190, 0x190, 1, 0x25B⟩, ⟨0x191, 0x191, 1, 0x192⟩,
   ⟨0x193, 0x193, 1, 0x260⟩, ⟨0x194, 0x194, 1, 0x263⟩, ⟨0x196, 0x196, 1, 0x269⟩,
   ⟨0x197, 0x197, 1, 0x268⟩, ⟨0x198, 0x198, 1, 0x199⟩, ⟨0x19C, 0x19C, 1, 0x26F⟩,
   ⟨0x19D, 0x19D, 1, 0x272⟩, ⟨0x19F, 0x19F, 1, 0x275⟩, ⟨0x1A0, 0x1A4, 2, 0x1A1⟩,
   ⟨0x1A6, 0x1A6, 1, 0x280⟩, ⟨0x1A7, 0x1A7, 1, 0x1A8⟩, ⟨0x1A9, 0x1A9, 1, 0x283⟩,
   ⟨0x1AC, 0x1AC, 1, 0x1AD⟩, ⟨0x1AE, 0x1AE, 1, 0x288⟩, ⟨0x1AF, 0x1AF, 1, 0x1B0⟩,
   ⟨0x1B1, 0x1B2, 1, 0x28A⟩, ⟨0x1B3, 0x1B5, 2, 0x1B4⟩, ⟨0x1B7, 0x1B7, 1, 0x292⟩,
   ⟨0x1B8, 0x1B8, 1, 0x1B9⟩, ⟨0x1BC, 0x1BC, 1, 0x1BD⟩, ⟨0x1C4, 0x1C4, 1, 0x1C6⟩,
   ⟨0x1C5, 0x1C5, 1, 0x1C6⟩, ⟨0x1C7, 0x1C7, 1, 0x1C9⟩, ⟨0x1C8, 0x1C8, 1, 0x1C9⟩,
   ⟨0x1CA, 0x1CA, 1, 0x1CC⟩, ⟨0x1CB, 0x1DB, 2, 0x1CC⟩, ⟨0x1DE, 0x1EE, 2, 0x1DF⟩,
   ⟨0x1F1, 0x1F1, 1, 0x1F3⟩, ⟨0x1F2, 0x1F4, 2, 0x1F3⟩, ⟨0x1F6, 0x1F6, 1, 0x195⟩,
   ⟨0x1F7, 0x1F7, 1, 0x1BF⟩, ⟨0x1F8, 0x21E, 2, 0x1F9⟩, ⟨0x220, 0x220, 1, 0x19E⟩,
   ⟨0x222, 0x232, 2, 0x223⟩, ⟨0x23A, 0x23A, 1, 0x2C65⟩, ⟨0x23B, 0x23B, 1, 0x23C⟩,
   ⟨0x23D, 0x23D, 1, 0x19A⟩, ⟨0x23E, 0x23E, 1, 0x2C66⟩, ⟨0x241, 0x241, 1, 0x242⟩,
   ⟨0x243, 0x243, 1, 0x180⟩, ⟨0x244, 0x244, 1, 0x289⟩, ⟨0x245, 0x245, 1, 0x28C⟩,
   ⟨0x246, 0x24E, 2, 0x247⟩, ⟨0x370, 0x372, 2, 0x371⟩, ⟨0x376, 0x376, 1, 0x377⟩,
   ⟨0x37F, 0x37F, 1, 0x3F3⟩, ⟨0x386, 0x386, 1, 0x3AC⟩, ⟨0x388, 0x38A, 1, 0x3AD⟩,
   ⟨0x38C, 0x38C, 1, 0x3CC⟩, ⟨0x38E, 0x38F, 1, 0x3CD⟩, ⟨0x391, 0x3A1, 1, 0x3B1⟩,
   ⟨0x3A3, 0x3AB, 1, 0x3C3⟩, ⟨0x3CF, 0x3CF, 1, 0x3D7⟩, ⟨0x3D8, 0x3EE, 2, 0x3D9⟩,
   ⟨0x3F4, 0x3F4, 1, 0x3B8⟩, ⟨0x3F7, 0x3F7, 1, 0x3F8⟩, ⟨0x3F9, 0x3F9, 1, 0x3F2⟩,
   ⟨0x3FA, 0x3FA, 1, 0x3FB⟩, ⟨0x3FD, 0x3FF, 1, 0x37B⟩, ⟨0x400, 0x40F, 1, 0x450⟩,
   ⟨0x410, 0x42F, 1, 0x430⟩, ⟨0x460, 0x480, 2, 0x461⟩, ⟨0x48A, 0x4BE, 2, 0x48B⟩,
   ⟨0x4C0, 0x4C0, 1, 0x4CF⟩, ⟨0x4C1, 0x4CD, 2, 0x4C2⟩, ⟨0x4D0, 0x52E, 2, 0x4D1⟩,
   ⟨0x531, 0x556, 1, 0x561⟩, ⟨0x10A0, 0x10C5, 1, 0x2D00⟩, ⟨0x10C7, 0x10C7, 1, 0x2D27⟩,
   ⟨0x10CD, 0x10CD, 1, 0x2D2D⟩, ⟨0x13A0, 0x13EF, 1, 0xAB70⟩, ⟨0x13F0, 0x13F5, 1, 0x13F8⟩,
   ⟨0x1C89, 0x1C89, 1, 0x1C8A⟩, ⟨0x1C90, 0x1CBA, 1, 0x10D0⟩, ⟨0x1CBD, 0x1CBF, 1, 0x10FD⟩,
   ⟨0x1E00, 0x1E94, 2, 0x1E01⟩, ⟨0x1E9E, 0x1E9E, 1, 0xDF⟩, ⟨0x1EA0, 0x1EFE, 2, 0x1EA1⟩,
   ⟨0x1F08, 0x1F0F, 1, 0x1F00⟩, ⟨0x1F18, 0x1F1D, 1, 0x1F10⟩, ⟨0x1F28, 0x1F2F, 1, 0x1F20⟩,
   ⟨0x1F38, 0x1F3F, 1, 0x1F30⟩, ⟨0x1F48, 0x1F4D, 1, 0x1F40⟩, ⟨0x1F59, 0x1F5F, 2, 0x1F51⟩,
   ⟨0x1F68, 0x1F6F, 1, 0x1F60⟩, ⟨0x1F88, 0x1F8F, 1, 0x1F80⟩, ⟨0x1F98, 0x1F9F, 1, 0x1F90⟩,
   ⟨0x1FA8, 0x1FAF, 1, 0x1FA0⟩, ⟨0x1FB8, 0x1FB9, 1, 0x1FB0⟩, ⟨0x1FBA, 0x1FBB, 1, 0x1F70⟩,
   ⟨0x1FBC, 0x1FBC, 1, 0x1FB3⟩, ⟨0x1FC8, 0x1FCB, 1, 0x1F72⟩, ⟨0x1FCC, 0x1FCC, 1, 0x1FC3⟩,
   ⟨0x1FD8, 0x1FD9, 1, 0x1FD0⟩, ⟨0x1FDA, 0x1FDB, 1, 0x1F76⟩, ⟨0x1FE8, 0x1FE9, 1, 0x1FE0⟩,
   ⟨0x1FEA, 0x1FEB, 1, 0x1F7A⟩, ⟨0x1FEC, 0x1FEC, 1, 0x1FE5⟩, ⟨0x1FF8, 0x1FF9, 1, 0x1F78⟩,
   ⟨0x1FFA, 0x1FFB, 1, 0x1F7C⟩, ⟨0x1FFC, 0x1FFC, 1, 0x1FF3⟩, ⟨0x2126, 0x2126, 1, 0x3C9⟩,
   ⟨0x212A, 0x212A, 1, 0x6B⟩, ⟨0x212B, 0x212B, 1, 0xE5⟩, ⟨0x2132, 0x2132, 1, 0x214E⟩,
   ⟨0x2160, 0x216F, 1, 0x2170⟩, ⟨0x2183, 0x2183, 1, 0x2184⟩, ⟨0x24B6, 0x24CF, 1, 0x24D0⟩,
   ⟨0x2C00, 0x2C2F, 1, 0x2C30⟩, ⟨0x2C60, 0x2C60, 1, 0x2C61⟩, ⟨0x2C62, 0x2C62, 1, 0x26B⟩,
   ⟨0x2C63, 0x2C63, 1, 0x1D7D⟩, ⟨0x2C64, 0x2C64, 1, 0x27D⟩, ⟨0x2C67, 0x2C6B, 2, 0x2C68⟩,
   ⟨0x2C6D, 0x2C6D, 1, 0x251⟩, ⟨0x2C6E, 0x2C6E, 1, 0x271⟩, ⟨0x2C6F, 0x2C6F, 1, 0x250⟩,
   ⟨0x2C70, 0x2C70, 1, 0x252⟩, ⟨0x2C72, 0x2C72, 1, 0x2C73⟩, ⟨0x2C75, 0x2C75, 1, 0x2C76⟩,
   ⟨0x2C7E, 0x2C7F, 1, 0x23F⟩, ⟨0x2C80, 0x2CE2, 2, 0x2C81⟩, ⟨0x2CEB, 0x2CED, 2, 0x2CEC⟩,
   ⟨0x2CF2, 0x2CF2, 1, 0x2CF3⟩, ⟨0xA640, 0xA66C, 2, 0xA641⟩, ⟨0xA680, 0xA69A, 2, 0xA681⟩,
   ⟨0xA722, 0xA72E, 2, 0xA723⟩, ⟨0xA732, 0xA76E, 2, 0xA733⟩, ⟨0xA779, 0xA77B, 2, 0xA77A⟩,
   ⟨0xA77D, 0xA77D, 1, 0x1D79⟩, ⟨0xA77E, 0xA786, 2, 0xA77F⟩, ⟨0xA78B, 0xA78B, 1, 0xA78C⟩,
   ⟨0xA78D, 0xA78D, 1, 0x265⟩, ⟨0xA790, 0xA792, 2, 0xA791⟩, ⟨0xA796, 0xA7A8, 2, 0xA797⟩,
   ⟨0xA7AA, 0xA7AA, 1, 0x266⟩, ⟨0xA7AB, 0xA7AB, 1, 0x25C⟩, ⟨0xA7AC, 0xA7AC, 1, 0x261⟩,
   ⟨0xA7AD, 0xA7AD, 1, 0x26C⟩, ⟨0xA7AE, 0xA7AE, 1, 0x26A⟩, ⟨0xA7B0, 0xA7B0, 1, 0x29E⟩,
   ⟨0xA7B1, 0xA7B1, 1, 0x287⟩, ⟨0xA7B2, 0xA7B2, 1, 0x29D⟩, ⟨0xA7B3, 0xA7B3, 1, 0xAB53⟩,
   ⟨0xA7B4, 0xA7C2, 2, 0xA7B5⟩, ⟨0xA7C4, 0xA7C4, 1, 0xA794⟩, ⟨0xA7C5, 0xA7C5, 1, 0x282⟩,
   ⟨0xA7C6, 0xA7C6, 1, 0x1D8E⟩, ⟨0xA7C7, 0xA7C9, 2, 0xA7C8⟩, ⟨0xA7CB, 0xA7CB, 1, 0x264⟩,
   ⟨0xA7CC, 0xA7DA, 2, 0xA7CD⟩, ⟨0xA7DC, 0xA7DC, 1, 0x19B⟩, ⟨0xA7F5, 0xA7F5, 1, 0xA7F6⟩,
   ⟨0xFF21, 0xFF3A, 1, 0xFF41⟩,
   ⟨0x10400, 0x10427, 1, 0x10428⟩, ⟨0x104B0, 0x104D3, 1, 0x104D8⟩,
   ⟨0x10570, 0x1057A, 1, 0x10597⟩, ⟨0x1057C, 0x1058A, 1, 0x105A3⟩,
   ⟨0x1058C, 0x10592, 1, 0x105B3⟩, ⟨0x10594, 0x10595, 1, 0x105BB⟩,
   ⟨0x10C80, 0x10CB2, 1, 0x10CC0⟩, ⟨0x10D50, 0x10D65, 1, 0x10D70⟩,
   ⟨0x118A0, 0x118BF, 1, 0x118C0⟩, ⟨0x16E40, 0x16E5F, 1, 0x16E60⟩,
   ⟨0x16EA0, 0x16EB8, 1, 0x16EBB⟩,
   ⟨0x1E900, 0x1E921, 1, 0x1E922⟩]

/-- The lowercase form of a character. -/
def lower (c : Char) : List Char :=
  if c = '\u0130' then ['i', '\u0307']
  else
    match capitalRuns.find? (·.contains c) with
    | some run => [run.smallLetter c]
    | none => [c]

/-- The lowercase form of a text, character by character.  This is how keys are normalized.

A text that is compared with words has one more rule to it, which is left out here: a capital
sigma at the end of a word becomes `U+03C2` and not `U+03C3`.  It makes no difference.  Both small
letters lie beyond ASCII and the words do not, so that a word is found by every lowercase form of
a text or by none (`LowerForm.eq_word_iff`). -/
def lowercase (text : String) : String :=
  String.ofList (text.toList.flatMap lower)

/-! ## ASCII and beyond -/

/-- The capital letters of ASCII. -/
def CapitalRun.ascii : CapitalRun := ⟨0x41, 0x5A, 1, 0x61⟩

theorem capitalRuns_eq : capitalRuns = .ascii :: capitalRuns.tail := rfl

/-- The other runs lie beyond ASCII.  So do their small letters, apart from that of the Kelvin
sign. -/
theorem beyond_of_mem_tail : ∀ run ∈ capitalRuns.tail, 0x80 ≤ run.first ∧
    (run.first = run.last ∧ run.small = 'k'.toNat ∨
      0x80 ≤ run.small ∧ (run.small + (run.last - run.first) < 0xD800 ∨
        0xDFFF < run.small ∧ run.small + (run.last - run.first) < 0x110000)) := by
  decide +kernel

theorem CapitalRun.contains_iff {run : CapitalRun} {c : Char} : run.contains c = true ↔
    run.first ≤ c.toNat ∧ c.toNat ≤ run.last ∧ (c.toNat - run.first) % run.step = 0 := by
  simp [contains, and_assoc]

theorem CapitalRun.toNat_smallLetter {run : CapitalRun} {c : Char}
    (h : (run.small + (c.toNat - run.first)).isValidChar) :
    (run.smallLetter c).toNat = run.small + (c.toNat - run.first) := by
  rw [smallLetter, Char.ofNat, dif_pos h]
  rfl

theorem CapitalRun.smallLetter_of_mem_tail {run : CapitalRun} {c : Char}
    (hrun : run ∈ capitalRuns.tail) (hc : run.contains c = true) :
    run.smallLetter c = 'k' ∨ 0x80 ≤ (run.smallLetter c).toNat := by
  obtain ⟨hfirst, hlast, -⟩ := contains_iff.mp hc
  obtain ⟨-, ⟨honly, hkelvin⟩ | ⟨hsmall, hvalid⟩⟩ := beyond_of_mem_tail run hrun
  · left
    have hzero : c.toNat - run.first = 0 := by omega
    rw [smallLetter, hkelvin, hzero]
    decide
  · right
    have hchar : (run.small + (c.toNat - run.first)).isValidChar := by
      unfold Nat.isValidChar
      omega
    rw [toNat_smallLetter hchar]
    omega

/-- Only the capitals of ASCII have a small letter there. -/
theorem toLower_of_not_capital {c : Char} (h : c.toNat < 0x41 ∨ 0x5A < c.toNat) :
    c.toLower = c := by
  have hcapital : ¬ ('A'.val ≤ c.val ∧ c.val ≤ 'Z'.val) := by
    rintro ⟨hfirst, hlast⟩
    have hfirst : 0x41 ≤ c.toNat := hfirst
    have hlast : c.toNat ≤ 0x5A := hlast
    omega
  exact dif_neg hcapital

/-- ASCII is closed under lowercase, and only its letters change. -/
theorem lower_of_ascii {c : Char} (h : c.toNat < 0x80) : lower c = [c.toLower] := by
  have hdot : c ≠ '\u0130' := by
    rintro rfl
    exact absurd h (by decide)
  have hrest : capitalRuns.tail.find? (·.contains c) = none := by
    rw [List.find?_eq_none]
    intro run hrun hcontains
    have hfirst := (beyond_of_mem_tail run hrun).1
    have hc := (CapitalRun.contains_iff.mp hcontains).1
    omega
  have hletters : ∀ n : Fin 0x80, (Char.ofNat n).toLower =
      if CapitalRun.ascii.contains (Char.ofNat n) then CapitalRun.ascii.smallLetter (Char.ofNat n)
      else Char.ofNat n := by
    decide +kernel
  have hletter := hletters ⟨c.toNat, h⟩
  rw [Char.ofNat_toNat] at hletter
  rw [lower, if_neg hdot, capitalRuns_eq, List.find?_cons, hrest, hletter]
  cases CapitalRun.ascii.contains c with
  | true => rfl
  | false => rfl

/-- The lowercase form of a character beyond ASCII has a part beyond ASCII too, or else it is
that of the Kelvin sign. -/
theorem exists_mem_lower {c : Char} (h : 0x80 ≤ c.toNat) :
    ∃ d ∈ lower c, d = 'k' ∨ 0x80 ≤ d.toNat := by
  unfold lower
  split
  next => exact ⟨'\u0307', by simp, .inr (by decide)⟩
  next =>
    split
    next run hfind =>
      have hrun : run ∈ CapitalRun.ascii :: capitalRuns.tail := List.mem_of_find?_eq_some hfind
      have hcontains := List.find?_some hfind
      refine ⟨run.smallLetter c, List.mem_singleton_self _, ?_⟩
      rcases List.mem_cons.mp hrun with rfl | hmem
      · have hlast : c.toNat ≤ 0x5A := (CapitalRun.contains_iff.mp hcontains).2.1
        omega
      · exact CapitalRun.smallLetter_of_mem_tail hmem hcontains
    next => exact ⟨c, List.mem_singleton_self c, .inr h⟩

example : lower 'Q' = ['q'] := by decide +kernel
example : lower '\u212A' = ['k'] := by decide +kernel
example : lower '\u0130' = ['i', '\u0307'] := by decide +kernel
example : lower 'ß' = ['ß'] := by decide +kernel

end TypedQuery.Unicode
