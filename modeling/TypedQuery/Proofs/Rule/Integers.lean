import TypedQuery.Proofs.Decimal.Numerals
import TypedQuery.Proofs.Rule.Bounds
import TypedQuery.Proofs.Rule.Outcome

/-!
# Integers and ranges

An integer is given as a numeral for a number of 64 bits.  It is brought within
the bounds of its rule: the upper bound first, if there is one, and then the lower
bound (`IntegerRule.clamp_eq`).

A range is given as two ends with the separator between them.  An end is a
numeral, or nothing for the bound of the rule (`RangeRule.End`).  The first
separator is the one that counts, so that a minus sign that is also the separator
can only be part of the second end.

`Parameter.read_range` says what becomes of every text: which of the two ends a
fault names, and which range is left if there is no fault.  The ends of this range
are in order whichever way round they are written, also where a bound of the rule
is the one that is the wrong way round.
-/

namespace TypedQuery

/-! ## Integers -/

theorem readInteger_eq_ok_iff {text : String} {n : Int64} :
    readInteger text = .ok n ↔ Decimal.Numeral text.toList n.toInt := by
  rw [← Decimal.int64?_eq_some_iff, readInteger]
  cases Decimal.int64? text with
  | none => simp
  | some m => simp

/-- What is no integer of 64 bits is refused, with the text as it is. -/
theorem readInteger_eq_error_iff {text : String} {fault : Fault} :
    readInteger text = .error fault ↔
      fault = .notInteger text ∧ ∀ n : Int64, ¬ Decimal.Numeral text.toList n.toInt := by
  simp only [← Decimal.int64?_eq_some_iff, readInteger]
  cases Decimal.int64? text with
  | none => simp [eq_comm]
  | some m => simp

namespace RangeRule

/-! ## Ends -/

/-- A text is an end of a range. -/
inductive End (bound : Int64) : String → Int64 → Prop where
  /-- An end that is left open is the bound. -/
  | left : End bound "" bound
  | written {text : String} {n : Int64} : Decimal.Numeral text.toList n.toInt → End bound text n

theorem readEnd_eq_ok_iff {bound : Int64} {text : String} {n : Int64} :
    readEnd text bound = .ok n ↔ End bound text n := by
  unfold readEnd
  split
  next hempty =>
    obtain rfl : text = "" := by simpa using hempty
    constructor
    · intro h
      cases h
      exact .left
    · intro h
      cases h with
      | left => rfl
      | written hn => exact absurd String.toList_empty hn.ne_nil
  next hne =>
    rw [readInteger_eq_ok_iff]
    constructor
    · exact .written
    · intro h
      cases h with
      | left => exact absurd rfl hne
      | written hn => exact hn

theorem readEnd_eq_error_iff {bound : Int64} {text : String} {fault : Fault} :
    readEnd text bound = .error fault ↔
      fault = .notInteger text ∧ ∀ n, ¬ End bound text n := by
  simp only [← readEnd_eq_ok_iff]
  unfold readEnd
  split
  · simp
  · rw [readInteger_eq_error_iff]
    simp only [readInteger_eq_ok_iff]

/-- The written form of an integer is an end, whatever the bound. -/
theorem end_ofInt (bound n : Int64) : End bound (Decimal.ofInt n.toInt) n :=
  .written (Decimal.numeral_ofInt n.toInt)

/-! ## Both ends -/

section

variable {rule : RangeRule} {before after given text : String} {low high : Int64}

theorem ends_of_not_mem (h : rule.separator ∉ text.toList) :
    rule.ends text = .error (.notRange text) := by
  rw [ends, Text.cut?_eq_none_iff.mpr h]

/-- A text with a separator is cut at the first, and the sides are looked at in their order. -/
theorem ends_append (h : rule.separator ∉ before.toList) (after : String) :
    rule.ends (before ++ String.singleton rule.separator ++ after) = do
      let a ← readEnd before rule.low
      let b ← readEnd after rule.high
      return (min a b, max a b) := by
  have hswap : ∀ a b : Int64, (if b < a then (b, a) else (a, b)) = (min a b, max a b) := by
    intro a b
    rw [← ite_lt_eq_min, ← ite_lt_eq_max]
    split
    · rfl
    · rfl
  rw [ends, Text.cut?_append h]
  simp only [hswap]

theorem ends_append_eq_ok_iff (h : rule.separator ∉ before.toList) :
    rule.ends (before ++ String.singleton rule.separator ++ after) = .ok (low, high) ↔
      ∃ a b, End rule.low before a ∧ End rule.high after b ∧ low = min a b ∧ high = max a b := by
  rw [ends_append h]
  simp only [bind_eq_ok_iff, readEnd_eq_ok_iff]
  constructor
  · rintro ⟨a, ha, b, hb, hends⟩
    cases hends
    exact ⟨a, b, ha, hb, rfl, rfl⟩
  · rintro ⟨a, b, ha, hb, rfl, rfl⟩
    exact ⟨a, ha, b, hb, rfl⟩

/-- The second side is looked at only if the first is an end. -/
theorem ends_append_eq_error_iff (h : rule.separator ∉ before.toList) {fault : Fault} :
    rule.ends (before ++ String.singleton rule.separator ++ after) = .error fault ↔
      (fault = .notInteger before ∧ ∀ n, ¬ End rule.low before n) ∨
      (fault = .notInteger after ∧ (∃ n, End rule.low before n) ∧
        ∀ n, ¬ End rule.high after n) := by
  rw [ends_append h]
  simp only [bind_eq_error_iff, readEnd_eq_error_iff, readEnd_eq_ok_iff]
  constructor
  · rintro (hfirst | ⟨a, ha, ⟨hfault, hnone⟩ | ⟨b, -, hends⟩⟩)
    · exact .inl hfirst
    · exact .inr ⟨hfault, ⟨a, ha⟩, hnone⟩
    · cases hends
  · rintro (hfirst | ⟨hfault, ⟨a, ha⟩, hnone⟩)
    · exact .inl hfirst
    · exact .inr ⟨a, ha, .inl ⟨hfault, hnone⟩⟩

theorem ends_eq_notRange_iff :
    rule.ends text = .error (.notRange given) ↔ given = text ∧ rule.separator ∉ text.toList := by
  constructor
  · intro h
    cases hcut : Text.cut? rule.separator text with
    | none =>
      have hfree := Text.cut?_eq_none_iff.mp hcut
      rw [ends_of_not_mem hfree] at h
      cases h
      exact ⟨rfl, hfree⟩
    | some sides =>
      obtain ⟨rfl, hfree⟩ := Text.cut?_eq_some_iff.mp hcut
      rcases (ends_append_eq_error_iff hfree).mp h with ⟨hfault, -⟩ | ⟨hfault, -⟩
      · cases hfault
      · cases hfault
  · rintro ⟨rfl, h⟩
    exact ends_of_not_mem h

/-- Written integers are the ends of the range between them. -/
theorem ends_written {a b : Int64} (h : rule.separator ∉ (Decimal.ofInt a.toInt).toList) :
    rule.ends (Decimal.ofInt a.toInt ++ String.singleton rule.separator ++ Decimal.ofInt b.toInt)
      = .ok (min a b, max a b) :=
  (ends_append_eq_ok_iff h).mpr ⟨a, b, end_ofInt _ a, end_ofInt _ b, rfl, rfl⟩

end

end RangeRule

/-! ## Parameters -/

namespace Parameter

variable {p : Parameter} {text : String}

/-- How a range is read.  A text without the separator is no range.  Cut at the first separator, a
text has two sides, and the first of them that is no end is at fault.  Two ends are the range
between them, the lower one first.  So written integers are read as the range between them,
whichever comes first, if the separator does not occur in the one in front. -/
theorem read_range {rule : RangeRule} (hrule : p.declaration.rule = .range rule) :
    (∀ text given, (p.read text).1 = .error (.badValue p.name (.notRange given)) ↔
      given = text ∧ rule.separator ∉ text.toList) ∧
    (∀ before after, rule.separator ∉ before.toList →
      (∀ given, (p.read (before ++ String.singleton rule.separator ++ after)).1
          = .error (.badValue p.name (.notInteger given)) ↔
        (given = before ∧ ∀ n, ¬ RangeRule.End rule.low before n) ∨
        (given = after ∧ (∃ n, RangeRule.End rule.low before n) ∧
          ∀ n, ¬ RangeRule.End rule.high after n)) ∧
      ∀ low high, p.read (before ++ String.singleton rule.separator ++ after)
          = (.ok (), { p with reading := .of (.range low high) }) ↔
        ∃ a b, RangeRule.End rule.low before a ∧ RangeRule.End rule.high after b ∧
          low = min a b ∧ high = max a b) ∧
    (∀ a b : Int64, rule.separator ∉ (Decimal.ofInt a.toInt).toList →
      p.read (Decimal.ofInt a.toInt ++ String.singleton rule.separator ++ Decimal.ofInt b.toInt)
        = (.ok (), { p with reading := .of (.range (min a b) (max a b)) })) ∧
    ∀ a b : Int64, rule.separator ∉ (Decimal.ofInt a.toInt).toList →
      rule.separator ∉ (Decimal.ofInt b.toInt).toList →
      p.read (Decimal.ofInt a.toInt ++ String.singleton rule.separator ++ Decimal.ofInt b.toInt)
        = p.read
          (Decimal.ofInt b.toInt ++ String.singleton rule.separator ++ Decimal.ofInt a.toInt) := by
  have hread : ∀ text, p.declaration.rule.read text
      = Reading.ofExcept ((rule.ends text).map fun ends => .range ends.1 ends.2) := by
    intro text
    rw [hrule]
    rfl
  have hfault : ∀ text fault, (p.read text).1 = .error (.badValue p.name fault) ↔
      rule.ends text = .error fault :=
    fun text fault => read_eq_fault_iff (hread text)
  have hvalue : ∀ text low high,
      p.read text = (.ok (), { p with reading := .of (.range low high) }) ↔
        rule.ends text = .ok (low, high) := by
    intro text low high
    rw [read_eq_of_iff (hread text)]
    simp
  have hwritten : ∀ a b : Int64, rule.separator ∉ (Decimal.ofInt a.toInt).toList →
      p.read (Decimal.ofInt a.toInt ++ String.singleton rule.separator ++ Decimal.ofInt b.toInt)
        = (.ok (), { p with reading := .of (.range (min a b) (max a b)) }) :=
    fun a b h => (hvalue _ _ _).mpr (RangeRule.ends_written h)
  refine ⟨?_, ?_, hwritten, ?_⟩
  · intro text given
    rw [hfault, RangeRule.ends_eq_notRange_iff]
  · intro before after hfree
    refine ⟨fun given => ?_, fun low high => ?_⟩
    · simp only [hfault, RangeRule.ends_append_eq_error_iff hfree, Fault.notInteger.injEq]
    · rw [hvalue, RangeRule.ends_append_eq_ok_iff hfree]
  · intro a b ha hb
    have hmin : min a b = min b a := by rw [← Int64.toInt_inj, toInt_min, toInt_min, Int.min_comm]
    have hmax : max a b = max b a := by rw [← Int64.toInt_inj, toInt_max, toInt_max, Int.max_comm]
    rw [hwritten a b ha, hwritten b a hb, hmin, hmax]

/-- The separator is the minus sign, and the bounds are the wrong way round. -/
theorem read_range_minus :
    let p : Parameter := .fresh (.ofRule "age" (.range ⟨'-', 9, 1⟩))
    p.read "5--3" = (.ok (), { p with reading := .of (.range (-3) 5) }) ∧
      p.read "-" = (.ok (), { p with reading := .of (.range 1 9) }) ∧
      (p.read "5+3").1 = .error (.badValue "age" (.notRange "5+3")) ∧
      (p.read "-5-y").1 = .error (.badValue "age" (.notInteger "5-y")) := by
  intro p
  have hrule : p.declaration.rule = .range ⟨'-', 9, 1⟩ := rfl
  obtain ⟨hnone, hcut, hwritten, -⟩ := read_range hrule
  have hopen : ∀ bound, RangeRule.End bound "" bound := fun bound => .left
  have hrefused : RangeRule.readEnd "5-y" 1 = .error (.notInteger "5-y") := by decide
  have hside : ∀ n, ¬ RangeRule.End 1 "5-y" n := (RangeRule.readEnd_eq_error_iff.mp hrefused).2
  refine ⟨hwritten 5 (-3) (by decide), ?_, (hnone "5+3" "5+3").mpr ⟨rfl, by decide⟩, ?_⟩
  · exact ((hcut "" "" (by decide)).2 1 9).mpr ⟨9, 1, hopen 9, hopen 1, by decide, by decide⟩
  · exact ((hcut "" "5-y" (by decide)).1 "5-y").mpr (.inr ⟨rfl, ⟨9, hopen 9⟩, hside⟩)

end Parameter

end TypedQuery
