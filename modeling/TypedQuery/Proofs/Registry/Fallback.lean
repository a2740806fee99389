import TypedQuery.Proofs.Registry.Independence
import TypedQuery.Proofs.Registry.Typed
import TypedQuery.Proofs.Rule.Integers
import TypedQuery.Proofs.Rule.Reread

/-!
# Integers and their fallback

A query that is refused for a value ends with this value.  The parameter that the
error names has read the faulty text, and what it holds is up to its rule
(`Reachable.exists_refused`).  A rule for integers leaves nothing of such a text,
so that the getter falls back.

`Parameter.read_integer` puts together what there is to say about integers: which
texts are accepted, which value they leave, and what is handed out for the others.
-/

namespace TypedQuery

namespace Registry

variable {r : Registry}

/-- The parameter that an error names has read the faulty text. -/
theorem Reachable.exists_refused (hr : r.Reachable) {input name : String} {fault : Fault}
    (h : (r.read input).1 = .error (.badValue name fault)) :
    ∃ p ∈ r.parameters, p.name = name ∧ ∃ text,
      ((Parameter.fresh p.declaration).read text).1 = .error (.badValue name fault) ∧
      ((Parameter.fresh p.declaration).read text).2 ∈ (r.read input).2.parameters := by
  have hindexed := hr.indexed
  cases hempty : r.isEmpty with
  | true => simp [read, hempty] at h
  | false =>
    by_cases hquery : r.settings.queryText input = ""
    · simp [read, hempty, hquery] at h
    · rw [read_eq_feed hempty hquery] at h ⊢
      generalize r.settings.pairs (r.settings.queryText input) = pairs at h
      rcases accepts_or_refuses hindexed pairs with
        hall | ⟨before, key, text, rest, e, rfl, hbefore, he⟩
      · rw [feed_of_accepts hindexed hall] at h
        cases h
      · rw [feed_of_refuses hindexed hbefore he] at h
        obtain rfl := Except.error.inj h
        rw [feed_of_refuses hindexed hbefore he]
        cases he with
        | @text _ _ p _ hkey hp hname he =>
          obtain ⟨fault', hfault, -⟩ := Parameter.exists_fault_of_error he
          have hpair : (key, text) = (p.name, text) := by rw [hname]
          refine ⟨p, hp, ?_, text, he, ?_⟩
          · cases hfault
            rfl
          · rw [if_pos hkey, ← Array.mem_toList_iff, parameters_after, hpair]
            have hd : p.declaration ∈ r.declarations :=
              List.mem_map_of_mem (Array.mem_toList_iff.mpr hp)
            have hlast : (Parameter.fresh p.declaration).after (before ++ [(p.name, text)])
                = ((Parameter.fresh p.declaration).read text).2 :=
              ((Parameter.fresh p.declaration).after_append_self before text).trans
                (congrArg Prod.snd (Parameter.read_congr (Parameter.declaration_after _ _) text))
            rw [← hlast]
            exact List.mem_map_of_mem hd

/-- A getter for an integer falls back where the query was refused for its value. -/
theorem Reachable.integer_of_refused (hr : r.Reachable) {p : Parameter} (hp : p ∈ r.parameters)
    {rule : IntegerRule} (hrule : p.declaration.rule = .integer rule) {input : String}
    {fault : Fault} (h : (r.read input).1 = .error (.badValue p.name fault)) :
    (r.read input).2.integer p.name = .ok rule.fallback := by
  obtain ⟨q, hq, hname, text, herror, hleft⟩ := hr.exists_refused h
  obtain rfl : p = q := hr.indexed.eq_of_name_eq hp hq hname.symm
  have hsearch : ∀ r, p.declaration.rule ≠ .search r := by simp [hrule]
  have hblank := Parameter.blank_of_error (p := .fresh p.declaration) hsearch herror
  have hindexed : (r.read input).2.Indexed := (hr.step (.read input)).indexed
  have hkind : ((Parameter.fresh p.declaration).read text).2.kind = .integer :=
    congrArg Rule.kind hrule
  exact hindexed.integer_of_mem hleft hkind
    (Parameter.integer?_of_unparsed hrule (congrArg Reading.parsed hblank))

end Registry

namespace Parameter

variable {p : Parameter} {rule : IntegerRule}

theorem rule_read_eq (hrule : p.declaration.rule = .integer rule) (text : String) :
    p.declaration.rule.read text
      = Reading.ofExcept ((readInteger text).map fun n => .integer (rule.clamp n)) := by
  rw [hrule, Rule.read]

theorem read_of_numeral (hrule : p.declaration.rule = .integer rule) {text : String} {n : Int64}
    (h : Decimal.Numeral text.toList n.toInt) :
    p.read text = (.ok (), { p with reading := .of (.integer (rule.clamp n)) }) :=
  (read_eq_of_iff (rule_read_eq hrule text)).mpr ⟨n, readInteger_eq_ok_iff.mpr h, rfl⟩

theorem read_of_not_numeral (hrule : p.declaration.rule = .integer rule) {text : String}
    (h : ∀ n : Int64, ¬ Decimal.Numeral text.toList n.toInt) :
    (p.read text).1 = .error (.badValue p.name (.notInteger text)) :=
  (read_eq_fault_iff (rule_read_eq hrule text)).mpr (readInteger_eq_error_iff.mpr ⟨rfl, h⟩)

/-- How an integer is read.  The texts that are accepted are the numerals for a number of 64 bits.
Any other text is refused as it is, and then the fallback is handed out, also by the getter of a
registry.  The value is brought within the bounds, the lower one last, which keeps the order of
values and leaves those alone that have been brought within the bounds before. -/
theorem read_integer (hrule : p.declaration.rule = .integer rule) :
    (∀ text, (p.read text).1 = .ok () ↔ ∃ n : Int, Decimal.Numeral text.toList n ∧
      Int64.minValue.toInt ≤ n ∧ n ≤ Int64.maxValue.toInt) ∧
    (∀ text, (p.read text).1 ≠ .ok () →
      (p.read text).1 = .error (.badValue p.name (.notInteger text)) ∧
      (p.read text).2.integer? = some rule.fallback) ∧
    (∀ r : Registry, r.Reachable → p ∈ r.parameters → ∀ input fault,
      (r.read input).1 = .error (.badValue p.name fault) →
      (r.read input).2.integer p.name = .ok rule.fallback) ∧
    (∀ text (n : Int64), Decimal.Numeral text.toList n.toInt →
      p.read text = (.ok (), { p with reading := .of (.integer (rule.clamp n)) })) ∧
    (∀ n, rule.clamp n =
      if rule.high ≠ 0 then max rule.low (min n rule.high) else max rule.low n) ∧
    (∀ n, rule.low ≤ rule.clamp n) ∧
    (rule.high ≠ 0 → rule.low ≤ rule.high → ∀ n, rule.clamp n ≤ rule.high) ∧
    (∀ m n, m ≤ n → rule.clamp m ≤ rule.clamp n) ∧
    (∀ n, rule.clamp (rule.clamp n) = rule.clamp n) ∧
    ∀ n : Int64, Decimal.Numeral (Decimal.ofInt n.toInt).toList n.toInt := by
  have hok : ∀ text, (p.read text).1 = .ok () ↔
      ∃ n : Int64, Decimal.Numeral text.toList n.toInt := by
    intro text
    constructor
    · intro hok
      by_contra hnone
      rw [read_of_not_numeral hrule (not_exists.mp hnone)] at hok
      cases hok
    · rintro ⟨n, hn⟩
      rw [read_of_numeral hrule hn]
  have hfault : ∀ text, (p.read text).1 ≠ .ok () →
      (p.read text).1 = .error (.badValue p.name (.notInteger text)) :=
    fun text h => read_of_not_numeral hrule (not_exists.mp (mt (hok text).mpr h))
  refine ⟨fun text => (hok text).trans Decimal.exists_int64_iff, fun text h => ⟨hfault text h, ?_⟩,
    fun r hr hp input fault h => hr.integer_of_refused hp hrule h,
    fun text n hn => read_of_numeral hrule hn, rule.clamp_eq, rule.low_le_clamp, ?_,
    fun m n h => rule.clamp_mono h, ?_, fun n => Decimal.numeral_ofInt n.toInt⟩
  · have hsearch : ∀ r, p.declaration.rule ≠ .search r := by simp [hrule]
    have hblank := blank_of_error hsearch (hfault text h)
    exact integer?_of_unparsed hrule (congrArg Reading.parsed hblank)
  · intro hhigh hbounds n
    have hmax : max rule.low rule.high = rule.high := if_pos hbounds
    exact hmax ▸ rule.clamp_le_max n hhigh
  · intro n
    exact IntegerRule.clamp_of_bounds (rule.low_le_clamp n) (rule.clamp_le_max n)

/-- The upper bound is below the lower one, and the fallback is out of bounds. -/
theorem read_integer_bounds_inverted :
    let d : Declaration := .ofRule "offset" (.integer ⟨10, -3, 7⟩)
    let r := (Registry.empty .default).run [.register d]
    (fresh d).read "-0018" = (.ok (), ⟨d, .of (.integer 10)⟩) ∧
      ((fresh d).read "9223372036854775808").1
        = .error (.badValue "offset" (.notInteger "9223372036854775808")) ∧
      (r.read "?offset=18&offset=1_8").2.integer "offset" = .ok 7 := by
  intro d r
  have hr : r.Reachable := (Registry.Reachable.empty .default).run _
  have hregister : r = ⟨.default, #[.fresh d], .insert ∅ "offset" 0⟩ := by
    simp [r, Registry.run, Registry.step, Registry.register, Registry.empty, d,
      Declaration.ofRule]
  have hp : fresh d ∈ r.parameters := by simp [hregister]
  have hrule : (fresh d).declaration.rule = .integer ⟨10, -3, 7⟩ := rfl
  have hread : (r.read "?offset=18&offset=1_8").1
      = .error (.badValue "offset" (.notInteger "1_8")) := by
    have hquery : Settings.default.queryText "?offset=18&offset=1_8" = "offset=18&offset=1_8" := by
      decide
    have hpairs : Settings.default.pairs "offset=18&offset=1_8"
        = [("offset", "18"), ("offset", "1_8")] := by
      decide
    have hkey : Key.isNormal "offset" = true := by decide
    have hfirst : (fresh d).read "18" = (.ok (), ⟨d, .of (.integer 10)⟩) := by decide
    have hsecond : (⟨d, .of (.integer 10)⟩ : Parameter).read "1_8"
        = (.error (.badValue "offset" (.notInteger "1_8")), fresh d) := by
      decide
    simp [hregister, Registry.read, Registry.isEmpty, hquery, hpairs, Registry.feed, hkey,
      Registry.readValue, Registry.reset, hfirst, hsecond]
  obtain ⟨hok, hfault, hget, hvalue, -⟩ := read_integer hrule
  have hnone : ((fresh d).read "9223372036854775808").1 ≠ .ok () := by decide
  exact ⟨hvalue "-0018" (-18) (Decimal.int64?_eq_some_iff.mp (by decide)),
    (hfault _ hnone).1, hget r hr hp _ _ hread⟩

end Parameter

end TypedQuery
