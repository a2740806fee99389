import TypedQuery.Proofs.Text.Pieces
import TypedQuery.Rule.Reading

/-!
# Values within the bounds of their rule

Whatever a text is, the value that a rule leaves keeps to the choices of the
rule.  `Rule.Allows` says what this means for each kind.  `Reading.Sound` adds
how value and mark go together: a parsed parameter has a value, a value is of
the kind of its rule, and only a search term may be a value without being
parsed.

`Rule.sound_read` holds for accepted texts and for others.  Of the others only a
search term of the wrong length leaves a value.
-/

namespace TypedQuery

/-! ## What a rule allows -/

/-- The labels of tokens that a selection keeps from a list. -/
structure Selection.Keeps (s : Selection) (separator : Char) (labels : List String) : Prop where
  nonempty : ∀ label ∈ labels, label ≠ ""
  free : ∀ label ∈ labels, separator ∉ label.toList
  allowed : s.allowed ≠ [] → ∀ label ∈ labels, label ∈ s.allowed
  distinct : s.distinct = true → labels.Nodup

/-- A value keeps to the choices of a rule. -/
inductive Rule.Allows : Rule → Value → Prop where
  | strings {rule : StringsRule} {items : List String} :
      rule.selection.Keeps rule.separator items → Allows (.strings rule) (.strings items)
  | search {rule : SearchRule} {term : Term} :
      rule.wildcard ∉ term.text.toList →
      (0 < rule.maxLength → term.text.length ≤ rule.maxLength.toNat) →
      Allows (.search rule) (.search term)
  | sort {rule : SortRule} {keys : List SortKey} :
      rule.selection.Keeps rule.separator (keys.map SortKey.field) →
      (∀ key ∈ keys, key.direction = .ascending → key.field.toList.head? ≠ some rule.modifier) →
      Allows (.sort rule) (.sort keys)
  | range {rule : RangeRule} {low high : Int64} :
      low ≤ high → Allows (.range rule) (.range low high)
  | integer {rule : IntegerRule} {n : Int64} :
      rule.low ≤ n → (rule.high ≠ 0 → n ≤ max rule.low rule.high) →
      Allows (.integer rule) (.integer n)
  | boolean {b : Bool} : Allows .boolean (.boolean b)

/-- A reading that a rule can leave. -/
structure Reading.Sound (rule : Rule) (reading : Reading) : Prop where
  value_of_parsed : reading.parsed = true → reading.value.isSome = true
  kind : ∀ value, reading.value = some value → value.kind = rule.kind
  parsed_of_value : ∀ value, reading.value = some value → rule.kind ≠ .search →
    reading.parsed = true
  parsed_search : ∀ term, reading.value = some (.search term) →
    (reading.parsed = true ↔ term.text ≠ "")
  allows : ∀ value, reading.value = some value → rule.Allows value

/-! ## Lists -/

namespace Selection

theorem keeps_keep {α : Type} (s : Selection) (label : α → String) {separator : Char}
    {tokens : List α} (hne : ∀ a ∈ tokens, label a ≠ "")
    (hfree : ∀ a ∈ tokens, separator ∉ (label a).toList) :
    s.Keeps separator ((s.keep label tokens).map label) := by
  have hsub : ∀ a ∈ s.keep label tokens, a ∈ tokens :=
    fun a ha => (s.keep_sublist label tokens).subset ha
  constructor
  · intro l hl
    obtain ⟨a, ha, rfl⟩ := List.mem_map.mp hl
    exact hne a (hsub a ha)
  · intro l hl
    obtain ⟨a, ha, rfl⟩ := List.mem_map.mp hl
    exact hfree a (hsub a ha)
  · intro hallowed l hl
    obtain ⟨a, ha, rfl⟩ := List.mem_map.mp hl
    have haccepts := accepts_of_mem_keep ha
    simpa [accepts, hallowed] using haccepts
  · intro hdistinct
    rw [keep, if_pos hdistinct]
    exact nodup_firsts label _

end Selection

theorem StringsRule.keeps_items (rule : StringsRule) (text : String) :
    rule.selection.Keeps rule.separator (rule.items text) := by
  rw [← List.map_id (rule.items text)]
  apply rule.selection.keeps_keep
  · intro token htoken
    exact (Text.mem_tokens.mp htoken).2
  · intro token htoken
    exact Text.not_mem_of_mem_tokens htoken

namespace SortKey

theorem mem_token_of_mem_field {modifier c : Char} {token : String}
    (h : c ∈ (ofToken modifier token).field.toList) : c ∈ token.toList := by
  cases htoken : token.toList with
  | nil =>
    simp only [ofToken, htoken] at h
    exact absurd h List.not_mem_nil
  | cons first rest =>
    simp only [ofToken, htoken] at h
    split at h
    · rw [String.toList_ofList] at h
      exact List.mem_cons_of_mem _ h
    · rw [← htoken]
      exact h

/-- A token with a modifier in front is descending. -/
theorem head?_field_of_ascending {modifier : Char} {token : String}
    (h : (ofToken modifier token).direction = .ascending) :
    (ofToken modifier token).field.toList.head? ≠ some modifier := by
  cases htoken : token.toList with
  | nil => simp [ofToken, htoken]
  | cons first rest =>
    by_cases hfirst : first = modifier
    · simp only [ofToken, htoken, if_pos hfirst] at h
      exact absurd h (by simp)
    · simp [ofToken, htoken, hfirst]

end SortKey

namespace SortRule

/-- A key that is read comes from a token. -/
theorem exists_token_of_mem_keys {rule : SortRule} {text : String} {key : SortKey}
    (h : key ∈ rule.keys text) :
    ∃ token ∈ Text.tokens rule.separator text, SortKey.ofToken rule.modifier token = key :=
  have hkept := (rule.selection.keep_sublist SortKey.field _).subset h
  List.mem_map.mp (List.mem_filter.mp hkept).1

theorem keeps_keys (rule : SortRule) (text : String) :
    rule.selection.Keeps rule.separator ((rule.keys text).map SortKey.field) := by
  apply rule.selection.keeps_keep
  · intro key hkey
    simpa using (List.mem_filter.mp hkey).2
  · intro key hkey hmem
    obtain ⟨token, htoken, rfl⟩ := List.mem_map.mp (List.mem_filter.mp hkey).1
    exact Text.not_mem_of_mem_tokens htoken (SortKey.mem_token_of_mem_field hmem)

theorem head?_field_of_mem_keys {rule : SortRule} {text : String} {key : SortKey}
    (h : key ∈ rule.keys text) (hascending : key.direction = .ascending) :
    key.field.toList.head? ≠ some rule.modifier := by
  obtain ⟨token, -, rfl⟩ := exists_token_of_mem_keys h
  exact SortKey.head?_field_of_ascending hascending

end SortRule

/-! ## Integers and ranges -/

theorem ite_lt_eq_min (a b : Int64) : (if b < a then b else a) = min a b := by
  show _ = if a ≤ b then a else b
  by_cases h : a ≤ b
  · rw [if_pos h, if_neg (Int64.not_lt.mpr h)]
  · rw [if_neg h, if_pos (Int64.not_le.mp h)]

theorem ite_lt_eq_max (a b : Int64) : (if b < a then a else b) = max a b := by
  show _ = if a ≤ b then b else a
  by_cases h : a ≤ b
  · rw [if_pos h, if_neg (Int64.not_lt.mpr h)]
  · rw [if_neg h, if_pos (Int64.not_le.mp h)]

theorem toInt_min (a b : Int64) : (min a b).toInt = min a.toInt b.toInt := by
  rw [← ite_lt_eq_min]
  split
  next h => exact (Int.min_eq_right (Int.le_of_lt (Int64.lt_iff_toInt_lt.mp h))).symm
  next h => exact (Int.min_eq_left (Int64.le_iff_toInt_le.mp (Int64.not_lt.mp h))).symm

theorem toInt_max (a b : Int64) : (max a b).toInt = max a.toInt b.toInt := by
  rw [← ite_lt_eq_max]
  split
  next h => exact (Int.max_eq_left (Int.le_of_lt (Int64.lt_iff_toInt_lt.mp h))).symm
  next h => exact (Int.max_eq_right (Int64.le_iff_toInt_le.mp (Int64.not_lt.mp h))).symm

theorem RangeRule.ends_le {rule : RangeRule} {text : String} {low high : Int64}
    (h : rule.ends text = .ok (low, high)) : low ≤ high := by
  unfold ends at h
  split at h
  · exact absurd h (by simp)
  next first second _ =>
    cases ha : readEnd first rule.low with
    | error fault => simp [ha, bind, Except.bind] at h
    | ok a =>
      cases hb : readEnd second rule.high with
      | error fault => simp [ha, hb, bind, Except.bind] at h
      | ok b =>
        simp only [ha, hb, bind, Except.bind, pure, Except.pure, Except.ok.injEq] at h
        split at h
        next hlt =>
          cases h
          exact Int64.le_of_lt hlt
        next hge =>
          cases h
          exact Int64.not_lt.mp hge

namespace IntegerRule

/-- The upper bound comes first, so that the lower one wins. -/
theorem clamp_eq (rule : IntegerRule) (n : Int64) :
    rule.clamp n = if rule.high ≠ 0 then max rule.low (min n rule.high) else max rule.low n := by
  unfold clamp
  dsimp only
  rw [ite_lt_eq_max]
  by_cases hnone : rule.high = 0
  · simp [hnone]
  · simp [hnone, ite_lt_eq_min]

theorem toInt_clamp (rule : IntegerRule) (n : Int64) :
    (rule.clamp n).toInt = max rule.low.toInt
      (if rule.high ≠ 0 then min n.toInt rule.high.toInt else n.toInt) := by
  rw [clamp_eq]
  split
  · rw [toInt_max, toInt_min]
  · rw [toInt_max]

theorem clamp_mono (rule : IntegerRule) {m n : Int64} (h : m ≤ n) :
    rule.clamp m ≤ rule.clamp n := by
  rw [Int64.le_iff_toInt_le] at h ⊢
  rw [toInt_clamp, toInt_clamp]
  split <;> omega

theorem low_le_clamp (rule : IntegerRule) (n : Int64) : rule.low ≤ rule.clamp n := by
  rw [Int64.le_iff_toInt_le, toInt_clamp]
  exact Int.le_max_left _ _

/-- The upper bound holds unless the lower bound is above it. -/
theorem clamp_le_max (rule : IntegerRule) (n : Int64) (h : rule.high ≠ 0) :
    rule.clamp n ≤ max rule.low rule.high := by
  rw [Int64.le_iff_toInt_le, toInt_clamp, if_pos h, toInt_max]
  omega

/-- An integer within the bounds stays what it is. -/
theorem clamp_of_bounds {rule : IntegerRule} {n : Int64} (hlow : rule.low ≤ n)
    (hhigh : rule.high ≠ 0 → n ≤ max rule.low rule.high) : rule.clamp n = n := by
  rw [← Int64.toInt_inj, toInt_clamp]
  rw [Int64.le_iff_toInt_le] at hlow
  split
  next hne =>
    have hcap := Int64.le_iff_toInt_le.mp (hhigh hne)
    rw [toInt_max] at hcap
    omega
  next => exact Int.max_eq_right hlow

end IntegerRule

/-! ## Search terms -/

namespace Term

theorem length_take (count : Nat) (term : Term) :
    (term.take count).text.length = min count term.text.length := by
  rw [take, String.length_ofList, List.length_take, String.length_toList]

theorem mem_of_mem_take {count : Nat} {term : Term} {c : Char}
    (h : c ∈ (term.take count).text.toList) : c ∈ term.text.toList := by
  rw [take, String.toList_ofList] at h
  exact List.mem_of_mem_take h

end Term

namespace SearchRule

/-- A search rule always leaves a term: the one that was written, cut if it is too long.  The
mark is about the characters it has. -/
theorem exists_read (rule : SearchRule) (text : String) :
    ∃ term, (rule.read text).2 = ⟨decide (0 < term.text.length), some (.search term)⟩ ∧
      rule.wildcard ∉ term.text.toList ∧
      (0 < rule.maxLength → term.text.length ≤ rule.maxLength.toNat) := by
  have hfree := Term.not_mem_text_ofPattern rule.wildcard text
  unfold read
  generalize Term.ofPattern rule.wildcard text = term at hfree
  dsimp only
  split
  next hlong =>
    obtain ⟨hmax, hlt⟩ := hlong
    have hlength := Term.length_take rule.maxLength.toNat term
    have hpos : 0 < rule.maxLength.toNat := UInt64.lt_iff_toNat_lt.mp hmax
    refine ⟨term.take rule.maxLength.toNat, ?_, mt Term.mem_of_mem_take hfree, fun _ => by omega⟩
    -- Cutting leaves a character, since the greatest length is not zero.
    have hmark : (0 < (term.take rule.maxLength.toNat).text.length) ↔ 0 < term.text.length := by
      omega
    simp only [hmark]
  next hfits =>
    have hle : 0 < rule.maxLength → term.text.length ≤ rule.maxLength.toNat :=
      fun hmax => Nat.le_of_not_lt fun hlt => hfits ⟨hmax, hlt⟩
    split
    · exact ⟨term, rfl, hfree, hle⟩
    · exact ⟨term, rfl, hfree, hle⟩

end SearchRule

/-! ## All rules -/

namespace Reading

theorem sound_blank (rule : Rule) : Sound rule blank := by
  constructor <;> simp [blank]

/-- A reading of a value that is parsed. -/
theorem sound_of {rule : Rule} {value : Value} (hkind : value.kind = rule.kind)
    (hsearch : rule.kind ≠ .search) (hallows : rule.Allows value) : Sound rule (of value) := by
  constructor
  · intro _
    rfl
  · rintro _ ⟨⟩
    exact hkind
  · intro _ _ _
    rfl
  · rintro term ⟨⟩
    exact absurd hkind.symm hsearch
  · rintro _ ⟨⟩
    exact hallows

/-- A fault leaves nothing, so that only the values matter. -/
theorem sound_ofExcept_map {α : Type} {rule : Rule} {result : Except Fault α} {f : α → Value}
    (h : ∀ a, result = .ok a → Sound rule (of (f a))) :
    Sound rule (ofExcept (result.map f)).2 := by
  cases result with
  | error fault => exact sound_blank rule
  | ok a => exact h a rfl

end Reading

/-- Whatever the text, what a rule leaves keeps to the rule. -/
theorem Rule.sound_read (rule : Rule) (text : String) :
    Reading.Sound rule (rule.read text).2 := by
  cases rule with
  | strings rule => exact Reading.sound_of rfl (by simp [kind]) (.strings (rule.keeps_items text))
  | sort rule =>
    have hallows : Allows (.sort rule) (.sort (rule.keys text)) :=
      .sort (rule.keeps_keys text) fun key hkey => SortRule.head?_field_of_mem_keys hkey
    exact Reading.sound_of rfl (by simp [kind]) hallows
  | search rule =>
    obtain ⟨term, hread, hfree, hle⟩ := rule.exists_read text
    show Reading.Sound (.search rule) (rule.read text).2
    rw [hread]
    constructor
    · intro _
      rfl
    · rintro _ ⟨⟩
      rfl
    · intro _ _ hsearch
      exact absurd rfl hsearch
    · rintro _ ⟨⟩
      simp [Nat.pos_iff_ne_zero]
    · rintro _ ⟨⟩
      exact .search hfree hle
  | range rule =>
    apply Reading.sound_ofExcept_map
    intro ends hends
    exact Reading.sound_of rfl (by simp [kind]) (.range (RangeRule.ends_le hends))
  | integer rule =>
    apply Reading.sound_ofExcept_map
    intro n _
    have hallows : Allows (.integer rule) (.integer (rule.clamp n)) :=
      .integer (rule.low_le_clamp n) (rule.clamp_le_max n)
    exact Reading.sound_of rfl (by simp [kind]) hallows
  | boolean =>
    apply Reading.sound_ofExcept_map
    intro b _
    exact Reading.sound_of rfl (by simp [kind]) .boolean

end TypedQuery
