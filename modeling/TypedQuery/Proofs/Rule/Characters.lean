import TypedQuery.Proofs.Rule.Bounds
import TypedQuery.Proofs.Query.Grammar

/-!
# What values are made of

Texts in a value are parts of the text that was read: reading drops separators,
wildcards, modifiers and what is too long, and adds nothing.  So a character that
does not occur in an input occurs in no value that the input leaves
(`Rule.mem_text_of_mem_chars`, `Settings.mem_input_of_mem_pairs`).
-/

namespace TypedQuery

/-- The characters of the texts in a value. -/
def Value.chars : Value → List Char
  | .strings items => items.flatMap String.toList
  | .search term => term.text.toList
  | .sort keys => keys.flatMap fun key => key.field.toList
  | .range _ _ | .integer _ | .boolean _ => []

/-- Values of the other kinds hold no text. -/
theorem Value.chars_eq_nil {value : Value}
    (h : value.kind = .range ∨ value.kind = .integer ∨ value.kind = .boolean) :
    value.chars = [] := by
  cases value with
  | range low high => rfl
  | integer n => rfl
  | boolean b => rfl
  | strings items => simp [kind] at h
  | search term => simp [kind] at h
  | sort keys => simp [kind] at h

/-! ## Values in texts -/

theorem StringsRule.mem_text_of_mem_items {rule : StringsRule} {text item : String} {c : Char}
    (h : item ∈ rule.items text) (hc : c ∈ item.toList) : c ∈ text.toList := by
  have htoken := (rule.selection.keep_sublist id _).subset h
  exact Text.mem_of_mem_pieces (Text.mem_tokens.mp htoken).1 hc

theorem SortRule.mem_text_of_mem_keys {rule : SortRule} {text : String} {key : SortKey} {c : Char}
    (h : key ∈ rule.keys text) (hc : c ∈ key.field.toList) : c ∈ text.toList := by
  obtain ⟨token, htoken, rfl⟩ := SortRule.exists_token_of_mem_keys h
  exact Text.mem_of_mem_pieces (Text.mem_tokens.mp htoken).1 (SortKey.mem_token_of_mem_field hc)

theorem Term.mem_of_mem_ofPattern {wildcard : Char} {pattern : String} {c : Char}
    (h : c ∈ (ofPattern wildcard pattern).text.toList) : c ∈ pattern.toList := by
  rw [ofPattern, String.toList_ofList] at h
  exact (List.mem_filter.mp h).1

theorem SearchRule.mem_text_of_mem_chars {rule : SearchRule} {text : String} {value : Value}
    {c : Char} (h : (rule.read text).2.value = some value) (hc : c ∈ value.chars) :
    c ∈ text.toList := by
  unfold read at h
  dsimp only at h
  split at h
  · obtain rfl := Option.some.inj h
    exact Term.mem_of_mem_ofPattern (Term.mem_of_mem_take hc)
  · split at h
    · obtain rfl := Option.some.inj h
      exact Term.mem_of_mem_ofPattern hc
    · obtain rfl := Option.some.inj h
      exact Term.mem_of_mem_ofPattern hc

/-- A value is made of characters of its text. -/
theorem Rule.mem_text_of_mem_chars {rule : Rule} {text : String} {value : Value} {c : Char}
    (h : (rule.read text).2.value = some value) (hc : c ∈ value.chars) : c ∈ text.toList := by
  have hkind := kind_of_read h
  cases rule with
  | strings rule =>
    obtain rfl := Option.some.inj h
    obtain ⟨item, hitem, hc⟩ := List.mem_flatMap.mp hc
    exact StringsRule.mem_text_of_mem_items hitem hc
  | search rule => exact SearchRule.mem_text_of_mem_chars h hc
  | sort rule =>
    obtain rfl := Option.some.inj h
    obtain ⟨key, hkey, hc⟩ := List.mem_flatMap.mp hc
    exact SortRule.mem_text_of_mem_keys hkey hc
  | range rule => simp [Value.chars_eq_nil (.inl hkind)] at hc
  | integer rule => simp [Value.chars_eq_nil (.inr (.inl hkind))] at hc
  | boolean => simp [Value.chars_eq_nil (.inr (.inr hkind))] at hc

/-! ## Texts in inputs -/

namespace Settings

theorem mem_input_of_mem_query {s : Settings} {input : String} {c : Char}
    (h : c ∈ (s.queryText input).toList) : c ∈ input.toList := by
  have hquery : s.QueryIn input (s.queryText input) := queryIn_iff.mpr rfl
  generalize s.queryText input = query at h hquery
  cases hquery with
  | afterPath _ => simp [h]
  | whole _ => exact h

/-- The texts of the pairs are made of characters of the input. -/
theorem mem_input_of_mem_pairs {s : Settings} {input key text : String} {c : Char}
    (h : (key, text) ∈ s.pairs (s.queryText input)) (hc : c ∈ text.toList) : c ∈ input.toList := by
  obtain ⟨piece, hpiece, hcut⟩ := List.mem_filterMap.mp h
  obtain ⟨rfl, -⟩ := Text.cut?_eq_some_iff.mp hcut
  exact mem_input_of_mem_query (Text.mem_of_mem_pieces hpiece (by simp [hc]))

end Settings

end TypedQuery
