import TypedQuery.Proofs.Rule.Bounds

/-!
# Values are read back

A value that a rule allows is what the rule reads from its written form.  Strings
are written with the separator between them, a search term with its wildcards,
an integer in decimal, a truth value as a word.  What reading does to other texts
does nothing to these: no token is dropped, no repetition is left out, no bound
cuts the value.

Sort keys need one thing more than their rule allows.  If the modifier is the
list separator, a descending key cannot be written.  Such keys are never read
(`SortRule.separator_not_mem_token`), and all other keys are read back.
-/

namespace TypedQuery

/-! ## Lists -/

namespace Selection

/-- Tokens with labels of their own are all firsts. -/
theorem firsts_of_nodup {α : Type} {label : α → String} {tokens : List α}
    (h : (tokens.map label).Nodup) : firsts label tokens = tokens := by
  induction tokens with
  | nil => rfl
  | cons a rest ih =>
    rw [List.map_cons, List.nodup_cons] at h
    rw [firsts, ih h.2]
    congr 1
    rw [List.filter_eq_self]
    intro b hb
    have hne : label b ≠ label a := fun heq => h.1 (heq ▸ List.mem_map_of_mem hb)
    simpa using hne

/-- A selection keeps all of what it can have kept. -/
theorem keep_of_keeps {α : Type} {s : Selection} {separator : Char} {label : α → String}
    {tokens : List α} (h : s.Keeps separator (tokens.map label)) :
    s.keep label tokens = tokens := by
  have haccepted : tokens.filter (fun a => s.accepts (label a)) = tokens := by
    rw [List.filter_eq_self]
    intro a ha
    by_cases hall : s.allowed = []
    · simp [accepts, hall]
    · simp [accepts, h.allowed hall (label a) (List.mem_map_of_mem ha)]
  rw [keep, haccepted]
  split
  next hdistinct => exact firsts_of_nodup (h.distinct hdistinct)
  next => rfl

end Selection

theorem StringsRule.items_joined {rule : StringsRule} {items : List String}
    (h : rule.selection.Keeps rule.separator items) :
    rule.items (Text.joined rule.separator items) = items := by
  have htokens := Text.tokens_joined h.nonempty h.free
  show rule.selection.keep id (Text.tokens rule.separator _) = items
  rw [htokens]
  exact Selection.keep_of_keeps (by rwa [List.map_id])

/-! ## Sort keys -/

/-- A sort key keeps its token. -/
theorem SortKey.token_ofToken (modifier : Char) (token : String) :
    (ofToken modifier token).token modifier = token := by
  cases htoken : token.toList with
  | nil => simp [ofToken, htoken, SortKey.token]
  | cons first rest =>
    by_cases hfirst : first = modifier
    · apply String.toList_inj.mp
      simp [ofToken, htoken, SortKey.token, hfirst]
    · simp [ofToken, htoken, SortKey.token, hfirst]

/-- Sort keys are read back from their written forms, one by one. -/
theorem SortKey.map_ofToken_token {modifier : Char} {keys : List SortKey}
    (h : ∀ key ∈ keys, key.direction = .ascending → key.field.toList.head? ≠ some modifier) :
    (keys.map (SortKey.token modifier)).map (ofToken modifier) = keys := by
  rw [List.map_map]
  calc keys.map (ofToken modifier ∘ SortKey.token modifier)
    _ = keys.map id := List.map_congr_left fun key hkey => ofToken_token (h key hkey)
    _ = keys := List.map_id keys

namespace SortRule

/-- The written form of a key that was read is a token, also if the modifier is the separator. -/
theorem separator_not_mem_token {rule : SortRule} {text : String} {key : SortKey}
    (h : key ∈ rule.keys text) : rule.separator ∉ (key.token rule.modifier).toList := by
  obtain ⟨token, htoken, rfl⟩ := exists_token_of_mem_keys h
  rw [SortKey.token_ofToken]
  exact Text.not_mem_of_mem_tokens htoken

theorem keys_joined {rule : SortRule} {keys : List SortKey}
    (h : rule.selection.Keeps rule.separator (keys.map SortKey.field))
    (hhead : ∀ key ∈ keys, key.direction = .ascending →
      key.field.toList.head? ≠ some rule.modifier)
    (hfree : ∀ key ∈ keys, rule.separator ∉ (key.token rule.modifier).toList) :
    rule.keys (Text.joined rule.separator (keys.map (SortKey.token rule.modifier))) = keys := by
  have hfield : ∀ key ∈ keys, key.field ≠ "" :=
    fun key hkey => h.nonempty key.field (List.mem_map_of_mem hkey)
  have htokens : Text.tokens rule.separator
      (Text.joined rule.separator (keys.map (SortKey.token rule.modifier)))
        = keys.map (SortKey.token rule.modifier) := by
    apply Text.tokens_joined
    · intro token htoken
      obtain ⟨key, hkey, rfl⟩ := List.mem_map.mp htoken
      have hne := hfield key hkey
      obtain ⟨field, direction⟩ := key
      cases direction with
      | ascending => exact hne
      | descending => simp [SortKey.token]
    · intro token htoken
      obtain ⟨key, hkey, rfl⟩ := List.mem_map.mp htoken
      exact hfree key hkey
  have hnamed : keys.filter (!·.field.isEmpty) = keys := by
    rw [List.filter_eq_self]
    intro key hkey
    simp [hfield key hkey]
  show rule.selection.keep SortKey.field (((Text.tokens rule.separator _).map _).filter _) = keys
  rw [htokens, SortKey.map_ofToken_token hhead, hnamed]
  exact Selection.keep_of_keeps h

end SortRule

/-! ## Integers and truth values -/

theorem readInteger_ofInt (n : Int64) : readInteger (Decimal.ofInt n.toInt) = .ok n := by
  rw [readInteger, Decimal.int64?_ofInt]

/-! ## Search terms -/

/-- A term is read back from its pattern. -/
theorem Term.ofPattern_pattern {wildcard : Char} {term : Term}
    (hfree : wildcard ∉ term.text.toList) (hne : term.text ≠ "") :
    ofPattern wildcard (term.pattern wildcard) = term := by
  obtain ⟨text, anchor⟩ := term
  have hnil : text.toList ≠ [] := by simpa using hne
  have hother : ∀ c ∈ text.toList, (c == wildcard) = false :=
    fun c hc => beq_eq_false_iff_ne.mpr fun heq => hfree (heq ▸ hc)
  have hfilter : text.toList.filter (· != wildcard) = text.toList := by
    rw [List.filter_eq_self]
    intro c hc
    simp [bne, hother c hc]
  -- The text has a first and a last character, and neither is taken for a wildcard.
  obtain ⟨first, hfirst⟩ : ∃ c, text.toList.head? = some c := ⟨_, List.head?_eq_some_head hnil⟩
  obtain ⟨last, hlast⟩ : ∃ c, text.toList.getLast? = some c :=
    ⟨_, List.getLast?_eq_some_getLast hnil⟩
  have hleading := hother first (List.mem_of_head? hfirst)
  have htrailing := hother last (List.mem_of_getLast? hlast)
  cases anchor with
  | start => simp [ofPattern, pattern, hfilter, Anchor.ofWildcards, hfirst, hleading]
  | stop =>
    simp [ofPattern, pattern, hfilter, Anchor.ofWildcards, List.getLast?_cons, hlast, htrailing]
  | anywhere => simp [ofPattern, pattern, hfilter, Anchor.ofWildcards, List.getLast?_cons]

theorem SearchRule.read_pattern {rule : SearchRule} {term : Term}
    (hfree : rule.wildcard ∉ term.text.toList) (hne : term.text ≠ "")
    (hfits : 0 < rule.maxLength → term.text.length ≤ rule.maxLength.toNat) :
    (rule.read (term.pattern rule.wildcard)).2 = .of (.search term) := by
  have hpos : 0 < term.text.length := by
    rw [← String.length_toList, List.length_pos_iff]
    simpa using hne
  have hshort : ¬(0 < rule.maxLength ∧ rule.maxLength.toNat < term.text.length) :=
    fun ⟨hmax, hlong⟩ => Nat.not_lt.mpr (hfits hmax) hlong
  rw [read, Term.ofPattern_pattern hfree hne]
  simp only [hshort, ↓reduceIte, hpos, decide_true]
  -- A term that is too short is left as it is.
  split
  · rfl
  · rfl

end TypedQuery
