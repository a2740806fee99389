import TypedQuery.Clause
import TypedQuery.Proofs.Registry.Getters
import TypedQuery.Proofs.Rule.Reread

/-!
# Written sort keys

Sort keys are handed on as texts.  `Spells` says which key a text stands for: one
modifier in front means a descending key, anything else an ascending one.  A text
stands for one key only, so that nothing is lost where the texts are those of the
keys.

`Reachable.sortTokens_outcome` says that they are, for the keys that the getter
returns, and that the texts joined as a list are read back to the same keys.  The
modifier may be the list separator, and a field may start with the modifier.
-/

namespace TypedQuery

namespace SortKey

/-- A text stands for a sort key. -/
inductive Spells (modifier : Char) : String → SortKey → Prop where
  | descending {field : String} :
      Spells modifier (String.singleton modifier ++ field) ⟨field, .descending⟩
  | ascending {field : String} : field.toList.head? ≠ some modifier →
      Spells modifier field ⟨field, .ascending⟩

theorem spells_iff {modifier : Char} {text : String} {key : SortKey} :
    Spells modifier text key ↔ ofToken modifier text = key := by
  constructor
  · intro h
    cases h with
    | descending => simp [ofToken]
    | ascending hhead =>
      show ofToken modifier ((⟨text, .ascending⟩ : SortKey).token modifier) = ⟨text, .ascending⟩
      exact ofToken_token fun _ => hhead
  · rintro rfl
    have htext := token_ofToken modifier text
    have hhead : (ofToken modifier text).direction = .ascending →
        (ofToken modifier text).field.toList.head? ≠ some modifier := head?_field_of_ascending
    generalize ofToken modifier text = key at htext hhead
    subst htext
    obtain ⟨name, direction⟩ := key
    cases direction with
    | descending => exact .descending
    | ascending => exact .ascending (hhead rfl)

theorem forall₂_spells_iff {modifier : Char} {texts : List String} {keys : List SortKey} :
    List.Forall₂ (Spells modifier) texts keys ↔ texts.map (ofToken modifier) = keys := by
  have hspells : Spells modifier = fun text key => ofToken modifier text = key :=
    funext fun text => funext fun key => propext spells_iff
  rw [hspells, ← List.forall₂_map_left_iff, List.forall₂_eq_eq_eq]

end SortKey

/-- A parsed parameter for sort keys has read some. -/
theorem Parameter.ReadFrom.sort {given : String → Prop} {p : Parameter} (h : p.ReadFrom given)
    {rule : SortRule} (hrule : p.declaration.rule = .sort rule) (hparsed : p.parsed = true) :
    ∃ text, p.reading = .of (.sort (rule.keys text)) := by
  cases h with
  | fresh d => cases hparsed
  | @read q text _ =>
    have hrule' : q.declaration.rule = .sort rule := hrule
    refine ⟨text, ?_⟩
    show (q.declaration.rule.read text).2 = _
    rw [hrule', Rule.read]

namespace Registry

/-- The written sort keys of a parameter are those of the keys that its getter returns.  They are
none if it is not parsed.  They stand for these keys and no others, and read as a list they leave
the parameter as it is. -/
theorem Reachable.sortTokens_outcome {r : Registry} (hr : r.Reachable) {p : Parameter}
    (hp : p ∈ r.parameters) {rule : SortRule} (hrule : p.declaration.rule = .sort rule) :
    ∃ texts, r.sortTokens p.name = .ok texts ∧
      (p.parsed = false → texts = []) ∧
      (p.parsed = true → ∃ keys, r.sort p.name = .ok (some keys) ∧
        List.Forall₂ (SortKey.Spells rule.modifier) texts keys ∧
        (∀ keys', List.Forall₂ (SortKey.Spells rule.modifier) texts keys' → keys' = keys) ∧
        ∀ q : Parameter, q.declaration = p.declaration →
          q.read (Text.joined rule.separator texts) = (.ok (), p)) := by
  have htexts : r.sortTokens p.name = .ok p.sortTokens := by
    have hfind := hr.indexed.findOfKind_of_mem hp
    have hkind : p.kind = .sort := by simp [Parameter.kind, Declaration.kind, hrule, Rule.kind]
    rw [hkind] at hfind
    rw [sortTokens, hfind]
    rfl
  refine ⟨p.sortTokens, htexts, ?_, ?_⟩
  · intro hparsed
    simp [Parameter.sortTokens, hrule, Parameter.usable, hparsed]
  · intro hparsed
    obtain ⟨text, hreading⟩ := (hr.readFrom hp).sort hrule hparsed
    have husable : p.usable = some (.sort (rule.keys text)) :=
      Parameter.usable_eq_some_iff.mpr ⟨hparsed, congrArg Reading.value hreading⟩
    have hwritten : p.sortTokens = (rule.keys text).map (SortKey.token rule.modifier) := by
      simp [Parameter.sortTokens, hrule, husable]
    have hhead : ∀ key ∈ rule.keys text, key.direction = .ascending →
        key.field.toList.head? ≠ some rule.modifier :=
      fun key hkey => SortRule.head?_field_of_mem_keys hkey
    have hspelled := SortKey.map_ofToken_token hhead
    have hreread := SortRule.keys_joined (rule.keeps_keys text) hhead
      fun key hkey => SortRule.separator_not_mem_token hkey
    rw [hwritten]
    refine ⟨rule.keys text, hr.gives_of_usable hp husable, ?_, ?_, ?_⟩
    · exact SortKey.forall₂_spells_iff.mpr hspelled
    · intro keys' hkeys'
      exact (SortKey.forall₂_spells_iff.mp hkeys').symm.trans hspelled
    · intro q hq
      obtain ⟨d, reading⟩ := p
      obtain ⟨d', reading'⟩ := q
      cases hq
      cases hreading
      simp only at hrule
      simp only [Parameter.read, hrule, Rule.read, hreread]
      rfl

theorem sortTokens_outcome_modifier_in_field :
    let d : Declaration :=
      ⟨"sort", none, false, .should, .sort ⟨',', '-', ⟨["-age", "name"], true⟩⟩⟩
    let r := (empty .default).run [.register d, .read "sort=--age,age,name,-name,,-"]
    let p : Parameter := ⟨d, .of (.sort [⟨"-age", .descending⟩, ⟨"name", .ascending⟩])⟩
    r.Reachable ∧ p ∈ r.parameters ∧ r.sortTokens "sort" = .ok ["--age", "name"] ∧
      (Parameter.fresh d).read "--age,name" = (.ok (), p) := by
  intro d r p
  have hr : r.Reachable := (Reachable.empty .default).run _
  have hp : p ∈ r.parameters := by
    have hparameters : r.parameters = #[((Parameter.fresh d).read "--age,age,name,-name,,-").2] :=
      parameters_read_single (by decide) (by decide) (by decide)
    have hread : ((Parameter.fresh d).read "--age,age,name,-name,,-").2 = p := by decide
    rw [hparameters, hread]
    simp
  obtain ⟨texts, htexts, -, houtcome⟩ := hr.sortTokens_outcome hp rfl
  obtain ⟨keys, hkeys, hspelled, -, hreread⟩ := houtcome rfl
  have hsort : r.Gives "sort" (.sort [⟨"-age", .descending⟩, ⟨"name", .ascending⟩]) :=
    hr.gives_of_usable hp rfl
  obtain rfl := Option.some.inj (Except.ok.inj (hkeys.symm.trans hsort))
  obtain rfl : texts = ["--age", "name"] := by
    cases hspelled with
    | cons hfirst hrest =>
      cases hfirst
      cases hrest with
      | cons hsecond hnil =>
        cases hsecond
        cases hnil
        decide
  have hjoined : Text.joined ',' ["--age", "name"] = "--age,name" := by decide
  exact ⟨hr, hp, htexts, hjoined ▸ hreread (.fresh d) rfl⟩

end Registry

end TypedQuery
