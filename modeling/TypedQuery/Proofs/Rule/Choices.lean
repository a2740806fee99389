import TypedQuery.Declaration.Json
import TypedQuery.Proofs.Json.Overlay

/-!
# Where the choices of a rule come from

The choices of a rule are parts of its own, and each has a member of its own
name.  So a rule that is read from a record has every choice from the member of
the name, if there is one, and else from the rule it is read on top of.
`Rule.Chosen` says this kind by kind, and `Rule.overlay_eq_ok_iff` that it is all
that reading does.

The members that count are those with the names of the kind (`Kind.choices`).
-/

namespace TypedQuery

/-! ## The fields of rules -/

theorem StringsRule.lawful_fields : Field.Lawful fields := by
  constructor
  · simp [fields, Field.apart_of]
  · simp [fields, Field.overwrites_of]

theorem SortRule.lawful_fields : Field.Lawful fields := by
  constructor
  · simp [fields, Field.apart_of]
  · simp [fields, Field.overwrites_of]

theorem RangeRule.lawful_fields : Field.Lawful fields := by
  constructor
  · simp [fields, Field.apart_of]
  · simp [fields, Field.overwrites_of]

theorem SearchRule.lawful_fields : Field.Lawful fields := by
  constructor
  · simp [fields, Field.apart_of]
  · simp [fields, Field.overwrites_of]

theorem IntegerRule.lawful_fields : Field.Lawful fields := by
  constructor
  · simp [fields, Field.apart_of]
  · simp [fields, Field.overwrites_of]

/-! ## The choices -/

/-- The names of the choices that rules of a kind have. -/
def Kind.choices : Kind → List String
  | .strings => StringsRule.fields.map Field.name
  | .search => SearchRule.fields.map Field.name
  | .sort => SortRule.fields.map Field.name
  | .range => RangeRule.fields.map Field.name
  | .integer => IntegerRule.fields.map Field.name
  | .boolean => []

/-- A rule has each of its choices from a record, or else from a base. -/
inductive Rule.Chosen (members : List (String × Json)) : Rule → Rule → Prop where
  | strings {base rule : StringsRule} :
      Field.Chosen members "list_separator" base.separator rule.separator →
      Field.Chosen members "allowed_values" base.selection.allowed rule.selection.allowed →
      Field.Chosen members "deduplicate" base.selection.distinct rule.selection.distinct →
      Chosen members (.strings base) (.strings rule)
  | search {base rule : SearchRule} :
      Field.Chosen members "wildcard" base.wildcard rule.wildcard →
      Field.Chosen members "min_length" base.minLength rule.minLength →
      Field.Chosen members "max_length" base.maxLength rule.maxLength →
      Chosen members (.search base) (.search rule)
  | sort {base rule : SortRule} :
      Field.Chosen members "list_separator" base.separator rule.separator →
      Field.Chosen members "sort_modifier" base.modifier rule.modifier →
      Field.Chosen members "allowed_values" base.selection.allowed rule.selection.allowed →
      Field.Chosen members "deduplicate" base.selection.distinct rule.selection.distinct →
      Chosen members (.sort base) (.sort rule)
  | range {base rule : RangeRule} :
      Field.Chosen members "range_separator" base.separator rule.separator →
      Field.Chosen members "min_value" base.low rule.low →
      Field.Chosen members "max_value" base.high rule.high →
      Chosen members (.range base) (.range rule)
  | integer {base rule : IntegerRule} :
      Field.Chosen members "min_value" base.low rule.low →
      Field.Chosen members "max_value" base.high rule.high →
      Field.Chosen members "default_value" base.fallback rule.fallback →
      Chosen members (.integer base) (.integer rule)
  | boolean : Chosen members .boolean .boolean

namespace Rule

variable {members : List (String × Json)} {rule : Rule}

theorem overlay_strings_eq_ok_iff (hu : Json.Unrepeated members) {base : StringsRule} :
    (Rule.strings base).overlay members = .ok rule ↔ Chosen members (.strings base) rule := by
  simp only [overlay, map_eq_ok_iff, StringsRule.lawful_fields.overlay_eq_ok_iff hu]
  simp only [StringsRule.fields, List.foldlM_cons, List.foldlM_nil, bind_eq_ok_iff,
    Field.pick_of_eq_ok_iff, implies_true, exists_exists_and_eq_and]
  constructor
  · rintro ⟨_, ⟨separator, hseparator, allowed, hallowed, distinct, hdistinct, ⟨⟩⟩, rfl⟩
    exact .strings hseparator hallowed hdistinct
  · intro hchosen
    cases hchosen with
    | strings hseparator hallowed hdistinct =>
      exact ⟨_, ⟨_, hseparator, _, hallowed, _, hdistinct, rfl⟩, rfl⟩

theorem overlay_search_eq_ok_iff (hu : Json.Unrepeated members) {base : SearchRule} :
    (Rule.search base).overlay members = .ok rule ↔ Chosen members (.search base) rule := by
  simp only [overlay, map_eq_ok_iff, SearchRule.lawful_fields.overlay_eq_ok_iff hu]
  simp only [SearchRule.fields, List.foldlM_cons, List.foldlM_nil, bind_eq_ok_iff,
    Field.pick_of_eq_ok_iff, implies_true, exists_exists_and_eq_and]
  constructor
  · rintro ⟨_, ⟨wildcard, hwildcard, minLength, hmin, maxLength, hmax, ⟨⟩⟩, rfl⟩
    exact .search hwildcard hmin hmax
  · intro hchosen
    cases hchosen with
    | search hwildcard hmin hmax =>
      exact ⟨_, ⟨_, hwildcard, _, hmin, _, hmax, rfl⟩, rfl⟩

theorem overlay_sort_eq_ok_iff (hu : Json.Unrepeated members) {base : SortRule} :
    (Rule.sort base).overlay members = .ok rule ↔ Chosen members (.sort base) rule := by
  simp only [overlay, map_eq_ok_iff, SortRule.lawful_fields.overlay_eq_ok_iff hu]
  simp only [SortRule.fields, List.foldlM_cons, List.foldlM_nil, bind_eq_ok_iff,
    Field.pick_of_eq_ok_iff, implies_true, exists_exists_and_eq_and]
  constructor
  · rintro ⟨_, ⟨separator, hseparator, modifier, hmodifier, allowed, hallowed, distinct, hdistinct,
      ⟨⟩⟩, rfl⟩
    exact .sort hseparator hmodifier hallowed hdistinct
  · intro hchosen
    cases hchosen with
    | sort hseparator hmodifier hallowed hdistinct =>
      exact ⟨_, ⟨_, hseparator, _, hmodifier, _, hallowed, _, hdistinct, rfl⟩, rfl⟩

theorem overlay_range_eq_ok_iff (hu : Json.Unrepeated members) {base : RangeRule} :
    (Rule.range base).overlay members = .ok rule ↔ Chosen members (.range base) rule := by
  simp only [overlay, map_eq_ok_iff, RangeRule.lawful_fields.overlay_eq_ok_iff hu]
  simp only [RangeRule.fields, List.foldlM_cons, List.foldlM_nil, bind_eq_ok_iff,
    Field.pick_of_eq_ok_iff, implies_true, exists_exists_and_eq_and]
  constructor
  · rintro ⟨_, ⟨separator, hseparator, low, hlow, high, hhigh, ⟨⟩⟩, rfl⟩
    exact .range hseparator hlow hhigh
  · intro hchosen
    cases hchosen with
    | range hseparator hlow hhigh =>
      exact ⟨_, ⟨_, hseparator, _, hlow, _, hhigh, rfl⟩, rfl⟩

theorem overlay_integer_eq_ok_iff (hu : Json.Unrepeated members) {base : IntegerRule} :
    (Rule.integer base).overlay members = .ok rule ↔ Chosen members (.integer base) rule := by
  simp only [overlay, map_eq_ok_iff, IntegerRule.lawful_fields.overlay_eq_ok_iff hu]
  simp only [IntegerRule.fields, List.foldlM_cons, List.foldlM_nil, bind_eq_ok_iff,
    Field.pick_of_eq_ok_iff, implies_true, exists_exists_and_eq_and]
  constructor
  · rintro ⟨_, ⟨low, hlow, high, hhigh, fallback, hfallback, ⟨⟩⟩, rfl⟩
    exact .integer hlow hhigh hfallback
  · intro hchosen
    cases hchosen with
    | integer hlow hhigh hfallback =>
      exact ⟨_, ⟨_, hlow, _, hhigh, _, hfallback, rfl⟩, rfl⟩

/-- Reading a rule on top of another is choosing. -/
theorem overlay_eq_ok_iff (hu : Json.Unrepeated members) {base : Rule} :
    base.overlay members = .ok rule ↔ Chosen members base rule := by
  cases base with
  | strings base => exact overlay_strings_eq_ok_iff hu
  | search base => exact overlay_search_eq_ok_iff hu
  | sort base => exact overlay_sort_eq_ok_iff hu
  | range base => exact overlay_range_eq_ok_iff hu
  | integer base => exact overlay_integer_eq_ok_iff hu
  | boolean =>
    constructor
    · rintro ⟨⟩
      exact .boolean
    · rintro ⟨⟩
      rfl

/-- A rule that is chosen is of the kind of its base. -/
theorem Chosen.kind_eq {base : Rule} (h : Chosen members base rule) : rule.kind = base.kind := by
  cases h <;> rfl

/-- The choices that are written for a rule are chosen, among whatever else is written. -/
theorem Chosen.of_mem (hu : Json.Unrepeated members) (h : ∀ m ∈ rule.members, m ∈ members)
    (s : Settings) : Chosen members (.ofKind s rule.kind) rule := by
  cases rule with
  | strings rule =>
    simp only [Rule.members, Field.members, StringsRule.fields, Field.of, List.map_cons,
      List.forall_mem_cons] at h
    exact .strings (.of_mem hu h.1) (.of_mem hu h.2.1) (.of_mem hu h.2.2.1)
  | search rule =>
    simp only [Rule.members, Field.members, SearchRule.fields, Field.of, List.map_cons,
      List.forall_mem_cons] at h
    exact .search (.of_mem hu h.1) (.of_mem hu h.2.1) (.of_mem hu h.2.2.1)
  | sort rule =>
    simp only [Rule.members, Field.members, SortRule.fields, Field.of, List.map_cons,
      List.forall_mem_cons] at h
    exact .sort (.of_mem hu h.1) (.of_mem hu h.2.1) (.of_mem hu h.2.2.1) (.of_mem hu h.2.2.2.1)
  | range rule =>
    simp only [Rule.members, Field.members, RangeRule.fields, Field.of, List.map_cons,
      List.forall_mem_cons] at h
    exact .range (.of_mem hu h.1) (.of_mem hu h.2.1) (.of_mem hu h.2.2.1)
  | integer rule =>
    simp only [Rule.members, Field.members, IntegerRule.fields, Field.of, List.map_cons,
      List.forall_mem_cons] at h
    exact .integer (.of_mem hu h.1) (.of_mem hu h.2.1) (.of_mem hu h.2.2.1)
  | boolean => exact .boolean

/-! ## What counts -/

/-- Putting in choices that are lacking is reading on top of the rule that they make. -/
theorem overlay_addMembers {additions : List (String × Json)} (hu : Json.Unrepeated additions)
    {base base' : Rule} (hbase : base.overlay additions = .ok base') :
    base.overlay (Json.addMembers additions members) = base'.overlay members := by
  cases base with
  | strings base =>
    obtain ⟨r, hr, rfl⟩ := map_eq_ok_iff.mp hbase
    rw [overlay, overlay, StringsRule.lawful_fields.overlay_addMembers hu hr]
  | search base =>
    obtain ⟨r, hr, rfl⟩ := map_eq_ok_iff.mp hbase
    rw [overlay, overlay, SearchRule.lawful_fields.overlay_addMembers hu hr]
  | sort base =>
    obtain ⟨r, hr, rfl⟩ := map_eq_ok_iff.mp hbase
    rw [overlay, overlay, SortRule.lawful_fields.overlay_addMembers hu hr]
  | range base =>
    obtain ⟨r, hr, rfl⟩ := map_eq_ok_iff.mp hbase
    rw [overlay, overlay, RangeRule.lawful_fields.overlay_addMembers hu hr]
  | integer base =>
    obtain ⟨r, hr, rfl⟩ := map_eq_ok_iff.mp hbase
    rw [overlay, overlay, IntegerRule.lawful_fields.overlay_addMembers hu hr]
  | boolean =>
    cases hbase
    rfl

/-- Members that are no choices of its kind leave a rule as it is. -/
theorem overlay_of_absent (h : ∀ name ∈ rule.kind.choices, members.lookup name = none) :
    rule.overlay members = .ok rule := by
  cases rule with
  | boolean => rfl
  | _ => simp only [overlay, Field.overlay_of_absent h, Except.map]

/-- Only the choices of its kind count for a rule. -/
theorem overlay_eq_of_lookup_eq {members' : List (String × Json)} (h : Json.Ascending members)
    (h' : Json.Ascending members') {base : Rule}
    (hlookup : ∀ name ∈ base.kind.choices, members.lookup name = members'.lookup name) :
    base.overlay members = base.overlay members' := by
  cases base with
  | boolean => rfl
  | _ => simp only [overlay, Field.overlay_eq_of_lookup_eq h h' hlookup]

end Rule

end TypedQuery
