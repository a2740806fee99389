import TypedQuery.Settings.Json
import TypedQuery.Proofs.Json.Overlay

/-!
# Where settings come from

Settings that are read from a record have each of their nine parts from the member
of its name, or else from the default settings (`ofJson_record_eq_ok_iff`).  What
is written for settings has a member for each part, and so it is read back, in
whatever order the members stand (`ofJson_of_rearranges`).
-/

namespace TypedQuery.Settings

theorem lawful_fields : Field.Lawful fields := by
  constructor
  · simp [fields, Field.apart_of]
  · simp [fields, Field.overwrites_of]

/-- What settings a record makes. -/
structure ChosenFrom (members : List (String × Json)) (s : Settings) : Prop where
  querySeparator : Field.Chosen members "query_separator" default.querySeparator s.querySeparator
  pairSeparator : Field.Chosen members "parameter_separator" default.pairSeparator s.pairSeparator
  valueSeparator : Field.Chosen members "key_value_separator" default.valueSeparator
    s.valueSeparator
  listSeparator : Field.Chosen members "list_separator" default.listSeparator s.listSeparator
  rangeSeparator : Field.Chosen members "range_separator" default.rangeSeparator s.rangeSeparator
  sortModifier : Field.Chosen members "sort_modifier" default.sortModifier s.sortModifier
  wildcard : Field.Chosen members "wildcard" default.wildcard s.wildcard
  minLength : Field.Chosen members "min_length" default.minLength s.minLength
  maxLength : Field.Chosen members "max_length" default.maxLength s.maxLength

variable {members : List (String × Json)} {s : Settings}

/-- Reading settings is choosing their parts. -/
theorem ofJson_record_eq_ok_iff (hu : Json.Unrepeated members) :
    ofJson (.record members) = .ok s ↔ s.ChosenFrom members := by
  rw [ofJson, lawful_fields.overlay_eq_ok_iff hu]
  simp only [fields, List.foldlM_cons, List.foldlM_nil, bind_eq_ok_iff,
    Field.pick_of_eq_ok_iff, implies_true, exists_exists_and_eq_and]
  constructor
  · rintro ⟨_, hquery, _, hpair, _, hvalue, _, hlist, _, hrange, _, hsort, _, hwildcard, _, hmin,
      _, hmax, ⟨⟩⟩
    exact ⟨hquery, hpair, hvalue, hlist, hrange, hsort, hwildcard, hmin, hmax⟩
  · rintro ⟨hquery, hpair, hvalue, hlist, hrange, hsort, hwildcard, hmin, hmax⟩
    exact ⟨_, hquery, _, hpair, _, hvalue, _, hlist, _, hrange, _, hsort, _, hwildcard, _, hmin, _,
      hmax, rfl⟩

/-- A list is read as the record that gives its items the names of the first parts. -/
theorem ofJson_list_eq (hnames : members.map Prod.fst <+: fields.map Field.name) :
    ofJson (.list (members.map Prod.snd)) = ofJson (.record members) := by
  simp only [ofJson, lawful_fields.overlayItems_eq hnames]
  cases Field.overlay fields default members with
  | error e => rfl
  | ok s => rfl

theorem unrepeated_members (s : Settings) : Json.Unrepeated (Field.members fields s) := by
  simp [Json.Unrepeated, Field.members, fields, Field.of]

/-- What is written for settings is read back, in any order. -/
theorem ofJson_of_rearranges {j : Json} (h : Json.Rearranges j (toJson s)) :
    ofJson j = .ok s := by
  obtain ⟨members, rfl, hperm⟩ := Json.Rearranges.exists_perm h
  have hu : Json.Unrepeated members := (unrepeated_members s).of_perm hperm
  have hmem : ∀ m ∈ Field.members fields s, m ∈ members := fun m hm => hperm.mem_iff.mpr hm
  simp only [Field.members, fields, Field.of, List.map_cons, List.forall_mem_cons] at hmem
  obtain ⟨hquery, hpair, hvalue, hlist, hrange, hsort, hwildcard, hmin, hmax, -⟩ := hmem
  rw [ofJson_record_eq_ok_iff hu]
  exact ⟨.of_mem hu hquery, .of_mem hu hpair, .of_mem hu hvalue, .of_mem hu hlist,
    .of_mem hu hrange, .of_mem hu hsort, .of_mem hu hwildcard, .of_mem hu hmin, .of_mem hu hmax⟩

end TypedQuery.Settings
