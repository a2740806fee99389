import TypedQuery.Document
import TypedQuery.Proofs.Rule.Choices

/-!
# Completed declarations

A rule can be had from settings in two ways.  `Rule.ofKind` makes it from a kind.
A document goes another way: it puts the same six members into every
declaration, whatever its kind, and reads what comes out on top of the default
rule of the kind.  The two ways agree (`ofJson_completed`), and not only where the
declaration is accepted: what is wrong with it stays the same, since the members
that are put in are of their form.

`declaration_choices` draws the conclusions.  A declaration has each choice from
its own member, or else from the rule of its kind with the settings.  Members
that neither the parameter nor its kind has a use for do not count.
-/

namespace TypedQuery

/-! ## The members of a declaration -/

namespace Declaration

theorem kindOfTag_toJson (kind : Kind) : kindOfTag (toJson kind) = .ok kind :=
  Vocabulary.ofWord_word kind

theorem lawful_fields : Field.Lawful fields := by
  constructor
  · simp [fields, Field.apart_of]
  · simp [fields, Field.overwrites_of]

/-- The names that count for declarations of a kind. -/
def memberNames (kind : Kind) : List String :=
  "type" :: fields.map Field.name ++ kind.choices

/-- What a record declares.  Its name and its kind are required.  The other parts may be left
out, and the choices of the rule are then the ones of settings. -/
structure ChosenFrom (s : Settings) (members : List (String × Json)) (d : Declaration) :
    Prop where
  name : ∃ j, members.lookup "name" = some j ∧ JsonForm.ofJson j = .ok d.name
  output : Field.Chosen members "output_name" none d.output
  included : Field.Chosen members "include_in_output" true d.included
  occur : Field.Chosen members "output_condition" .should d.occur
  kind : ∃ tag, members.lookup "type" = some tag ∧ kindOfTag tag = .ok d.kind
  rule : Rule.Chosen members (.ofKind s d.kind) d.rule

section

variable {members : List (String × Json)}

theorem overlay_fields_eq_ok_iff (hu : Json.Unrepeated members) {base d : Declaration} :
    Field.overlay fields base members = .ok d ↔
      Field.Chosen members "name" base.name d.name ∧
      Field.Chosen members "output_name" base.output d.output ∧
      Field.Chosen members "include_in_output" base.included d.included ∧
      Field.Chosen members "output_condition" base.occur d.occur ∧
      d.rule = base.rule := by
  rw [lawful_fields.overlay_eq_ok_iff hu]
  simp only [fields, List.foldlM_cons, List.foldlM_nil, bind_eq_ok_iff,
    Field.pick_of_eq_ok_iff, implies_true, exists_exists_and_eq_and]
  constructor
  · rintro ⟨name, hname, output, houtput, included, hincluded, occur, hoccur, ⟨⟩⟩
    exact ⟨hname, houtput, hincluded, hoccur, rfl⟩
  · rintro ⟨hname, houtput, hincluded, hoccur, hrule⟩
    obtain ⟨name, output, included, occur, rule⟩ := d
    cases hrule
    exact ⟨_, hname, _, houtput, _, hincluded, _, hoccur, rfl⟩

/-- The stages of reading a declaration, all of which have to succeed. -/
theorem ofJson_record_eq_ok_iff {base : Kind → Rule} {d : Declaration} :
    ofJson base (.record members) = .ok d ↔
      ∃ own, Field.overlay fields blank members = .ok own ∧
        ∃ j, members.lookup "name" = some j ∧
        ∃ tag, members.lookup "type" = some tag ∧
        ∃ kind, kindOfTag tag = .ok kind ∧
        ∃ rule, (base kind).overlay members = .ok rule ∧ { own with rule } = d := by
  simp only [ofJson, bind_eq_ok_iff, Json.required_eq_ok_iff]
  refine exists_congr fun own => and_congr_right fun _ => ?_
  simp only [exists_and_right, pure, Except.pure, Except.ok.injEq]

/-- Reading a declaration is choosing its parts. -/
theorem ofJson_eq_ok_iff (hu : Json.Unrepeated members) {s : Settings} {d : Declaration} :
    ofJson (.ofKind s) (.record members) = .ok d ↔ d.ChosenFrom s members := by
  rw [ofJson_record_eq_ok_iff]
  constructor
  · rintro ⟨own, hown, j, hj, tag, htag, kind, hkind, rule, hrule, rfl⟩
    obtain ⟨hname, houtput, hincluded, hoccur, -⟩ := (overlay_fields_eq_ok_iff hu).mp hown
    have hchosen := (Rule.overlay_eq_ok_iff hu).mp hrule
    obtain rfl : rule.kind = kind := hchosen.kind_eq.trans (Rule.kind_ofKind s kind)
    exact ⟨⟨j, hj, hname.ofJson_of_lookup hj⟩, houtput, hincluded, hoccur, ⟨tag, htag, hkind⟩,
      hchosen⟩
  · rintro ⟨⟨j, hj, hname⟩, houtput, hincluded, hoccur, ⟨tag, htag, hkind⟩, hrule⟩
    have hown : Field.overlay fields blank members = .ok { d with rule := .boolean } :=
      (overlay_fields_eq_ok_iff hu).mpr ⟨.given hj hname, houtput, hincluded, hoccur, rfl⟩
    exact ⟨_, hown, j, hj, tag, htag, d.kind, hkind, d.rule,
      (Rule.overlay_eq_ok_iff hu).mpr hrule, rfl⟩

/-- A name and a kind declare the rule of the kind. -/
theorem ofJson_name_kind (s : Settings) (name : String) (kind : Kind) :
    ofJson (.ofKind s) (.record [("name", toJson name), ("type", toJson kind)])
      = .ok (.ofRule name (.ofKind s kind)) := by
  have hrule : (Rule.ofKind s kind).overlay [("name", toJson name), ("type", toJson kind)]
      = .ok (.ofKind s kind) := by
    apply Rule.overlay_of_absent
    rw [Rule.kind_ofKind]
    cases kind <;> simp [Kind.choices, StringsRule.fields, SearchRule.fields, SortRule.fields,
      RangeRule.fields, IntegerRule.fields, Field.of]
  rw [ofJson_record_eq_ok_iff]
  exact ⟨ofRule name .boolean, rfl, _, rfl, _, rfl, kind, kindOfTag_toJson kind, _, hrule, rfl⟩

/-- Only the members of its kind count for a declaration. -/
theorem ofJson_eq_of_lookup_eq {members' : List (String × Json)} (h : Json.Ascending members)
    (h' : Json.Ascending members') {s : Settings} {tag : Json} {kind : Kind}
    (htag : members.lookup "type" = some tag) (hkind : kindOfTag tag = .ok kind)
    (hlookup : ∀ name ∈ memberNames kind, members.lookup name = members'.lookup name) :
    ofJson (.ofKind s) (.record members) = ofJson (.ofKind s) (.record members') := by
  have hown : ∀ base, Field.overlay fields base members = Field.overlay fields base members' := by
    intro base
    apply Field.overlay_eq_of_lookup_eq h h'
    intro name hname
    exact hlookup name (by simp [memberNames, List.mem_map.mp hname])
  have hrule : (Rule.ofKind s kind).overlay members = (Rule.ofKind s kind).overlay members' := by
    apply Rule.overlay_eq_of_lookup_eq h h'
    intro name hname
    rw [Rule.kind_ofKind] at hname
    exact hlookup name (by simp [memberNames, hname])
  have hname : members.lookup "name" = members'.lookup "name" :=
    hlookup "name" (by simp [memberNames, fields, Field.of])
  have htag' : members'.lookup "type" = some tag :=
    (hlookup "type" (by simp [memberNames])).symm.trans htag
  simp only [ofJson, hown, hname, htag, htag', Json.required, hkind, bind, Except.bind, hrule]

end

end Declaration

/-! ## Completing -/

namespace Document

theorem unrepeated_defaults (s : Settings) : Json.Unrepeated (defaults s) := by
  simp [Json.Unrepeated, defaults]

/-- The members that settings give make the rule that settings make, for every kind. -/
theorem overlay_defaults (s : Settings) (kind : Kind) :
    (Rule.default kind).overlay (defaults s) = .ok (Rule.ofKind s kind) := by
  rw [← Rule.ofKind_default]
  cases kind <;>
    simp [Rule.ofKind, Rule.overlay, defaults, Field.overlay, Field.update, Field.of,
      StringsRule.fields, SearchRule.fields, SortRule.fields, RangeRule.fields,
      IntegerRule.fields, ofJson_toJson, Except.map, bind, Except.bind, pure, Except.pure]

/-- A declaration has no part of its own under the names that settings give. -/
theorem overlay_fields_defaults (s : Settings) (base : Declaration) :
    Field.overlay Declaration.fields base (defaults s) = .ok base :=
  Field.overlay_of_foreign (by simp [defaults, Declaration.fields, Field.of]) base

/-- Completing a declaration is reading it on top of the rule that the settings make, also where
it is not accepted. -/
theorem ofJson_completed (s : Settings) (members : List (String × Json)) :
    (ofJson (.record (completed s members)) : Formed Declaration)
      = Declaration.ofJson (.ofKind s) (.record members) := by
  have hu := unrepeated_defaults s
  have hown : Field.overlay Declaration.fields .blank (Json.addMembers (defaults s) members)
      = Field.overlay Declaration.fields .blank members :=
    Declaration.lawful_fields.overlay_addMembers hu (overlay_fields_defaults s _)
  have hrule (kind : Kind) : (Rule.default kind).overlay
      (Json.addMembers (defaults s) members) = (Rule.ofKind s kind).overlay members :=
    Rule.overlay_addMembers hu (overlay_defaults s kind)
  have hname : (Json.addMembers (defaults s) members).lookup "name" = members.lookup "name" :=
    Json.lookup_addMembers_of_not_mem (by simp [defaults])
  have htype : (Json.addMembers (defaults s) members).lookup "type" = members.lookup "type" :=
    Json.lookup_addMembers_of_not_mem (by simp [defaults])
  show Declaration.ofJson Rule.default (.record (Json.addMembers (defaults s) members)) = _
  simp only [Declaration.ofJson, hown, hname, htype, hrule]

/-- Reading an entry of a document, without its being completed. -/
theorem declaration_record (s : Settings) (members : List (String × Json)) :
    declaration s (.record members)
      = (Declaration.ofJson (.ofKind s) (.record members)).mapError .badDeclaration := by
  rw [declaration, ofJson_completed]

/-- What a declaration comes to.  Each of its choices is the one of its member, or else the one
of the rule that the settings make for its kind, and so a name and a kind declare just this rule.
Members that its kind has no use for do not count, whatever they hold: the declaration is accepted
as before, or the same is wrong with it. -/
theorem declaration_choices (s : Settings) :
    (∀ (members : List (String × Json)) (d : Declaration), Json.Ascending members →
      (declaration s (.record members) = .ok d ↔ d.ChosenFrom s members)) ∧
    (∀ (name : String) (kind : Kind),
      declaration s (.record [("name", toJson name), ("type", toJson kind)])
        = .ok (.ofRule name (.ofKind s kind))) ∧
    ∀ (members members' : List (String × Json)) (tag : Json) (kind : Kind),
      Json.Ascending members → Json.Ascending members' →
      members.lookup "type" = some tag → Declaration.kindOfTag tag = .ok kind →
      (∀ name ∈ Declaration.memberNames kind, members.lookup name = members'.lookup name) →
      declaration s (.record members) = declaration s (.record members') := by
  refine ⟨?_, ?_, ?_⟩
  · intro members d h
    rw [declaration_record, mapError_eq_ok_iff, Declaration.ofJson_eq_ok_iff h.unrepeated]
  · intro name kind
    rw [declaration_record, Declaration.ofJson_name_kind, Except.mapError]
  · intro members members' tag kind h h' htag hkind hlookup
    rw [declaration_record, declaration_record,
      Declaration.ofJson_eq_of_lookup_eq h h' htag hkind hlookup]

theorem declaration_choices_search :
    let s : Settings := { Settings.default with wildcard := '%', maxLength := 80 }
    let own : List (String × Json) :=
      [("max_length", .integer 10), ("name", .text "q"), ("type", .text "search_string")]
    declaration s (.record (("list_separator", .integer 5) :: own))
        = .ok ⟨"q", none, true, .should, .search ⟨'%', 1, 10⟩⟩ ∧
      declaration s (.record (("list_separator", .integer 5) :: own))
        = declaration s (.record (("deduplicate", .null) :: own)) := by
  intro s own
  have hown : Json.Ascending (("list_separator", .integer 5) :: own) := by
    simp only [Json.Ascending, own, List.pairwise_cons]
    decide
  obtain ⟨hchoices, -, hforeign⟩ := declaration_choices s
  constructor
  · exact (hchoices _ _ hown).mpr
      { name := ⟨.text "q", rfl, rfl⟩
        output := .absent rfl
        included := .absent rfl
        occur := .absent rfl
        kind := ⟨.text "search_string", rfl, rfl⟩
        rule := .search (.absent rfl) (.absent rfl) (.given rfl rfl) }
  · have hother : Json.Ascending (("deduplicate", .null) :: own) := by
      simp only [Json.Ascending, own, List.pairwise_cons]
      decide
    apply hforeign _ _ (.text "search_string") .search hown hother rfl rfl
    simp [Declaration.memberNames, Declaration.fields, Kind.choices, SearchRule.fields, Field.of,
      List.lookup_cons]

end Document

end TypedQuery
