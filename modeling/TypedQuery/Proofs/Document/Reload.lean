import TypedQuery.Proofs.Document.Completion
import TypedQuery.Proofs.Document.Outcome
import TypedQuery.Proofs.Settings.Choices

/-!
# Written documents

A declaration is written with all its choices.  So there is nothing that settings
could add to it: it is read back on top of any settings, also such as make no
sense (`declares_of_rearranges`).  The settings of a document are written with all
their parts, and so they are read back as well.

`ofDocument_written` puts this together.  The registry of a written document has
the settings and the declarations that were written.  Nothing is assumed about the
order of the members in a record, as the order in which they are written and the
order in which a text is read differ.
-/

namespace TypedQuery

namespace Declaration

variable {s : Settings} {d : Declaration} {members : List (String × Json)}

/-- The field is the only part that may not be written. -/
theorem members_eq (d : Declaration) : d.members =
    ("name", toJson d.name) ::
      (if d.output.isSome then [("output_name", toJson d.output)] else []) ++
      ("include_in_output", toJson d.included) :: ("output_condition", toJson d.occur) ::
      ("type", toJson d.kind) :: d.rule.members := by
  obtain ⟨name, output, included, occur, rule⟩ := d
  cases output <;> rfl

theorem names_members (d : Declaration) : d.members.map Prod.fst =
    "name" :: (if d.output.isSome then ["output_name"] else []) ++
      "include_in_output" :: "output_condition" :: "type" :: d.kind.choices := by
  have hrule : d.rule.members.map Prod.fst = d.kind.choices := by
    rw [kind]
    cases d.rule <;> rfl
  rw [members_eq]
  cases d.output.isSome <;> simp [hrule]

theorem unrepeated_members (d : Declaration) : Json.Unrepeated d.members := by
  rw [Json.Unrepeated, names_members]
  cases d.output.isSome <;> cases d.kind <;> decide

/-- What is written for a declaration is what it is chosen from, with any settings. -/
theorem chosenFrom_of_perm (h : members.Perm d.members) : d.ChosenFrom s members := by
  have hu : Json.Unrepeated members := d.unrepeated_members.of_perm h
  have hmem {m : String × Json} (hm : m ∈ d.members) : m ∈ members := h.mem_iff.mpr hm
  have houtput : Field.Chosen members "output_name" none d.output := by
    cases hd : d.output with
    | some text => exact .of_mem hu (hmem (by simp [members_eq, hd]))
    | none =>
      have hname : "output_name" ∉ d.members.map Prod.fst := by
        rw [names_members, hd]
        cases d.kind <;> decide
      apply Field.Chosen.absent
      rw [d.unrepeated_members.lookup_of_perm h, List.lookup_eq_none_iff]
      intro m hm
      have hne : "output_name" ≠ m.1 := fun heq => hname (heq ▸ List.mem_map_of_mem hm)
      simpa using hne
  exact
    { name := ⟨_, hu.lookup_eq_some_iff.mpr (hmem (by simp [members_eq])), ofJson_toJson d.name⟩
      output := houtput
      included := .of_mem hu (hmem (by simp [members_eq]))
      occur := .of_mem hu (hmem (by simp [members_eq]))
      kind := ⟨_, hu.lookup_eq_some_iff.mpr (hmem (by simp [members_eq])), kindOfTag_toJson d.kind⟩
      rule := .of_mem hu (fun m hm => hmem (by simp [members_eq, hm])) s }

end Declaration

/-! ## Documents -/

namespace Document

variable {entries : List Json} {ds : List Declaration}

/-- A written declaration is read back, whatever settings it is completed by. -/
theorem declares_of_rearranges (s : Settings) {entry : Json} {d : Declaration}
    (h : Json.Rearranges entry (toJson d)) : Declares s entry d := by
  obtain ⟨members, rfl, hperm⟩ := Json.Rearranges.exists_perm h
  have hu : Json.Unrepeated members := d.unrepeated_members.of_perm hperm
  constructor
  rw [ofJson_completed]
  exact (Declaration.ofJson_eq_ok_iff hu).mpr (d.chosenFrom_of_perm hperm)

theorem declaresAll_of_rearranges (s : Settings)
    (h : List.Forall₂ (fun entry d => Json.Rearranges entry (toJson d)) entries ds)
    (hnormal : ∀ d ∈ ds, Key.isNormal d.name = true)
    (hdistinct : (ds.map Declaration.name).Nodup) : DeclaresAll s entries ds :=
  ⟨h.imp fun _ _ hentry => declares_of_rearranges s hentry, hnormal, hdistinct⟩

theorem lists_of_member {document : Json}
    (h : document.member? "parameters" = some (.list entries)) : Lists document entries := by
  cases document with
  | record members => exact .member h
  | _ => cases h

end Document

/-- A written document is read back.  The registry has the settings that were written, if they make
sense, and the parameters that were written, in their order and with nothing read.  The declarations
alone are read back on top of any settings, and in any document that lists them. -/
theorem Registry.ofDocument_written {entries : List Json} {ds : List Declaration}
    (hentries : List.Forall₂ (fun entry d => Json.Rearranges entry (toJson d)) entries ds)
    (hnormal : ∀ d ∈ ds, Key.isNormal d.name = true)
    (hdistinct : (ds.map Declaration.name).Nodup) :
    (∀ (c : Settings) (config document : Json), c.problems = [] →
      Json.Rearranges config (toJson c) →
      Json.Rearranges document (.record [("config", config), ("parameters", .list entries)]) →
      ∃ r, ofDocument document = .ok r ∧ r.settings = c ∧
        r.parameters.toList = ds.map Parameter.fresh) ∧
    ∀ s : Settings, Document.declarations s (.list entries) = .ok ds ∧
      ∀ document : Json, document.member? "parameters" = some (.list entries) →
        Document.declarations s document = .ok ds := by
  have hall (s : Settings) := Document.declaresAll_of_rearranges s hentries hnormal hdistinct
  refine ⟨?_, ?_⟩
  · intro c config document hc hconfig hdocument
    obtain ⟨members, rfl, hperm⟩ := hdocument.exists_perm
    have hu : Json.Unrepeated [("config", config), ("parameters", Json.list entries)] := by
      simp [Json.Unrepeated]
    have hlists : Document.Lists (.record members) entries :=
      .member (hu.lookup_of_perm hperm "parameters")
    have haccepted : Document.Accepted (.record members) c ds :=
      { settings :=
          .given (hu.lookup_of_perm hperm "config") (Settings.ofJson_of_rearranges hconfig)
        declarations := ⟨entries, hlists, hall c⟩
        consistent := Settings.problems_eq_nil_iff.mp hc }
    exact ⟨_, ofDocument_eq_ok_iff.mpr ⟨c, ds, haccepted, rfl⟩, settings_registerAll (empty c) ds,
      parameters_registerAll_empty c hdistinct⟩
  · intro s
    constructor
    · exact Document.declarations_eq_ok_iff.mpr ⟨entries, .list, hall s⟩
    · intro document hdocument
      exact Document.declarations_eq_ok_iff.mpr
        ⟨entries, Document.lists_of_member hdocument, hall s⟩

theorem Registry.ofDocument_written_search :
    let c : Settings := { Settings.default with pairSeparator := ';' }
    let d : Declaration := ⟨"q", some "", true, .must, .search ⟨'%', 0, 18446744073709551615⟩⟩
    let entry : Json := .record d.members.reverse
    (∃ r, ofDocument (.record [("config", toJson c), ("parameters", .list [entry])]) = .ok r ∧
      r.settings = c ∧ r.parameters.toList = [.fresh d]) ∧
      Document.declarations { c with valueSeparator := ';' } (.list [entry]) = .ok [d] := by
  intro c d entry
  have hentry : Json.Rearranges entry (toJson d) := .record (List.reverse_perm _)
  have hwritten := ofDocument_written (.cons hentry .nil) (by decide) (by decide)
  exact ⟨hwritten.1 c (toJson c) _ (by decide) (.record (.refl _)) (.record (.refl _)),
    (hwritten.2 _).1⟩

end TypedQuery
