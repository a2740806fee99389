import TypedQuery.Proofs.Document.Completion
import TypedQuery.Proofs.Document.Outcome
import TypedQuery.Proofs.Json.Ordered

/-!
# Documents that are texts

What an entry declares is chosen from its members, if no name is given twice in
it.  A document that is a text takes care of this itself: however its records are
written, they ascend when they have been read (`Json.ordered_of_ofText?`).

So a text gives a registry exactly if it says what the registry should be
(`ofText_eq_ok_iff`), and nothing is asked of the text beyond that.  It is the
same for a file that can be read (`ofFile_eq_ok_iff`).
-/

namespace TypedQuery

namespace Document

/-- An entry is a record from which a declaration is chosen. -/
inductive Chooses (s : Settings) : Json → Declaration → Prop where
  | record {members : List (String × Json)} {d : Declaration} :
      d.ChosenFrom s members → Chooses s (.record members) d

/-- What a text says: settings that make sense, and a declaration for each entry of its list, all
under names that are normal and distinct. -/
structure Says (text : String) (s : Settings) (ds : List Declaration) : Prop where
  document : ∃ document entries, Json.ofText? text = some document ∧ Configures document s ∧
    Lists document entries ∧ List.Forall₂ (Chooses s) entries ds
  normal : ∀ d ∈ ds, Key.isNormal d.name = true
  distinct : (ds.map Declaration.name).Nodup
  consistent : s.Consistent

variable {s : Settings} {d : Declaration} {ds : List Declaration} {document entry : Json}
  {entries : List Json} {text : String}

theorem Lists.ordered (h : Lists document entries) (hdocument : document.Ordered) :
    ∀ entry ∈ entries, entry.Ordered := by
  have hentries : Json.Ordered (.list entries) := by
    cases h with
    | list => exact hdocument
    | member hmember => exact hdocument.of_lookup hmember
  exact fun _ => hentries.of_mem_items

/-- Declaring is choosing, where the names of each record ascend. -/
theorem declares_iff_of_ordered (h : entry.Ordered) : Declares s entry d ↔ Chooses s entry d := by
  constructor
  · rintro ⟨hd⟩
    rw [ofJson_completed, Declaration.ofJson_eq_ok_iff h.ascending.unrepeated] at hd
    exact .record hd
  · rintro ⟨hd⟩
    constructor
    rwa [ofJson_completed, Declaration.ofJson_eq_ok_iff h.ascending.unrepeated]

theorem forall₂_declares_iff_of_ordered (h : ∀ entry ∈ entries, entry.Ordered) :
    List.Forall₂ (Declares s) entries ds ↔ List.Forall₂ (Chooses s) entries ds := by
  have hleft (R : Json → Declaration → Prop) :
      List.Forall₂ (fun entry d => entry.Ordered ∧ R entry d) entries ds ↔
        List.Forall₂ R entries ds := by
    rw [List.forall₂_and_left, and_iff_right h]
  have hentry (entry : Json) (d : Declaration) :
      entry.Ordered ∧ Declares s entry d ↔ entry.Ordered ∧ Chooses s entry d :=
    and_congr_right declares_iff_of_ordered
  rw [← hleft (Declares s), ← hleft (Chooses s)]
  simp only [hentry]

/-- A text says what the document in it is accepted for. -/
theorem says_iff : Says text s ds ↔
    ∃ document, Json.ofText? text = some document ∧ Accepted document s ds := by
  constructor
  · rintro ⟨⟨document, entries, hread, hs, hlists, heach⟩, hnormal, hdistinct, hconsistent⟩
    have hentries := hlists.ordered (Json.ordered_of_ofText? hread)
    have hdeclares := (forall₂_declares_iff_of_ordered hentries).mpr heach
    exact ⟨document, hread, hs, ⟨entries, hlists, hdeclares, hnormal, hdistinct⟩, hconsistent⟩
  · rintro ⟨document, hread, hs, ⟨entries, hlists, hdeclares, hnormal, hdistinct⟩, hconsistent⟩
    have hentries := hlists.ordered (Json.ordered_of_ofText? hread)
    have heach := (forall₂_declares_iff_of_ordered hentries).mp hdeclares
    exact ⟨⟨document, entries, hread, hs, hlists, heach⟩, hnormal, hdistinct, hconsistent⟩

end Document

namespace Registry

variable {text : String} {r : Registry}

/-- A text gives the registry of what it says, and no other. -/
theorem ofText_eq_ok_iff : ofText text = .ok r ↔
    ∃ s ds, Document.Says text s ds ∧ (empty s).registerAll ds = r := by
  simp only [Document.says_iff]
  cases hread : Json.ofText? text with
  | none => simp [ofText, hread]
  | some document =>
    simp only [ofText, hread, ofDocument_eq_ok_iff, Option.some.injEq, exists_eq_left']

/-- A file gives the registry of its text, if it can be read. -/
theorem ofFile_eq_ok_iff {path : String} {contents : Except String String} :
    ofFile path contents = .ok r ↔ ∃ text, contents = .ok text ∧ ofText text = .ok r := by
  cases contents with
  | error reason => simp [ofFile]
  | ok text =>
    simp only [ofFile, ofText, Except.ok.injEq, exists_eq_left']
    cases Json.ofText? text with
    | none => simp
    | some document => rfl

end Registry

end TypedQuery
