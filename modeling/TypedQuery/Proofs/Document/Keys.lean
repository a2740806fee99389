import TypedQuery.Proofs.Document.Reload
import TypedQuery.Proofs.Query.Outcome

/-!
# Names and keys

The names in a document and the keys of a query are checked apart from each other.
A key is looked at character by character (`Key.isNormal`), and a name is compared
with its normal form (`Key.normalize`).  If one check let a text pass that the other
stops, a name could be declared that no query reaches, or a key could come close to
a name without being one.

`key_checks_agree` says that the checks stop the same texts.  So all names of a
registry that documents give are in normal form (`Building.normal`), and this stays
so in a run that registers such names (`Normal.run`).
-/

namespace TypedQuery

/-! ## What documents give -/

/-- What becomes of a document, a text or a file that declarations are loaded from. -/
inductive Document.Loading : Except DocumentError (List Declaration) → Prop where
  | document (s : Settings) (document : Json) : Loading (declarations s document)
  | text (s : Settings) (text : String) : Loading (declarationsOfText s text)
  | file (s : Settings) (path : String) (contents : Except String String) :
      Loading (declarationsOfFile s path contents)

namespace Registry

open Document

/-- What becomes of a registry that is built from declarations that were loaded, or from a document
as a whole. -/
inductive Building : Except DocumentError Registry → Prop where
  | declarations {s : Settings} {ds : List Declaration} :
      (∀ d ∈ ds, ∃ loaded, Loading (.ok loaded) ∧ d ∈ loaded) → Building (ofDeclarations s ds)
  | document (document : Json) : Building (ofDocument document)
  | text (text : String) : Building (ofText text)
  | file (path : String) (contents : Except String String) : Building (ofFile path contents)

/-- All names are in normal form. -/
def Normal (r : Registry) : Prop :=
  ∀ name ∈ r.names, Key.isNormal name = true

end Registry

/-! ## Names that are turned down -/

namespace Document

variable {s : Settings} {document : Json} {ds : List Declaration} {name form : String}

theorem Rejected.of_badName {taken : List String} {entry : Json}
    (h : Rejected s taken entry (.badName name form)) :
    Key.isNormal name = false ∧ form = Key.normalize name := by
  cases h with
  | badName _ hname => exact ⟨by simpa using hname, rfl⟩

/-- Any text can stand as a name in a document. -/
theorem exists_declaration (s : Settings) (name : String) :
    ∃ entry d, declaration s entry = .ok d ∧ d.name = name :=
  let d : Declaration := ⟨name, none, true, .should, .boolean⟩
  ⟨toJson d, d, declaration_eq_ok_iff.mpr (declares_of_rearranges s (.record (.refl _))), rfl⟩

/-- A name is turned down if it is not in normal form. -/
theorem nextDeclaration_eq_badName_iff {taken : List String} {entry : Json} {d : Declaration}
    (h : declaration s entry = .ok d) :
    (∃ form, nextDeclaration s taken entry = .error (.badName d.name form)) ↔
      Key.isNormal d.name = false := by
  constructor
  · rintro ⟨form, hform⟩
    exact (nextDeclaration_eq_error_iff.mp hform).of_badName.1
  · intro hname
    have hnot : ¬ Key.isNormal d.name = true := by simp [hname]
    exact ⟨_, nextDeclaration_eq_error_iff.mpr (.badName (declaration_eq_ok_iff.mp h) hnot)⟩

theorem badName_of_declarations (h : declarations s document = .error (.badName name form)) :
    Key.isNormal name = false ∧ form = Key.normalize name := by
  rcases declarations_eq_error_iff.mp h with ⟨-, hne⟩ | ⟨_, _, _, _, -, -, hrejected⟩
  · cases hne
  · exact hrejected.of_badName

theorem isNormal_of_declarations (h : declarations s document = .ok ds) :
    ∀ d ∈ ds, Key.isNormal d.name = true := by
  obtain ⟨entries, -, hall⟩ := declarations_eq_ok_iff.mp h
  exact hall.normal

/-- An outcome is the one of a document, or there was none to look at. -/
theorem Loading.exists_document {result : Except DocumentError (List Declaration)}
    (h : Loading result) : (∃ s document, result = declarations s document) ∨
      ∃ e, result = .error e ∧ ∀ name form, e ≠ .badName name form := by
  have htext : ∀ s text, (∃ s' document, declarationsOfText s text = declarations s' document) ∨
      ∃ e, declarationsOfText s text = .error e ∧ ∀ name form, e ≠ .badName name form := by
    intro s text
    unfold declarationsOfText
    split
    · exact .inl ⟨_, _, rfl⟩
    · exact .inr ⟨_, rfl, by simp⟩
  cases h with
  | document s document => exact .inl ⟨s, document, rfl⟩
  | text s text => exact htext s text
  | file s path contents =>
    cases contents with
    | error reason => exact .inr ⟨_, rfl, by simp⟩
    | ok text => exact htext s text

theorem Loading.isNormal (h : Loading (.ok ds)) : ∀ d ∈ ds, Key.isNormal d.name = true := by
  rcases h.exists_document with ⟨s, document, hds⟩ | ⟨e, hne, -⟩
  · exact isNormal_of_declarations hds.symm
  · cases hne

theorem Loading.badName (h : Loading (.error (.badName name form))) :
    Key.isNormal name = false ∧ form = Key.normalize name := by
  rcases h.exists_document with ⟨s, document, he⟩ | ⟨e, heq, hne⟩
  · exact badName_of_declarations he.symm
  · cases heq
    exact absurd rfl (hne name form)

end Document

namespace Registry

open Document

section

variable {s : Settings} {r r' : Registry} {d : Declaration} {ds : List Declaration}
  {document : Json} {name form : String}

theorem badName_of_ofDocument (h : ofDocument document = .error (.badName name form)) :
    Key.isNormal name = false ∧ form = Key.normalize name := by
  cases ofDocument_eq_error_iff.mp h with
  | entry _ _ _ hrejected => exact hrejected.of_badName

/-- An outcome is the one of declarations or of a document, or there was none to look at. -/
theorem Building.exists_source {result : Except DocumentError Registry} (h : Building result) :
    (∃ s ds, (∀ d ∈ ds, Key.isNormal d.name = true) ∧ result = ofDeclarations s ds) ∨
      (∃ document, result = ofDocument document) ∨
      ∃ e, result = .error e ∧ ∀ name form, e ≠ .badName name form := by
  cases h with
  | @declarations s ds hloaded =>
    refine .inl ⟨s, ds, ?_, rfl⟩
    intro d hd
    obtain ⟨loaded, hloading, hmem⟩ := hloaded d hd
    exact hloading.isNormal d hmem
  | document document => exact .inr (.inl ⟨document, rfl⟩)
  | text text =>
    unfold ofText
    split
    · exact .inr (.inl ⟨_, rfl⟩)
    · exact .inr (.inr ⟨_, rfl, by simp⟩)
  | file path contents =>
    unfold ofFile
    split
    · exact .inr (.inr ⟨_, rfl, by simp⟩)
    · split
      · exact .inr (.inl ⟨_, rfl⟩)
      · exact .inr (.inr ⟨_, rfl, by simp⟩)

theorem Building.badName (h : Building (.error (.badName name form))) :
    Key.isNormal name = false ∧ form = Key.normalize name := by
  rcases h.exists_source with ⟨s, ds, -, he⟩ | ⟨document, he⟩ | ⟨e, heq, hne⟩
  · obtain ⟨-, hconflict⟩ := ofDeclarations_eq_error_iff.mp he.symm
    cases hconflict
  · exact badName_of_ofDocument he.symm
  · cases heq
    exact absurd rfl (hne name form)

/-! ## Registries of normal names -/

theorem normal_empty (s : Settings) : (empty s).Normal := by
  simp [Normal, names, declarations, empty]

theorem Normal.of_alike (h : r.Normal) (halike : r'.Alike r) : r'.Normal := by
  rw [Normal, halike.names]
  exact h

theorem Normal.register (h : r.Normal) (hd : Key.isNormal d.name = true) :
    (r.register d).Normal := by
  intro name hname
  obtain ⟨e, he, rfl⟩ := List.mem_map.mp hname
  have hold : ∀ e ∈ r.declarations, Key.isNormal e.name = true :=
    fun e he => h e.name (List.mem_map_of_mem he)
  cases hi : r.index[d.name]? with
  | some i =>
    rw [declarations_register_of_some hi] at he
    rcases List.mem_or_eq_of_mem_set he with hmem | rfl
    · exact hold e hmem
    · exact hd
  | none =>
    rw [declarations_register_of_none hi] at he
    rcases List.mem_append.mp he with hmem | hmem
    · exact hold e hmem
    · rw [List.mem_singleton.mp hmem]
      exact hd

theorem Normal.registerAll (h : r.Normal) (hds : ∀ d ∈ ds, Key.isNormal d.name = true) :
    (r.registerAll ds).Normal := by
  induction ds generalizing r with
  | nil => exact h
  | cons d ds ih =>
    obtain ⟨hd, hrest⟩ := List.forall_mem_cons.mp hds
    exact ih (h.register hd) hrest

/-- Names stay in normal form if no others are registered. -/
theorem Normal.run (h : r.Normal) {steps : List Step}
    (hsteps : ∀ d ∈ registrations steps, Key.isNormal d.name = true) : (r.run steps).Normal :=
  (h.registerAll hsteps).of_alike (alike_run (.refl r) steps)

/-- The names that documents give to a registry are in normal form. -/
theorem Building.normal (h : Building (.ok r)) : r.Normal := by
  rcases h.exists_source with ⟨s, ds, hds, hr⟩ | ⟨document, hr⟩ | ⟨e, hne, -⟩
  · obtain ⟨-, rfl⟩ := ofDeclarations_eq_ok_iff.mp hr.symm
    exact (normal_empty s).registerAll hds
  · obtain ⟨s, ds, haccepted, rfl⟩ := ofDocument_eq_ok_iff.mp hr.symm
    obtain ⟨entries, -, hall⟩ := haccepted.declarations
    exact (normal_empty s).registerAll hall.normal
  · cases hne

end

/-! ## Keys that are turned down -/

section

variable {r : Registry} {key name : String}

/-- Reading a value finds no fault with a key. -/
theorem readValue_ne_badKey (r : Registry) (name text key : String) :
    (r.readValue name text).1 ≠ .error (.badKey key) := by
  unfold readValue
  split
  · simp
  · split
    · simp
    · next p _ =>
      intro h
      obtain ⟨fault, -, hfault⟩ := mapError_eq_error_iff.mp h
      cases hfault

/-- A key that stops the feeding is not in normal form. -/
theorem isNormal_of_feed {pairs : List (String × String)}
    (h : (r.feed pairs).1 = .error (.badKey key)) : Key.isNormal key = false := by
  induction pairs generalizing r with
  | nil => cases h
  | cons pair rest ih =>
    obtain ⟨name, text⟩ := pair
    rw [feed] at h
    split at h
    · have hvalue := r.readValue_ne_badKey name text key
      split at h
      · exact ih h
      · next hread =>
        rw [hread] at hvalue
        exact absurd h hvalue
    · next hname =>
      cases h
      simpa using hname

/-- A pair is stopped for its key if the key is not in normal form. -/
theorem feed_eq_badKey_iff {text : String} {rest : List (String × String)} :
    (r.feed ((key, text) :: rest)).1 = .error (.badKey key) ↔ Key.isNormal key = false := by
  constructor
  · exact isNormal_of_feed
  · intro hkey
    rw [feed_badKey r hkey]

theorem isNormal_of_read {input : String} (h : (r.read input).1 = .error (.badKey key)) :
    Key.isNormal key = false := by
  simp only [read] at h
  split at h
  · cases h
  · split at h
    · cases h
    · exact isNormal_of_feed h

end

/-! ## One check -/

/-- The check of keys and the check of names stop the same texts, namely those that are not their
own normal form.  What is suggested in place of a name passes both.  In a registry that documents
give, a key that is stopped is no name, and no name is stopped, whatever is read and whichever
normal names are registered later. -/
theorem key_checks_agree :
    (∀ key, Key.isNormal key = true ↔ Key.normalize key = key) ∧
    (∀ key, Key.isNormal (Key.normalize key) = true ∧
      Key.normalize (Key.normalize key) = Key.normalize key) ∧
    (∀ a b, Key.normalize (a ++ b) = Key.normalize a ++ Key.normalize b) ∧
    (∀ s name, ∃ entry d, Document.declaration s entry = .ok d ∧ d.name = name) ∧
    (∀ s taken entry d, Document.declaration s entry = .ok d →
      ∀ (r : Registry) (text : String) (rest : List (String × String)),
        (∃ form, nextDeclaration s taken entry = .error (.badName d.name form)) ↔
          (r.feed ((d.name, text) :: rest)).1 = .error (.badKey d.name)) ∧
    (∀ name form,
      Loading (.error (.badName name form)) ∨ Building (.error (.badName name form)) →
        Key.isNormal name = false ∧ form = Key.normalize name ∧ Key.isNormal form = true) ∧
    ∀ r, Building (.ok r) → ∀ steps, (∀ d ∈ registrations steps, Key.isNormal d.name = true) →
      (∀ input key, ((r.run steps).read input).1 = .error (.badKey key) →
        key ∉ (r.run steps).names) ∧
      ∀ name ∈ (r.run steps).names, Key.isNormal name = true ∧
        ∀ text rest, ((r.run steps).feed ((name, text) :: rest)).1 ≠ .error (.badKey name) := by
  refine ⟨?_, ?_, Key.normalize_append, exists_declaration, ?_, ?_, ?_⟩
  · intro key
    exact Key.normalize_eq_self_iff.symm
  · intro key
    have hnormal := Key.isNormal_normalize key
    exact ⟨hnormal, Key.normalize_eq_self_iff.mpr hnormal⟩
  · intro s taken entry d hd r text rest
    rw [nextDeclaration_eq_badName_iff hd, feed_eq_badKey_iff]
  · intro name form h
    obtain ⟨hname, rfl⟩ : Key.isNormal name = false ∧ form = Key.normalize name := by
      rcases h with h | h
      · exact h.badName
      · exact h.badName
    exact ⟨hname, rfl, Key.isNormal_normalize name⟩
  · intro r hr steps hsteps
    have hnormal : (r.run steps).Normal := hr.normal.run hsteps
    constructor
    · intro input key hkey hmem
      have hstopped := isNormal_of_read hkey
      rw [hnormal key hmem] at hstopped
      cases hstopped
    · intro name hname
      refine ⟨hnormal name hname, ?_⟩
      intro text rest hstopped
      rw [feed_eq_badKey_iff, hnormal name hname] at hstopped
      cases hstopped

theorem key_checks_agree_offset :
    let entry := fun name : String => Json.record [("name", .text name), ("type", .text "boolean")]
    let d : Declaration := ⟨"offset", none, true, .should, .boolean⟩
    let r := (empty .default).registerAll [d]
    ofDocument (.list [entry "offset"]) = .ok r ∧
      (r.read "Offset=y").1 = .error (.badKey "Offset") ∧ "Offset" ∉ r.names ∧
      ofDocument (.list [entry "Offset"]) = .error (.badName "Offset" "offset") ∧
      Key.isNormal "offset" = true := by
  intro entry d r
  have hr : ofDocument (.list [entry "offset"]) = .ok r := rfl
  have he : ofDocument (.list [entry "Offset"]) = .error (.badName "Offset" "offset") := by
    rfl
  have hread : (r.read "Offset=y").1 = .error (.badKey "Offset") := by
    have hnonempty : r.isEmpty = false := by
      simp [r, registerAll, register, empty, isEmpty]
    have hsettings : r.settings = .default := settings_registerAll _ _
    have hpairs : r.settings.pairs (r.settings.queryText "Offset=y") = [("Offset", "y")] := by
      rw [hsettings]
      decide
    rw [read_eq_feed hnonempty (by rw [hsettings]; decide), hpairs, feed_badKey _ (by decide)]
  have hbuilding : Building (.ok r) := hr ▸ .document (.list [entry "offset"])
  have hfailing : Building (.error (.badName "Offset" "offset")) :=
    he ▸ .document (.list [entry "Offset"])
  obtain ⟨-, -, -, -, -, hsuggested, hbuilt⟩ := key_checks_agree
  obtain ⟨-, -, hform⟩ := hsuggested _ _ (.inr hfailing)
  obtain ⟨hstopped, -⟩ := hbuilt r hbuilding [] (by simp [registrations])
  exact ⟨hr, hread, hstopped _ _ hread, he, hform⟩

end Registry

end TypedQuery
