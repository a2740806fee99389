import TypedQuery.Document
import TypedQuery.Proofs.Json.Overlay
import TypedQuery.Proofs.Registry.Index

/-!
# What becomes of a document

Whether a document gives a registry can be said without an order.  The settings
it has of its own are of their form and make sense, it has a list of entries, and
every entry declares a parameter under a normal name that no other entry uses
(`Document.Accepted`).  The registry then has one fresh parameter for each entry,
in the order of the entries.

The order decides which error is reported.  The stages are the settings, the
list, the entries one by one, and the problems of the settings, and the first
that fails gives the error (`Document.Faulty`).  An entry is judged with the names
of the entries before it in mind, all of which have been accepted
(`Document.Rejected`): first its form, then its name, then whether the name is
new.

`ofDocument_outcome` puts the two together.  As loading a document has one result,
it follows that a document is accepted or faulty, not both, and for one reason.
-/

namespace TypedQuery

namespace Document

variable {s : Settings} {d : Declaration} {e : DocumentError} {document entry : Json}
  {entries : List Json} {ds : List Declaration} {taken taken' : List String}

/-! ## What a document says -/

/-- The settings that a document has of its own, or else the default settings. -/
inductive Configures (document : Json) : Settings → Prop where
  | given {j : Json} {s : Settings} : document.member? "config" = some j →
      ofJson j = .ok s → Configures document s
  | absent : document.member? "config" = none → Configures document .default

/-- The entries that a document lists. -/
inductive Lists : Json → List Json → Prop where
  | list {entries : List Json} : Lists (.list entries) entries
  | member {members : List (String × Json)} {entries : List Json} :
      members.lookup "parameters" = some (.list entries) → Lists (.record members) entries

/-- What an entry declares when it is completed by settings. -/
inductive Declares (s : Settings) : Json → Declaration → Prop where
  | record {members : List (String × Json)} {d : Declaration} :
      ofJson (.record (completed s members)) = .ok d → Declares s (.record members) d

/-- Entries that declare parameters, one each, under names that are normal and distinct. -/
structure DeclaresAll (s : Settings) (entries : List Json) (ds : List Declaration) : Prop where
  each : List.Forall₂ (Declares s) entries ds
  normal : ∀ d ∈ ds, Key.isNormal d.name = true
  distinct : (ds.map Declaration.name).Nodup

/-- Documents that are accepted, with their settings and their declarations. -/
structure Accepted (document : Json) (s : Settings) (ds : List Declaration) : Prop where
  settings : Configures document s
  declarations : ∃ entries, Lists document entries ∧ DeclaresAll s entries ds
  consistent : s.Consistent

/-- Why an entry cannot follow declarations of some names. -/
inductive Rejected (s : Settings) (taken : List String) (entry : Json) : DocumentError → Prop where
  | notRecord : (∀ members, entry ≠ .record members) → Rejected s taken entry (.notRecord entry)
  | badDeclaration {members : List (String × Json)} {e : FormError} : entry = .record members →
      (ofJson (.record (completed s members)) : Formed Declaration) = .error e →
      Rejected s taken entry (.badDeclaration e)
  | badName {d : Declaration} : Declares s entry d → ¬ Key.isNormal d.name = true →
      Rejected s taken entry (.badName d.name (Key.normalize d.name))
  | repeatedName {d : Declaration} : Declares s entry d → Key.isNormal d.name = true →
      d.name ∈ taken → Rejected s taken entry (.repeatedName d.name)

/-- Why a document is not accepted: the first stage that fails, and of its entries the first that
is rejected. -/
inductive Faulty (document : Json) : DocumentError → Prop where
  | settings {j : Json} {e : FormError} : document.member? "config" = some j →
      (ofJson j : Formed Settings) = .error e → Faulty document (.badSettings e)
  | list {s : Settings} : Configures document s → (∀ entries, ¬ Lists document entries) →
      Faulty document .noDeclarations
  | entry {s : Settings} {before after : List Json} {entry : Json} {ds : List Declaration}
      {e : DocumentError} : Configures document s → Lists document (before ++ entry :: after) →
      DeclaresAll s before ds → Rejected s (ds.map Declaration.name) entry e → Faulty document e
  | conflict {s : Settings} {entries : List Json} {ds : List Declaration} :
      Configures document s → Lists document entries → DeclaresAll s entries ds →
      ¬ s.Consistent → Faulty document (.conflictingSettings s.problems)

/-! ## The stages -/

theorem settings_eq_ok_iff : settings document = .ok s ↔ Configures document s := by
  constructor
  · intro h
    cases hj : document.member? "config" with
    | some j =>
      rw [settings, hj] at h
      exact .given hj (mapError_eq_ok_iff.mp h)
    | none =>
      rw [settings, hj] at h
      obtain rfl := Except.ok.inj h
      exact .absent hj
  · intro h
    cases h with
    | given hj hs =>
      rw [settings, hj]
      exact mapError_eq_ok_iff.mpr hs
    | absent hj => rw [settings, hj]

theorem settings_eq_error_iff : settings document = .error e ↔
    ∃ j e', document.member? "config" = some j ∧ (ofJson j : Formed Settings) = .error e' ∧
      .badSettings e' = e := by
  cases hj : document.member? "config" with
  | some j =>
    simp only [settings, hj, mapError_eq_error_iff, Option.some.injEq, exists_and_left,
      exists_eq_left']
    rfl
  | none => simp [settings, hj]

theorem Lists.entries_eq (h : Lists document entries) :
    Document.entries document = .ok entries := by
  cases h with
  | list => rfl
  | member hmember => simp only [Document.entries, Json.member?, hmember]

theorem entries_cases (document : Json) :
    (∃ entries, Document.entries document = .ok entries ∧ Lists document entries) ∨
      Document.entries document = .error .noDeclarations := by
  cases document with
  | list items => exact .inl ⟨items, rfl, .list⟩
  | record members =>
    cases hj : members.lookup "parameters" with
    | none => exact .inr (by simp only [Document.entries, Json.member?, hj])
    | some j =>
      cases j with
      | list items =>
        exact .inl ⟨items, by simp only [Document.entries, Json.member?, hj], .member hj⟩
      | _ => exact .inr (by simp only [Document.entries, Json.member?, hj])
  | _ => exact .inr rfl

theorem entries_eq_ok_iff : Document.entries document = .ok entries ↔ Lists document entries := by
  constructor
  · intro h
    rcases entries_cases document with ⟨items, hitems, hlists⟩ | hnone
    · obtain rfl := Except.ok.inj (hitems.symm.trans h)
      exact hlists
    · rw [hnone] at h
      cases h
  · exact Lists.entries_eq

theorem entries_eq_error_iff : Document.entries document = .error e ↔
    (∀ entries, ¬ Lists document entries) ∧ .noDeclarations = e := by
  constructor
  · intro h
    rcases entries_cases document with ⟨items, hitems, -⟩ | hnone
    · rw [hitems] at h
      cases h
    · refine ⟨?_, Except.error.inj (hnone.symm.trans h)⟩
      intro entries hlists
      rw [hlists.entries_eq] at h
      cases h
  · rintro ⟨hno, rfl⟩
    rcases entries_cases document with ⟨items, -, hlists⟩ | hnone
    · exact absurd hlists (hno items)
    · exact hnone

theorem declaration_eq_ok_iff : declaration s entry = .ok d ↔ Declares s entry d := by
  constructor
  · intro h
    cases entry with
    | record members => exact .record (mapError_eq_ok_iff.mp h)
    | _ => cases h
  · rintro ⟨h⟩
    exact mapError_eq_ok_iff.mpr h

/-! ## The entries -/

theorem nextDeclaration_of_declares (h : Declares s entry d) : nextDeclaration s taken entry =
    if Key.isNormal d.name = true then
      if d.name ∈ taken then .error (.repeatedName d.name) else .ok d
    else .error (.badName d.name (Key.normalize d.name)) := by
  have hd := declaration_eq_ok_iff.mpr h
  by_cases hnormal : Key.isNormal d.name = true
  · have hself := Key.normalize_eq_self_iff.mpr hnormal
    by_cases hmem : d.name ∈ taken <;>
      simp [nextDeclaration, hd, hself, hnormal, hmem, bind, Except.bind, pure, Except.pure,
        throw, throwThe, MonadExceptOf.throw]
  · have hself := mt Key.normalize_eq_self_iff.mp hnormal
    simp [nextDeclaration, hd, hself, hnormal, bind, Except.bind, throw, throwThe,
      MonadExceptOf.throw]

theorem nextDeclaration_eq_ok_iff : nextDeclaration s taken entry = .ok d ↔
    Declares s entry d ∧ Key.isNormal d.name = true ∧ d.name ∉ taken := by
  constructor
  · intro h
    obtain ⟨found, hfound, -⟩ := bind_eq_ok_iff.mp h
    have hdeclares := declaration_eq_ok_iff.mp hfound
    rw [nextDeclaration_of_declares hdeclares] at h
    split at h
    · next hnormal =>
      split at h
      · cases h
      · next hnew =>
        obtain rfl := Except.ok.inj h
        exact ⟨hdeclares, hnormal, hnew⟩
    · cases h
  · rintro ⟨hdeclares, hnormal, hnew⟩
    rw [nextDeclaration_of_declares hdeclares, if_pos hnormal, if_neg hnew]

theorem nextDeclaration_of_error (h : declaration s entry = .error e) :
    nextDeclaration s taken entry = .error e := by
  simp only [nextDeclaration, h, bind, Except.bind]

/-- An entry without a declaration is rejected for its form, whatever names are taken. -/
theorem Rejected.of_error (h : declaration s entry = .error e) : Rejected s taken entry e := by
  cases entry with
  | record members =>
    obtain ⟨e', he', rfl⟩ := mapError_eq_error_iff.mp h
    exact .badDeclaration rfl he'
  | _ =>
    cases h
    exact .notRecord (by simp)

theorem nextDeclaration_eq_error_iff :
    nextDeclaration s taken entry = .error e ↔ Rejected s taken entry e := by
  constructor
  · intro h
    cases hentry : declaration s entry with
    | error e' =>
      obtain rfl := Except.error.inj ((nextDeclaration_of_error hentry).symm.trans h)
      exact .of_error hentry
    | ok d =>
      have hdeclares := declaration_eq_ok_iff.mp hentry
      rw [nextDeclaration_of_declares hdeclares] at h
      split at h
      · next hnormal =>
        split at h
        · next hmem =>
          obtain rfl := Except.error.inj h
          exact .repeatedName hdeclares hnormal hmem
        · cases h
      · next hnormal =>
        obtain rfl := Except.error.inj h
        exact .badName hdeclares hnormal
  · intro h
    cases h with
    | notRecord hno =>
      apply nextDeclaration_of_error
      cases entry with
      | record members => exact absurd rfl (hno members)
      | _ => rfl
    | badDeclaration hentry he =>
      subst hentry
      exact nextDeclaration_of_error (mapError_eq_error_iff.mpr ⟨_, he, rfl⟩)
    | badName hdeclares hnormal =>
      rw [nextDeclaration_of_declares hdeclares, if_neg hnormal]
    | repeatedName hdeclares hnormal hmem =>
      rw [nextDeclaration_of_declares hdeclares, if_pos hnormal, if_pos hmem]

/-- Of the names that are taken, only which they are matters. -/
theorem nextDeclaration_congr (h : ∀ name, name ∈ taken ↔ name ∈ taken') :
    nextDeclaration s taken entry = nextDeclaration s taken' entry := by
  simp only [nextDeclaration, h]

theorem declarationsAfter_cons_eq_ok_iff {rest : List Json} :
    declarationsAfter s taken (entry :: rest) = .ok ds ↔
      ∃ d ds', nextDeclaration s taken entry = .ok d ∧
        declarationsAfter s (d.name :: taken) rest = .ok ds' ∧ d :: ds' = ds := by
  simp only [declarationsAfter, bind_eq_ok_iff, pure, Except.pure, Except.ok.injEq,
    exists_and_left]

/-- Entries are accepted if each has a name that is neither taken nor used by another. -/
theorem declarationsAfter_eq_ok_iff : declarationsAfter s taken entries = .ok ds ↔
    DeclaresAll s entries ds ∧ ∀ d ∈ ds, d.name ∉ taken := by
  induction entries generalizing taken ds with
  | nil =>
    constructor
    · intro h
      obtain rfl := Except.ok.inj h
      exact ⟨⟨.nil, by simp, List.nodup_nil⟩, by simp⟩
    · rintro ⟨⟨⟨⟩, -, -⟩, -⟩
      rfl
  | cons entry rest ih =>
    simp only [declarationsAfter_cons_eq_ok_iff, nextDeclaration_eq_ok_iff, ih]
    constructor
    · rintro ⟨d, ds', ⟨hdeclares, hnormal, hnew⟩, ⟨hall, hnews⟩, rfl⟩
      have hfirst : d.name ∉ ds'.map Declaration.name := by
        intro hmem
        obtain ⟨d', hd', heq⟩ := List.mem_map.mp hmem
        exact hnews d' hd' (heq ▸ List.mem_cons_self)
      refine ⟨⟨.cons hdeclares hall.each, ?_, List.nodup_cons.mpr ⟨hfirst, hall.distinct⟩⟩, ?_⟩
      · exact List.forall_mem_cons.mpr ⟨hnormal, hall.normal⟩
      · refine List.forall_mem_cons.mpr ⟨hnew, ?_⟩
        intro d' hd' hmem
        exact hnews d' hd' (List.mem_cons_of_mem _ hmem)
    · rintro ⟨⟨heach, hnormal, hdistinct⟩, hnews⟩
      cases heach with
      | @cons _ d _ ds' hdeclares heach =>
        obtain ⟨hfirst, hdistinct⟩ := List.nodup_cons.mp hdistinct
        obtain ⟨hnormal, hnormals⟩ := List.forall_mem_cons.mp hnormal
        obtain ⟨hnew, hnews⟩ := List.forall_mem_cons.mp hnews
        refine ⟨d, ds', ⟨hdeclares, hnormal, hnew⟩, ⟨⟨heach, hnormals, hdistinct⟩, ?_⟩, rfl⟩
        intro d' hd' hmem
        rcases List.mem_cons.mp hmem with heq | hmem
        · exact hfirst (heq ▸ List.mem_map_of_mem hd')
        · exact hnews d' hd' hmem

/-- The error is the one of the first entry that is rejected. -/
theorem declarationsAfter_eq_error_iff : declarationsAfter s taken entries = .error e ↔
    ∃ before entry after ds, entries = before ++ entry :: after ∧
      declarationsAfter s taken before = .ok ds ∧
      nextDeclaration s (ds.map Declaration.name ++ taken) entry = .error e := by
  induction entries generalizing taken with
  | nil => simp [declarationsAfter]
  | cons entry rest ih =>
    have hmove (d : Declaration) (ds : List Declaration) (entry : Json) :
        nextDeclaration s (ds.map Declaration.name ++ d.name :: taken) entry
          = nextDeclaration s ((d :: ds).map Declaration.name ++ taken) entry := by
      apply nextDeclaration_congr
      intro name
      simp only [List.map_cons, List.cons_append, List.mem_append, List.mem_cons]
      exact or_left_comm
    constructor
    · intro h
      rcases bind_eq_error_iff.mp h with hfirst | ⟨d, hd, hrest⟩
      · exact ⟨[], entry, rest, [], rfl, rfl, hfirst⟩
      · rcases bind_eq_error_iff.mp hrest with hrest | ⟨ds, -, hpure⟩
        · obtain ⟨before, entry', after, ds, rfl, hbefore, hentry'⟩ := ih.mp hrest
          refine ⟨entry :: before, entry', after, d :: ds, rfl, ?_, hmove d ds entry' ▸ hentry'⟩
          exact declarationsAfter_cons_eq_ok_iff.mpr ⟨d, ds, hd, hbefore, rfl⟩
        · cases hpure
    · rintro ⟨before, entry', after, ds, heq, hbefore, hentry'⟩
      cases before with
      | nil =>
        obtain ⟨rfl, rfl⟩ := List.cons.inj heq
        obtain rfl := Except.ok.inj hbefore
        exact bind_eq_error_iff.mpr (.inl hentry')
      | cons first before =>
        obtain ⟨rfl, rfl⟩ := List.cons.inj heq
        obtain ⟨d, ds', hd, hds', rfl⟩ := declarationsAfter_cons_eq_ok_iff.mp hbefore
        have hrest := ih.mpr
          ⟨before, entry', after, ds', rfl, hds', (hmove d ds' entry').symm ▸ hentry'⟩
        exact bind_eq_error_iff.mpr (.inr ⟨d, hd, bind_eq_error_iff.mpr (.inl hrest)⟩)

theorem declarations_eq_ok_iff : declarations s document = .ok ds ↔
    ∃ entries, Lists document entries ∧ DeclaresAll s entries ds := by
  simp only [declarations, bind_eq_ok_iff, entries_eq_ok_iff, declarationsAfter_eq_ok_iff,
    List.not_mem_nil, not_false_eq_true, implies_true, and_true]

theorem declarations_eq_error_iff : declarations s document = .error e ↔
    ((∀ entries, ¬ Lists document entries) ∧ .noDeclarations = e) ∨
    ∃ before entry after ds, Lists document (before ++ entry :: after) ∧
      DeclaresAll s before ds ∧ Rejected s (ds.map Declaration.name) entry e := by
  simp only [declarations, bind_eq_error_iff, entries_eq_error_iff, entries_eq_ok_iff,
    declarationsAfter_eq_error_iff, nextDeclaration_eq_error_iff, declarationsAfter_eq_ok_iff,
    List.append_nil, List.not_mem_nil, not_false_eq_true, implies_true, and_true]
  refine or_congr_right ?_
  constructor
  · rintro ⟨_, hlists, before, entry, after, ds, rfl, hbefore, hentry⟩
    exact ⟨before, entry, after, ds, hlists, hbefore, hentry⟩
  · rintro ⟨before, entry, after, ds, hlists, hbefore, hentry⟩
    exact ⟨_, hlists, before, entry, after, ds, rfl, hbefore, hentry⟩

end Document

/-! ## Registries -/

namespace Registry

open Document

variable {s : Settings} {ds : List Declaration} {e : DocumentError} {document : Json}
  {r : Registry}

theorem ofDeclarations_eq_ok_iff :
    ofDeclarations s ds = .ok r ↔ s.Consistent ∧ (empty s).registerAll ds = r := by
  rw [← Settings.problems_eq_nil_iff, ← List.isEmpty_iff, ofDeclarations]
  split <;> simp_all

theorem ofDeclarations_eq_error_iff :
    ofDeclarations s ds = .error e ↔ ¬ s.Consistent ∧ .conflictingSettings s.problems = e := by
  rw [← Settings.problems_eq_nil_iff, ← List.isEmpty_iff, ofDeclarations]
  split <;> simp_all

theorem ofDocument_eq_ok_iff : ofDocument document = .ok r ↔
    ∃ s ds, Accepted document s ds ∧ (empty s).registerAll ds = r := by
  simp only [ofDocument, bind_eq_ok_iff, settings_eq_ok_iff, declarations_eq_ok_iff,
    ofDeclarations_eq_ok_iff]
  constructor
  · rintro ⟨s, hs, ds, hds, hconsistent, hr⟩
    exact ⟨s, ds, ⟨hs, hds, hconsistent⟩, hr⟩
  · rintro ⟨s, ds, ⟨hs, hds, hconsistent⟩, hr⟩
    exact ⟨s, hs, ds, hds, hconsistent, hr⟩

theorem ofDocument_eq_error_iff : ofDocument document = .error e ↔ Faulty document e := by
  simp only [ofDocument, bind_eq_error_iff, settings_eq_ok_iff, settings_eq_error_iff,
    declarations_eq_ok_iff, declarations_eq_error_iff, ofDeclarations_eq_error_iff]
  constructor
  · rintro (⟨j, e', hj, he', rfl⟩ | ⟨s, hs, (⟨hno, rfl⟩ |
      ⟨before, entry, after, ds, hlists, hbefore, hentry⟩) |
      ⟨ds, ⟨entries, hlists, hall⟩, hproblem, rfl⟩⟩)
    · exact .settings hj he'
    · exact .list hs hno
    · exact .entry hs hlists hbefore hentry
    · exact .conflict hs hlists hall hproblem
  · intro h
    cases h with
    | settings hj he' => exact .inl ⟨_, _, hj, he', rfl⟩
    | list hs hno => exact .inr ⟨_, hs, .inl (.inl ⟨hno, rfl⟩)⟩
    | entry hs hlists hbefore hentry =>
      exact .inr ⟨_, hs, .inl (.inr ⟨_, _, _, _, hlists, hbefore, hentry⟩)⟩
    | conflict hs hlists hall hproblem =>
      exact .inr ⟨_, hs, .inr ⟨_, ⟨_, hlists, hall⟩, hproblem, rfl⟩⟩

/-- What becomes of a document.  It gives a registry if it is accepted, and the registry has one
parameter for each entry, in the order of the entries and with nothing read.  Or else it gives the
error of the first stage that fails. -/
theorem ofDocument_outcome (document : Json) :
    ((∃ r, ofDocument document = .ok r) ↔ ∃ s ds, Accepted document s ds) ∧
    (∀ r, ofDocument document = .ok r →
      ∃ s ds, Accepted document s ds ∧ r.settings = s ∧
        r.parameters.toList = ds.map Parameter.fresh ∧ r.Indexed) ∧
    ∀ e, ofDocument document = .error e ↔ Faulty document e := by
  refine ⟨?_, ?_, fun e => ofDocument_eq_error_iff⟩
  · constructor
    · rintro ⟨r, hr⟩
      obtain ⟨s, ds, haccepted, -⟩ := ofDocument_eq_ok_iff.mp hr
      exact ⟨s, ds, haccepted⟩
    · rintro ⟨s, ds, haccepted⟩
      exact ⟨_, ofDocument_eq_ok_iff.mpr ⟨s, ds, haccepted, rfl⟩⟩
  · intro r hr
    obtain ⟨s, ds, haccepted, rfl⟩ := ofDocument_eq_ok_iff.mp hr
    obtain ⟨entries, -, hall⟩ := haccepted.declarations
    exact ⟨s, ds, haccepted, settings_registerAll (empty s) ds,
      parameters_registerAll_empty s hall.distinct, indexed_registerAll (indexed_empty s) ds⟩

theorem ofDocument_outcome_search :
    let s : Settings := { Settings.default with wildcard := '%' }
    let d : Declaration := ⟨"q", none, true, .should, .search ⟨'%', 1, 100⟩⟩
    let entry : Json := .record [("name", .text "q"), ("type", .text "search_string")]
    let document : Json :=
      .record [("config", .record [("wildcard", .text "%")]), ("parameters", .list [entry])]
    let r := (empty s).registerAll [d]
    ofDocument document = .ok r ∧
      (∃ s ds, Accepted document s ds ∧ r.settings = s ∧
        r.parameters.toList = ds.map Parameter.fresh ∧ r.Indexed) ∧
      ofDocument (.list [entry, entry, .null]) = .error (.repeatedName "q") := by
  intro s d entry document r
  have hr : ofDocument document = .ok r := rfl
  refine ⟨hr, (ofDocument_outcome document).2.1 r hr, ?_⟩
  have hlists : Lists (.list [entry, entry, .null]) ([entry] ++ entry :: [.null]) := .list
  have hq : Declares .default entry (.ofRule "q" (.ofKind .default .search)) := .record rfl
  have hbefore : DeclaresAll .default [entry] [.ofRule "q" (.ofKind .default .search)] :=
    ⟨.cons hq .nil, by decide, by decide⟩
  exact ((ofDocument_outcome _).2.2 _).mpr
    (.entry (.absent rfl) hlists hbefore (.repeatedName hq (by decide) (by decide)))

end Registry

end TypedQuery
