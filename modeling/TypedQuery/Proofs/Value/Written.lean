import Mathlib.Data.List.Permutation
import TypedQuery.Value.Json
import TypedQuery.Proofs.Json.Overlay

/-!
# Values that are written

A value is written with a tag and a content, both after its shape (`Tagged`).
The order of the members does not count, neither in the record of the two nor in
the records that the content is made of, and so a value has several forms.

It is read back from each of them.  No form is shared by two values
(`ofJson_written`).
-/

namespace TypedQuery

/-! ## Records and lists -/

namespace Json

variable {α β : Type} [JsonForm α] [JsonForm β]

/-- The two members of a record are read in either order. -/
theorem readPair_of_perm [LawfulForm α] [LawfulForm β] {first second : String}
    (h : first ≠ second) {a : α} {b : β} {members : List (String × Json)}
    (hperm : members.Perm [(first, toJson a), (second, toJson b)]) :
    readPair first second members = .ok (a, b) := by
  obtain rfl | rfl := List.perm_pair.mp hperm
  · exact readPair_pair h a b
  · simp [readPair, pairMember, h.symm, ofJson_toJson, Except.map, required, bind, Except.bind,
      pure, Except.pure]

/-- A list is read if each of its items is. -/
theorem ofJson_list_of_forall₂ {as : List α} {items : List Json}
    (h : List.Forall₂ (fun a item => ofJson item = .ok a) as items) :
    ofJson (Json.list items) = .ok as := by
  show items.mapM ofJson = .ok as
  induction h with
  | nil => rfl
  | cons hitem _ ih =>
    rw [List.mapM_cons, hitem, ih]
    rfl

end Json

/-! ## Written forms -/

/-- A record of the field and the direction, in either order. -/
def SortKey.Written (key : SortKey) (j : Json) : Prop :=
  j.Rearranges
    (.record [("field", .text key.field), ("direction", .text (Vocabulary.word key.direction))])

theorem SortKey.Written.ofJson_eq {key : SortKey} {j : Json} (h : key.Written j) :
    SortKey.ofJson j = .ok key := by
  obtain ⟨members, rfl, hperm⟩ := Json.Rearranges.exists_perm h
  have hread : Json.readPair "field" "direction" members = .ok (key.field, key.direction) :=
    Json.readPair_of_perm (by decide) hperm
  simp only [SortKey.ofJson, hread]
  rfl

namespace Value

/-- The tag of a value, and the forms of its content. -/
inductive Tagged : Value → String → Json → Prop where
  | strings (items : List String) : Tagged (.strings items) "strings" (.list (items.map .text))
  | search {term : Term} {content : Json} :
      content.Rearranges
        (.record [("term", .text term.text), ("position", .text (Vocabulary.word term.anchor))]) →
      Tagged (.search term) "search_string" content
  | sort {keys : List SortKey} {items : List Json} : List.Forall₂ SortKey.Written keys items →
      Tagged (.sort keys) "sort_strings" (.list items)
  | range {low high : Int64} {content : Json} :
      content.Rearranges
        (.record [("min", .integer low.toInt), ("max", .integer high.toInt)]) →
      Tagged (.range low high) "integer_range" content
  | integer (n : Int64) : Tagged (.integer n) "integer" (.integer n.toInt)
  | boolean (b : Bool) : Tagged (.boolean b) "boolean" (.bool b)

/-- A record of the tag and a form of the content, in either order. -/
def Written (v : Value) (j : Json) : Prop :=
  ∃ tag content, v.Tagged tag content ∧
    j.Rearranges (.record [("type", .text tag), ("value", content)])

variable {v w : Value} {tag : String} {content j : Json}

theorem Tagged.eq_word (h : v.Tagged tag content) : tag = Vocabulary.word v.kind := by
  cases h <;> rfl

/-- The content that is written is a form of it, with nothing rearranged. -/
theorem tagged_content (v : Value) : v.Tagged (Vocabulary.word v.kind) v.content := by
  cases v with
  | strings items => exact .strings items
  | search term => exact .search (.record (.refl _))
  | sort keys =>
    apply Tagged.sort
    rw [List.forall₂_map_right_iff]
    exact List.forall₂_same.mpr fun key _ => .record (.refl _)
  | range low high => exact .range (.record (.refl _))
  | integer n => exact .integer n
  | boolean b => exact .boolean b

/-- The content is read back from each of its forms. -/
theorem Tagged.ofContent_eq (h : v.Tagged tag content) : ofContent content v.kind = .ok v := by
  cases h with
  | strings items =>
    have hread : JsonForm.ofJson (.list (items.map .text)) = .ok items := ofJson_toJson items
    simp only [kind, ofContent, hread]
    rfl
  | @search term _ hterm =>
    obtain ⟨members, rfl, hperm⟩ := hterm.exists_perm
    have hread : Json.readPair "term" "position" members = .ok (term.text, term.anchor) :=
      Json.readPair_of_perm (by decide) hperm
    simp only [kind, ofContent, JsonForm.ofJson, hread]
    rfl
  | @sort keys items hitems =>
    have hread : JsonForm.ofJson (.list items) = .ok keys :=
      Json.ofJson_list_of_forall₂ (hitems.imp fun _ _ => SortKey.Written.ofJson_eq)
    simp only [kind, ofContent, hread]
    rfl
  | @range low high _ hends =>
    obtain ⟨members, rfl, hperm⟩ := hends.exists_perm
    have hread : Json.readPair "min" "max" members = .ok (low, high) :=
      Json.readPair_of_perm (by decide) hperm
    simp only [kind, ofContent, hread]
    rfl
  | integer n =>
    have hread : JsonForm.ofJson (.integer n.toInt) = .ok n := ofJson_toJson n
    simp only [kind, ofContent, hread]
    rfl
  | boolean b => rfl

theorem written_toJson (v : Value) : v.Written (toJson v) :=
  ⟨_, _, v.tagged_content, .record (.refl _)⟩

/-- The two members of a form are found under their names. -/
theorem Written.exists_members (h : v.Written j) :
    ∃ members content, j = .record members ∧
      members.lookup "type" = some (.text (Vocabulary.word v.kind)) ∧
      members.lookup "value" = some content ∧ ofContent content v.kind = .ok v := by
  obtain ⟨tag, content, htagged, hj⟩ := h
  obtain ⟨members, rfl, hperm⟩ := hj.exists_perm
  have hunrepeated : Json.Unrepeated [("type", Json.text tag), ("value", content)] := by
    simp [Json.Unrepeated]
  obtain rfl := htagged.eq_word
  exact ⟨members, content, rfl, hunrepeated.lookup_of_perm hperm "type",
    hunrepeated.lookup_of_perm hperm "value", htagged.ofContent_eq⟩

theorem Written.ofJson_eq (h : v.Written j) : ofJson j = .ok v := by
  obtain ⟨members, content, rfl, htype, hvalue, hcontent⟩ := h.exists_members
  simp only [ofJson, bind_eq_ok_iff, Json.required_eq_ok_iff]
  exact ⟨_, htype, v.kind, ofJson_toJson v.kind, content, hvalue, hcontent⟩

theorem Written.member?_type (h : v.Written j) :
    j.member? "type" = some (.text (Vocabulary.word v.kind)) := by
  obtain ⟨members, content, rfl, htype, -, -⟩ := h.exists_members
  exact htype

theorem Written.unique (hv : v.Written j) (hw : w.Written j) : v = w :=
  Except.ok.inj (hv.ofJson_eq.symm.trans hw.ofJson_eq)

/-- What is written for a value is one of its forms.  The value is read back from each of them,
each has the word of its kind as its tag, and none of them is a form of another value. -/
theorem ofJson_written (v : Value) :
    ofJson (toJson v) = .ok v ∧ v.Written (toJson v) ∧
      ∀ j, v.Written j →
        ofJson j = .ok v ∧ j.member? "type" = some (.text (Vocabulary.word v.kind)) ∧
          ∀ w : Value, w.Written j → v = w := by
  have hwritten : v.Written (toJson v) := v.written_toJson
  refine ⟨hwritten.ofJson_eq, hwritten, ?_⟩
  intro j hj
  exact ⟨hj.ofJson_eq, hj.member?_type, fun w hw => hj.unique hw⟩

/-- The widest range, with the members of each record in the opposite order. -/
theorem ofJson_written_reversed :
    let v : Value := .range Int64.minValue Int64.maxValue
    let j : Json := .record
      [("value", .record [("max", .integer 9223372036854775807),
          ("min", .integer (-9223372036854775808))]),
        ("type", .text "integer_range")]
    v.Written j ∧ ofJson j = .ok v ∧ j.member? "type" = some (.text (Vocabulary.word v.kind)) ∧
      ∀ w : Value, w.Written j → v = w := by
  intro v j
  have hj : v.Written j :=
    ⟨_, _, .range (.record (.swap _ _ _)), .record (.swap _ _ _)⟩
  exact ⟨hj, (ofJson_written v).2.2 j hj⟩

end Value

end TypedQuery
