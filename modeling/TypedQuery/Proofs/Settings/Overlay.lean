import TypedQuery.Proofs.Settings.Choices
import TypedQuery.Proofs.Settings.Parts

/-!
# Settings on top of the defaults

Settings may be given in part.  What is read from a record has the parts that the
record gives, and the defaults for the others, whatever else stands in the record
(`Holds.overlays`).  A list gives the first parts without their names, and reads as
the record that names them (`ofJson_firsts`).

`ofJson_overlays` puts these together with the form that is written, which gives
all parts.
-/

namespace TypedQuery.Settings

/-! ## Parts in records -/

instance (content : Content) : JsonForm content.Value :=
  match content with
  | .character => inferInstanceAs (JsonForm Char)
  | .length => inferInstanceAs (JsonForm UInt64)

instance (content : Content) : LawfulForm content.Value :=
  match content with
  | .character => inferInstanceAs (LawfulForm Char)
  | .length => inferInstanceAs (LawfulForm UInt64)

/-- The name of the member that gives a part. -/
def Part.member : Part → String
  | .querySeparator => "query_separator"
  | .pairSeparator => "parameter_separator"
  | .valueSeparator => "key_value_separator"
  | .listSeparator => "list_separator"
  | .rangeSeparator => "range_separator"
  | .sortModifier => "sort_modifier"
  | .wildcard => "wildcard"
  | .minLength => "min_length"
  | .maxLength => "max_length"

theorem nodup_member : (Part.all.map Part.member).Nodup := by decide

theorem Part.member_inj {part part' : Part} (h : part.member = part'.member) : part = part' :=
  List.inj_on_of_nodup_map nodup_member part.mem_all part'.mem_all h

theorem names_fields : fields.map Field.name = Part.all.map Part.member := rfl

/-- Choosing settings is choosing each of their parts. -/
theorem chosenFrom_iff {members : List (String × Json)} {s : Settings} :
    s.ChosenFrom members ↔
      ∀ part : Part, Field.Chosen members part.member (part.get default) (part.get s) := by
  constructor
  · intro h part
    cases part with
    | querySeparator => exact h.querySeparator
    | pairSeparator => exact h.pairSeparator
    | valueSeparator => exact h.valueSeparator
    | listSeparator => exact h.listSeparator
    | rangeSeparator => exact h.rangeSeparator
    | sortModifier => exact h.sortModifier
    | wildcard => exact h.wildcard
    | minLength => exact h.minLength
    | maxLength => exact h.maxLength
  · intro h
    exact ⟨h .querySeparator, h .pairSeparator, h .valueSeparator, h .listSeparator,
      h .rangeSeparator, h .sortModifier, h .wildcard, h .minLength, h .maxLength⟩

variable {s t : Settings} {parts : Set Part} {members : List (String × Json)} {count : Nat}

/-! ## Settings that are given in part -/

/-- Members that give some parts of settings.  There may be members of other names beside them. -/
structure Holds (s : Settings) (parts : Set Part) (members : List (String × Json)) : Prop where
  unrepeated : Json.Unrepeated members
  given : ∀ part ∈ parts, members.lookup part.member = some (toJson (part.get s))
  lacking : ∀ part ∉ parts, members.lookup part.member = none

/-- Settings that have some parts of others, and the defaults elsewhere. -/
structure LaidOver (s : Settings) (parts : Set Part) (t : Settings) : Prop where
  given : ∀ part ∈ parts, part.get t = part.get s
  lacking : ∀ part ∉ parts, part.get t = part.get default

theorem exists_laidOver (s : Settings) (parts : Set Part) : ∃ t, s.LaidOver parts t := by
  classical
  refine ⟨ofParts fun part => if part ∈ parts then part.get s else part.get default, ?_, ?_⟩
  · intro part hpart
    rw [get_ofParts, if_pos hpart]
  · intro part hpart
    rw [get_ofParts, if_neg hpart]

theorem LaidOver.unique {t' : Settings} (ht : s.LaidOver parts t) (ht' : s.LaidOver parts t') :
    t = t' := by
  apply ext_get
  intro part
  by_cases hpart : part ∈ parts
  · rw [ht.given part hpart, ht'.given part hpart]
  · rw [ht.lacking part hpart, ht'.lacking part hpart]

/-- Parts that are given are read on top of the defaults. -/
theorem Holds.ofJson_eq (h : s.Holds parts members) (ht : s.LaidOver parts t) :
    ofJson (.record members) = .ok t := by
  rw [ofJson_record_eq_ok_iff h.unrepeated, chosenFrom_iff]
  intro part
  by_cases hpart : part ∈ parts
  · rw [ht.given part hpart]
    exact .given (h.given part hpart) (ofJson_toJson _)
  · rw [ht.lacking part hpart]
    exact .absent (h.lacking part hpart)

/-! ## The first parts -/

/-- The members of the first parts of settings, in their order. -/
def firsts (s : Settings) (count : Nat) : List (String × Json) :=
  (Part.all.take count).map fun part => (part.member, toJson (part.get s))

theorem names_firsts (s : Settings) (count : Nat) :
    (s.firsts count).map Prod.fst = (Part.all.take count).map Part.member := by
  rw [firsts, List.map_map]
  rfl

theorem mem_firsts {part : Part} {j : Json} : (part.member, j) ∈ s.firsts count ↔
    part ∈ Part.all.take count ∧ toJson (part.get s) = j := by
  rw [firsts, List.mem_map]
  constructor
  · rintro ⟨part', hpart, heq⟩
    obtain rfl := Part.member_inj (Prod.mk.inj heq).1
    exact ⟨hpart, (Prod.mk.inj heq).2⟩
  · rintro ⟨hpart, rfl⟩
    exact ⟨part, hpart, rfl⟩

theorem holds_of_perm (h : members.Perm (s.firsts count)) :
    s.Holds {part | part ∈ Part.all.take count} members := by
  have hfirsts : Json.Unrepeated (s.firsts count) := by
    rw [Json.Unrepeated, names_firsts]
    exact ((List.take_sublist count Part.all).map Part.member).nodup nodup_member
  have hu : Json.Unrepeated members := hfirsts.of_perm h
  have hlookup : ∀ (part : Part) (j : Json), members.lookup part.member = some j ↔
      part ∈ Part.all.take count ∧ toJson (part.get s) = j := by
    intro part j
    rw [hu.lookup_eq_some_iff, h.mem_iff, mem_firsts]
  refine ⟨hu, ?_, ?_⟩
  · intro part hpart
    exact (hlookup part _).mpr ⟨hpart, rfl⟩
  · intro part hpart
    rw [Option.eq_none_iff_forall_ne_some]
    intro j hj
    exact hpart ((hlookup part j).mp hj).1

theorem ofJson_firsts (s : Settings) (count : Nat) :
    ofJson (.list ((s.firsts count).map Prod.snd)) = ofJson (.record (s.firsts count)) := by
  apply ofJson_list_eq
  rw [names_firsts, names_fields]
  exact (List.take_prefix count Part.all).map Part.member

/-- Settings are read as far as they are given, on top of the defaults.  This is so for a record
that gives any of their parts beside other members, and for the list of the first parts, which is
read as the record of these is.  The form that is written gives all parts, so it is read back. -/
theorem ofJson_overlays (s : Settings) :
    (∀ parts members, s.Holds parts members →
      ∃ t, ofJson (.record members) = .ok t ∧ s.LaidOver parts t) ∧
    (∀ count members, members.Perm (s.firsts count) →
      ofJson (.list ((s.firsts count).map Prod.snd)) = ofJson (.record members) ∧
      ∃ t, ofJson (.record members) = .ok t ∧ s.LaidOver {part | part ∈ Part.all.take count} t) ∧
    ∀ j, Json.Rearranges j (toJson s) → ofJson j = .ok s := by
  refine ⟨?_, ?_, fun j => ofJson_of_rearranges⟩
  · intro parts members h
    obtain ⟨t, ht⟩ := s.exists_laidOver parts
    exact ⟨t, h.ofJson_eq ht, ht⟩
  · intro count members h
    obtain ⟨t, ht⟩ := s.exists_laidOver {part | part ∈ Part.all.take count}
    have hmembers : ofJson (.record members) = .ok t := (holds_of_perm h).ofJson_eq ht
    have hfirsts : ofJson (.record (s.firsts count)) = .ok t :=
      (holds_of_perm (.refl _)).ofJson_eq ht
    refine ⟨?_, t, hmembers, ht⟩
    rw [ofJson_firsts, hfirsts, hmembers]

theorem ofJson_overlays_two_parts :
    let s : Settings := { default with pairSeparator := ';', maxLength := 80, wildcard := '%' }
    ofJson (.record [("max_length", .integer 80), ("parameter_separator", .text ";"),
        ("zone", .null)]) = .ok { default with pairSeparator := ';', maxLength := 80 } ∧
      ofJson (.list [.text "?", .text ";"]) = .ok { default with pairSeparator := ';' } ∧
      ofJson (toJson s) = .ok s := by
  intro s
  obtain ⟨hrecord, hlist, hwritten⟩ := s.ofJson_overlays
  refine ⟨?_, ?_, hwritten _ (.record (.refl _))⟩
  · have hholds : s.Holds {.pairSeparator, .maxLength} [("max_length", .integer 80),
        ("parameter_separator", .text ";"), ("zone", .null)] := by
      refine ⟨by simp [Json.Unrepeated], ?_, ?_⟩
      · rintro part (rfl | rfl) <;> rfl
      · intro part hpart
        cases part <;> first | rfl | simp at hpart
    obtain ⟨t, ht, hover⟩ := hrecord _ _ hholds
    rw [ht, hover.unique ⟨?_, ?_⟩]
    · rintro part (rfl | rfl) <;> rfl
    · intro part hpart
      cases part <;> first | rfl | simp at hpart
  · obtain ⟨heq, t, ht, hover⟩ := hlist 2 _ (.refl _)
    have hitems : ofJson (.list [.text "?", .text ";"]) = .ok t := heq.trans ht
    rw [hitems, hover.unique ⟨?_, ?_⟩]
    · intro part hpart
      have htwo : part = .querySeparator ∨ part = .pairSeparator := by
        simpa [Part.all] using hpart
      rcases htwo with rfl | rfl <;> rfl
    · intro part hpart
      cases part <;> first | rfl | simp [Part.all] at hpart

end TypedQuery.Settings
