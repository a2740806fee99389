import Mathlib.Data.List.Pairwise
import TypedQuery.Json.Form
import TypedQuery.Proofs.Json.Members

/-!
# What an overlay leaves

The fields of a record are *lawful* if they do not get into each other's way:
their names differ, the updates of two of them commute, and a second update of
one of them undoes the first.

For lawful fields the order of the members decides which error is found, and
nothing else.  An update can be drawn forward over members of other names
(`overlay_update`), which has two consequences.

* Putting in members that a record lacks is the same as reading the record on
  top of what these members say (`overlay_addMembers`).  The same error is found.
* Each part of the record that is read comes from one member, the one of its
  name, or else from the base (`overlay_eq_ok_iff`, `pick_of_eq_ok_iff`).

Members without a field do not count at all (`overlay_filter`).  A list is read as
the record that names its items (`overlayItems_eq`).
-/

namespace TypedQuery

/-! ## Results in stages -/

section

variable {ε ε' α β : Type} {x : Except ε α} {b : β} {e : ε}

theorem map_eq_ok_iff {f : α → β} : x.map f = .ok b ↔ ∃ a, x = .ok a ∧ f a = b := by
  cases x <;> simp [Except.map]

theorem mapError_eq_ok_iff {f : ε → ε'} {a : α} : x.mapError f = .ok a ↔ x = .ok a := by
  cases x <;> simp [Except.mapError]

theorem mapError_eq_error_iff {f : ε → ε'} {e' : ε'} :
    x.mapError f = .error e' ↔ ∃ e, x = .error e ∧ f e = e' := by
  cases x <;> simp [Except.mapError]

theorem bind_eq_ok_iff {f : α → Except ε β} : x >>= f = .ok b ↔ ∃ a, x = .ok a ∧ f a = .ok b := by
  cases x <;> simp [bind, Except.bind]

/-- The first stage that fails gives the error. -/
theorem bind_eq_error_iff {f : α → Except ε β} :
    x >>= f = .error e ↔ x = .error e ∨ ∃ a, x = .ok a ∧ f a = .error e := by
  cases x <;> simp [bind, Except.bind]

end

namespace Field

variable {ρ : Type} {fields : List (Field ρ)} {f g : Field ρ} {base r : ρ} {u v : ρ → ρ}
  {member member' : String × Json} {members : List (String × Json)}

/-! ## Lawful fields -/

/-- Two fields that do not get into each other's way. -/
structure Apart (f g : Field ρ) : Prop where
  name_ne : f.name ≠ g.name
  comm : ∀ {j k : Json} {u v : ρ → ρ}, f.read j = .ok u → g.read k = .ok v →
    ∀ r, u (v r) = v (u r)

/-- Nothing of an update is left after another one by the same field. -/
def Overwrites (f : Field ρ) : Prop :=
  ∀ {j k : Json} {u v : ρ → ρ}, f.read j = .ok u → f.read k = .ok v → ∀ r, u (v r) = u r

/-- Fields each of which is about a part of its own. -/
structure Lawful (fields : List (Field ρ)) : Prop where
  apart : fields.Pairwise Apart
  overwrites : ∀ f ∈ fields, f.Overwrites

theorem Apart.symm (h : f.Apart g) : g.Apart f :=
  ⟨h.name_ne.symm, fun hu hv r => (h.comm hv hu r).symm⟩

section

variable {α β : Type} [JsonForm α] [JsonForm β] {name name' : String} {get : ρ → α}
  {set : α → ρ → ρ} {get' : ρ → β} {set' : β → ρ → ρ}

theorem read_of_eq_ok_iff {j : Json} :
    (Field.of name get set).read j = .ok u ↔ ∃ a, ofJson j = .ok a ∧ set a = u := by
  simp only [Field.of, map_eq_ok_iff]

theorem apart_of (hname : name ≠ name') (hset : ∀ a b r, set a (set' b r) = set' b (set a r)) :
    (Field.of name get set).Apart (Field.of name' get' set') := by
  refine ⟨hname, ?_⟩
  intro j k u v hu hv r
  obtain ⟨a, -, rfl⟩ := read_of_eq_ok_iff.mp hu
  obtain ⟨b, -, rfl⟩ := read_of_eq_ok_iff.mp hv
  exact hset a b r

theorem overwrites_of (hset : ∀ a b r, set a (set b r) = set a r) :
    (Field.of name get set).Overwrites := by
  intro j k u v hu hv r
  obtain ⟨a, -, rfl⟩ := read_of_eq_ok_iff.mp hu
  obtain ⟨b, -, rfl⟩ := read_of_eq_ok_iff.mp hv
  exact hset a b r

end

theorem Lawful.tail (h : Lawful (f :: fields)) : Lawful fields :=
  ⟨h.apart.tail, fun g hg => h.overwrites g (List.mem_cons_of_mem _ hg)⟩

/-! ## The update of a member -/

theorem update_eq_of_find? (h : fields.find? (·.name == member.1) = some f) :
    update fields member = f.read member.2 := by
  simp only [update, h]

theorem update_of_foreign (h : member.1 ∉ fields.map Field.name) :
    update fields member = .ok id := by
  have hnone : fields.find? (·.name == member.1) = none := by
    rw [List.find?_eq_none]
    intro f hf heq
    exact h (eq_of_beq heq ▸ List.mem_map_of_mem hf)
  simp only [update, hnone]

theorem update_cons_self (h : member.1 = f.name) :
    update (f :: fields) member = f.read member.2 := by
  simp [update, h]

theorem update_cons_of_ne (h : member.1 ≠ f.name) :
    update (f :: fields) member = update fields member := by
  have hbeq : (f.name == member.1) = false := by simpa using h.symm
  simp [update, hbeq]

/-- Either a member has a field, or it does nothing. -/
theorem update_cases (fields : List (Field ρ)) (member : String × Json) :
    (∃ f ∈ fields, f.name = member.1 ∧ update fields member = f.read member.2) ∨
      update fields member = .ok id := by
  cases h : fields.find? (·.name == member.1) with
  | none => exact .inr (by simp only [update, h])
  | some f =>
    exact .inl ⟨f, List.mem_of_find?_eq_some h, by simpa using List.find?_some h,
      update_eq_of_find? h⟩

theorem Lawful.update_comm (h : Lawful fields) (hne : member.1 ≠ member'.1)
    (hu : update fields member = .ok u) (hv : update fields member' = .ok v) (r : ρ) :
    u (v r) = v (u r) := by
  rcases update_cases fields member with ⟨f, hf, hfname, hfread⟩ | hid
  · rcases update_cases fields member' with ⟨g, hg, hgname, hgread⟩ | hid'
    · have : Std.Symm (@Apart ρ) := ⟨fun _ _ => Apart.symm⟩
      have hfg : f ≠ g := fun heq => hne (by rw [← hfname, ← hgname, heq])
      exact (h.apart.forall hf hg hfg).comm (hfread.symm.trans hu) (hgread.symm.trans hv) r
    · obtain rfl := Except.ok.inj (hid'.symm.trans hv)
      rfl
  · obtain rfl := Except.ok.inj (hid.symm.trans hu)
    rfl

theorem Lawful.update_overwrites (h : Lawful fields) (heq : member.1 = member'.1)
    (hu : update fields member = .ok u) (hv : update fields member' = .ok v) (r : ρ) :
    u (v r) = u r := by
  cases hfind : fields.find? (·.name == member.1) with
  | none =>
    have hid : update fields member' = .ok id := by simp only [update, ← heq, hfind]
    obtain rfl := Except.ok.inj (hid.symm.trans hv)
    rfl
  | some f =>
    rw [update_eq_of_find? hfind] at hu
    rw [update_eq_of_find? (heq ▸ hfind)] at hv
    exact h.overwrites f (List.mem_of_find?_eq_some hfind) hu hv r

/-! ## One member more -/

theorem overlay_of_nil : overlay ([] : List (Field ρ)) base members = .ok base :=
  overlay_of_foreign (fun _ _ => rfl) base

theorem overlay_cons : overlay fields base (member :: members) =
    (update fields member).bind fun u => overlay fields (u base) members := by
  simp only [overlay, List.foldlM_cons]
  cases update fields member <;> rfl

theorem overlay_cons_of_ok (h : update fields member = .ok u) :
    overlay fields base (member :: members) = overlay fields (u base) members := by
  rw [overlay_cons, h]
  rfl

/-- An update can be made before or after members of other names. -/
theorem Lawful.overlay_update (h : Lawful fields) (hu : update fields member = .ok u)
    (hne : ∀ m ∈ members, m.1 ≠ member.1) :
    overlay fields (u base) members = (overlay fields base members).map u := by
  induction members generalizing base with
  | nil => rfl
  | cons first rest ih =>
    rw [overlay_cons, overlay_cons]
    cases hfirst : update fields first with
    | error e => rfl
    | ok v =>
      have hcomm : v (u base) = u (v base) :=
        h.update_comm (hne first List.mem_cons_self) hfirst hu base
      show overlay fields (v (u base)) rest = (overlay fields (v base) rest).map u
      rw [hcomm]
      exact ih fun m hm => hne m (List.mem_cons_of_mem _ hm)

/-- A member between others can be read before them. -/
theorem Lawful.overlay_insert (h : Lawful fields) (hu : update fields member = .ok u)
    {before after : List (String × Json)} (hne : ∀ m ∈ before, m.1 ≠ member.1) :
    overlay fields base (before ++ member :: after)
      = overlay fields (u base) (before ++ after) := by
  rw [overlay_append, overlay_append, h.overlay_update hu hne]
  cases overlay fields base before with
  | error e => rfl
  | ok r => exact overlay_cons_of_ok hu

/-- An update is without effect if a member of the same name is read after it. -/
theorem Lawful.overlay_absorb (h : Lawful fields) (hu : update fields member = .ok u)
    (hmem : member.1 ∈ members.map Prod.fst) :
    overlay fields (u base) members = overlay fields base members := by
  induction members generalizing base with
  | nil => exact absurd hmem List.not_mem_nil
  | cons first rest ih =>
    rw [overlay_cons, overlay_cons]
    cases hfirst : update fields first with
    | error e => rfl
    | ok v =>
      show overlay fields (v (u base)) rest = overlay fields (v base) rest
      by_cases hname : first.1 = member.1
      · rw [h.update_overwrites hname hfirst hu]
      · have hrest : member.1 ∈ rest.map Prod.fst :=
          (List.mem_cons.mp hmem).resolve_left fun heq => hname heq.symm
        rw [h.update_comm hname hfirst hu]
        exact ih hrest

/-! ## Members that are put in -/

/-- Putting in a member unless there is one of its name is reading on top of it. -/
theorem Lawful.overlay_addMember (h : Lawful fields) {name : String} {value : Json}
    (hu : update fields (name, value) = .ok u) :
    overlay fields base (Json.addMember name value members) = overlay fields (u base) members := by
  cases hlookup : members.lookup name with
  | some found =>
    have hmem : name ∈ members.map Prod.fst := by
      obtain ⟨before, after, rfl, -⟩ := List.lookup_eq_some_iff.mp hlookup
      simp
    simp only [Json.addMember, hlookup]
    exact (h.overlay_absorb hu hmem).symm
  | none =>
    obtain ⟨before, after, rfl, hinsert⟩ := Json.insertMember_eq_append value hlookup
    simp only [Json.addMember, hlookup, hinsert]
    apply h.overlay_insert hu
    intro m hm
    exact Json.ne_of_lookup_eq_none hlookup (List.mem_append_left _ hm)

/-- Putting in members that are lacking is reading on top of what they say. -/
theorem Lawful.overlay_addMembers (h : Lawful fields) {additions : List (String × Json)}
    (hunrepeated : Json.Unrepeated additions) {base' : ρ}
    (hbase : overlay fields base additions = .ok base') :
    overlay fields base (Json.addMembers additions members) = overlay fields base' members := by
  induction additions generalizing base base' members with
  | nil =>
    cases hbase
    rfl
  | cons addition rest ih =>
    cases hu : update fields addition with
    | error e => simp [overlay_cons, hu, Except.bind] at hbase
    | ok u =>
      rw [overlay_cons_of_ok hu, h.overlay_update hu fun m hm => hunrepeated.ne_of_mem hm] at hbase
      cases hrest : overlay fields base rest with
      | error e => simp [hrest, Except.map] at hbase
      | ok r =>
        obtain rfl : u r = base' := by simpa [hrest, Except.map] using hbase
        -- The first addition is made first, and so it is what the others are read on top of.
        show overlay fields base
          (Json.addMembers rest (Json.addMember addition.1 addition.2 members)) = _
        rw [ih hunrepeated.tail hrest, h.overlay_addMember hu]

/-! ## Members that count -/

/-- Members without a field do not count. -/
theorem overlay_filter (fields : List (Field ρ)) (base : ρ) (members : List (String × Json)) :
    overlay fields base (members.filter fun m => decide (m.1 ∈ fields.map Field.name))
      = overlay fields base members := by
  induction members generalizing base with
  | nil => rfl
  | cons member rest ih =>
    by_cases hmem : member.1 ∈ fields.map Field.name
    · rw [List.filter_cons_of_pos (by simpa using hmem), overlay_cons, overlay_cons]
      cases update fields member with
      | error e => rfl
      | ok u => exact ih (u base)
    · rw [List.filter_cons_of_neg (by simpa using hmem), ih,
        overlay_cons_of_ok (update_of_foreign hmem)]
      rfl

/-- Where nothing is said under the names of the fields, nothing changes. -/
theorem overlay_of_absent (h : ∀ name ∈ fields.map Field.name, members.lookup name = none) :
    overlay fields base members = .ok base := by
  apply overlay_of_foreign
  intro member hmem
  rw [List.find?_eq_none]
  intro f hf heq
  have hnone := h f.name (List.mem_map_of_mem hf)
  exact Json.ne_of_lookup_eq_none hnone hmem (eq_of_beq heq).symm

/-- Records that say the same under the names of the fields are read the same, and the same is
wrong with them. -/
theorem overlay_eq_of_lookup_eq {members' : List (String × Json)} (h : Json.Ascending members)
    (h' : Json.Ascending members')
    (hlookup : ∀ name ∈ fields.map Field.name, members.lookup name = members'.lookup name) :
    overlay fields base members = overlay fields base members' := by
  have hfilter := Json.filter_eq_of_lookup_eq h h'
    (p := fun name => decide (name ∈ fields.map Field.name)) fun name hname =>
      hlookup name (by simpa using hname)
  rw [← overlay_filter, hfilter, overlay_filter]

/-! ## Where the parts come from -/

/-- A part that a member of a record gives, or else the part of a base. -/
inductive Chosen {α : Type} [JsonForm α] (members : List (String × Json)) (name : String)
    (base : α) : α → Prop where
  | given {j : Json} {a : α} : members.lookup name = some j → ofJson j = .ok a →
      Chosen members name base a
  | absent : members.lookup name = none → Chosen members name base base

theorem Chosen.ofJson_of_lookup {α : Type} [JsonForm α] {name : String} {base a : α} {j : Json}
    (h : Chosen members name base a) (hlookup : members.lookup name = some j) :
    ofJson j = .ok a := by
  cases h with
  | given hfound ha =>
    obtain rfl := Option.some.inj (hlookup.symm.trans hfound)
    exact ha
  | absent hnone => exact absurd (hnone.symm.trans hlookup) (by simp)

/-- What is written for a part is chosen for it. -/
theorem Chosen.of_mem {α : Type} [JsonForm α] [LawfulForm α] {name : String} {base a : α}
    (hunrepeated : Json.Unrepeated members) (hmem : (name, toJson a) ∈ members) :
    Chosen members name base a :=
  .given (hunrepeated.lookup_eq_some_iff.mpr hmem) (ofJson_toJson a)

/-- All members of a record that has been read are of their form. -/
theorem exists_update_of_mem (hread : overlay fields base members = .ok r)
    (hmem : member ∈ members) : ∃ u, update fields member = .ok u := by
  induction members generalizing base with
  | nil => exact absurd hmem List.not_mem_nil
  | cons first rest ih =>
    cases hfirst : update fields first with
    | error e => simp [overlay_cons, hfirst, Except.bind] at hread
    | ok u =>
      rcases List.mem_cons.mp hmem with rfl | hmem
      · exact ⟨u, hfirst⟩
      · rw [overlay_cons_of_ok hfirst] at hread
        exact ih hread hmem

/-- A field that no member has the name of does not count. -/
theorem overlay_cons_of_absent (h : ∀ m ∈ members, m.1 ≠ f.name) :
    overlay (f :: fields) base members = overlay fields base members := by
  induction members generalizing base with
  | nil => rfl
  | cons member rest ih =>
    rw [overlay_cons, overlay_cons, update_cons_of_ne (h member List.mem_cons_self)]
    cases update fields member with
    | error e => rfl
    | ok u => exact ih fun m hm => h m (List.mem_cons_of_mem _ hm)

/-- The member of a field can be read first, and then it does not count any more. -/
theorem Lawful.overlay_cons_of_given (h : Lawful (f :: fields))
    (hunrepeated : Json.Unrepeated members) {j : Json} (hlookup : members.lookup f.name = some j)
    (hu : f.read j = .ok u) :
    overlay (f :: fields) base members = overlay fields (u base) members := by
  obtain ⟨before, after, rfl, -⟩ := List.lookup_eq_some_iff.mp hlookup
  have hnames : Json.Unrepeated ((f.name, j) :: (before ++ after)) :=
    hunrepeated.of_perm List.perm_middle.symm
  have hne : ∀ m ∈ before ++ after, m.1 ≠ f.name := fun m hm => hnames.ne_of_mem hm
  have hbefore : ∀ m ∈ before, m.1 ≠ f.name := fun m hm => hne m (List.mem_append_left _ hm)
  have hupdate : update (f :: fields) (f.name, j) = .ok u := (update_cons_self rfl).trans hu
  have hforeign : update fields (f.name, j) = .ok id := by
    apply update_of_foreign
    intro hmem
    obtain ⟨g, hg, hgname⟩ := List.mem_map.mp hmem
    exact (List.rel_of_pairwise_cons h.apart hg).name_ne hgname.symm
  rw [h.overlay_insert hupdate hbefore, overlay_cons_of_absent hne,
    h.tail.overlay_insert hforeign hbefore]
  rfl

/-- What the member of a field, if there is one, makes of a record. -/
def pick (f : Field ρ) (members : List (String × Json)) (r : ρ) : Formed ρ :=
  match members.lookup f.name with
  | some j => (f.read j).map fun u => u r
  | none => .ok r

theorem pick_of_eq_ok_iff {α : Type} [JsonForm α] {name : String} {get : ρ → α}
    {set : α → ρ → ρ} (hself : ∀ r, set (get r) r = r) :
    (Field.of name get set).pick members base = .ok r ↔
      ∃ a, Chosen members name (get base) a ∧ set a base = r := by
  cases hlookup : members.lookup name with
  | none =>
    simp only [pick, Field.of, hlookup]
    constructor
    · rintro ⟨⟩
      exact ⟨_, .absent hlookup, hself base⟩
    · rintro ⟨a, hchosen, rfl⟩
      cases hchosen with
      | given hfound _ => exact absurd (hlookup.symm.trans hfound) (by simp)
      | absent _ => rw [hself]
  | some j =>
    simp only [pick, Field.of, hlookup, map_eq_ok_iff]
    constructor
    · rintro ⟨_, ⟨a, ha, rfl⟩, rfl⟩
      exact ⟨a, .given hlookup ha, rfl⟩
    · rintro ⟨a, hchosen, rfl⟩
      exact ⟨_, ⟨a, hchosen.ofJson_of_lookup hlookup, rfl⟩, rfl⟩

theorem Lawful.overlay_cons_eq_ok_iff (h : Lawful (f :: fields))
    (hunrepeated : Json.Unrepeated members) : overlay (f :: fields) base members = .ok r ↔
      ∃ r', f.pick members base = .ok r' ∧ overlay fields r' members = .ok r := by
  cases hlookup : members.lookup f.name with
  | none =>
    rw [overlay_cons_of_absent fun m hm => Json.ne_of_lookup_eq_none hlookup hm]
    simp [pick, hlookup]
  | some j =>
    simp only [pick, hlookup, map_eq_ok_iff]
    constructor
    · intro hread
      obtain ⟨u, hu⟩ :=
        exists_update_of_mem hread (hunrepeated.lookup_eq_some_iff.mp hlookup)
      rw [update_cons_self rfl] at hu
      exact ⟨_, ⟨u, hu, rfl⟩, (h.overlay_cons_of_given hunrepeated hlookup hu) ▸ hread⟩
    · rintro ⟨_, ⟨u, hu, rfl⟩, hread⟩
      rw [h.overlay_cons_of_given hunrepeated hlookup hu]
      exact hread

/-- Reading member by member succeeds just where picking field by field does, and comes to the
same. -/
theorem Lawful.overlay_eq_ok_iff (h : Lawful fields) (hunrepeated : Json.Unrepeated members) :
    overlay fields base members = .ok r ↔
      fields.foldlM (fun r f => f.pick members r) base = .ok r := by
  induction fields generalizing base with
  | nil =>
    rw [overlay_of_nil]
    rfl
  | cons f fields ih =>
    rw [h.overlay_cons_eq_ok_iff hunrepeated, List.foldlM_cons, bind_eq_ok_iff]
    exact exists_congr fun r' => and_congr_right fun _ => ih h.tail

/-! ## Lists -/

/-- The items of a list are read as members with the names of the first fields. -/
theorem Lawful.overlayItems_eq (h : Lawful fields)
    (hnames : members.map Prod.fst <+: fields.map Field.name) :
    overlayItems base fields (members.map Prod.snd)
      = (overlay fields base members).map fun r => (r, 0) := by
  induction fields generalizing members base with
  | nil =>
    obtain rfl : members = [] := by simpa using hnames
    rfl
  | cons f fields ih =>
    cases members with
    | nil => rfl
    | cons member rest =>
      obtain ⟨hname, hrest⟩ := List.cons_prefix_cons.mp hnames
      rw [overlay_cons, update_cons_self hname]
      cases hread : f.read member.2 with
      | error e =>
        simp only [List.map_cons, overlayItems, hread]
        rfl
      | ok u =>
        -- What comes after is named as the other fields are, so that this field is done with.
        have hne : ∀ m ∈ rest, m.1 ≠ f.name := by
          intro m hm heq
          obtain ⟨g, hg, hgname⟩ := List.mem_map.mp (hrest.subset (List.mem_map_of_mem hm))
          exact (List.rel_of_pairwise_cons h.apart hg).name_ne (heq.symm.trans hgname.symm)
        have hitems : overlayItems (u base) fields (rest.map Prod.snd) = _ := ih h.tail hrest
        rw [← overlay_cons_of_absent hne] at hitems
        simp only [List.map_cons, overlayItems, hread]
        exact hitems

end Field

end TypedQuery
