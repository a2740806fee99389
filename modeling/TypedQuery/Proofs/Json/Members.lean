import Mathlib.Data.List.Sort
import TypedQuery.Json

/-!
# The members of a record

If no name is given twice, a record is a finite map from names to values: what
is looked up is what stands in it, and the order of the members does not count.
The members of a record that has been read ascend (`ordered_of_ofText?`), and so
they are determined by what they say under each name, also one part of them at a
time (`filter_eq_of_lookup_eq`).

Putting in a member that was not there takes the members apart at one place
(`insertMember_eq_append`).
-/

namespace TypedQuery.Json

variable {name other : String} {value : Json} {members members' : List (String × Json)}

/-! ## Names that are given once -/

/-- No name is given twice. -/
def Unrepeated (members : List (String × Json)) : Prop :=
  (members.map Prod.fst).Nodup

theorem Ascending.unrepeated (h : Ascending members) : Unrepeated members := by
  rw [Unrepeated, List.Nodup, List.pairwise_map]
  refine h.imp ?_
  intro a b hlt heq
  rw [heq] at hlt
  exact String.lt_irrefl _ hlt

theorem Unrepeated.tail {member : String × Json} (h : Unrepeated (member :: members)) :
    Unrepeated members :=
  (List.nodup_cons.mp h).2

/-- The first member of a record has a name that none of the others has. -/
theorem Unrepeated.ne_of_mem {member other : String × Json} (h : Unrepeated (member :: members))
    (hmem : other ∈ members) : other.1 ≠ member.1 := by
  intro heq
  exact (List.nodup_cons.mp h).1 (heq ▸ List.mem_map_of_mem hmem)

theorem Unrepeated.lookup_eq_some_iff (h : Unrepeated members) :
    members.lookup name = some value ↔ (name, value) ∈ members := by
  induction members with
  | nil => simp
  | cons member rest ih =>
    obtain ⟨first, found⟩ := member
    by_cases hname : name = first
    · subst hname
      have hrest : (name, value) ∉ rest := fun hmem => h.ne_of_mem hmem rfl
      simp [hrest, eq_comm]
    · have hbeq : (name == first) = false := by simpa using hname
      simp [List.lookup_cons, hbeq, ih h.tail, hname]

theorem Unrepeated.of_perm (h : Unrepeated members) (hperm : members'.Perm members) :
    Unrepeated members' :=
  (hperm.map Prod.fst).nodup_iff.mpr h

/-- The order of the members does not count. -/
theorem Unrepeated.lookup_of_perm (h : Unrepeated members) (hperm : members'.Perm members)
    (name : String) : members'.lookup name = members.lookup name := by
  have h' : Unrepeated members' := h.of_perm hperm
  apply Option.ext
  intro value
  rw [h'.lookup_eq_some_iff, h.lookup_eq_some_iff, hperm.mem_iff]

/-- A record with the members of another one, in any order. -/
inductive Rearranges : Json → Json → Prop where
  | record {members members' : List (String × Json)} : members'.Perm members →
      Rearranges (.record members') (.record members)

theorem Rearranges.exists_perm {j : Json} (h : Rearranges j (.record members)) :
    ∃ members', j = .record members' ∧ members'.Perm members := by
  cases h with
  | record hperm => exact ⟨_, rfl, hperm⟩

/-- Ascending members are determined, name by name, by what is looked up. -/
theorem filter_eq_of_lookup_eq (h : Ascending members) (h' : Ascending members')
    {p : String → Bool}
    (hlookup : ∀ name, p name = true → members.lookup name = members'.lookup name) :
    members.filter (fun m => p m.1) = members'.filter fun m => p m.1 := by
  have : Std.Antisymm fun a b : String × Json => a.1 < b.1 :=
    ⟨fun a b hab hba => absurd (String.lt_trans hab hba) (String.lt_irrefl _)⟩
  have : Std.Irrefl fun a b : String × Json => a.1 < b.1 := ⟨fun a => String.lt_irrefl a.1⟩
  refine List.Pairwise.eq_of_mem_iff (h.filter _) (h'.filter _) ?_
  rintro ⟨name, value⟩
  simp only [List.mem_filter, ← h.unrepeated.lookup_eq_some_iff,
    ← h'.unrepeated.lookup_eq_some_iff]
  constructor
  · rintro ⟨hfound, hp⟩
    exact ⟨hlookup name hp ▸ hfound, hp⟩
  · rintro ⟨hfound, hp⟩
    exact ⟨(hlookup name hp).symm ▸ hfound, hp⟩

/-! ## Putting in members -/

theorem ne_of_lookup_eq_none (h : members.lookup name = none) {member : String × Json}
    (hmem : member ∈ members) : member.1 ≠ name := by
  have hne := List.lookup_eq_none_iff.mp h member hmem
  exact fun heq => by simp [heq] at hne

/-- A new member stands at one place between the others. -/
theorem insertMember_eq_append (value : Json) (h : members.lookup name = none) :
    ∃ before after, members = before ++ after ∧
      insertMember name value members = before ++ (name, value) :: after := by
  induction members with
  | nil => exact ⟨[], [], rfl, rfl⟩
  | cons member rest ih =>
    obtain ⟨first, found⟩ := member
    have hname : name ≠ first := fun heq => ne_of_lookup_eq_none h List.mem_cons_self heq.symm
    have hbeq : (name == first) = false := by simpa using hname
    by_cases hlt : name < first
    · exact ⟨[], (first, found) :: rest, rfl, by simp [insertMember, hlt]⟩
    · have hrest : rest.lookup name = none := by simpa [List.lookup_cons, hbeq] using h
      obtain ⟨before, after, rfl, hinsert⟩ := ih hrest
      exact ⟨(first, found) :: before, after, rfl, by simp [insertMember, hlt, hname, hinsert]⟩

theorem lookup_addMember_of_ne (h : other ≠ name) :
    (addMember name value members).lookup other = members.lookup other := by
  cases hlookup : members.lookup name with
  | some found => simp only [addMember, hlookup]
  | none => simp only [addMember, hlookup, lookup_insertMember_of_ne h]

/-- A name that is not among the additions keeps what it says. -/
theorem lookup_addMembers_of_not_mem {additions : List (String × Json)}
    (h : other ∉ additions.map Prod.fst) :
    (addMembers additions members).lookup other = members.lookup other := by
  induction additions generalizing members with
  | nil => rfl
  | cons addition rest ih =>
    rw [List.map_cons, List.mem_cons, not_or] at h
    have hstep : addMembers (addition :: rest) members
        = addMembers rest (addMember addition.1 addition.2 members) := rfl
    rw [hstep, ih h.2, lookup_addMember_of_ne h.1]

end TypedQuery.Json
