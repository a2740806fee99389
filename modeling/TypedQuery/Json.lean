import TypedQuery.Decimal.Binary64

/-!
# JSON values

A JSON document as a value.  Numbers come in two forms: integers, and doubles
for everything that is written with a fraction or an exponent or does not fit 64
bits.

A record is a list of members.  In what reading a document gives, the names of
each record are *ascending* in the order of their code points, and so none is
given twice.  `ascending_insertMember` says that putting in a member keeps them
so.
-/

namespace TypedQuery

/-- A JSON value. -/
inductive Json where
  | null
  | bool (b : Bool)
  | integer (n : Int)
  | double (x : Binary64)
  | text (s : String)
  | list (items : List Json)
  | record (members : List (String × Json))
  deriving Repr

namespace Json

/-- The member of a record with a name. -/
def member? (name : String) : Json → Option Json
  | .record members => members.lookup name
  | _ => none

/-- Puts a member at its place in the members of a record.  A member of the same name is
replaced. -/
def insertMember (name : String) (value : Json) : List (String × Json) → List (String × Json)
  | [] => [(name, value)]
  | (other, old) :: rest =>
    if name < other then (name, value) :: (other, old) :: rest
    else if name = other then (name, value) :: rest
    else (other, old) :: insertMember name value rest

/-- Puts in a member, unless there is one of the same name. -/
def addMember (name : String) (value : Json) (members : List (String × Json)) :
    List (String × Json) :=
  match members.lookup name with
  | some _ => members
  | none => insertMember name value members

/-- Puts in members one after the other, each unless there is one of the same name. -/
def addMembers (additions members : List (String × Json)) : List (String × Json) :=
  additions.foldl (fun members addition => addMember addition.1 addition.2 members) members

theorem lookup_insertMember_of_ne {name other : String} (h : other ≠ name) (value : Json)
    (members : List (String × Json)) :
    (insertMember name value members).lookup other = members.lookup other := by
  have hb : (other == name) = false := by simpa using h
  induction members with
  | nil => simp [insertMember, h]
  | cons m rest ih =>
    obtain ⟨key, old⟩ := m
    simp only [insertMember]
    split
    · simp [List.lookup_cons, hb]
    · split
      · next hk => simp [List.lookup_cons, hb, ← hk]
      · simp only [List.lookup_cons, ih]

/-- Whether the names of members ascend. -/
def Ascending (members : List (String × Json)) : Prop :=
  members.Pairwise fun a b => a.1 < b.1

theorem mem_insertMember {name : String} {value : Json} {members : List (String × Json)}
    {m : String × Json} (h : m ∈ insertMember name value members) :
    m = (name, value) ∨ m ∈ members := by
  induction members with
  | nil => simp_all [insertMember]
  | cons first rest ih =>
    simp only [insertMember] at h
    split at h
    · rcases List.mem_cons.mp h with rfl | h
      · exact Or.inl rfl
      · exact Or.inr h
    · split at h
      · rcases List.mem_cons.mp h with rfl | h
        · exact Or.inl rfl
        · exact Or.inr (List.mem_cons_of_mem _ h)
      · rcases List.mem_cons.mp h with rfl | h
        · exact Or.inr List.mem_cons_self
        · exact (ih h).imp_right (List.mem_cons_of_mem _)

/-- Putting in a member keeps the names ascending. -/
theorem ascending_insertMember {members : List (String × Json)} (h : Ascending members)
    (name : String) (value : Json) : Ascending (insertMember name value members) := by
  induction members with
  | nil => simp [insertMember, Ascending]
  | cons first rest ih =>
    obtain ⟨hfirst, hrest⟩ := List.pairwise_cons.mp h
    simp only [insertMember]
    split
    · next hlt =>
      refine List.pairwise_cons.mpr ⟨fun m hm => ?_, h⟩
      rcases List.mem_cons.mp hm with rfl | hm
      · exact hlt
      · exact String.lt_trans hlt (hfirst m hm)
    · next hge =>
      split
      · next heq => exact List.pairwise_cons.mpr ⟨fun m hm => heq ▸ hfirst m hm, hrest⟩
      · next hne =>
        refine List.pairwise_cons.mpr ⟨fun m hm => ?_, ih hrest⟩
        rcases mem_insertMember hm with rfl | hm
        · have hle : first.1 ≤ name := String.not_lt.mp hge
          exact Std.lt_of_le_of_ne hle (Ne.symm hne)
        · exact hfirst m hm

end Json

end TypedQuery
