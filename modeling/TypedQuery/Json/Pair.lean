import TypedQuery.Json.Form

/-!
# Records of two members

Several notions have a JSON form that is a record of two members, both required.
The members are read in the order in which they stand.  Only then is it asked
whether one is missing.
-/

namespace TypedQuery.Json

variable {α β : Type} [JsonForm α] [JsonForm β]

/-- The record of two members. -/
def pair (first second : String) (a : α) (b : β) : Json :=
  .record [(first, toJson a), (second, toJson b)]

/-- What has been read of two members. -/
def pairMember (first second : String) (found : Option α × Option β) (member : String × Json) :
    Formed (Option α × Option β) :=
  if member.1 = first then (ofJson member.2).map fun a => (some a, found.2)
  else if member.1 = second then (ofJson member.2).map fun b => (found.1, some b)
  else .ok found

/-- A member that must not be missing. -/
def required {γ : Type} (name : String) : Option γ → Formed γ
  | some c => .ok c
  | none => .error (.missingMember name)

@[simp] theorem required_eq_ok_iff {γ : Type} {name : String} {found : Option γ} {c : γ} :
    required name found = .ok c ↔ found = some c := by
  cases found <;> simp [required]

/-- The two members of a record. -/
def readPair (first second : String) (members : List (String × Json)) : Formed (α × β) := do
  let (a, b) ← members.foldlM (pairMember first second) (none, none)
  return (← required first a, ← required second b)

theorem readPair_pair [LawfulForm α] [LawfulForm β] {first second : String} (h : first ≠ second)
    (a : α) (b : β) :
    readPair first second [(first, toJson a), (second, toJson b)] = .ok (a, b) := by
  simp [readPair, pairMember, h.symm, ofJson_toJson, Except.map, required, bind, Except.bind,
    pure, Except.pure]

end TypedQuery.Json
