import TypedQuery.Declaration
import TypedQuery.Json.Pair
import TypedQuery.Rule.Json

/-!
# The JSON form of declarations

A declaration is written as a record.  The kind of its rule stands under `type`,
and the choices of the rule are members of the same record.  The field is left
out if it is the name.

When read, only the name and the kind are required.  The members that are about
the parameter itself come first, then the kind, then the choices of the rule.
What is wrong is looked for in this order.  The kind may also be given by its
number.
-/

namespace TypedQuery

/-- An optional text.  What is absent is written as `null`. -/
instance : JsonForm (Option String) where
  toJson
    | some s => .text s
    | none => .null
  ofJson
    | .null => .ok none
    | j => (ofJson j).map some

instance : LawfulForm (Option String) := ⟨fun s => by cases s <;> rfl⟩

namespace Declaration

/-- The members that are about the parameter itself. -/
def fields : List (Field Declaration) :=
  [ .of "name" name fun s d => { d with name := s },
    .of "output_name" output fun s d => { d with output := s },
    .of "include_in_output" included fun b d => { d with included := b },
    .of "output_condition" occur fun o d => { d with occur := o } ]

/-- What a record declares as long as none of its members has been read. -/
def blank : Declaration where
  name := ""
  output := none
  included := true
  occur := .should
  rule := .boolean

/-- The kind that a tag names or numbers. -/
def kindOfTag : Json → Formed Kind
  | .integer (.ofNat n) =>
    match (Vocabulary.members : List Kind)[n]? with
    | some kind => .ok kind
    | none => .error (.wrongValue (.integer n) "variant index 0 <= i < 6")
  | tag => Vocabulary.ofTag tag

/-- Reads a declaration.  The choices of its rule are read on top of the one that its kind
starts from. -/
def ofJson (base : Kind → Rule) : Json → Formed Declaration
  | .record members => do
    let d ← Field.overlay fields blank members
    let _ ← Json.required "name" (members.lookup "name")
    let kind ← kindOfTag (← Json.required "type" (members.lookup "type"))
    let rule ← (base kind).overlay members
    return { d with rule }
  | found => .error (.wrongType found "struct ParameterSpec")

/-- The members that are written for a declaration. -/
def members (d : Declaration) : List (String × Json) :=
  let own := (Field.members fields d).filter fun m => m.1 != "output_name" || d.output.isSome
  own ++ ("type", toJson d.kind) :: d.rule.members

instance : JsonForm Declaration where
  toJson d := .record d.members
  ofJson := ofJson Rule.default

end Declaration

end TypedQuery
