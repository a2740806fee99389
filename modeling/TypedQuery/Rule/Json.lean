import TypedQuery.Json.Form
import TypedQuery.Rule

/-!
# The JSON form of rules

A rule is written as a record with its kind under `type` and its choices beside
it.  Choices that a record leaves out are taken from a rule that serves as the
default.  A list gives the kind and then the choices in their order, and may end
at any point.
-/

namespace TypedQuery

/-- The choices of a rule for strings. -/
def StringsRule.fields : List (Field StringsRule) :=
  [ .of "list_separator" separator fun c r => { r with separator := c },
    .of "allowed_values" (·.selection.allowed) fun a r => { r with selection.allowed := a },
    .of "deduplicate" (·.selection.distinct) fun b r => { r with selection.distinct := b } ]

/-- The choices of a rule for sort keys. -/
def SortRule.fields : List (Field SortRule) :=
  [ .of "list_separator" separator fun c r => { r with separator := c },
    .of "sort_modifier" modifier fun c r => { r with modifier := c },
    .of "allowed_values" (·.selection.allowed) fun a r => { r with selection.allowed := a },
    .of "deduplicate" (·.selection.distinct) fun b r => { r with selection.distinct := b } ]

/-- The choices of a rule for ranges. -/
def RangeRule.fields : List (Field RangeRule) :=
  [ .of "range_separator" separator fun c r => { r with separator := c },
    .of "min_value" low fun n r => { r with low := n },
    .of "max_value" high fun n r => { r with high := n } ]

/-- The choices of a rule for search terms. -/
def SearchRule.fields : List (Field SearchRule) :=
  [ .of "wildcard" wildcard fun c r => { r with wildcard := c },
    .of "min_length" minLength fun n r => { r with minLength := n },
    .of "max_length" maxLength fun n r => { r with maxLength := n } ]

/-- The choices of a rule for integers. -/
def IntegerRule.fields : List (Field IntegerRule) :=
  [ .of "min_value" low fun n r => { r with low := n },
    .of "max_value" high fun n r => { r with high := n },
    .of "default_value" fallback fun n r => { r with fallback := n } ]

namespace Rule

/-- The members that are written for the choices of a rule. -/
def members : Rule → List (String × Json)
  | .strings r => Field.members StringsRule.fields r
  | .search r => Field.members SearchRule.fields r
  | .sort r => Field.members SortRule.fields r
  | .range r => Field.members RangeRule.fields r
  | .integer r => Field.members IntegerRule.fields r
  | .boolean => []

/-- Reads the choices of a rule from the members of a record, on top of another rule of
its kind. -/
def overlay (members : List (String × Json)) : Rule → Formed Rule
  | .strings r => (Field.overlay StringsRule.fields r members).map .strings
  | .search r => (Field.overlay SearchRule.fields r members).map .search
  | .sort r => (Field.overlay SortRule.fields r members).map .sort
  | .range r => (Field.overlay RangeRule.fields r members).map .range
  | .integer r => (Field.overlay IntegerRule.fields r members).map .integer
  | .boolean => .ok .boolean

/-- Reads the choices of a rule from a list, on top of another rule of its kind, and gives
the number of items that are left over. -/
def overlayItems (items : List Json) : Rule → Formed (Rule × Nat)
  | .strings r => (Field.overlayItems r StringsRule.fields items).map (.map .strings id)
  | .search r => (Field.overlayItems r SearchRule.fields items).map (.map .search id)
  | .sort r => (Field.overlayItems r SortRule.fields items).map (.map .sort id)
  | .range r => (Field.overlayItems r RangeRule.fields items).map (.map .range id)
  | .integer r => (Field.overlayItems r IntegerRule.fields items).map (.map .integer id)
  | .boolean => .ok (.boolean, items.length)

/-- Reads a rule on top of the default rule of its kind. -/
def ofJson : Json → Formed Rule
  | .record members =>
    match members.lookup "type" with
    | none => .error (.missingMember "type")
    | some tag => do (default (← Vocabulary.ofTag tag)).overlay members
  | .list [] => .error (.missingMember "type")
  | .list (tag :: items) => do
    let (rule, more) ← (default (← Vocabulary.ofTag tag)).overlayItems items
    if more = 0 then return rule
    else
      let expected := Decimal.ofNat (items.length - more)
      throw (.wrongLength items.length s!"{expected} elements in sequence")
  | found => .error (.wrongType found "internally tagged enum ParameterKind")

instance : JsonForm Rule where
  toJson rule := .record (("type", toJson rule.kind) :: rule.members)
  ofJson := ofJson

end Rule

end TypedQuery
