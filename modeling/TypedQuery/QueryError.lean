import TypedQuery.Rule.Reading

/-!
# Errors of queries

What can go wrong when a query is read, or when its values are asked for.
Errors of the text of a value name the parameter the value was for.
-/

namespace TypedQuery

/-- Why a query or a look-up fails. -/
inductive QueryError where
  /-- No parameter is registered. -/
  | noParameters
  /-- Nothing follows the path. -/
  | noQuery
  /-- A key is not in normal form. -/
  | badKey (key : String)
  /-- The value of a parameter is not accepted. -/
  | badValue (name : String) (fault : Fault)
  /-- No parameter has the name that is asked for. -/
  | unknownName (name : String)
  /-- The parameter is of another kind than asked for. -/
  | otherKind (name : String) (expected found : Kind)
  deriving DecidableEq, Repr

namespace QueryError

/-- Whether the error is about the value of a parameter.  Only then may the parameter
still hold a value. -/
def isValidation : QueryError → Bool
  | badValue _ _ => true
  | _ => false

/-- Whether the error is about the length of a search term. -/
def isLength : QueryError → Bool
  | badValue _ fault => fault.isLength
  | _ => false

/-- The wording of a fault in the value of a parameter. -/
def faultMessage (name : String) : Fault → String
  | .notRange text => s!"invalid range value '{text}' for parameter '{name}'"
  | .notInteger text => s!"invalid integer value '{text}' for parameter '{name}'"
  | .notBoolean text => s!"parameter '{name}' has unrecognized value ('{text}')"
  | .tooLong length max =>
    let bound := Decimal.ofNat max.toNat
    s!"invalid length ({Decimal.ofNat length}) for parameter '{name}' (max {bound})"
  | .tooShort length min =>
    let bound := Decimal.ofNat min.toNat
    s!"invalid length ({Decimal.ofNat length}) for parameter '{name}' (min {bound})"

/-- The wording of an error. -/
def message : QueryError → String
  | noParameters => "no parameters to parse"
  | noQuery => "no query string to parse"
  | badKey key => s!"invalid key name '{key}'"
  | badValue name fault => faultMessage name fault
  | unknownName name => s!"could not find parameter '{name}'"
  | otherKind name expected found =>
    let expectedWord := Vocabulary.word expected
    let foundWord := Vocabulary.word found
    s!"invalid parameter type for parameter '{name}' (expected {expectedWord}, found {foundWord})"

end QueryError

end TypedQuery
