import TypedQuery.Kind
import TypedQuery.Settings

/-!
# Rules

A rule says how the values of a parameter are read.  It is the kind of the
parameter together with the choices that parameters of this kind have.

Where nothing is chosen, there are two rules of a kind.  `Rule.ofKind` takes the
choices from settings, and `Rule.default` knows of no settings.  They agree if the
settings are the default ones (`Rule.ofKind_default`).
-/

namespace TypedQuery

/-- Which tokens of a list are kept. -/
structure Selection where
  /-- The tokens that are accepted.  The empty list accepts all. -/
  allowed : List String
  /-- Whether a repeated token counts once, at its first place. -/
  distinct : Bool
  deriving DecidableEq, Repr

/-- The selection that keeps everything. -/
def Selection.all : Selection := ⟨[], false⟩

/-- How a list of strings is read. -/
structure StringsRule where
  separator : Char
  selection : Selection
  deriving DecidableEq, Repr

/-- How a list of sort keys is read.  The selection is on their fields. -/
structure SortRule where
  separator : Char
  modifier : Char
  selection : Selection
  deriving DecidableEq, Repr

/-- How a range is read. -/
structure RangeRule where
  separator : Char
  /-- The lower end of a range that names none. -/
  low : Int64
  /-- The upper end of a range that names none. -/
  high : Int64
  deriving DecidableEq, Repr

/-- How a search term is read. -/
structure SearchRule where
  wildcard : Char
  /-- The least number of characters. -/
  minLength : UInt64
  /-- The greatest number of characters.  Zero stands for no limit. -/
  maxLength : UInt64
  deriving DecidableEq, Repr

/-- How an integer is read. -/
structure IntegerRule where
  /-- The least value. -/
  low : Int64
  /-- The greatest value.  Zero stands for no limit. -/
  high : Int64
  /-- The value of a parameter that the query does not mention. -/
  fallback : Int64
  deriving DecidableEq, Repr

/-! ## Default rules -/

/-- Everything is kept. -/
def StringsRule.default : StringsRule := ⟨Standard.listSeparator, .all⟩

/-- Everything is kept. -/
def SortRule.default : SortRule := ⟨Standard.listSeparator, Standard.sortModifier, .all⟩

/-- An end that is not named is zero. -/
def RangeRule.default : RangeRule := ⟨Standard.rangeSeparator, 0, 0⟩

def SearchRule.default : SearchRule :=
  ⟨Standard.wildcard, Standard.minLength, Standard.maxLength⟩

/-- The integer is not negative, and zero if the query does not mention it. -/
def IntegerRule.default : IntegerRule := ⟨0, 0, 0⟩

/-! ## Rules -/

/-- How the values of a parameter are read. -/
inductive Rule where
  | strings (rule : StringsRule)
  | search (rule : SearchRule)
  | sort (rule : SortRule)
  | range (rule : RangeRule)
  | integer (rule : IntegerRule)
  | boolean
  deriving DecidableEq, Repr

namespace Rule

/-- The kind of parameter that a rule is for. -/
def kind : Rule → Kind
  | .strings _ => .strings
  | .search _ => .search
  | .sort _ => .sort
  | .range _ => .range
  | .integer _ => .integer
  | .boolean => .boolean

/-- The rule of a kind with the choices of some settings. -/
def ofKind (s : Settings) : Kind → Rule
  | .strings => .strings ⟨s.listSeparator, .all⟩
  | .search => .search ⟨s.wildcard, s.minLength, s.maxLength⟩
  | .sort => .sort ⟨s.listSeparator, s.sortModifier, .all⟩
  | .range => .range ⟨s.rangeSeparator, 0, 0⟩
  | .integer => .integer .default
  | .boolean => .boolean

/-- The rule of a kind without a choice. -/
def default : Kind → Rule
  | .strings => .strings .default
  | .search => .search .default
  | .sort => .sort .default
  | .range => .range .default
  | .integer => .integer .default
  | .boolean => .boolean

@[simp] theorem kind_ofKind (s : Settings) (k : Kind) : (ofKind s k).kind = k := by
  cases k <;> rfl

/-- The default settings make the default rules. -/
theorem ofKind_default (k : Kind) : ofKind .default k = default k := by
  cases k <;> rfl

end Rule

end TypedQuery
