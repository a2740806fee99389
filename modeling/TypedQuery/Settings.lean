/-!
# Settings

The characters that take a query apart, and what the rules of parameters use
where a declaration says nothing else.

Not every choice of settings makes sense.  The three characters that separate
query, pairs and values have to differ, and the shortest length of a term must
not exceed the longest.  `Settings.problems` lists what is wrong, in a fixed
order.

What URLs use is in `Standard`.  The default settings are made of it, and so are
the default rules of parameters.
-/

namespace TypedQuery

/-! ## What URLs use -/

namespace Standard

def querySeparator : Char := '?'

def pairSeparator : Char := '&'

def valueSeparator : Char := '='

def listSeparator : Char := ','

def rangeSeparator : Char := '-'

def sortModifier : Char := '-'

def wildcard : Char := '*'

def minLength : UInt64 := 1

def maxLength : UInt64 := 100

end Standard

/-! ## Settings -/

/-- The characters of a query and the defaults of rules. -/
structure Settings where
  /-- Ends the path in front of a query. -/
  querySeparator : Char
  /-- Stands between the pairs of a query. -/
  pairSeparator : Char
  /-- Stands between the key and the value of a pair. -/
  valueSeparator : Char
  /-- Stands between the items of a list. -/
  listSeparator : Char
  /-- Stands between the ends of a range. -/
  rangeSeparator : Char
  /-- Marks a descending sort key. -/
  sortModifier : Char
  /-- Stands for any text at the end of a search term. -/
  wildcard : Char
  /-- The least number of characters of a search term. -/
  minLength : UInt64
  /-- The greatest number of characters of a search term.  Zero stands for no limit. -/
  maxLength : UInt64
  deriving DecidableEq, Repr

namespace Settings

/-- The settings of URLs. -/
def default : Settings where
  querySeparator := Standard.querySeparator
  pairSeparator := Standard.pairSeparator
  valueSeparator := Standard.valueSeparator
  listSeparator := Standard.listSeparator
  rangeSeparator := Standard.rangeSeparator
  sortModifier := Standard.sortModifier
  wildcard := Standard.wildcard
  minLength := Standard.minLength
  maxLength := Standard.maxLength

instance : Inhabited Settings := ⟨default⟩

/-- What can be wrong with settings. -/
inductive Problem where
  | queryIsPairSeparator
  | queryIsValueSeparator
  | pairIsValueSeparator
  | minExceedsMax
  deriving DecidableEq, Repr

/-- The wording of a problem. -/
def Problem.message : Problem → String
  | .queryIsPairSeparator => "Query separator cannot equal parameter separator"
  | .queryIsValueSeparator => "Query separator cannot equal key/value separator"
  | .pairIsValueSeparator => "Parameter separator cannot equal key/value separator"
  | .minExceedsMax => "Min length cannot exceed max length"

/-- Whether settings have a problem. -/
def hasProblem (s : Settings) : Problem → Bool
  | .queryIsPairSeparator => s.querySeparator == s.pairSeparator
  | .queryIsValueSeparator => s.querySeparator == s.valueSeparator
  | .pairIsValueSeparator => s.pairSeparator == s.valueSeparator
  | .minExceedsMax => 0 < s.maxLength && s.maxLength < s.minLength

/-- All that is wrong with settings. -/
def problems (s : Settings) : List Problem :=
  [.queryIsPairSeparator, .queryIsValueSeparator, .pairIsValueSeparator, .minExceedsMax].filter
    s.hasProblem

theorem problems_default : default.problems = [] := by decide

/-- What settings that make sense are like. -/
structure Consistent (s : Settings) : Prop where
  query_ne_pair : s.querySeparator ≠ s.pairSeparator
  query_ne_value : s.querySeparator ≠ s.valueSeparator
  pair_ne_value : s.pairSeparator ≠ s.valueSeparator
  lengths : s.maxLength = 0 ∨ s.minLength ≤ s.maxLength

/-- Settings make sense if nothing is wrong with them. -/
theorem problems_eq_nil_iff {s : Settings} : s.problems = [] ↔ s.Consistent := by
  have hlengths : s.hasProblem .minExceedsMax = false ↔
      s.maxLength = 0 ∨ s.minLength ≤ s.maxLength := by
    simp only [hasProblem, Bool.and_eq_false_iff, decide_eq_false_iff_not, UInt64.not_lt]
    simp
  rw [problems, List.filter_eq_nil_iff]
  constructor
  · intro h
    constructor
    · simpa [hasProblem] using h .queryIsPairSeparator
    · simpa [hasProblem] using h .queryIsValueSeparator
    · simpa [hasProblem] using h .pairIsValueSeparator
    · exact hlengths.mp (by simpa using h .minExceedsMax)
  · intro h problem _
    cases problem with
    | queryIsPairSeparator => simpa [hasProblem] using h.query_ne_pair
    | queryIsValueSeparator => simpa [hasProblem] using h.query_ne_value
    | pairIsValueSeparator => simpa [hasProblem] using h.pair_ne_value
    | minExceedsMax => simpa using hlengths.mpr h.lengths

end Settings

end TypedQuery
