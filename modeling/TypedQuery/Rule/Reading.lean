import TypedQuery.Rule.Selection
import TypedQuery.Value
import TypedQuery.Decimal.Integer

/-!
# Reading a value

A rule reads a text and leaves a *reading*: perhaps a value, and a mark that the
parameter is parsed.  It also says whether the text is accepted, and what is
wrong with it if not.

A text that is not accepted leaves nothing, with one exception.  A search term
of the wrong length is left for whoever wants to go on with it: one that is too
short as it is, and one that is too long cut to the greatest length.

A search term counts as parsed if it has a character besides its wildcards.  The
other kinds count as parsed if they are accepted, so an empty list is parsed and
so is a list none of whose tokens is kept.
-/

namespace TypedQuery

/-- What is wrong with the text of a value. -/
inductive Fault where
  /-- A range without a separator. -/
  | notRange (text : String)
  /-- Not an integer of 64 bits. -/
  | notInteger (text : String)
  /-- Not a truth value. -/
  | notBoolean (text : String)
  /-- A search term with more characters than allowed. -/
  | tooLong (length : Nat) (max : UInt64)
  /-- A search term with fewer characters than required. -/
  | tooShort (length : Nat) (min : UInt64)
  deriving DecidableEq, Repr

/-- Whether a fault is about the length of a search term. -/
def Fault.isLength : Fault → Bool
  | .tooLong _ _ | .tooShort _ _ => true
  | _ => false

/-- What reading leaves behind. -/
structure Reading where
  parsed : Bool
  value : Option Value
  deriving DecidableEq, Repr

namespace Reading

/-- Nothing has been read. -/
def blank : Reading := ⟨false, none⟩

/-- A value has been read. -/
def of (value : Value) : Reading := ⟨true, some value⟩

/-- Either a value or a fault that leaves nothing. -/
def ofExcept : Except Fault Value → Except Fault Unit × Reading
  | .ok value => (.ok (), of value)
  | .error fault => (.error fault, blank)

end Reading

/-! ## The rules -/

/-- The strings of a list. -/
def StringsRule.items (rule : StringsRule) (text : String) : List String :=
  rule.selection.keep id (Text.tokens rule.separator text)

/-- The sort keys of a list.  A token that is nothing but a modifier names no field and is
dropped. -/
def SortRule.keys (rule : SortRule) (text : String) : List SortKey :=
  let keys := (Text.tokens rule.separator text).map (SortKey.ofToken rule.modifier)
  rule.selection.keep SortKey.field (keys.filter (!·.field.isEmpty))

/-- A text read as an integer. -/
def readInteger (text : String) : Except Fault Int64 :=
  match Decimal.int64? text with
  | some n => .ok n
  | none => .error (.notInteger text)

/-- One end of a range, which may be left open. -/
def RangeRule.readEnd (text : String) (fallback : Int64) : Except Fault Int64 :=
  if text.isEmpty then .ok fallback else readInteger text

/-- The two ends of a range, the lower end first whichever way round they are written. -/
def RangeRule.ends (rule : RangeRule) (text : String) : Except Fault (Int64 × Int64) :=
  match Text.cut? rule.separator text with
  | none => .error (.notRange text)
  | some (first, second) => do
    let a ← readEnd first rule.low
    let b ← readEnd second rule.high
    return if b < a then (b, a) else (a, b)

/-- The nearest value within the bounds.  The lower bound wins if the two are the wrong
way round. -/
def IntegerRule.clamp (rule : IntegerRule) (n : Int64) : Int64 :=
  let capped := if rule.high ≠ 0 ∧ rule.high < n then rule.high else n
  if capped < rule.low then rule.low else capped

/-- A search term with its length checked. -/
def SearchRule.read (rule : SearchRule) (text : String) : Except Fault Unit × Reading :=
  let term := Term.ofPattern rule.wildcard text
  let length := term.text.length
  let leave (term : Term) : Reading := ⟨decide (0 < length), some (.search term)⟩
  if 0 < rule.maxLength ∧ rule.maxLength.toNat < length then
    (.error (.tooLong length rule.maxLength), leave (term.take rule.maxLength.toNat))
  else if length < rule.minLength.toNat then
    (.error (.tooShort length rule.minLength), leave term)
  else
    (.ok (), leave term)

/-- A truth value, in letters of either case and whole or by its first letter. -/
def readBoolean (text : String) : Except Fault Bool :=
  let word := Unicode.lowercase text
  if word = "true" ∨ word = "t" then .ok true
  else if word = "false" ∨ word = "f" then .ok false
  else .error (.notBoolean text)

/-- Reads a value by a rule. -/
def Rule.read : Rule → String → Except Fault Unit × Reading
  | .strings rule, text => (.ok (), .of (.strings (rule.items text)))
  | .search rule, text => rule.read text
  | .sort rule, text => (.ok (), .of (.sort (rule.keys text)))
  | .range rule, text =>
    Reading.ofExcept ((rule.ends text).map fun (low, high) => .range low high)
  | .integer rule, text =>
    Reading.ofExcept ((readInteger text).map fun n => .integer (rule.clamp n))
  | .boolean, text => Reading.ofExcept ((readBoolean text).map .boolean)

/-! ## Readings fit their rule -/

theorem Reading.value_ofExcept {kind : Kind} {result : Except Fault Value} {value : Value}
    (hkind : ∀ v, result = .ok v → v.kind = kind) (h : (ofExcept result).2.value = some value) :
    value.kind = kind := by
  cases result with
  | error fault => simp [ofExcept, blank] at h
  | ok v =>
    simp only [ofExcept, of, Option.some.injEq] at h
    exact h ▸ hkind v rfl

/-- A rule leaves values of its own kind only. -/
theorem Rule.kind_of_read {rule : Rule} {text : String} {value : Value}
    (h : (rule.read text).2.value = some value) : value.kind = rule.kind := by
  cases rule with
  | strings rule => simp only [read, Reading.of, Option.some.injEq] at h; subst h; rfl
  | sort rule => simp only [read, Reading.of, Option.some.injEq] at h; subst h; rfl
  | search rule =>
    simp only [read, SearchRule.read] at h
    split at h
    · simp only [Option.some.injEq] at h; subst h; rfl
    · split at h <;> (simp only [Option.some.injEq] at h; subst h; rfl)
  | range rule =>
    refine Reading.value_ofExcept ?_ h
    intro v hv
    cases he : rule.ends text with
    | error fault => simp [he, Except.map] at hv
    | ok bounds => simp only [he, Except.map, Except.ok.injEq] at hv; subst hv; rfl
  | integer rule =>
    refine Reading.value_ofExcept ?_ h
    intro v hv
    cases he : readInteger text with
    | error fault => simp [he, Except.map] at hv
    | ok n => simp only [he, Except.map, Except.ok.injEq] at hv; subst hv; rfl
  | boolean =>
    refine Reading.value_ofExcept ?_ h
    intro v hv
    cases he : readBoolean text with
    | error fault => simp [he, Except.map] at hv
    | ok b => simp only [he, Except.map, Except.ok.injEq] at hv; subst hv; rfl

example : (SearchRule.read ⟨'*', 1, 3⟩ "*gamma*").2.value = some (.search ⟨"gam", .anywhere⟩) := by
  decide
example : (RangeRule.ends ⟨'-', 10, 99⟩ "45-").toOption = some (45, 99) := by decide
example : (RangeRule.ends ⟨'-', 10, 99⟩ "45-35").toOption = some (35, 45) := by decide
example : IntegerRule.clamp ⟨10, 5, 0⟩ 7 = 10 := by decide

end TypedQuery
