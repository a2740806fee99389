import TypedQuery.Proofs.Decimal.Numerals
import TypedQuery.Proofs.Settings.Parts
import TypedQuery.Settings.Environment

/-!
# Settings from variables

Each part of settings has a variable.  A text that is set writes a value of the
part, or it is malformed: a character is written by itself and nothing else, and a
length by digits with at most a plus sign in front, as far as the number fits.

The variables count together (`ofEnvironment?_eq_some_iff`).  If all that are set
are well formed, each part has the value of its variable, or the default if it is
not set.  A single malformed variable leaves nothing but defaults, also in the
parts of the others (`ofEnvironment?_eq_none_iff`).  `ofEnvironment_allOrNothing`
says both, and that settings come back from the variables that write them.
-/

namespace TypedQuery.Settings

/-! ## Texts and what they write -/

namespace Content

/-- A text writes a value. -/
def Writes : (content : Content) → String → content.Value → Prop
  | .character, text, c => text.toList = [c]
  | .length, text, n => Decimal.Unsigned text.toList n.toNat

/-- A text is a single character, or else digits for a number that fits, perhaps with a plus sign
in front. -/
def WellFormed : Content → String → Prop
  | .character, text => ∃ c, text.toList = [c]
  | .length, text => ∃ n, Decimal.Unsigned text.toList n ∧ n < UInt64.size

/-- How a content is read from the text of a variable. -/
def read? : (content : Content) → String → Option content.Value
  | .character => Environment.onlyChar?
  | .length => Decimal.uint64?

/-- The written form of a value. -/
def text : (content : Content) → content.Value → String
  | .character, c => String.singleton c
  | .length, n => Decimal.ofNat n.toNat

variable {content : Content} {text : String} {value : content.Value}

theorem wellFormed_iff : content.WellFormed text ↔ ∃ value, content.Writes text value := by
  cases content with
  | character => exact .rfl
  | length => exact Decimal.exists_uint64_iff.symm

theorem onlyChar?_eq_some_iff {c : Char} :
    Environment.onlyChar? text = some c ↔ text.toList = [c] := by
  unfold Environment.onlyChar?
  split
  next d hd => simp [hd]
  next hmore => simpa using hmore c

/-- Reading finds the value that a text writes. -/
theorem read?_eq_some_iff : content.read? text = some value ↔ content.Writes text value := by
  cases content with
  | character => exact onlyChar?_eq_some_iff
  | length => exact Decimal.uint64?_eq_some_iff

theorem read?_eq_none_iff : content.read? text = none ↔ ¬ content.WellFormed text := by
  simp only [wellFormed_iff, ← read?_eq_some_iff, not_exists, Option.eq_none_iff_forall_ne_some,
    ne_eq]

theorem writes_text (value : content.Value) : content.Writes (content.text value) value := by
  cases content with
  | character => exact String.toList_singleton _
  | length => exact Decimal.unsigned_ofNat _

/-- There is always something written. -/
theorem not_wellFormed_empty (content : Content) : ¬ content.WellFormed "" := by
  cases content with
  | character =>
    rintro ⟨c, hc⟩
    cases hc
  | length =>
    rintro ⟨n, hn, -⟩
    exact hn.ne_nil rfl

end Content

/-! ## Parts in variables -/

/-- The variable that a part is set by. -/
def Part.variableName : Part → String
  | .querySeparator => "QUERYSTRING_QUERY_SEPARATOR"
  | .pairSeparator => "QUERYSTRING_PARAMETER_SEPARATOR"
  | .valueSeparator => "QUERYSTRING_KEY_VALUE_SEPARATOR"
  | .listSeparator => "QUERYSTRING_LIST_SEPARATOR"
  | .rangeSeparator => "QUERYSTRING_RANGE_SEPARATOR"
  | .sortModifier => "QUERYSTRING_SORT_MODIFIER"
  | .wildcard => "QUERYSTRING_WILDCARD"
  | .minLength => "QUERYSTRING_MIN_LENGTH"
  | .maxLength => "QUERYSTRING_MAX_LENGTH"

/-- The text that the variable of a part stands at while it is not set. -/
def Part.standing : Part → String
  | .querySeparator => "?"
  | .pairSeparator => "&"
  | .valueSeparator => "="
  | .listSeparator => ","
  | .rangeSeparator => "-"
  | .sortModifier => "-"
  | .wildcard => "*"
  | .minLength => "1"
  | .maxLength => "100"

/-- What the variable of a part gives. -/
def Part.inEnvironment (part : Part) (env : Environment) : Option part.Value :=
  part.content.read? (env.textOf part.variableName part.standing)

variable {env : Environment} {s : Settings}

/-- The variables give settings if each part is given. -/
theorem ofEnvironment?_eq_some_iff :
    ofEnvironment? env = some s ↔ ∀ part : Part, part.inEnvironment env = some (part.get s) := by
  simp only [ofEnvironment?, Option.bind_eq_bind, Option.bind_eq_some_iff, Option.pure_def,
    Option.some.injEq]
  constructor
  · rintro ⟨_, hquery, _, hpair, _, hvalue, _, hlist, _, hrange, _, hsort, _, hwildcard, _, hmin,
      _, hmax, rfl⟩ part
    cases part with
    | querySeparator => exact hquery
    | pairSeparator => exact hpair
    | valueSeparator => exact hvalue
    | listSeparator => exact hlist
    | rangeSeparator => exact hrange
    | sortModifier => exact hsort
    | wildcard => exact hwildcard
    | minLength => exact hmin
    | maxLength => exact hmax
  · intro h
    exact ⟨_, h .querySeparator, _, h .pairSeparator, _, h .valueSeparator, _, h .listSeparator,
      _, h .rangeSeparator, _, h .sortModifier, _, h .wildcard, _, h .minLength, _, h .maxLength,
      rfl⟩

theorem Part.inEnvironment_of_set {part : Part} {text : String}
    (h : env part.variableName = some text) : part.inEnvironment env = part.content.read? text := by
  rw [inEnvironment, Environment.textOf, h, Option.getD_some]

/-- A variable that is not set gives the default, which is what it stands at. -/
theorem Part.inEnvironment_of_unset {part : Part} (h : env part.variableName = none) :
    part.inEnvironment env = some (part.get default) := by
  have hempty : part.inEnvironment (fun _ => none) = some (part.get default) :=
    ofEnvironment?_eq_some_iff.mp ofEnvironment?_empty part
  rw [← hempty, inEnvironment, inEnvironment, Environment.textOf, h]
  rfl

/-- A part is given unless its variable is malformed. -/
theorem Part.inEnvironment_eq_none_iff {part : Part} : part.inEnvironment env = none ↔
    ∃ text, env part.variableName = some text ∧ ¬ part.content.WellFormed text := by
  cases hset : env part.variableName with
  | none => simp [inEnvironment_of_unset hset]
  | some text => simp [inEnvironment_of_set hset, Content.read?_eq_none_iff]

/-- The variables give no settings only if one of them is malformed. -/
theorem ofEnvironment?_eq_none_iff : ofEnvironment? env = none ↔
    ∃ (part : Part) (text : String), env part.variableName = some text ∧
      ¬ part.content.WellFormed text := by
  simp only [← Part.inEnvironment_eq_none_iff]
  constructor
  · intro hnone
    by_contra hall
    have hgiven : ∀ part : Part, ∃ value, part.inEnvironment env = some value :=
      fun part => Option.ne_none_iff_exists'.mp fun h => hall ⟨part, h⟩
    choose value hvalue using hgiven
    have hsome : ofEnvironment? env = some (ofParts value) := by
      rw [ofEnvironment?_eq_some_iff]
      intro part
      rw [get_ofParts, hvalue]
    rw [hnone] at hsome
    cases hsome
  · rintro ⟨part, hpart⟩
    rw [Option.eq_none_iff_forall_ne_some]
    intro s hs
    rw [ofEnvironment?_eq_some_iff.mp hs part] at hpart
    cases hpart

/-- Settings come from all variables together.  If those that are set are well formed, each part has
the value that its variable writes, or the default if it is not set.  If one is malformed or empty,
all settings are the defaults.  Settings come back from the variables that write their parts. -/
theorem ofEnvironment_allOrNothing (env : Environment) :
    ((∀ (part : Part) (text : String), env part.variableName = some text →
        part.content.WellFormed text) →
      ∀ part : Part,
        (∀ text, env part.variableName = some text →
          part.content.Writes text (part.get (ofEnvironment env))) ∧
        (env part.variableName = none → part.get (ofEnvironment env) = part.get default)) ∧
    (∀ (part : Part) (text : String), env part.variableName = some text →
      text = "" ∨ ¬ part.content.WellFormed text → ofEnvironment env = default) ∧
    ∀ s : Settings, (∀ part : Part,
      env part.variableName = some (part.content.text (part.get s))) → ofEnvironment env = s := by
  refine ⟨?_, ?_, ?_⟩
  · intro hall
    have hne : ofEnvironment? env ≠ none := by
      rw [ne_eq, ofEnvironment?_eq_none_iff]
      rintro ⟨part, text, hset, hbad⟩
      exact hbad (hall part text hset)
    obtain ⟨s, hs⟩ := Option.ne_none_iff_exists'.mp hne
    have hparts := ofEnvironment?_eq_some_iff.mp hs
    rw [ofEnvironment, hs, Option.getD_some]
    intro part
    constructor
    · intro text hset
      rw [← Content.read?_eq_some_iff, ← Part.inEnvironment_of_set hset]
      exact hparts part
    · intro hunset
      have hdefault := Part.inEnvironment_of_unset hunset
      exact Option.some.inj ((hparts part).symm.trans hdefault)
  · intro part text hset hbad
    have hmalformed : ¬ part.content.WellFormed text := by
      rcases hbad with rfl | hbad
      · exact part.content.not_wellFormed_empty
      · exact hbad
    have hnone := ofEnvironment?_eq_none_iff.mpr ⟨part, text, hset, hmalformed⟩
    rw [ofEnvironment, hnone, Option.getD_none]
  · intro s hall
    have hs : ofEnvironment? env = some s := by
      rw [ofEnvironment?_eq_some_iff]
      intro part
      rw [Part.inEnvironment_of_set (hall part), Content.read?_eq_some_iff]
      exact Content.writes_text _
    rw [ofEnvironment, hs, Option.getD_some]

theorem ofEnvironment_allOrNothing_one_malformed :
    let least : Environment := fun name =>
      if name = "QUERYSTRING_MIN_LENGTH" then some "+007" else none
    let malformed : Environment := fun name =>
      if name = "QUERYSTRING_WILDCARD" then some "%%" else least name
    let written : Environment := fun name =>
      if name = "QUERYSTRING_MIN_LENGTH" then some "18446744073709551615"
      else if name = "QUERYSTRING_MAX_LENGTH" then some "0" else some "é"
    ofEnvironment least = { default with minLength := 7 } ∧ ofEnvironment malformed = default ∧
      ofEnvironment written = ⟨'é', 'é', 'é', 'é', 'é', 'é', 'é', 18446744073709551615, 0⟩ := by
  intro least malformed written
  have hread : Content.length.read? "+007" = some (7 : UInt64) :=
    (by decide : Decimal.uint64? "+007" = some 7)
  refine ⟨?_, ?_, ?_⟩
  · have hwell : ∀ (part : Part) (text : String), least part.variableName = some text →
        part.content.WellFormed text := by
      intro part text hset
      cases part with
      | minLength =>
        obtain rfl : "+007" = text := Option.some.inj hset
        exact Content.wellFormed_iff.mpr ⟨_, Content.read?_eq_some_iff.mp hread⟩
      | _ => cases hset
    have hparts := (ofEnvironment_allOrNothing least).1 hwell
    apply ext_get
    intro part
    cases part with
    | minLength =>
      have hgiven := Content.read?_eq_some_iff.mpr ((hparts .minLength).1 "+007" rfl)
      exact Option.some.inj (hgiven.symm.trans hread)
    | _ => exact (hparts _).2 rfl
  · have hmalformed : ¬ Content.character.WellFormed "%%" := by
      rintro ⟨c, hc⟩
      cases hc
    exact (ofEnvironment_allOrNothing malformed).2.1 .wildcard "%%" rfl (.inr hmalformed)
  · apply (ofEnvironment_allOrNothing written).2.2
    intro part
    cases part <;> decide

end TypedQuery.Settings
