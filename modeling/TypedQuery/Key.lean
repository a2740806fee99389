import TypedQuery.Unicode.Lowercase

/-!
# Keys

The names of parameters and the keys of a query share one *normal form*: small
ASCII letters, ASCII digits and underscores, and nothing else.  A key outside
the normal form never names a parameter, which keeps case variants, punctuation
and look-alike letters from reaching one.

Any text has a normal form: its lowercase form without the characters that are
not allowed.  `isNormal_normalize` says that it passes the check, and
`normalize_eq_self_iff` that a text passes the check only if it is its own normal
form.
-/

namespace TypedQuery.Key

/-- The characters of the normal form. -/
def isNormalChar (c : Char) : Bool :=
  c.isLower || c.isDigit || c == '_'

/-- Whether a key is in normal form. -/
def isNormal (key : String) : Bool :=
  key.toList.all isNormalChar

/-- The normal form of a key. -/
def normalize (key : String) : String :=
  String.ofList ((Unicode.lowercase key).toList.filter isNormalChar)

/-- A normal form is normal. -/
theorem isNormal_normalize (key : String) : isNormal (normalize key) = true := by
  simp [isNormal, normalize]

/-- The normal form of a text is made of the normal forms of its parts. -/
theorem normalize_append (a b : String) : normalize (a ++ b) = normalize a ++ normalize b := by
  simp [normalize, Unicode.lowercase, String.ofList_append]

/-- The characters of the normal form are ASCII, and none is a capital. -/
theorem toNat_of_isNormalChar {c : Char} (h : isNormalChar c = true) :
    (c.toNat < 0x41 ∨ 0x5A < c.toNat) ∧ c.toNat < 0x80 := by
  simp only [isNormalChar, Bool.or_eq_true, beq_iff_eq] at h
  rcases h with (hlower | hdigit) | rfl
  · have hbounds : (decide (97 ≤ c.toNat) && decide (c.toNat ≤ 122)) = true := hlower
    simp only [Bool.and_eq_true, decide_eq_true_eq] at hbounds
    omega
  · have hbounds : 48 ≤ c.toNat ∧ c.toNat ≤ 57 := Char.isDigit_iff_toNat.mp hdigit
    omega
  · decide

theorem toLower_of_isNormalChar {c : Char} (h : isNormalChar c = true) : c.toLower = c :=
  Unicode.toLower_of_not_capital (toNat_of_isNormalChar h).1

theorem lower_of_isNormalChar {c : Char} (h : isNormalChar c = true) :
    Unicode.lower c = [c] := by
  rw [Unicode.lower_of_ascii (toNat_of_isNormalChar h).2, toLower_of_isNormalChar h]

/-- A key is its own normal form if it is normal, and only then. -/
theorem normalize_eq_self_iff {key : String} : normalize key = key ↔ isNormal key = true := by
  constructor
  · intro h
    rw [← h]
    exact isNormal_normalize key
  · intro h
    have hall : ∀ c ∈ key.toList, isNormalChar c = true := List.all_eq_true.mp h
    have hlower : key.toList.map Unicode.lower = key.toList.map fun c => [c] :=
      List.map_congr_left fun c hc => lower_of_isNormalChar (hall c hc)
    have hflat : key.toList.flatMap Unicode.lower = key.toList := by
      rw [List.flatMap_def, hlower, ← List.flatMap_def, List.flatMap_singleton']
    rw [normalize, Unicode.lowercase, String.toList_ofList, hflat, List.filter_eq_self.mpr hall,
      String.ofList_toList]

example : normalize "Offset" = "offset" := by decide +kernel
example : normalize "age'--DROP TABLE" = "agedroptable" := by decide +kernel
example : normalize "\u212Aey\u0130d" = "keyid" := by decide +kernel

end TypedQuery.Key
