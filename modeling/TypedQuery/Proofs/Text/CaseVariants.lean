import TypedQuery.Key

/-!
# Case variants

A word is found in letters of either case: the lowercase form of a text is compared
with it.  This lowercase is that of all of Unicode.  It may change the length of a
text, and it turns some characters beyond ASCII into letters of ASCII.

A text that is found is nevertheless the word in other ASCII letters, if the word is
plain: in the normal form of keys and without the letter `k` (`LowerForm.eq_word_iff`).
For there are two characters beyond ASCII that have an ASCII letter in their lowercase
form.  One is the Kelvin sign, which becomes `k`.  The other is the capital `I` with a
dot above, and it brings its dot along.

A capital sigma has two small letters, one of them for the end of a word.  So a text
has several lowercase forms, and which is the right one depends on where its words
end.  `LowerForm` leaves this open.  Both letters lie beyond ASCII, so that no word is
found by one form and missed by another.
-/

namespace TypedQuery

/-! ## Lowercase forms -/

namespace Unicode

/-- A lowercase form of a text. -/
inductive LowerForm : List Char → List Char → Prop where
  | nil : LowerForm [] []
  | cons (c : Char) {cs ds : List Char} : LowerForm cs ds → LowerForm (c :: cs) (lower c ++ ds)
  /-- A capital sigma at the end of a word. -/
  | final {cs ds : List Char} : LowerForm cs ds → LowerForm ('Σ' :: cs) ('ς' :: ds)

theorem lowerForm_lowercase (text : String) : LowerForm text.toList (lowercase text).toList := by
  rw [lowercase, String.toList_ofList]
  induction text.toList with
  | nil => exact .nil
  | cons c cs ih => exact .cons c ih

end Unicode

/-! ## Texts up to case -/

namespace Text

/-- One text is the other with some ASCII letters in another case. -/
def CaseVariant (a b : String) : Prop :=
  a.toList.map Char.toLower = b.toList.map Char.toLower

instance (a b : String) : Decidable (CaseVariant a b) :=
  inferInstanceAs (Decidable (_ = _))

/-- A word in the normal form of keys, without the letter that the Kelvin sign becomes. -/
def Plain (word : String) : Prop :=
  Key.isNormal word = true ∧ 'k' ∉ word.toList

instance (word : String) : Decidable (Plain word) :=
  inferInstanceAs (Decidable (_ ∧ _))

theorem caseVariant_iff_of_isNormal {text word : String} (h : Key.isNormal word = true) :
    CaseVariant text word ↔ text.toList.map Char.toLower = word.toList := by
  have hword : word.toList.map Char.toLower = word.toList := by
    refine (List.map_congr_left fun c hc => ?_).trans (List.map_id _)
    exact Key.toLower_of_isNormalChar (List.all_eq_true.mp h c hc)
  rw [CaseVariant, hword]

end Text

/-! ## Finding a word -/

namespace Unicode.LowerForm

variable {cs ds word : List Char}

theorem eq_iff (h : LowerForm cs ds)
    (hword : ∀ w ∈ word, Key.isNormalChar w = true ∧ w ≠ 'k') :
    ds = word ↔ cs.map Char.toLower = word := by
  have hascii : ∀ w ∈ word, w.toNat < 0x80 :=
    fun w hw => (Key.toNat_of_isNormalChar (hword w hw).1).2
  induction h generalizing word with
  | nil => exact .rfl
  | @cons c cs ds _ ih =>
    by_cases hc : c.toNat < 0x80
    · rw [lower_of_ascii hc, List.singleton_append, List.map_cons]
      cases word with
      | nil => simp
      | cons w rest =>
        have hrest : ds = rest ↔ cs.map Char.toLower = rest :=
          ih (fun v hv => hword v (List.mem_cons_of_mem w hv))
            fun v hv => hascii v (List.mem_cons_of_mem w hv)
        rw [List.cons.injEq, List.cons.injEq, hrest]
    · -- A character beyond ASCII has no part in a word, neither as it is nor in lowercase.
      refine iff_of_false ?_ ?_
      · rintro rfl
        obtain ⟨d, hd, hkelvin | hbeyond⟩ := exists_mem_lower (Nat.le_of_not_lt hc)
        · exact (hword d (List.mem_append_left ds hd)).2 hkelvin
        · exact Nat.not_lt.mpr hbeyond (hascii d (List.mem_append_left ds hd))
      · rintro rfl
        have hsame : c.toLower = c := toLower_of_not_capital (by omega)
        rw [List.map_cons, hsame] at hascii
        exact hc (hascii c List.mem_cons_self)
  | final _ _ =>
    refine iff_of_false ?_ ?_
    · rintro rfl
      exact absurd (hascii 'ς' List.mem_cons_self) (by decide)
    · rintro rfl
      exact absurd (hascii 'Σ' List.mem_cons_self) (by decide)

/-- A plain word that is compared with a lowercase form of a text is found in its case variants
only. -/
theorem eq_word_iff {text form word : String} (h : LowerForm text.toList form.toList)
    (hplain : Text.Plain word) : form = word ↔ Text.CaseVariant text word := by
  rw [Text.caseVariant_iff_of_isNormal hplain.1, ← String.toList_inj]
  refine h.eq_iff fun w hw => ⟨List.all_eq_true.mp hplain.1 w hw, ?_⟩
  rintro rfl
  exact hplain.2 hw

theorem lowercase_eq_iff {text word : String} (hplain : Text.Plain word) :
    lowercase text = word ↔ Text.CaseVariant text word :=
  (lowerForm_lowercase text).eq_word_iff hplain

end Unicode.LowerForm

end TypedQuery
