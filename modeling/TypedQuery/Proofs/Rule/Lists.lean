import TypedQuery.Proofs.Clause.SortTokens

/-!
# Lists

A list is written as pieces with a separator between them, and every piece stands
for an item (`Listed`).  A string stands for itself.  A sort key is what
`SortKey.Spells` says, so that a piece is stripped of one modifier at most.

A rule keeps the items that its selection passes.  If the selection is distinct,
only the first item of each label counts, and an item that did not pass is not a
first item (`Selection.Selects`).

`Rule.read_lists` says that the two kinds of lists are read in this way.  So it
makes no difference where a longer list is cut into two, and an allow-list is a
set of labels.
-/

namespace TypedQuery

/-! ## Written lists -/

/-- A text is a list of items, one for each of its pieces. -/
inductive Listed {α : Type} (separator : Char) (stands : String → α → Prop) :
    String → List α → Prop where
  | last {piece : String} {a : α} : separator ∉ piece.toList → stands piece a →
      Listed separator stands piece [a]
  | more {piece rest : String} {a : α} {items : List α} :
      separator ∉ piece.toList → stands piece a → Listed separator stands rest items →
      Listed separator stands (piece ++ String.singleton separator ++ rest) (a :: items)

section

variable {α : Type} {separator : Char} {stands : String → α → Prop} {item : String → α}

theorem listed_joined (hstands : ∀ piece, stands piece (item piece)) {parts : List String}
    (hne : parts ≠ []) (hfree : ∀ part ∈ parts, separator ∉ part.toList) :
    Listed separator stands (Text.joined separator parts) (parts.map item) := by
  induction parts with
  | nil => exact absurd rfl hne
  | cons part parts ih =>
    have hpart := hfree part List.mem_cons_self
    by_cases hparts : parts = []
    · subst hparts
      rw [Text.joined, String.intercalate_singleton]
      exact .last hpart (hstands part)
    · rw [Text.joined_cons hparts]
      exact .more hpart (hstands part)
        (ih hparts fun other hother => hfree other (List.mem_cons_of_mem _ hother))

/-- The items of a list are what its pieces stand for. -/
theorem listed_iff (hstands : ∀ piece a, stands piece a ↔ item piece = a) {text : String}
    {items : List α} :
    Listed separator stands text items ↔ (Text.pieces separator text).map item = items := by
  constructor
  · intro h
    induction h with
    | last hfree ha =>
      rw [Text.pieces_of_not_mem hfree, List.map_singleton, (hstands _ _).mp ha]
    | more hfree ha _ ih =>
      rw [Text.pieces_append, Text.pieces_of_not_mem hfree, List.singleton_append, List.map_cons,
        ih, (hstands _ _).mp ha]
  · rintro rfl
    have hlisted : Listed separator stands (Text.joined separator (Text.pieces separator text))
        ((Text.pieces separator text).map item) :=
      listed_joined (fun piece => (hstands piece _).mpr rfl) (Text.pieces_ne_nil separator text)
        fun part hpart => Text.not_mem_of_mem_pieces hpart
    rwa [Text.joined_pieces] at hlisted

end

namespace Selection

/-! ## First items -/

/-- The items that are the first of their label, in their order. -/
inductive Firsts {α : Type} (label : α → String) : List α → List α → Prop where
  | nil : Firsts label [] []
  | first {items kept : List α} {a : α} : Firsts label items kept → label a ∉ items.map label →
      Firsts label (items ++ [a]) (kept ++ [a])
  | again {items kept : List α} {a : α} : Firsts label items kept → label a ∈ items.map label →
      Firsts label (items ++ [a]) kept

/-- What is left of items.  If they are to be distinct, the first of each label. -/
inductive Reduces {α : Type} (s : Selection) (label : α → String) : List α → List α → Prop where
  | all {items : List α} : s.distinct = false → Reduces s label items items
  | firsts {items kept : List α} : s.distinct = true → Firsts label items kept →
      Reduces s label items kept

/-- An item with a given label can be kept. -/
def Passes (s : Selection) (label : String) : Prop :=
  label ≠ "" ∧ (s.allowed = [] ∨ label ∈ s.allowed)

instance (s : Selection) (label : String) : Decidable (s.Passes label) :=
  inferInstanceAs (Decidable (_ ∧ _))

/-- What a selection keeps of items: what is left of those that pass. -/
def Selects {α : Type} (s : Selection) (label : α → String) (items kept : List α) : Prop :=
  s.Reduces label (items.filter fun a => s.Passes (label a)) kept

section

variable {α : Type} {label : α → String}

/-- Items that come later are first if their label has not come before. -/
theorem firsts_append (xs ys : List α) : firsts label (xs ++ ys)
    = firsts label xs ++ (firsts label ys).filter fun b => label b ∉ xs.map label := by
  induction xs with
  | nil => simp [firsts]
  | cons x xs ih =>
    rw [List.cons_append, firsts, ih, firsts, List.cons_append, List.filter_append,
      List.filter_filter]
    congr 2
    apply List.filter_congr
    intro b _
    simp [bne, beq_eq_decide]

theorem mem_map_firsts {items : List α} {l : String} :
    l ∈ (firsts label items).map label ↔ l ∈ items.map label := by
  constructor
  · intro hl
    exact ((firsts_sublist label items).map label).subset hl
  · intro hl
    obtain ⟨a, ha, rfl⟩ := List.mem_map.mp hl
    obtain ⟨b, hb, heq⟩ := exists_mem_firsts label ha
    exact heq ▸ List.mem_map_of_mem hb

/-- First items may be looked for in two parts, and then among what was found. -/
theorem firsts_append_firsts (xs ys : List α) :
    firsts label (firsts label xs ++ firsts label ys) = firsts label (xs ++ ys) := by
  rw [firsts_append, firsts_append, firsts_of_nodup (nodup_firsts label xs),
    firsts_of_nodup (nodup_firsts label ys)]
  congr 1
  apply List.filter_congr
  intro b _
  simp only [mem_map_firsts]

theorem firsts_append_singleton (items : List α) (a : α) : firsts label (items ++ [a])
    = if label a ∈ items.map label then firsts label items else firsts label items ++ [a] := by
  have hlast : firsts label [a] = [a] := rfl
  rw [firsts_append, hlast]
  split
  next hold =>
    rw [List.filter_cons_of_neg (by simpa using hold), List.filter_nil, List.append_nil]
  next hnew => rw [List.filter_cons_of_pos (by simpa using hnew), List.filter_nil]

theorem firsts_iff {items kept : List α} :
    Firsts label items kept ↔ firsts label items = kept := by
  constructor
  · intro h
    induction h with
    | nil => rfl
    | first _ hnew ih => rw [firsts_append_singleton, if_neg hnew, ih]
    | again _ hold ih => rw [firsts_append_singleton, if_pos hold, ih]
  · rintro rfl
    induction items using List.reverseRecOn with
    | nil => exact .nil
    | append_singleton items a ih =>
      rw [firsts_append_singleton]
      split
      next hold => exact .again ih hold
      next hnew => exact .first ih hnew

/-! ## Selected items -/

theorem reduces_iff {s : Selection} {items kept : List α} : s.Reduces label items kept ↔
    (if s.distinct then firsts label items else items) = kept := by
  constructor
  · intro h
    cases h with
    | all hall => rw [hall, if_neg Bool.false_ne_true]
    | firsts hdistinct hkept => rw [hdistinct, if_pos rfl, firsts_iff.mp hkept]
  · rintro rfl
    split
    next hdistinct => exact .firsts hdistinct (firsts_iff.mpr rfl)
    next hall => exact .all (Bool.eq_false_iff.mpr hall)

theorem accepts_eq_true_iff {s : Selection} {l : String} :
    s.accepts l = true ↔ s.allowed = [] ∨ l ∈ s.allowed := by
  simp [accepts]

theorem filter_passes (s : Selection) (items : List α) :
    (items.filter fun a => s.Passes (label a))
      = (items.filter fun a => !(label a).isEmpty).filter fun a => s.accepts (label a) := by
  rw [List.filter_filter]
  apply List.filter_congr
  intro a _
  rw [Bool.eq_iff_iff, Bool.and_eq_true, accepts_eq_true_iff, decide_eq_true_iff, Passes,
    and_comm]
  simp

theorem selects_iff {s : Selection} {items kept : List α} : s.Selects label items kept ↔
    s.keep label (items.filter fun a => !(label a).isEmpty) = kept := by
  rw [Selects, reduces_iff, filter_passes, keep]

/-- Only which labels are allowed counts, and not how they are listed. -/
theorem keep_congr {s s' : Selection} (hdistinct : s.distinct = s'.distinct)
    (hne : s.allowed ≠ []) (hne' : s'.allowed ≠ [])
    (h : ∀ l, l ∈ s.allowed ↔ l ∈ s'.allowed) (items : List α) :
    s.keep label items = s'.keep label items := by
  have haccepts : ∀ l, s.accepts l = s'.accepts l := by
    intro l
    rw [Bool.eq_iff_iff, accepts_eq_true_iff, accepts_eq_true_iff, h l]
    simp [hne, hne']
  simp only [keep, haccepts, hdistinct]

end

/-! ## Items of a text -/

/-- The items that a selection keeps of a text. -/
def chosen {α : Type} (s : Selection) (separator : Char) (item : String → α) (label : α → String)
    (text : String) : List α :=
  s.keep label (((Text.pieces separator text).map item).filter fun a => !(label a).isEmpty)

section

variable {α : Type} {separator : Char} {stands : String → α → Prop} {item : String → α}
  {label : α → String}

theorem chosen_eq_iff (hstands : ∀ piece a, stands piece a ↔ item piece = a) {s : Selection}
    {text : String} {kept : List α} : s.chosen separator item label text = kept ↔
      ∃ items, Listed separator stands text items ∧ s.Selects label items kept := by
  simp [listed_iff hstands, selects_iff, chosen]

/-- A text may be read in two parts, and then a selection made from what was kept. -/
theorem reduces_chosen_append (s : Selection) (a b : String) :
    s.Reduces label (s.chosen separator item label a ++ s.chosen separator item label b)
      (s.chosen separator item label (a ++ String.singleton separator ++ b)) := by
  rw [reduces_iff, chosen, chosen, chosen, Text.pieces_append, List.map_append,
    List.filter_append]
  simp only [keep, List.filter_append]
  split
  · exact firsts_append_firsts _ _
  · rfl

end

end Selection

/-! ## Rules -/

theorem StringsRule.items_eq (rule : StringsRule) (text : String) :
    rule.items text = rule.selection.chosen rule.separator id id text := by
  rw [Selection.chosen, List.map_id]
  rfl

/-- A piece that is empty stands for a key without a field. -/
theorem SortRule.keys_eq (rule : SortRule) (text : String) :
    rule.keys text = rule.selection.chosen rule.separator (SortKey.ofToken rule.modifier)
      SortKey.field text := by
  have hpiece : ∀ piece, (SortKey.ofToken rule.modifier piece).field ≠ "" → piece ≠ "" := by
    rintro piece h rfl
    exact h rfl
  rw [keys, Selection.chosen, Text.tokens, List.filter_map, List.filter_map, List.filter_filter]
  congr 2
  apply List.filter_congr
  intro piece _
  rw [Bool.eq_iff_iff]
  simpa using hpiece piece

namespace Rule

/-- A family of rules, one for each selection, reads lists.  What is left of a list are the items
that its pieces stand for, as far as the selection keeps them. -/
structure ReadsLists {α : Type} (rule : Selection → Rule) (separator : Char)
    (stands : String → α → Prop) (label : α → String) (value : List α → Value) : Prop where
  /-- No text is refused. -/
  exists_value : ∀ s text, ∃ kept, (rule s).read text = (.ok (), .of (value kept))
  read_iff : ∀ s text kept, (rule s).read text = (.ok (), .of (value kept)) ↔
    ∃ items, Listed separator stands text items ∧ s.Selects label items kept
  /-- A list may be read in two parts. -/
  append : ∀ s a b kept kept' both, (rule s).read a = (.ok (), .of (value kept)) →
    (rule s).read b = (.ok (), .of (value kept')) →
    ((rule s).read (a ++ String.singleton separator ++ b) = (.ok (), .of (value both)) ↔
      s.Reduces label (kept ++ kept') both)
  /-- An allow-list is a set. -/
  allowed : ∀ s s' : Selection, s.distinct = s'.distinct → s.allowed ≠ [] → s'.allowed ≠ [] →
    (∀ l, l ∈ s.allowed ↔ l ∈ s'.allowed) → ∀ text, (rule s).read text = (rule s').read text

theorem readsLists_of_chosen {α : Type} {rule : Selection → Rule} {separator : Char}
    {stands : String → α → Prop} {item : String → α} {label : α → String}
    {value : List α → Value} (hvalue : ∀ kept kept', value kept = value kept' → kept = kept')
    (hstands : ∀ piece a, stands piece a ↔ item piece = a)
    (hread : ∀ s text,
      (rule s).read text = (.ok (), .of (value (s.chosen separator item label text)))) :
    ReadsLists rule separator stands label value := by
  have hiff : ∀ s text kept, (rule s).read text = (.ok (), .of (value kept)) ↔
      s.chosen separator item label text = kept := by
    intro s text kept
    rw [hread]
    constructor
    · intro h
      apply hvalue
      simpa [Reading.of] using h
    · rintro rfl
      rfl
  constructor
  · intro s text
    exact ⟨_, hread s text⟩
  · intro s text kept
    rw [hiff, Selection.chosen_eq_iff hstands]
  · intro s a b kept kept' both ha hb
    obtain rfl := (hiff s a kept).mp ha
    obtain rfl := (hiff s b kept').mp hb
    rw [hiff, Selection.reduces_iff, Selection.reduces_iff.mp (s.reduces_chosen_append a b)]
  · intro s s' hdistinct hne hne' hallowed text
    rw [hread, hread, Selection.chosen, Selection.keep_congr hdistinct hne hne' hallowed,
      Selection.chosen]

theorem readsLists_strings (separator : Char) :
    ReadsLists (fun s => .strings ⟨separator, s⟩) separator Eq id .strings := by
  have hitself : ∀ piece a : String, piece = a ↔ id piece = a := fun _ _ => .rfl
  refine readsLists_of_chosen ?_ hitself ?_
  · intro kept kept' h
    exact Value.strings.inj h
  · intro s text
    rw [read, StringsRule.items_eq]

theorem readsLists_sort (separator modifier : Char) :
    ReadsLists (fun s => .sort ⟨separator, modifier, s⟩) separator (SortKey.Spells modifier)
      SortKey.field .sort := by
  refine readsLists_of_chosen ?_ (fun _ _ => SortKey.spells_iff) ?_
  · intro kept kept' h
    exact Value.sort.inj h
  · intro s text
    rw [read, SortRule.keys_eq]

/-- How lists are read.  Of the items that the pieces of a text stand for, those are left whose
label is not empty and passes the allow-list, in their order.  If labels are not to be repeated, the
first item of each is left.  A string is its own label.  The label of a sort key is its field, so
that the first direction wins. -/
theorem read_lists (separator modifier : Char) :
    ReadsLists (fun s => .strings ⟨separator, s⟩) separator Eq id .strings ∧
    ReadsLists (fun s => .sort ⟨separator, modifier, s⟩) separator (SortKey.Spells modifier)
      SortKey.field .sort :=
  ⟨readsLists_strings separator, readsLists_sort separator modifier⟩

/-- A field that is not allowed does not count as a first one, and neither does a lone modifier. -/
theorem read_lists_repeated_field :
    let text := "-age,id,,age,-,name,-id,--age"
    let keys : List SortKey := [⟨"age", .descending⟩, ⟨"name", .ascending⟩]
    (Rule.sort ⟨',', '-', ⟨["name", "age"], true⟩⟩).read text = (.ok (), .of (.sort keys)) ∧
      (Rule.sort ⟨',', '-', ⟨["age", "name", "age"], true⟩⟩).read text
        = (.ok (), .of (.sort keys)) ∧
      (Rule.sort ⟨',', '-', ⟨["name", "age"], true⟩⟩).read (text ++ String.singleton ',' ++ text)
        = (.ok (), .of (.sort keys)) := by
  intro text keys
  have hlists := (read_lists ',' '-').2
  have hlisted : Listed ',' (SortKey.Spells '-') text [⟨"age", .descending⟩, ⟨"id", .ascending⟩,
      ⟨"", .ascending⟩, ⟨"age", .ascending⟩, ⟨"", .descending⟩, ⟨"name", .ascending⟩,
      ⟨"id", .descending⟩, ⟨"-age", .descending⟩] := by
    have hstands : ∀ piece key, SortKey.Spells '-' piece key ↔ SortKey.ofToken '-' piece = key :=
      fun _ _ => SortKey.spells_iff
    rw [listed_iff hstands]
    decide
  have hread := (hlists.read_iff ⟨["name", "age"], true⟩ text keys).mpr
    ⟨_, hlisted, Selection.selects_iff.mpr (by decide)⟩
  refine ⟨hread, ?_, ?_⟩
  · have hsame := hlists.allowed ⟨["age", "name", "age"], true⟩ ⟨["name", "age"], true⟩ rfl
      (by decide) (by decide) (by simp [or_comm]) text
    exact hsame.trans hread
  · exact (hlists.append _ text text keys keys keys hread hread).mpr
      (Selection.reduces_iff.mpr (by decide))

end Rule

end TypedQuery
