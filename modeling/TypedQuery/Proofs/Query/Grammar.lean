import TypedQuery.Proofs.Text.Pieces
import TypedQuery.Registry.Query

/-!
# The grammar of queries

An input is a path, a query separator and a query, or else a query alone.  A
query is a list of pieces with a pair separator between neighbours.  A piece is
a pair if it has a value separator, and the first one stands between its key and
its value; other pieces are no pairs.

The grammar is stated as relations between a text and what it is made of:
`QueryIn` between an input and its query, `PairsIn` between a query and its
pairs.  `queryIn_iff` and `pairsIn_iff` say that `queryText` and `pairs` compute
exactly these, so that an input has one query and a query has one list of pairs.
`pairs_writeQuery` is the way back from pairs to a query.
-/

namespace TypedQuery

namespace Settings

/-! ## Queries in inputs -/

/-- A query that an input gives. -/
inductive QueryIn (s : Settings) : String → String → Prop where
  /-- What follows the first query separator. -/
  | afterPath : s.querySeparator ∉ path.toList →
      QueryIn s (path ++ String.singleton s.querySeparator ++ query) query
  /-- An input without a query separator. -/
  | whole : s.querySeparator ∉ query.toList → QueryIn s query query

theorem queryText_append {s : Settings} {path : String} (h : s.querySeparator ∉ path.toList)
    (query : String) :
    s.queryText (path ++ String.singleton s.querySeparator ++ query) = query := by
  rw [queryText, Text.cut?_append h]

theorem queryText_of_not_mem {s : Settings} {input : String}
    (h : s.querySeparator ∉ input.toList) : s.queryText input = input := by
  rw [queryText, Text.cut?_eq_none_iff.mpr h]

/-- An input has exactly one query. -/
theorem queryIn_iff {s : Settings} {input query : String} :
    s.QueryIn input query ↔ s.queryText input = query := by
  constructor
  · intro h
    cases h with
    | afterPath hpath => exact queryText_append hpath query
    | whole hfree => exact queryText_of_not_mem hfree
  · rintro rfl
    unfold queryText
    split
    next path query hcut =>
      obtain ⟨rfl, hpath⟩ := Text.cut?_eq_some_iff.mp hcut
      exact .afterPath hpath
    next hcut => exact .whole (Text.cut?_eq_none_iff.mp hcut)

/-! ## Pairs in queries -/

/-- The pairs among some pieces. -/
inductive PairsOf (s : Settings) : List String → List (String × String) → Prop where
  | nil : PairsOf s [] []
  /-- A piece without a value separator is no pair. -/
  | skip {piece : String} {pieces : List String} {pairs : List (String × String)} :
      s.valueSeparator ∉ piece.toList → PairsOf s pieces pairs → PairsOf s (piece :: pieces) pairs
  /-- The key ends at the first value separator. -/
  | pair {key text : String} {pieces : List String} {pairs : List (String × String)} :
      s.valueSeparator ∉ key.toList → PairsOf s pieces pairs →
      PairsOf s ((key ++ String.singleton s.valueSeparator ++ text) :: pieces)
        ((key, text) :: pairs)

theorem pairsOf_iff {s : Settings} {pieces : List String} {pairs : List (String × String)} :
    s.PairsOf pieces pairs ↔ pieces.filterMap (Text.cut? s.valueSeparator) = pairs := by
  constructor
  · intro h
    induction h with
    | nil => rfl
    | skip hfree _ ih => rw [List.filterMap_cons_none (Text.cut?_eq_none_iff.mpr hfree), ih]
    | pair hkey _ ih => rw [List.filterMap_cons_some (Text.cut?_append hkey _), ih]
  · rintro rfl
    induction pieces with
    | nil => exact .nil
    | cons piece pieces ih =>
      cases hcut : Text.cut? s.valueSeparator piece with
      | none =>
        rw [List.filterMap_cons_none hcut]
        exact .skip (Text.cut?_eq_none_iff.mp hcut) ih
      | some pair =>
        obtain ⟨key, text⟩ := pair
        rw [List.filterMap_cons_some hcut]
        obtain ⟨rfl, hkey⟩ := Text.cut?_eq_some_iff.mp hcut
        exact .pair hkey ih

/-- Pairs that a query gives: the pairs among its pieces. -/
def PairsIn (s : Settings) (query : String) (pairs : List (String × String)) : Prop :=
  ∃ pieces, pieces ≠ [] ∧ Text.joined s.pairSeparator pieces = query ∧
    (∀ piece ∈ pieces, s.pairSeparator ∉ piece.toList) ∧ s.PairsOf pieces pairs

/-- A query has exactly one list of pairs. -/
theorem pairsIn_iff {s : Settings} {query : String} {pairs : List (String × String)} :
    s.PairsIn query pairs ↔ s.pairs query = pairs := by
  constructor
  · rintro ⟨pieces, hne, hjoined, hfree, hpairs⟩
    rw [Settings.pairs, Text.pieces_eq_iff.mpr ⟨hne, hjoined, hfree⟩]
    exact pairsOf_iff.mp hpairs
  · rintro rfl
    have hpieces : Text.pieces s.pairSeparator query = Text.pieces s.pairSeparator query := rfl
    obtain ⟨hne, hjoined, hfree⟩ := Text.pieces_eq_iff.mp hpieces
    exact ⟨_, hne, hjoined, hfree, pairsOf_iff.mpr rfl⟩

/-! ## Writing -/

/-- A pair that can be written: the key is free of both separators, and the text of the value
of the one that ends it. -/
structure Writable (s : Settings) (pair : String × String) : Prop where
  key_pair : s.pairSeparator ∉ pair.1.toList
  key_value : s.valueSeparator ∉ pair.1.toList
  text_pair : s.pairSeparator ∉ pair.2.toList

theorem not_mem_writePair {s : Settings} (hsep : s.pairSeparator ≠ s.valueSeparator)
    {pair : String × String} (h : s.Writable pair) :
    s.pairSeparator ∉ (s.writePair pair).toList := by
  simp [writePair, h.key_pair, h.text_pair, hsep]

theorem pairsOf_writePair {s : Settings} {pairs : List (String × String)}
    (h : ∀ pair ∈ pairs, s.Writable pair) : s.PairsOf (pairs.map s.writePair) pairs := by
  induction pairs with
  | nil => exact .nil
  | cons pair pairs ih =>
    have hrest := ih fun q hq => h q (List.mem_cons_of_mem _ hq)
    exact .pair (h pair List.mem_cons_self).key_value hrest

/-- Pairs are read back from the query that writes them. -/
theorem pairs_writeQuery {s : Settings} (hsep : s.pairSeparator ≠ s.valueSeparator)
    {pairs : List (String × String)} (hne : pairs ≠ []) (h : ∀ pair ∈ pairs, s.Writable pair) :
    s.pairs (s.writeQuery pairs) = pairs := by
  rw [← pairsIn_iff]
  refine ⟨pairs.map s.writePair, by simpa using hne, rfl, ?_, pairsOf_writePair h⟩
  intro piece hpiece
  obtain ⟨pair, hpair, rfl⟩ := List.mem_map.mp hpiece
  exact not_mem_writePair hsep (h pair hpair)

/-- An empty query has no pairs. -/
theorem pairs_empty (s : Settings) : s.pairs "" = [] := by
  have hfree (c : Char) : c ∉ "".toList := by simp
  rw [← pairsIn_iff]
  exact ⟨[""], by simp, by simp [Text.joined], by simp, .skip (hfree _) .nil⟩

end Settings

end TypedQuery
