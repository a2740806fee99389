import Mathlib.Logic.Relation
import TypedQuery.Proofs.Query.Outcome

/-!
# What the order of a query does not change

A parameter hears the texts under its own name, and of these the last.  So the
texts under each name, in their order, determine what an accepted query leaves
(`Registry.after_congr`).  How texts under different names are interleaved does
not count, and neither do pairs that name no parameter.

The same is then said of the pieces of a query.  Two neighbours with different
keys may change places, and a piece that no parameter hears may be put in or left
out (`Unheard`).  Such a change keeps the texts under every registered name, and
so does any number of them (`textsUnder_of_unheard`).

`Reachable.read_rearranged` puts the two together: queries whose pieces carry the
same texts under each registered name are accepted together and leave the same
registry.
-/

namespace TypedQuery

/-! ## Texts under a name -/

/-- The texts that pairs give under a name, in their order. -/
def textsUnder (name : String) (pairs : List (String × String)) : List String :=
  pairs.filterMap fun pair => if name == pair.1 then some pair.2 else none

variable {name text : String} {pairs pairs' : List (String × String)}

theorem textsUnder_append (name : String) (pairs pairs' : List (String × String)) :
    textsUnder name (pairs ++ pairs') = textsUnder name pairs ++ textsUnder name pairs' :=
  List.filterMap_append

theorem mem_textsUnder : text ∈ textsUnder name pairs ↔ (name, text) ∈ pairs := by
  simp [textsUnder]

/-- There is nothing under a name that no pair has. -/
theorem textsUnder_of_ne (h : ∀ pair ∈ pairs, pair.1 ≠ name) : textsUnder name pairs = [] := by
  rw [List.eq_nil_iff_forall_not_mem]
  intro text htext
  exact h _ (mem_textsUnder.mp htext) rfl

/-- The last pair with a name has the last text under it. -/
theorem lookup_reverse (name : String) (pairs : List (String × String)) :
    pairs.reverse.lookup name = (textsUnder name pairs).getLast? := by
  rw [List.lookup_eq_findSome?, ← List.head?_filterMap, List.filterMap_reverse,
    List.head?_reverse]
  rfl

theorem Parameter.after_congr {p : Parameter}
    (h : textsUnder p.name pairs = textsUnder p.name pairs') : p.after pairs = p.after pairs' := by
  rw [after, after, lookup_reverse, lookup_reverse, h]

namespace Registry

variable {r : Registry}

/-- Pairs that carry the same texts under each registered name leave the same registry. -/
theorem after_congr (h : ∀ name ∈ r.names, textsUnder name pairs = textsUnder name pairs') :
    r.after pairs = r.after pairs' := by
  have hparameters : r.parameters.map (fun p => p.after pairs)
      = r.parameters.map fun p => p.after pairs' := by
    apply Array.map_congr_left
    intro p hp
    exact Parameter.after_congr (h p.name (mem_names.mpr ⟨p, hp, rfl⟩))
  rw [after, after, hparameters]

/-- A pair whose key is normal and not registered is accepted: nobody hears it. -/
theorem accepts_of_not_mem {pair : String × String} (hkey : Key.isNormal pair.1 = true)
    (hname : pair.1 ∉ r.names) : r.Accepts pair := by
  apply accepts_of_forall hkey
  intro d hd hkey'
  exact absurd (hkey' ▸ List.mem_map_of_mem hd) hname

/-- Pairs with normal keys are accepted if the texts under each registered name are texts of
accepted pairs. -/
theorem accepts_of_textsUnder (hall : ∀ pair ∈ pairs, r.Accepts pair)
    (h : ∀ name ∈ r.names, textsUnder name pairs = textsUnder name pairs')
    (hkeys : ∀ pair ∈ pairs', Key.isNormal pair.1 = true) : ∀ pair ∈ pairs', r.Accepts pair := by
  intro pair hpair
  by_cases hname : pair.1 ∈ r.names
  · have htext : pair.2 ∈ textsUnder pair.1 pairs' := mem_textsUnder.mpr hpair
    rw [← h pair.1 hname] at htext
    exact hall pair (mem_textsUnder.mp htext)
  · exact accepts_of_not_mem (hkeys pair hpair) hname

end Registry

/-! ## Pieces -/

namespace Settings

/-- Pieces that make up a query. -/
structure MakesQuery (s : Settings) (pieces : List String) : Prop where
  free : ∀ piece ∈ pieces, s.pairSeparator ∉ piece.toList
  nonempty : Text.joined s.pairSeparator pieces ≠ ""

/-- The input that is a query separator and some pieces. -/
def inputOf (s : Settings) (pieces : List String) : String :=
  String.singleton s.querySeparator ++ Text.joined s.pairSeparator pieces

/-- A piece is a pair with this key. -/
def KeyOf (s : Settings) (piece key : String) : Prop :=
  ∃ text, piece = key ++ String.singleton s.valueSeparator ++ text ∧
    s.valueSeparator ∉ key.toList

/-- The pairs among some pieces, in their order. -/
def pairsAmong (s : Settings) (pieces : List String) : List (String × String) :=
  pieces.filterMap (Text.cut? s.valueSeparator)

variable {s : Settings} {pieces : List String}

theorem queryText_inputOf (s : Settings) (pieces : List String) :
    s.queryText (s.inputOf pieces) = Text.joined s.pairSeparator pieces := by
  have hpath : s.querySeparator ∉ "".toList := by simp
  have hquery := queryText_append hpath (Text.joined s.pairSeparator pieces)
  rw [String.empty_append] at hquery
  exact hquery

theorem MakesQuery.pairs_eq (h : s.MakesQuery pieces) :
    s.pairs (s.queryText (s.inputOf pieces)) = s.pairsAmong pieces := by
  have hne : pieces ≠ [] := by
    rintro rfl
    exact h.nonempty (Text.joined_nil _)
  rw [queryText_inputOf, pairs, Text.pieces_joined hne h.free]
  rfl

theorem pairsAmong_append (s : Settings) (pieces pieces' : List String) :
    s.pairsAmong (pieces ++ pieces') = s.pairsAmong pieces ++ s.pairsAmong pieces' :=
  List.filterMap_append

theorem keyOf_iff {piece key : String} :
    s.KeyOf piece key ↔ (Text.cut? s.valueSeparator piece).map Prod.fst = some key := by
  constructor
  · rintro ⟨text, hwritten⟩
    rw [Text.cut?_eq_some_iff.mpr hwritten]
    rfl
  · intro hkey
    obtain ⟨⟨_, text⟩, hcut, rfl⟩ := Option.map_eq_some_iff.mp hkey
    exact ⟨text, Text.cut?_eq_some_iff.mp hcut⟩

theorem keyOf_of_mem {piece : String} {pair : String × String} (h : pair ∈ s.pairsAmong [piece]) :
    s.KeyOf piece pair.1 := by
  obtain ⟨found, hfound, hcut⟩ := List.mem_filterMap.mp h
  obtain rfl := List.mem_singleton.mp hfound
  rw [keyOf_iff, hcut]
  rfl

/-- A piece with another key has no text under a name. -/
theorem textsUnder_of_not_keyOf {piece name : String} (h : ¬ s.KeyOf piece name) :
    textsUnder name (s.pairsAmong [piece]) = [] := by
  apply textsUnder_of_ne
  rintro pair hpair rfl
  exact h (keyOf_of_mem hpair)

end Settings

/-! ## Changes that are not heard -/

namespace Registry

variable {r : Registry} {pieces pieces' : List String}

/-- A change of the pieces of a query that no parameter hears. -/
inductive Unheard (r : Registry) : List String → List String → Prop where
  /-- Neighbours with different keys change places. -/
  | swap (before after : List String) {piece next : String} :
      (∀ key, r.settings.KeyOf piece key → ¬ r.settings.KeyOf next key) →
      Unheard r (before ++ ([piece] ++ [next]) ++ after) (before ++ ([next] ++ [piece]) ++ after)
  /-- A piece is put in that is no pair, or whose key is normal and names no parameter. -/
  | insert (before after : List String) {piece : String} :
      (∀ key, r.settings.KeyOf piece key → Key.isNormal key = true ∧ key ∉ r.names) →
      Unheard r (before ++ after) (before ++ [piece] ++ after)

/-- A change that is not heard keeps the texts under each registered name. -/
theorem Unheard.textsUnder_eq (h : r.Unheard pieces pieces') {name : String}
    (hname : name ∈ r.names) : textsUnder name (r.settings.pairsAmong pieces)
      = textsUnder name (r.settings.pairsAmong pieces') := by
  cases h with
  | @swap before after piece next hkeys =>
    -- Only one of the two neighbours can have a text under the name.
    have hpair : textsUnder name (r.settings.pairsAmong ([piece] ++ [next]))
        = textsUnder name (r.settings.pairsAmong ([next] ++ [piece])) := by
      rw [Settings.pairsAmong_append, Settings.pairsAmong_append, textsUnder_append,
        textsUnder_append]
      by_cases hpiece : r.settings.KeyOf piece name
      · rw [Settings.textsUnder_of_not_keyOf (hkeys name hpiece), List.append_nil, List.nil_append]
      · rw [Settings.textsUnder_of_not_keyOf hpiece, List.append_nil, List.nil_append]
    simp only [Settings.pairsAmong_append _ _ after, Settings.pairsAmong_append _ before,
      textsUnder_append, hpair]
  | @insert before after piece hkeys =>
    have hpiece : textsUnder name (r.settings.pairsAmong [piece]) = [] :=
      Settings.textsUnder_of_not_keyOf fun hkey => (hkeys name hkey).2 hname
    simp only [Settings.pairsAmong_append, textsUnder_append, hpiece, List.append_nil]

/-- A change that is not heard keeps it whether all keys are normal. -/
theorem Unheard.isNormal_iff (h : r.Unheard pieces pieces') :
    (∀ pair ∈ r.settings.pairsAmong pieces, Key.isNormal pair.1 = true) ↔
      ∀ pair ∈ r.settings.pairsAmong pieces', Key.isNormal pair.1 = true := by
  cases h with
  | @swap before after piece next _ =>
    simp only [Settings.pairsAmong_append, List.forall_mem_append]
    rw [and_comm (a := ∀ pair ∈ r.settings.pairsAmong [piece], Key.isNormal pair.1 = true)]
  | @insert before after piece hkeys =>
    have hpiece : ∀ pair ∈ r.settings.pairsAmong [piece], Key.isNormal pair.1 = true :=
      fun pair hpair => (hkeys pair.1 (Settings.keyOf_of_mem hpair)).1
    simp only [Settings.pairsAmong_append, List.forall_mem_append]
    rw [and_iff_left hpiece]

/-- So does any number of such changes, made or undone. -/
theorem textsUnder_of_unheard (h : Relation.EqvGen r.Unheard pieces pieces') :
    (∀ name ∈ r.names, textsUnder name (r.settings.pairsAmong pieces)
      = textsUnder name (r.settings.pairsAmong pieces')) ∧
    ((∀ pair ∈ r.settings.pairsAmong pieces, Key.isNormal pair.1 = true) ↔
      ∀ pair ∈ r.settings.pairsAmong pieces', Key.isNormal pair.1 = true) := by
  induction h with
  | rel _ _ hstep => exact ⟨fun name hname => hstep.textsUnder_eq hname, hstep.isNormal_iff⟩
  | refl _ => exact ⟨fun _ _ => rfl, Iff.rfl⟩
  | symm _ _ _ ih => exact ⟨fun name hname => (ih.1 name hname).symm, ih.2.symm⟩
  | trans _ _ _ _ _ ih ih' =>
    exact ⟨fun name hname => (ih.1 name hname).trans (ih'.1 name hname), ih.2.trans ih'.2⟩

/-! ## Reading pieces in another order -/

/-- Queries of normal keys that carry the same texts under each registered name are accepted
together, and leave the same registry. -/
theorem Indexed.read_inputOf (h : r.Indexed) (hpieces : r.settings.MakesQuery pieces)
    (hpieces' : r.settings.MakesQuery pieces')
    (hkeys : ∀ pair ∈ r.settings.pairsAmong pieces', Key.isNormal pair.1 = true)
    (htexts : ∀ name ∈ r.names, textsUnder name (r.settings.pairsAmong pieces)
      = textsUnder name (r.settings.pairsAmong pieces'))
    (hok : (r.read (r.settings.inputOf pieces)).1 = .ok ()) :
    r.read (r.settings.inputOf pieces') = (.ok (), (r.read (r.settings.inputOf pieces)).2) := by
  have hread := read_of_ok h hok
  obtain ⟨hempty, -, hall⟩ := (read_eq_ok_iff h).mp hok
  rw [hpieces.pairs_eq] at hread hall
  have hok' : (r.read (r.settings.inputOf pieces')).1 = .ok () := by
    rw [read_eq_ok_iff h, hpieces'.pairs_eq, Settings.queryText_inputOf]
    exact ⟨hempty, hpieces'.nonempty, accepts_of_textsUnder hall htexts hkeys⟩
  rw [read_of_ok h hok', hpieces'.pairs_eq, hread, after_congr htexts]

/-- An accepted query stays accepted, and leaves what it left, if its pieces are replaced by others
that carry the same texts under each registered name.  This is so for pieces of other keys in
another order, and for pieces more or less that no parameter hears. -/
theorem Reachable.read_rearranged (hr : r.Reachable) (hpieces : r.settings.MakesQuery pieces)
    (hpieces' : r.settings.MakesQuery pieces')
    (hok : (r.read (r.settings.inputOf pieces)).1 = .ok ()) :
    (∀ pairs pairs', r.settings.PairsOf pieces pairs → r.settings.PairsOf pieces' pairs' →
      (∀ pair ∈ pairs ++ pairs', Key.isNormal pair.1 = true) →
      (∀ name ∈ r.names, textsUnder name pairs = textsUnder name pairs') →
      r.read (r.settings.inputOf pieces') = (.ok (), (r.read (r.settings.inputOf pieces)).2)) ∧
    (Relation.EqvGen r.Unheard pieces pieces' →
      r.read (r.settings.inputOf pieces') = (.ok (), (r.read (r.settings.inputOf pieces)).2)) := by
  constructor
  · intro pairs pairs' hpairs hpairs' hkeys htexts
    obtain rfl : r.settings.pairsAmong pieces = pairs := Settings.pairsOf_iff.mp hpairs
    obtain rfl : r.settings.pairsAmong pieces' = pairs' := Settings.pairsOf_iff.mp hpairs'
    exact hr.indexed.read_inputOf hpieces hpieces' (List.forall_mem_append.mp hkeys).2 htexts hok
  · intro hunheard
    obtain ⟨htexts, hkeys⟩ := textsUnder_of_unheard hunheard
    obtain ⟨-, -, hall⟩ := (read_eq_ok_iff hr.indexed).mp hok
    rw [hpieces.pairs_eq] at hall
    have hnormal := hkeys.mp fun pair hpair => (hall pair hpair).isNormal
    exact hr.indexed.read_inputOf hpieces hpieces' hnormal htexts hok

theorem read_rearranged_two_parameters :
    let ds : List Declaration :=
      [⟨"q", none, true, .should, .search ⟨'*', 1, 3⟩⟩,
        ⟨"age", none, true, .must, .range ⟨'-', 0, 99⟩⟩]
    let r := (empty .default).registerAll ds
    r.Reachable ∧ (r.read "?q=a&age=18-&q=b=&").1 = .ok () ∧
      r.read "?utm=1&q=a&q=b=&age=18-" = (.ok (), (r.read "?q=a&age=18-&q=b=&").2) ∧
      r.read "?age=18-&q=a&q=b=" = (.ok (), (r.read "?q=a&age=18-&q=b=&").2) := by
  intro ds r
  have hr : r.Reachable := (Reachable.empty .default).run (ds.map .register)
  have hok : (r.read "?q=a&age=18-&q=b=&").1 = .ok () :=
    read_registerAll_eq_ok (by decide) (by decide) (by decide) (by decide)
  have hnames : r.names = ["q", "age"] :=
    congrArg (List.map Declaration.name) (declarations_registerAll_empty .default (by decide))
  have hsettings : r.settings = .default := settings_registerAll (empty .default) ds
  have hread := fun pieces pieces' => @Reachable.read_rearranged r pieces pieces' hr
  rw [hsettings] at hread
  have hpieces : Settings.default.MakesQuery ["q=a", "age=18-", "q=b=", ""] :=
    ⟨by decide, by decide⟩
  refine ⟨hr, hok, ?_, ?_⟩
  · refine (hread _ ["utm=1", "q=a", "q=b=", "age=18-"] hpieces ⟨by decide, by decide⟩ hok).1
      [("q", "a"), ("age", "18-"), ("q", "b=")]
      [("utm", "1"), ("q", "a"), ("q", "b="), ("age", "18-")] ?_ ?_ (by decide) ?_
    · exact Settings.pairsOf_iff.mpr (by decide)
    · exact Settings.pairsOf_iff.mpr (by decide)
    · rw [hnames]
      decide
  · refine (hread _ ["age=18-", "q=a", "q=b="] hpieces ⟨by decide, by decide⟩ hok).2 ?_
    have hkeys : ∀ key, r.settings.KeyOf "q=a" key → ¬ r.settings.KeyOf "age=18-" key := by
      intro key hq hage
      rw [Settings.keyOf_iff, hsettings] at hq hage
      exact absurd (hq.trans hage.symm) (by decide)
    have hnone : ∀ key, ¬ r.settings.KeyOf "" key := by
      intro key hkey
      rw [Settings.keyOf_iff, hsettings] at hkey
      cases hkey
    exact .trans _ _ _ (.rel _ _ (.swap [] ["q=b=", ""] hkeys))
      (.symm _ _ (.rel _ _ (.insert ["age=18-", "q=a", "q=b="] [] fun key hkey =>
        absurd hkey (hnone key))))

end Registry

end TypedQuery
