import Mathlib.Data.Finset.Card
import TypedQuery.Proofs.Query.Order
import TypedQuery.Proofs.Rule.Outcome

/-!
# How many parameters are parsed

After an accepted query, a parameter is parsed if the query gives its name as a
key, however often it does and whatever else the query is made of.  The list of a
parameter may well be empty, that counts.  The exception is a search term of
nothing but wildcards.  A rule accepts one only if it has no least length, and it
is the last text under the name that matters (`Parameter.parsed_after_iff`).

A parameter has a name of its own, so that counting parameters is counting names
(`Indexed.exists_card_eq_parsedCount`).  `Reachable.parsedCount_read` puts the two
together: what is counted are the different names that the query addresses.
-/

namespace TypedQuery

/-! ## Texts without a character -/

/-- A text of nothing but wildcards, if any, where a search term is read. -/
inductive Rule.Wordless : Rule → String → Prop where
  | search {rule : SearchRule} {text : String} :
      (∀ c ∈ text.toList, c = rule.wildcard) → Wordless (.search rule) text

theorem Rule.Wordless.exists_search {rule : Rule} {text : String} (h : rule.Wordless text) :
    ∃ search, rule = .search search := by
  cases h
  exact ⟨_, rfl⟩

theorem SearchRule.literal_eq_nil_iff {rule : SearchRule} {text : String} :
    rule.literal text = [] ↔ Rule.Wordless (.search rule) text := by
  have hnil : rule.literal text = [] ↔ ∀ c ∈ text.toList, c = rule.wildcard := by
    simp [literal, List.filter_eq_nil_iff]
  rw [hnil]
  constructor
  · exact .search
  · rintro ⟨hall⟩
    exact hall

namespace Parameter

variable {p : Parameter} {text : String} {pairs : List (String × String)}

/-- An accepted text makes its parameter parsed, unless there is no character in it. -/
theorem parsed_read_iff (hok : (p.read text).1 = .ok ()) :
    (p.read text).2.parsed = true ↔ ¬ p.declaration.rule.Wordless text := by
  cases hsearch : p.declaration.rule with
  | search rule =>
    have hreading := ((leavesTerm hsearch text).ok hok).1
    rw [parsed, hreading, ← SearchRule.literal_eq_nil_iff, ← List.length_eq_zero_iff]
    simp [Nat.pos_iff_ne_zero]
  | _ =>
    rcases p.declaration.rule.search_or_allOrNothing text with
      ⟨rule, hrule⟩ | ⟨value, -, hread⟩ | ⟨fault, -, hread⟩
    · rw [hsearch] at hrule
      cases hrule
    · rw [read_eq, hread]
      refine iff_of_true rfl ?_
      rintro ⟨⟩
    · rw [result_eq_ok_iff, hread] at hok
      cases hok

/-- Only without a least length is a text accepted that has no character. -/
theorem minLength_of_wordless {rule : SearchRule} (hrule : p.declaration.rule = .search rule)
    (hok : (p.read text).1 = .ok ()) (hword : p.declaration.rule.Wordless text) :
    rule.minLength = 0 := by
  apply ((leavesTerm hrule text).ok hok).2
  rw [← Bool.not_eq_true, parsed_read_iff hok, not_not]
  exact hword

/-- The last text under its name decides whether a parameter is parsed. -/
theorem parsed_after_iff
    (hall : ∀ text ∈ textsUnder p.name pairs, ((fresh p.declaration).read text).1 = .ok ()) :
    (p.after pairs).parsed = true ↔ ∃ text, (textsUnder p.name pairs).getLast? = some text ∧
      ¬ p.declaration.rule.Wordless text := by
  rw [after, lookup_reverse]
  cases hlast : (textsUnder p.name pairs).getLast? with
  | none => simp [fresh, parsed, Reading.blank]
  | some text =>
    have hread := parsed_read_iff (hall text (List.mem_of_getLast? hlast))
    simp only [Option.some.injEq, exists_eq_left']
    exact hread

end Parameter

namespace Registry

variable {r : Registry} {pairs : List (String × String)}

/-! ## Counting names -/

/-- The parsed parameters are as many as their names. -/
theorem Indexed.exists_card_eq_parsedCount (h : r.Indexed) :
    ∃ names : Finset String,
      (∀ name, name ∈ names ↔ ∃ p ∈ r.parameters, p.parsed = true ∧ p.name = name) ∧
      r.parsedCount = names.card := by
  have hnodup : (r.parameters.toList.map Parameter.name).Nodup := by
    have hnames := h.nodup_names
    rw [names, declarations, List.map_map] at hnames
    exact hnames
  have hsub : ((r.parameters.toList.filter Parameter.parsed).map Parameter.name).Nodup :=
    (List.filter_sublist.map Parameter.name).nodup hnodup
  refine ⟨((r.parameters.toList.filter Parameter.parsed).map Parameter.name).toFinset, ?_, ?_⟩
  · intro name
    simp [and_assoc]
  · rw [List.toFinset_card_of_nodup hsub, List.length_map, ← List.countP_eq_length_filter,
      parsedCount, Array.countP_toList]

/-- A parameter has the name, and the name is the key of a pair. -/
def Addressed (r : Registry) (pairs : List (String × String)) (name : String) : Prop :=
  name ∈ r.names ∧ ∃ text, (name, text) ∈ pairs

/-- A search term is read under the name, and the last text for it is nothing but wildcards. -/
def Wordless (r : Registry) (pairs : List (String × String)) (name : String) : Prop :=
  ∃ p ∈ r.parameters, p.name = name ∧
    ∃ text, (textsUnder name pairs).getLast? = some text ∧ p.declaration.rule.Wordless text

/-- The parameter with the key of an accepted pair accepts the text. -/
theorem Accepts.read_eq_ok {p : Parameter} {text : String} (h : r.Accepts (p.name, text))
    (hp : p ∈ r.parameters) : ((Parameter.fresh p.declaration).read text).1 = .ok () := by
  cases hread : ((Parameter.fresh p.declaration).read text).1 with
  | ok u => rfl
  | error e => exact absurd (.text h.isNormal hp rfl hread) (h e)

/-- What accepted pairs leave is parsed under the names that they address, apart from search terms
without a character. -/
theorem Indexed.exists_parsed_after_iff (h : r.Indexed) (hall : ∀ pair ∈ pairs, r.Accepts pair)
    (name : String) : (∃ p ∈ (r.after pairs).parameters, p.parsed = true ∧ p.name = name) ↔
      r.Addressed pairs name ∧ ¬ r.Wordless pairs name := by
  have htexts : ∀ p ∈ r.parameters, ∀ text ∈ textsUnder p.name pairs,
      ((Parameter.fresh p.declaration).read text).1 = .ok () :=
    fun p hp text htext => (hall _ (mem_textsUnder.mp htext)).read_eq_ok hp
  constructor
  · rintro ⟨_, hafter, hparsed, rfl⟩
    obtain ⟨p, hp, rfl⟩ := Array.mem_map.mp hafter
    obtain ⟨text, hlast, hword⟩ := (Parameter.parsed_after_iff (htexts p hp)).mp hparsed
    rw [Parameter.name_after]
    refine ⟨⟨mem_names.mpr ⟨p, hp, rfl⟩, text, ?_⟩, ?_⟩
    · exact mem_textsUnder.mp (List.mem_of_getLast? hlast)
    · rintro ⟨q, hq, hname, text', hlast', hword'⟩
      obtain rfl := h.eq_of_name_eq hq hp hname
      obtain rfl := Option.some.inj (hlast.symm.trans hlast')
      exact hword hword'
  · rintro ⟨⟨hname, text, htext⟩, hword⟩
    obtain ⟨p, hp, rfl⟩ := mem_names.mp hname
    have hne : textsUnder p.name pairs ≠ [] := List.ne_nil_of_mem (mem_textsUnder.mpr htext)
    have hlast := List.getLast?_eq_some_getLast hne
    refine ⟨p.after pairs, Array.mem_map_of_mem hp, ?_, p.name_after pairs⟩
    rw [Parameter.parsed_after_iff (htexts p hp)]
    exact ⟨_, hlast, fun hlastWord => hword ⟨p, hp, rfl, _, hlast, hlastWord⟩⟩

/-- Only a search term without a least length is read from nothing but wildcards. -/
theorem Indexed.minLength_of_wordless (h : r.Indexed) (hall : ∀ pair ∈ pairs, r.Accepts pair)
    {p : Parameter} (hp : p ∈ r.parameters) {rule : SearchRule}
    (hrule : p.declaration.rule = .search rule) (hword : r.Wordless pairs p.name) :
    rule.minLength = 0 := by
  obtain ⟨q, hq, hname, text, hlast, hword⟩ := hword
  obtain rfl := h.eq_of_name_eq hq hp hname
  have hpair := hall _ (mem_textsUnder.mp (List.mem_of_getLast? hlast))
  exact Parameter.minLength_of_wordless hrule (hpair.read_eq_ok hq) hword

/-- With a least length for every search term, nothing but wildcards is not accepted. -/
theorem Indexed.not_wordless (h : r.Indexed) (hall : ∀ pair ∈ pairs, r.Accepts pair)
    (hleast : ∀ p ∈ r.parameters, ∀ rule, p.declaration.rule = .search rule → 1 ≤ rule.minLength)
    (name : String) : ¬ r.Wordless pairs name := by
  intro hword
  obtain ⟨p, hp, rfl, text, hlast, hwildcards⟩ := hword
  obtain ⟨rule, hrule⟩ := hwildcards.exists_search
  have hzero := h.minLength_of_wordless hall hp hrule ⟨p, hp, rfl, text, hlast, hwildcards⟩
  have hone := hleast p hp rule hrule
  rw [hzero] at hone
  exact absurd hone (by decide)

/-- After an accepted query as many parameters are parsed as there are names that the query
addresses, apart from search terms whose last text is nothing but wildcards.  If every search term
has a least length, none is parsed exactly if none is addressed. -/
theorem Reachable.parsedCount_read (hr : r.Reachable) {input : String}
    (hok : (r.read input).1 = .ok ()) :
    ∃ query pairs, r.settings.QueryIn input query ∧ r.settings.PairsIn query pairs ∧
      (∃ names : Finset String,
        (∀ name, name ∈ names ↔ r.Addressed pairs name ∧ ¬ r.Wordless pairs name) ∧
        (r.read input).2.parsedCount = names.card) ∧
      (∀ p ∈ r.parameters, ∀ rule, p.declaration.rule = .search rule →
        r.Wordless pairs p.name → rule.minLength = 0) ∧
      ((∀ p ∈ r.parameters, ∀ rule, p.declaration.rule = .search rule → 1 ≤ rule.minLength) →
        ((r.read input).2.parsedCount = 0 ↔ ∀ name, ¬ r.Addressed pairs name)) := by
  have h := hr.indexed
  obtain ⟨-, -, hall⟩ := (read_eq_ok_iff h).mp hok
  have hread := read_of_ok h hok
  have hquery := Settings.queryIn_iff.mpr (rfl : r.settings.queryText input = _)
  have hpairs := Settings.pairsIn_iff.mpr (rfl : r.settings.pairs (r.settings.queryText input) = _)
  generalize r.settings.pairs (r.settings.queryText input) = pairs at hall hread hpairs
  have hindexed : (r.after pairs).Indexed := h.of_alike (r.alike_after pairs)
  obtain ⟨names, hmem, hcard⟩ := hindexed.exists_card_eq_parsedCount
  have hnames : ∀ name, name ∈ names ↔ r.Addressed pairs name ∧ ¬ r.Wordless pairs name :=
    fun name => (hmem name).trans (h.exists_parsed_after_iff hall name)
  rw [hread]
  refine ⟨_, pairs, hquery, hpairs, ⟨names, hnames, hcard⟩, ?_, ?_⟩
  · intro p hp rule hrule hword
    exact h.minLength_of_wordless hall hp hrule hword
  · intro hleast
    simp only [hcard, Finset.card_eq_zero, Finset.eq_empty_iff_forall_notMem, hnames,
      h.not_wordless hall hleast, not_false_eq_true, and_true]

/-- Of two names that are addressed, one is read last as wildcards only, and the other as a list of
nothing.  Where terms have a least length, a query of other keys is counted as nothing. -/
theorem parsedCount_read_wordless :
    let q : Declaration := ⟨"q", none, true, .should, .search ⟨'*', 0, 100⟩⟩
    let interest : Declaration := ⟨"interest", none, true, .must, .strings ⟨',', .all⟩⟩
    let r := (empty .default).registerAll [q, interest]
    let least : Declaration := ⟨"q", none, true, .should, .search ⟨'*', 1, 100⟩⟩
    let r' := (empty .default).registerAll [least]
    r.Reachable ∧ (r.read "/s?q=ab&x&utm=1&interest=a&interest=,&q=**&q").1 = .ok () ∧
      (r.read "/s?q=ab&x&utm=1&interest=a&interest=,&q=**&q").2.parsedCount = 1 ∧
      r'.Reachable ∧ (r'.read "?utm=1&&q").1 = .ok () ∧ (r'.read "?utm=1&&q").2.parsedCount = 0 := by
  intro q interest r least r'
  have hr : r.Reachable := (Reachable.empty .default).run [.register q, .register interest]
  have hr' : r'.Reachable := (Reachable.empty .default).run [.register least]
  have hok : (r.read "/s?q=ab&x&utm=1&interest=a&interest=,&q=**&q").1 = .ok () :=
    read_registerAll_eq_ok (by decide) (by decide) (by decide) (by decide)
  have hok' : (r'.read "?utm=1&&q").1 = .ok () :=
    read_registerAll_eq_ok (by decide) (by decide) (by decide) (by decide)
  have hsettings : ∀ ds, ((empty .default).registerAll ds).settings = .default :=
    settings_registerAll (empty .default)
  refine ⟨hr, hok, ?_, hr', hok', ?_⟩
  · have hparameters : r.parameters.toList = [.fresh q, .fresh interest] :=
      parameters_registerAll_empty .default (by decide)
    have hregistered : r.names = ["q", "interest"] :=
      congrArg (List.map Declaration.name) (declarations_registerAll_empty .default (by decide))
    have hqmem : .fresh q ∈ r.parameters := by simp [← Array.mem_toList_iff, hparameters]
    have himem : .fresh interest ∈ r.parameters := by simp [← Array.mem_toList_iff, hparameters]
    obtain ⟨_, pairs, hquery, hpairs, ⟨names, hnames, hcard⟩, -, -⟩ := hr.parsedCount_read hok
    rw [hsettings] at hquery hpairs
    obtain rfl := Settings.queryIn_iff.mp hquery
    obtain rfl : [("q", "ab"), ("utm", "1"), ("interest", "a"), ("interest", ","), ("q", "**")]
        = pairs := by
      rw [← Settings.pairsIn_iff.mp hpairs]
      decide
    have hone : names = {"interest"} := by
      ext name
      rw [hnames, Finset.mem_singleton]
      constructor
      · rintro ⟨⟨hname, -⟩, hword⟩
        rw [hregistered, List.mem_cons, List.mem_singleton] at hname
        rcases hname with rfl | rfl
        · exact absurd ⟨.fresh q, hqmem, rfl, "**", by decide, .search (by simp)⟩ hword
        · rfl
      · rintro rfl
        refine ⟨⟨by rw [hregistered]; decide, "a", by decide⟩, ?_⟩
        rintro ⟨p, hp, hname, text, -, hword⟩
        obtain rfl := hr.indexed.eq_of_name_eq hp himem hname
        cases hword
    rw [hcard, hone, Finset.card_singleton]
  · have hparameters : r'.parameters.toList = [.fresh least] :=
      parameters_registerAll_empty .default (by decide)
    have hregistered : r'.names = ["q"] :=
      congrArg (List.map Declaration.name) (declarations_registerAll_empty .default (by decide))
    obtain ⟨_, pairs, hquery, hpairs, -, -, hzero⟩ := hr'.parsedCount_read hok'
    rw [hsettings] at hquery hpairs
    obtain rfl := Settings.queryIn_iff.mp hquery
    obtain rfl : [("utm", "1")] = pairs := by
      rw [← Settings.pairsIn_iff.mp hpairs]
      decide
    refine (hzero ?_).mpr ?_
    · intro p hp rule hrule
      rw [← Array.mem_toList_iff, hparameters, List.mem_singleton] at hp
      subst hp
      cases hrule
      decide
    · rintro name ⟨hname, text, htext⟩
      rw [hregistered, List.mem_singleton] at hname
      subst hname
      simp at htext

end Registry

end TypedQuery
