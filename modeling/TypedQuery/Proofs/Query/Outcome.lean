import TypedQuery.Proofs.Query.Grammar
import TypedQuery.Proofs.Registry.Delivery

/-!
# What reading a query comes to

A registry *refuses* a pair if its key is not in normal form, or if the
parameter the key names does not accept the text.  Whether it does is up to the
declarations alone, so it can be asked of the registry as it was before the
query.

`Reachable.read_outcome` says what reading a query comes to, without following
the loop over the pairs.  The query is accepted exactly if no pair is refused.
Otherwise the error is the one of the first refused pair, and what comes after
it is not heard.  Each parameter has read the last text that was heard under its
name.

`Reachable.read_writeQuery` is about queries that were written: reading one is
supplying its pairs, whatever path stands in front.
-/

namespace TypedQuery.Registry

/-! ## Refused pairs -/

/-- A pair is refused with an error. -/
inductive Refuses (r : Registry) : String × String → QueryError → Prop where
  /-- The key is not in normal form. -/
  | key {key text : String} : Key.isNormal key = false → Refuses r (key, text) (.badKey key)
  /-- The parameter with this name does not accept the text. -/
  | text {key text : String} {p : Parameter} {e : QueryError} :
      Key.isNormal key = true → p ∈ r.parameters → p.name = key →
      ((Parameter.fresh p.declaration).read text).1 = .error e → Refuses r (key, text) e

/-- A pair is not refused. -/
def Accepts (r : Registry) (pair : String × String) : Prop :=
  ∀ e, ¬ r.Refuses pair e

theorem refuses_iff {r : Registry} (h : r.Indexed) {pair : String × String} {e : QueryError} :
    r.Refuses pair e ↔ r.judge pair = .error e := by
  constructor
  · intro hrefuses
    cases hrefuses with
    | key hkey => simp [judge, hkey]
    | text hkey hp hname he =>
      subst hname
      have hd : _ ∈ r.declarations := List.mem_map_of_mem (Array.mem_toList_iff.mpr hp)
      rw [judge, if_pos hkey, ← he]
      exact h.answer_of_mem hd _
  · intro hjudge
    obtain ⟨key, text⟩ := pair
    by_cases hkey : Key.isNormal key = true
    · rw [judge, if_pos hkey] at hjudge
      by_cases hname : key ∈ r.names
      · obtain ⟨p, hp, rfl⟩ := mem_names.mp hname
        have hd : p.declaration ∈ r.declarations :=
          List.mem_map_of_mem (Array.mem_toList_iff.mpr hp)
        exact .text hkey hp rfl ((h.answer_of_mem hd text).symm.trans hjudge)
      · rw [answer_of_not_mem hname] at hjudge
        exact absurd hjudge (by simp)
    · rw [judge, if_neg hkey] at hjudge
      cases hjudge
      exact .key (by simpa using hkey)

theorem accepts_iff {r : Registry} (h : r.Indexed) {pair : String × String} :
    r.Accepts pair ↔ r.judge pair = .ok () := by
  simp only [Accepts, refuses_iff h]
  cases r.judge pair with
  | ok u => simp
  | error e => simp

/-- A pair with a normal key is accepted if the parameter of this name, if there is one, accepts
the text. -/
theorem accepts_of_forall {r : Registry} {pair : String × String}
    (hkey : Key.isNormal pair.1 = true)
    (hall : ∀ d ∈ r.declarations, d.name = pair.1 → ((Parameter.fresh d).read pair.2).1 = .ok ()) :
    r.Accepts pair := by
  intro e he
  cases he with
  | key hnot =>
    rw [hnot] at hkey
    cases hkey
  | @text key text p _ _ hp hname he =>
    have hd : p.declaration ∈ r.declarations :=
      List.mem_map_of_mem (Array.mem_toList_iff.mpr hp)
    rw [hall p.declaration hd hname] at he
    cases he

/-- An accepted pair has a normal key. -/
theorem Accepts.isNormal {r : Registry} {pair : String × String} (h : r.Accepts pair) :
    Key.isNormal pair.1 = true := by
  by_contra hkey
  exact h _ (.key (by simpa using hkey))

/-- Either no pair is refused, or there is a first one that is. -/
theorem accepts_or_refuses {r : Registry} (h : r.Indexed) (pairs : List (String × String)) :
    (∀ pair ∈ pairs, r.Accepts pair) ∨
      ∃ before key text rest e, pairs = before ++ (key, text) :: rest ∧
        (∀ pair ∈ before, r.Accepts pair) ∧ r.Refuses (key, text) e := by
  induction pairs with
  | nil => exact .inl (by simp)
  | cons pair pairs ih =>
    cases hjudge : r.judge pair with
    | error e => exact .inr ⟨[], pair.1, pair.2, pairs, e, rfl, by simp, (refuses_iff h).mpr hjudge⟩
    | ok u =>
      have hpair : r.Accepts pair := (accepts_iff h).mpr hjudge
      rcases ih with hall | ⟨before, key, text, rest, e, rfl, hbefore, he⟩
      · exact .inl (List.forall_mem_cons.mpr ⟨hpair, hall⟩)
      · exact .inr ⟨pair :: before, key, text, rest, e, rfl,
          List.forall_mem_cons.mpr ⟨hpair, hbefore⟩, he⟩

/-! ## The outcome -/

/-- Where reading ends if there are parameters and there is a query. -/
theorem read_eq_feed {r : Registry} (hr : r.isEmpty = false) {input : String}
    (hquery : r.settings.queryText input ≠ "") :
    r.read input = (r.after []).feed (r.settings.pairs (r.settings.queryText input)) := by
  simp [read, hr, hquery, after_nil]

theorem feed_of_accepts {r : Registry} (h : r.Indexed) {pairs : List (String × String)}
    (hall : ∀ pair ∈ pairs, r.Accepts pair) : (r.after []).feed pairs = (.ok (), r.after pairs) := by
  have hjudge : ∀ pair ∈ pairs, r.judge pair = .ok () :=
    fun pair hpair => (accepts_iff h).mp (hall pair hpair)
  have hfeed := feed_after h [] hjudge []
  rw [List.append_nil, List.nil_append] at hfeed
  exact hfeed

theorem feed_of_refuses {r : Registry} (h : r.Indexed) {before : List (String × String)}
    (hbefore : ∀ pair ∈ before, r.Accepts pair) {key text : String} {e : QueryError}
    (he : r.Refuses (key, text) e) (rest : List (String × String)) :
    (r.after []).feed (before ++ (key, text) :: rest) =
      (.error e, r.after (if Key.isNormal key then before ++ [(key, text)] else before)) := by
  have hjudge : ∀ pair ∈ before, r.judge pair = .ok () :=
    fun pair hpair => (accepts_iff h).mp (hbefore pair hpair)
  rw [feed_after h [] hjudge, List.nil_append]
  have hpair := (refuses_iff h).mp he
  by_cases hkey : Key.isNormal key = true
  · rw [judge, if_pos hkey] at hpair
    rw [feed_badValue h before hkey hpair, if_pos hkey]
  · rw [judge, if_neg hkey] at hpair
    cases hpair
    rw [feed_badKey _ (by simpa using hkey), if_neg hkey]

/-- Reading succeeds if there are parameters, there is a query, and no pair of it is refused. -/
theorem read_eq_ok_iff {r : Registry} (h : r.Indexed) {input : String} :
    (r.read input).1 = .ok () ↔ r.isEmpty = false ∧ r.settings.queryText input ≠ "" ∧
      ∀ pair ∈ r.settings.pairs (r.settings.queryText input), r.Accepts pair := by
  cases hempty : r.isEmpty with
  | true => simp [read, hempty]
  | false =>
    by_cases hquery : r.settings.queryText input = ""
    · simp [read, hempty, hquery]
    · rw [read_eq_feed hempty hquery]
      simp only [hquery, ne_eq, not_false_eq_true, true_and]
      constructor
      · intro hok
        rcases accepts_or_refuses h _ with hall | ⟨before, key, text, rest, e, heq, hbefore, he⟩
        · exact hall
        · rw [heq, feed_of_refuses h hbefore he] at hok
          exact absurd hok (by simp)
      · intro hall
        rw [feed_of_accepts h hall]

/-- A query that is accepted is heard to its end. -/
theorem read_of_ok {r : Registry} (h : r.Indexed) {input : String}
    (hok : (r.read input).1 = .ok ()) :
    r.read input = (.ok (), r.after (r.settings.pairs (r.settings.queryText input))) := by
  obtain ⟨hempty, hquery, hall⟩ := (read_eq_ok_iff h).mp hok
  rw [read_eq_feed hempty hquery, feed_of_accepts h hall]

/-- What reading a query comes to. -/
theorem Reachable.read_outcome {r : Registry} (hr : r.Reachable) (input : String) :
    (r.isEmpty = true → r.read input = (.error .noParameters, r)) ∧
    (r.isEmpty = false → ∃ query, r.settings.QueryIn input query ∧
      (query = "" → r.read input = (.error .noQuery, r.after []) ∧
        ∀ p ∈ (r.read input).2.parameters, p.parsed = false ∧ p.value = none) ∧
      (query ≠ "" → ∃ pairs, r.settings.PairsIn query pairs ∧
        ((r.read input).1 = .ok () ↔ ∀ pair ∈ pairs, r.Accepts pair) ∧
        ((∀ pair ∈ pairs, r.Accepts pair) → r.read input = (.ok (), r.after pairs)) ∧
        ∀ before key text rest e, pairs = before ++ (key, text) :: rest →
          (∀ pair ∈ before, r.Accepts pair) → r.Refuses (key, text) e →
          r.read input =
            (.error e, r.after (if Key.isNormal key then before ++ [(key, text)] else before)))) := by
  have h := hr.indexed
  constructor
  · intro hempty
    rw [read, if_pos hempty]
  · intro hne
    refine ⟨_, Settings.queryIn_iff.mpr rfl, ?_, ?_⟩
    · intro hquery
      have hread : r.read input = (.error .noQuery, r.after []) := by
        simp [read, hne, hquery, after_nil]
      refine ⟨hread, ?_⟩
      rw [hread]
      intro p hp
      obtain ⟨q, -, rfl⟩ := Array.mem_map.mp hp
      exact ⟨rfl, rfl⟩
    · intro hquery
      refine ⟨_, Settings.pairsIn_iff.mpr rfl, ?_, ?_, ?_⟩
      · rw [read_eq_feed hne hquery]
        constructor
        · intro hok
          rcases accepts_or_refuses h _ with hall | ⟨before, key, text, rest, e, heq, hbefore, he⟩
          · exact hall
          · rw [heq, feed_of_refuses h hbefore he] at hok
            exact absurd hok (by simp)
        · intro hall
          rw [feed_of_accepts h hall]
      · intro hall
        rw [read_eq_feed hne hquery, feed_of_accepts h hall]
      · intro before key text rest e heq hbefore he
        rw [read_eq_feed hne hquery, heq, feed_of_refuses h hbefore he]

theorem read_outcome_first_too_long :
    let r := (empty .default).run [.register ⟨"q", none, true, .should, .search ⟨'*', 1, 3⟩⟩]
    r.Reachable ∧ r.read "/s?q=ab&x&q=*gamma*&q=c" =
      (.error (.badValue "q" (.tooLong 5 3)), r.after [("q", "ab"), ("q", "*gamma*")]) := by
  intro r
  have hr : r.Reachable := (Reachable.empty .default).run _
  have hparameters : r.parameters =
      #[.fresh ⟨"q", none, true, .should, .search ⟨'*', 1, 3⟩⟩] := by
    simp [r, run, step, register, empty]
  have hsettings : r.settings = .default := by simp [r, run, step, empty]
  have hnonempty : r.isEmpty = false := by simp [isEmpty, hparameters]
  obtain ⟨query, hquery, -, hpairs⟩ := (hr.read_outcome "/s?q=ab&x&q=*gamma*&q=c").2 hnonempty
  obtain rfl : "q=ab&x&q=*gamma*&q=c" = query := by
    rw [← Settings.queryIn_iff.mp hquery, hsettings]
    decide
  obtain ⟨pairs, hpairs, -, -, hrefuses⟩ := hpairs (by decide)
  obtain rfl : [("q", "ab"), ("q", "*gamma*"), ("q", "c")] = pairs := by
    rw [← Settings.pairsIn_iff.mp hpairs, hsettings]
    decide
  refine ⟨hr, hrefuses [("q", "ab")] "q" "*gamma*" [("q", "c")] _ rfl ?_ ?_⟩
  · intro pair hpair
    obtain rfl := List.mem_singleton.mp hpair
    rw [accepts_iff hr.indexed, judge, answer, declarations, hparameters]
    decide
  · rw [refuses_iff hr.indexed, judge, answer, declarations, hparameters]
    decide

/-- A query is accepted by declarations with names of their own if its keys are normal and each text
is accepted by the declaration of its name. -/
theorem read_registerAll_eq_ok {s : Settings} {ds : List Declaration} (hne : ds ≠ [])
    (hnodup : (ds.map Declaration.name).Nodup) {input : String} (hquery : s.queryText input ≠ "")
    (hall : ∀ pair ∈ s.pairs (s.queryText input), Key.isNormal pair.1 = true ∧
      ∀ d ∈ ds, d.name = pair.1 → ((Parameter.fresh d).read pair.2).1 = .ok ()) :
    (((empty s).registerAll ds).read input).1 = .ok () := by
  have hdeclarations := declarations_registerAll_empty s hnodup
  rw [read_eq_ok_iff (indexed_registerAll (indexed_empty s) ds), settings_registerAll]
  refine ⟨?_, hquery, ?_⟩
  · simp [isEmpty, ← Array.isEmpty_toList, parameters_registerAll_empty s hnodup, hne]
  · intro pair hpair
    obtain ⟨hkey, htext⟩ := hall pair hpair
    exact accepts_of_forall hkey (by rwa [hdeclarations])

/-- What an accepted query leaves in a registry of declarations with names of their own. -/
theorem parameters_read_registerAll {s : Settings} {ds : List Declaration} (hne : ds ≠ [])
    (hnodup : (ds.map Declaration.name).Nodup) {input : String} {pairs : List (String × String)}
    (hquery : s.queryText input ≠ "") (hpairs : s.pairs (s.queryText input) = pairs)
    (hall : ∀ pair ∈ pairs, ((empty s).registerAll ds).judge pair = .ok ()) :
    (((empty s).registerAll ds).read input).2.parameters.toList
      = ds.map fun d => (Parameter.fresh d).after pairs := by
  have hindexed : ((empty s).registerAll ds).Indexed := indexed_registerAll (indexed_empty s) ds
  have hsettings : ((empty s).registerAll ds).settings = s := settings_registerAll _ ds
  have hparameters := parameters_registerAll_empty s hnodup
  have hnonempty : ((empty s).registerAll ds).isEmpty = false := by
    simp [isEmpty, ← Array.isEmpty_toList, hparameters, hne]
  have hread : ((empty s).registerAll ds).read input
      = (.ok (), ((empty s).registerAll ds).after pairs) := by
    rw [read_eq_feed hnonempty (by rwa [hsettings]), hsettings, hpairs]
    exact feed_of_accepts hindexed fun pair hpair => (accepts_iff hindexed).mpr (hall pair hpair)
  rw [hread, after, Array.toList_map, hparameters, List.map_map]
  rfl

/-! ## Reading what was written -/

/-- Only the query of an input counts. -/
theorem read_congr {r : Registry} {input input' : String}
    (h : r.settings.queryText input = r.settings.queryText input') :
    r.read input = r.read input' := by
  rw [read, read, h]

/-- Reading a written query supplies its pairs to the registry with nothing read.  The path in
front does not count, and neither does it whether there is one. -/
theorem Reachable.read_writeQuery {r : Registry} (hr : r.Reachable) :
    (∀ (path : String) (pairs : List (String × String)), r.isEmpty = false →
      r.settings.pairSeparator ≠ r.settings.valueSeparator →
      r.settings.querySeparator ∉ path.toList → pairs ≠ [] →
      (∀ pair ∈ pairs, Key.isNormal pair.1 = true ∧ r.settings.Writable pair) →
      r.read (path ++ String.singleton r.settings.querySeparator ++ r.settings.writeQuery pairs)
        = r.reset.supply pairs) ∧
    (∀ path path' query : String, r.settings.querySeparator ∉ path.toList →
      r.settings.querySeparator ∉ path'.toList →
      r.read (path ++ String.singleton r.settings.querySeparator ++ query)
        = r.read (path' ++ String.singleton r.settings.querySeparator ++ query)) ∧
    ∀ text : String, r.settings.querySeparator ∉ text.toList →
      r.read text = r.read (String.singleton r.settings.querySeparator ++ text) := by
  refine ⟨?_, ?_, ?_⟩
  · intro path pairs hne hsep hpath hpairs hall
    have hquery := Settings.queryText_append hpath (r.settings.writeQuery pairs)
    have hread := Settings.pairs_writeQuery hsep hpairs fun pair hpair => (hall pair hpair).2
    have hwritten : r.settings.writeQuery pairs ≠ "" := by
      intro hempty
      rw [hempty, Settings.pairs_empty] at hread
      exact hpairs hread.symm
    rw [read_eq_feed hne (by rw [hquery]; exact hwritten), hquery, hread, after_nil]
    have hreset : r.reset.Indexed := hr.indexed.of_alike r.alike_reset
    exact feed_eq_supply hreset fun pair hpair => (hall pair hpair).1
  · intro path path' query hpath hpath'
    apply read_congr
    rw [Settings.queryText_append hpath, Settings.queryText_append hpath']
  · intro text htext
    apply read_congr
    have hnone : r.settings.querySeparator ∉ "".toList := by simp
    have hquery := Settings.queryText_append hnone text
    rw [String.empty_append] at hquery
    rw [hquery, Settings.queryText_of_not_mem htext]

theorem read_writeQuery_separators_in_value :
    let r := (empty .default).run [.register ⟨"q", none, true, .should, .search ⟨'*', 1, 0⟩⟩]
    r.Reachable ∧
      r.read "/s&t=1?q=a=b?c&x=&q=" = r.reset.supply [("q", "a=b?c"), ("x", ""), ("q", "")] := by
  intro r
  have hr : r.Reachable := (Reachable.empty .default).run _
  have hsettings : r.settings = .default := by simp [r, run, step, empty]
  have hnonempty : r.isEmpty = false := by simp [r, run, step, register, empty, isEmpty]
  have hread := hr.read_writeQuery.1 "/s&t=1" [("q", "a=b?c"), ("x", ""), ("q", "")] hnonempty
  rw [hsettings] at hread
  refine ⟨hr, hread (by decide) (by decide) (by decide) ?_⟩
  intro pair hpair
  simp only [List.mem_cons, List.not_mem_nil, or_false] at hpair
  rcases hpair with rfl | rfl | rfl <;>
    exact ⟨by decide, by decide, by decide, by decide⟩

end TypedQuery.Registry
