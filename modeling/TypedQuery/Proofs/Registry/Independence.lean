import TypedQuery.Clause
import TypedQuery.Proofs.Query.Outcome

/-!
# Parameters do not interfere

What a parameter reads is up to its declaration and to the texts under its own
name.  The other parameters of a registry decide only how far a query is heard,
and their order does not even decide that.  Registries with the same declarations
in different orders *concur*: they are of one mind about every pair
(`Indexed.concur_of_perm`).  Registries that concur hear the same pairs of every
query, whether it is accepted or not (`Indexed.exists_heard`).

`Reachable.read_independent` draws the two conclusions.  The order of
registration is seen in the order of the clauses and nowhere else.  And among
registries that accept a query, a declaration is read alike wherever it stands
and whatever stands beside it.
-/

namespace TypedQuery.Registry

variable {r r' : Registry}

/-! ## What pairs leave -/

/-- Pairs leave parameters that are determined by the declarations. -/
theorem parameters_after (r : Registry) (pairs : List (String × String)) :
    (r.after pairs).parameters.toList
      = r.declarations.map fun d => (Parameter.fresh d).after pairs := by
  simp only [after, declarations, Array.toList_map, List.map_map]
  rfl

theorem Indexed.find?_after (h : r.Indexed) {d : Declaration} (hd : d ∈ r.declarations)
    (pairs : List (String × String)) :
    (r.after pairs).find? d.name = some ((Parameter.fresh d).after pairs) := by
  rw [(h.of_alike (r.alike_after pairs)).find?_eq_some_iff, ← Array.mem_toList_iff,
    parameters_after]
  exact ⟨List.mem_map_of_mem hd, Parameter.name_after _ pairs⟩

/-- A name is found without regard to the order of the parameters. -/
theorem Indexed.find?_of_perm (h : r.Indexed) (h' : r'.Indexed)
    (hperm : r.parameters.toList.Perm r'.parameters.toList) (name : String) :
    r.find? name = r'.find? name := by
  apply Option.ext
  intro p
  rw [h.find?_eq_some_iff, h'.find?_eq_some_iff, ← Array.mem_toList_iff, ← Array.mem_toList_iff,
    hperm.mem_iff]

/-- The full-text query after pairs lists what the declarations contribute. -/
theorem fullText_after (r : Registry) (pairs : List (String × String)) :
    (r.after pairs).fullText = Text.joined ' ' ((r.declarations.map fun d =>
      ((Parameter.fresh d).after pairs).clauseText).filter (!·.isEmpty)) := by
  rw [fullText, parameters_after, List.map_map]
  rfl

/-! ## Registries that concur -/

/-- Registries that take queries apart alike and are of one mind about every pair. -/
structure Concur (r r' : Registry) : Prop where
  settings : r.settings = r'.settings
  isEmpty : r.isEmpty = r'.isEmpty
  judge : ∀ pair, r.judge pair = r'.judge pair

theorem Concur.refl (r : Registry) : r.Concur r :=
  ⟨rfl, rfl, fun _ => rfl⟩

theorem Concur.accepts (hc : r'.Concur r) (h : r.Indexed) (h' : r'.Indexed)
    {pair : String × String} (hpair : r.Accepts pair) : r'.Accepts pair := by
  rw [accepts_iff h', hc.judge]
  exact (accepts_iff h).mp hpair

theorem Concur.refuses (hc : r'.Concur r) (h : r.Indexed) (h' : r'.Indexed)
    {pair : String × String} {e : QueryError} (he : r.Refuses pair e) : r'.Refuses pair e := by
  rw [refuses_iff h', hc.judge]
  exact (refuses_iff h).mp he

/-- Registries that concur hear the same pairs of a query and have the same result. -/
theorem Indexed.exists_heard (h : r.Indexed) (input : String) :
    ∃ result heard, ∀ r' : Registry, r'.Indexed → r'.Concur r →
      r'.read input = (result, r'.after heard) := by
  cases hempty : r.isEmpty with
  | true =>
    -- Nothing is read, but without parameters that is no other state than nothing heard.
    refine ⟨.error .noParameters, [], fun r' _ hc => ?_⟩
    have hempty' : r'.isEmpty = true := hc.isEmpty.trans hempty
    rw [read, if_pos hempty', after_nil, reset_of_isEmpty hempty']
  | false =>
    by_cases hquery : r.settings.queryText input = ""
    · refine ⟨.error .noQuery, [], fun r' _ hc => ?_⟩
      simp [read, hc.isEmpty, hempty, hc.settings, hquery, after_nil]
    · have hread : ∀ r' : Registry, r'.Concur r → r'.read input
          = (r'.after []).feed (r.settings.pairs (r.settings.queryText input)) := by
        intro r' hc
        rw [read_eq_feed (hc.isEmpty.trans hempty) (by rwa [hc.settings]), hc.settings]
      generalize r.settings.pairs (r.settings.queryText input) = pairs at hread
      rcases accepts_or_refuses h pairs with
        hall | ⟨before, key, text, rest, e, rfl, hbefore, he⟩
      · refine ⟨.ok (), pairs, fun r' h' hc => ?_⟩
        rw [hread r' hc]
        exact feed_of_accepts h' fun pair hpair => hc.accepts h h' (hall pair hpair)
      · refine ⟨.error e, if Key.isNormal key then before ++ [(key, text)] else before,
          fun r' h' hc => ?_⟩
        have hbefore' : ∀ pair ∈ before, r'.Accepts pair :=
          fun pair hpair => hc.accepts h h' (hbefore pair hpair)
        rw [hread r' hc]
        exact feed_of_refuses h' hbefore' (hc.refuses h h' he) rest

/-- The order of registration does not count for what is said about a pair. -/
theorem Indexed.concur_of_perm (h : r.Indexed) (h' : r'.Indexed)
    (hsettings : r.settings = r'.settings) (hperm : r.declarations.Perm r'.declarations) :
    r.Concur r' := by
  refine ⟨hsettings, ?_, ?_⟩
  · have hsize : r.parameters.size = r'.parameters.size := by
      simpa [declarations] using hperm.length_eq
    show (r.parameters.size == 0) = (r'.parameters.size == 0)
    rw [hsize]
  · intro pair
    have hanswer : r.answer pair.1 pair.2 = r'.answer pair.1 pair.2 := by
      by_cases hname : pair.1 ∈ r.names
      · obtain ⟨d, hd, heq⟩ := List.mem_map.mp hname
        rw [← heq, h.answer_of_mem hd, h'.answer_of_mem (hperm.mem_iff.mp hd)]
      · have hname' : pair.1 ∉ r'.names := mt (hperm.map Declaration.name).mem_iff.mpr hname
        rw [answer_of_not_mem hname, answer_of_not_mem hname']
    rw [judge, judge, hanswer]

/-! ## Independence -/

/-- How a parameter is read does not depend on the others.  Declarations in another order have the
same result, are left in the same state each, and contribute the same texts to the full-text query,
in their own order.  A declaration that two registries share is left in the same state by both if
both accept the query. -/
theorem Reachable.read_independent (hr : r.Reachable) (hr' : r'.Reachable)
    (hsettings : r.settings = r'.settings) (input : String) :
    (r.declarations.Perm r'.declarations →
      (r.read input).1 = (r'.read input).1 ∧
      (∀ name, (r.read input).2.find? name = (r'.read input).2.find? name) ∧
      ∃ text : Declaration → String,
        (∀ p ∈ (r.read input).2.parameters, text p.declaration = p.clauseText) ∧
        (r.read input).2.fullText
          = Text.joined ' ' ((r.declarations.map text).filter (!·.isEmpty)) ∧
        (r'.read input).2.fullText
          = Text.joined ' ' ((r'.declarations.map text).filter (!·.isEmpty)) ∧
        ((r.declarations.map text).filter (!·.isEmpty)).Perm
          ((r'.declarations.map text).filter (!·.isEmpty))) ∧
    ((r.read input).1 = .ok () → (r'.read input).1 = .ok () →
      ∀ d ∈ r.declarations, d ∈ r'.declarations → ∃ p : Parameter, p.declaration = d ∧
        (r.read input).2.find? d.name = some p ∧ (r'.read input).2.find? d.name = some p) := by
  have h := hr.indexed
  have h' := hr'.indexed
  constructor
  · intro hperm
    obtain ⟨result, heard, hheard⟩ := h'.exists_heard input
    rw [hheard r h (h.concur_of_perm h' hsettings hperm), hheard r' h' (.refl r')]
    refine ⟨rfl, ?_, fun d => ((Parameter.fresh d).after heard).clauseText, ?_, ?_⟩
    · apply (h.of_alike (r.alike_after heard)).find?_of_perm (h'.of_alike (r'.alike_after heard))
      rw [parameters_after, parameters_after]
      exact hperm.map _
    · intro p hp
      obtain ⟨d, -, rfl⟩ := List.mem_map.mp (parameters_after r heard ▸ Array.mem_toList_iff.mpr hp)
      rw [Parameter.declaration_after]
      rfl
    · exact ⟨fullText_after r heard, fullText_after r' heard, (hperm.map _).filter _⟩
  · intro hok hok' d hd hd'
    rw [read_of_ok h hok, read_of_ok h' hok', ← hsettings]
    exact ⟨_, Parameter.declaration_after _ _, h.find?_after hd _, h'.find?_after hd' _⟩

theorem read_independent_cut :
    let q : Declaration := ⟨"q", none, true, .should, .search ⟨'*', 1, 3⟩⟩
    let age : Declaration := ⟨"age", none, true, .must, .range ⟨'-', 0, 99⟩⟩
    let r := (empty .default).registerAll [q, age]
    let reordered := (empty .default).registerAll [age, q]
    let other := (empty .default).registerAll [.ofRule "b" .boolean, age]
    let cut := "?age=18-&q=gamma&age=1-2"
    r.Reachable ∧ reordered.Reachable ∧ other.Reachable ∧
      r.declarations.Perm reordered.declarations ∧
      (r.read cut).1 = (reordered.read cut).1 ∧
      (r.read cut).2.find? "q" = (reordered.read cut).2.find? "q" ∧
      (r.read "?age=18-&q=a").1 = .ok () ∧ (other.read "?age=18-&q=a").1 = .ok () ∧
      ∃ p : Parameter, p.declaration = age ∧ (r.read "?age=18-&q=a").2.find? "age" = some p ∧
        (other.read "?age=18-&q=a").2.find? "age" = some p := by
  intro q age r reordered other cut
  have hr : r.Reachable := (Reachable.empty .default).run [.register q, .register age]
  have hreordered : reordered.Reachable :=
    (Reachable.empty .default).run [.register age, .register q]
  have hother : other.Reachable :=
    (Reachable.empty .default).run [.register (.ofRule "b" .boolean), .register age]
  have hsettings : ∀ ds, ((empty .default).registerAll ds).settings = .default :=
    settings_registerAll (empty .default)
  have hdeclarations : r.declarations = [q, age] :=
    declarations_registerAll_empty .default (by decide)
  have hdeclarations' : reordered.declarations = [age, q] :=
    declarations_registerAll_empty .default (by decide)
  have hdeclarations'' : other.declarations = [.ofRule "b" .boolean, age] :=
    declarations_registerAll_empty .default (by decide)
  have hperm : r.declarations.Perm reordered.declarations := by
    rw [hdeclarations, hdeclarations']
    exact .swap age q []
  obtain ⟨hresult, hstate, -⟩ :=
    (hr.read_independent hreordered ((hsettings _).trans (hsettings _).symm) cut).1 hperm
  have hok : (r.read "?age=18-&q=a").1 = .ok () :=
    read_registerAll_eq_ok (by decide) (by decide) (by decide) (by decide)
  have hok' : (other.read "?age=18-&q=a").1 = .ok () :=
    read_registerAll_eq_ok (by decide) (by decide) (by decide) (by decide)
  refine ⟨hr, hreordered, hother, hperm, hresult, hstate "q", hok, hok', ?_⟩
  exact (hr.read_independent hother ((hsettings _).trans (hsettings _).symm) _).2 hok hok' age
    (by simp [hdeclarations]) (by simp [hdeclarations''])

end TypedQuery.Registry
