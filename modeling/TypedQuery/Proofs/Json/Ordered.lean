import TypedQuery.Json.Reader

/-!
# Records that are read ascend

In a value that the reader gives, the names of every record ascend, at any depth
(`ordered_of_ofText?`).  Nothing sorts them at the end.  A member is put at its
place as soon as its value is complete, and so what has to be followed are the
values that the reader holds on its way: those that are complete, and what the
open containers have got so far (`State.held`).  No token makes one of them
disordered (`State.ordered_step`).

Tokens bring in scalars only.
-/

namespace TypedQuery.Json

/-- A value in which the names of every record ascend. -/
inductive Ordered : Json → Prop where
  | null : Ordered .null
  | bool (b : Bool) : Ordered (.bool b)
  | integer (n : Int) : Ordered (.integer n)
  | double (x : Binary64) : Ordered (.double x)
  | text (s : String) : Ordered (.text s)
  | list {items : List Json} : (∀ item ∈ items, Ordered item) → Ordered (.list items)
  | record {members : List (String × Json)} : Ascending members →
      (∀ m ∈ members, Ordered m.2) → Ordered (.record members)

variable {name : String} {value last item j : Json} {items : List Json}
  {members : List (String × Json)}

theorem Ordered.of_mem_items (h : Ordered (.list items)) (hmem : item ∈ items) : item.Ordered := by
  cases h with
  | list hitems => exact hitems item hmem

theorem Ordered.ascending (h : Ordered (.record members)) : Ascending members := by
  cases h with
  | record hascending _ => exact hascending

theorem Ordered.of_mem_members (h : Ordered (.record members)) {m : String × Json}
    (hmem : m ∈ members) : m.2.Ordered := by
  cases h with
  | record _ hvalues => exact hvalues m hmem

theorem Ordered.of_lookup (h : Ordered (.record members))
    (hlookup : members.lookup name = some value) : value.Ordered := by
  obtain ⟨before, after, rfl, -⟩ := List.lookup_eq_some_iff.mp hlookup
  have hmem : (name, value) ∈ before ++ (name, value) :: after := by simp
  exact h.of_mem_members hmem

theorem Ordered.cons (hitem : item.Ordered) (h : Ordered (.list items)) :
    Ordered (.list (item :: items)) :=
  .list (List.forall_mem_cons.mpr ⟨hitem, fun _ => h.of_mem_items⟩)

theorem Ordered.reverse (h : Ordered (.list items)) : Ordered (.list items.reverse) :=
  .list fun _ hmem => h.of_mem_items (List.mem_reverse.mp hmem)

/-- Putting in a member keeps a record ordered. -/
theorem Ordered.insertMember (h : Ordered (.record members)) (hvalue : value.Ordered)
    (name : String) : Ordered (.record (insertMember name value members)) := by
  refine .record (ascending_insertMember h.ascending name value) ?_
  intro m hm
  rcases mem_insertMember hm with rfl | hold
  · exact hvalue
  · exact h.of_mem_members hold

theorem ordered_emptyList : Ordered (.list []) :=
  .list (by simp)

theorem ordered_emptyRecord : Ordered (.record []) :=
  .record .nil (by simp)

/-! ## Tokens -/

theorem NumberLiteral.ordered_of_value? {literal : NumberLiteral}
    (h : literal.value? = some value) : value.Ordered := by
  unfold value? at h
  split at h
  · cases h
    exact .integer _
  · obtain ⟨x, -, rfl⟩ := Option.map_eq_some_iff.mp h
    exact .double x

/-- A scalar is no record and has none inside. -/
theorem Token.ordered_of_scan {chars rest : List Char}
    (h : scan chars = some (.scalar value, rest)) : value.Ordered := by
  unfold scan at h
  split at h
  -- The three words, a string and a number.  The other tokens are no scalars.
  case h_7 => cases h; exact .null
  case h_8 => cases h; exact .bool true
  case h_9 => cases h; exact .bool false
  case h_10 =>
    simp only [Option.map_eq_some_iff, Prod.exists, Prod.mk.injEq, scalar.injEq] at h
    obtain ⟨body, _, -, rfl, -⟩ := h
    exact .text _
  case h_11 =>
    simp only [Option.bind_eq_bind, Option.bind_eq_some_iff, Prod.exists, Option.pure_def,
      Option.some.injEq, Prod.mk.injEq, scalar.injEq] at h
    obtain ⟨literal, _, -, _, hvalue, rfl, -⟩ := h
    exact NumberLiteral.ordered_of_value? hvalue
  all_goals cases h

theorem Token.ordered_of_ofChars? {chars : List Char} {tokens : List Token}
    (h : ofChars? chars = some tokens) (hmem : .scalar value ∈ tokens) : value.Ordered := by
  fun_induction ofChars? chars generalizing tokens with
  | case1 =>
    cases h
    cases hmem
  | case2 _ _ _ ih => exact ih h hmem
  | case3 => cases h
  | case4 _ _ _ token _ hscan ih =>
    obtain ⟨more, hmore, rfl⟩ := Option.map_eq_some_iff.mp h
    rcases List.mem_cons.mp hmem with rfl | hmem
    · exact ordered_of_scan hscan
    · exact ih hmore hmem

/-! ## States -/

/-- What an open container has got so far. -/
def Frame.content : Frame → Json
  | .list items => .list items
  | .record members _ => .record members

namespace State

/-- The values that a state holds, the innermost first. -/
def held : State → List Json
  | .value stack => stack.map Frame.content
  | .firstItem stack => stack.map Frame.content
  | .firstName stack => stack.map Frame.content
  | .nextName stack members => .record members :: stack.map Frame.content
  | .colon stack members _ => .record members :: stack.map Frame.content
  | .after stack last => last :: stack.map Frame.content

/-- A state that holds nothing disordered. -/
def Ordered (s : State) : Prop :=
  ∀ j ∈ s.held, j.Ordered

variable {s s' : State} {stack : List Frame} {token : Token}

theorem ordered_stepValue (h : stepValue stack token = some s') (hs : (State.value stack).Ordered)
    (htoken : ∀ scalar, token = .scalar scalar → scalar.Ordered) : s'.Ordered := by
  unfold stepValue at h
  split at h
  case h_1 scalar =>
    cases h
    exact List.forall_mem_cons.mpr ⟨htoken scalar rfl, hs⟩
  case h_4 => cases h
  all_goals
    split at h
    · cases h
      exact hs
    · cases h

theorem ordered_stepAfter (h : stepAfter last stack token = some s')
    (hs : (after stack last).Ordered) : s'.Ordered := by
  obtain ⟨hlast, hstack⟩ := List.forall_mem_cons.mp hs
  unfold stepAfter at h
  split at h
  case h_5 => cases h
  -- In each of the others the value goes into the innermost container, which may be closed.
  all_goals
    cases h
    obtain ⟨hcontent, houter⟩ := List.forall_mem_cons.mp hstack
  case h_1 => exact List.forall_mem_cons.mpr ⟨hlast.cons hcontent, houter⟩
  case h_2 => exact List.forall_mem_cons.mpr ⟨(hlast.cons hcontent).reverse, houter⟩
  case h_3 name _ => exact List.forall_mem_cons.mpr ⟨hcontent.insertMember hlast name, houter⟩
  case h_4 name _ => exact List.forall_mem_cons.mpr ⟨hcontent.insertMember hlast name, houter⟩

/-- No token makes a value disordered. -/
theorem ordered_step (h : s.step token = some s') (hs : s.Ordered)
    (htoken : ∀ scalar, token = .scalar scalar → scalar.Ordered) : s'.Ordered := by
  unfold step at h
  split at h
  case h_1 => exact ordered_stepValue h hs htoken
  case h_2 =>
    cases h
    exact List.forall_mem_cons.mpr ⟨ordered_emptyList, hs⟩
  case h_3 =>
    exact ordered_stepValue h (List.forall_mem_cons.mpr ⟨ordered_emptyList, hs⟩) htoken
  case h_4 =>
    cases h
    exact List.forall_mem_cons.mpr ⟨ordered_emptyRecord, hs⟩
  case h_5 =>
    cases h
    exact List.forall_mem_cons.mpr ⟨ordered_emptyRecord, hs⟩
  case h_6 =>
    cases h
    exact hs
  case h_7 =>
    cases h
    exact hs
  case h_8 => exact ordered_stepAfter h hs
  case h_9 => cases h

/-- The tokens of a text one after the other. -/
theorem ordered_foldlM {tokens : List Token} (h : tokens.foldlM step s = some s') (hs : s.Ordered)
    (htokens : ∀ scalar, .scalar scalar ∈ tokens → scalar.Ordered) : s'.Ordered := by
  induction tokens generalizing s with
  | nil =>
    cases h
    exact hs
  | cons token rest ih =>
    rw [List.foldlM_cons] at h
    obtain ⟨next, hnext, hrest⟩ := Option.bind_eq_some_iff.mp h
    refine ih hrest (ordered_step hnext hs ?_) ?_
    · rintro scalar rfl
      exact htokens scalar List.mem_cons_self
    · exact fun scalar hmem => htokens scalar (List.mem_cons_of_mem _ hmem)

end State

/-! ## Values that are read -/

/-- In what a text gives, the names of every record ascend. -/
theorem ordered_of_ofText? {text : String} (h : ofText? text = some j) : j.Ordered := by
  obtain ⟨tokens, htokens, hread⟩ := Option.bind_eq_some_iff.mp h
  obtain ⟨s, hs, hdocument⟩ := Option.bind_eq_some_iff.mp hread
  have hordered : s.Ordered :=
    State.ordered_foldlM hs (by simp [State.Ordered, State.held])
      fun _ => Token.ordered_of_ofChars? htokens
  unfold State.document? at hdocument
  split at hdocument
  · cases hdocument
    exact hordered j List.mem_cons_self
  · cases hdocument

-- The members `b`, `a` and `b` again.
example : ofTokens? [.openRecord, .scalar (.text "b"), .colon, .scalar (.integer 1), .comma,
    .scalar (.text "a"), .colon, .scalar .null, .comma,
    .scalar (.text "b"), .colon, .scalar (.bool true), .closeRecord]
      = some (.record [("a", .null), ("b", .bool true)]) := by
  rfl

end TypedQuery.Json
