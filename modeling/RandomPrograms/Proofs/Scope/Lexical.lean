import RandomPrograms.Proofs.Scope.Trace

/-! Lexical scoping. A name stands for its latest declaration in a scope that is still open, whatever has been done to
    the stack; and a scope that is opened and closed again leaves nothing behind and hands back what was declared in
    it. -/

namespace RandomPrograms.ScopeStack

open Grammar

variable {st : ScopeStack} {name : String} {type : VarType}

/-! ### What names stand for -/

theorem findSome?_eq_some_iff_nearest {α β : Type} {f : α → Option β} {b : β} : ∀ {l : List α},
    l.findSome? f = some b ↔ ∃ k : Nat, l[k]?.bind f = some b ∧ ∀ j < k, l[j]?.bind f = none
  | [] => by simp
  | a :: l => by
    rw [List.findSome?_cons]
    rcases ha : f a with _ | c
    · rw [findSome?_eq_some_iff_nearest]
      constructor
      · rintro ⟨k, hk, hnearer⟩
        refine ⟨k + 1, hk, fun j hj => ?_⟩
        cases j with
        | zero => exact ha
        | succ j => exact hnearer j (by omega)
      · rintro ⟨k, hk, hnearer⟩
        cases k with
        | zero => exact absurd (ha.symm.trans hk) (by simp)
        | succ k => exact ⟨k, hk, fun j hj => hnearer (j + 1) (by omega)⟩
    · constructor
      · intro hc
        exact ⟨0, ha.trans hc, fun j hj => absurd hj (Nat.not_lt_zero j)⟩
      · rintro ⟨k, hk, hnearer⟩
        cases k with
        | zero => exact ha.symm.trans hk
        | succ k => exact absurd (ha.symm.trans (hnearer 0 (by omega))) (by simp)

/-- Where a declaration stands, so does the latest, as near or nearer. -/
theorem Stands.exists_latest {k : Nat} {events : List Event} (h : Stands k events name type) :
    ∃ later earlier type' j, events = later ++ .declared name type' :: earlier ∧ inside? later = some j ∧ j ≤ k ∧
      ∀ since t before, later = since ++ .declared name t :: before → inside? since = none := by
  obtain ⟨later, earlier, hevents, hk⟩ := h
  induction hlength : later.length using Nat.strongRecOn generalizing later earlier type k with
  | ind n ih =>
    by_cases hlatest : ∀ since t before, later = since ++ .declared name t :: before → inside? since = none
    · exact ⟨later, earlier, type, k, hevents, hk, Nat.le_refl k, hlatest⟩
    · push Not at hlatest
      obtain ⟨since, t, before, rfl, hsince⟩ := hlatest
      obtain ⟨j, hj⟩ := Option.ne_none_iff_exists'.mp hsince
      obtain ⟨m, -, hm⟩ := Option.map_eq_some_iff.mp ((inside?_append hj).symm.trans hk)
      have hshorter : since.length < n := by
        rw [← hlength, List.length_append, List.length_cons]
        omega
      rw [List.append_assoc, List.cons_append] at hevents
      obtain ⟨later', earlier', type', i, hevents', hi, hle, hlatest⟩ := ih _ hshorter since _ hevents hj rfl
      exact ⟨later', earlier', type', i, hevents', hi, by omega, hlatest⟩

namespace Follows

variable {events : List Event}

theorem resolve_iff (h : Follows events st) : st.resolve name = some type ↔ LatestStands events name type := by
  have hresolve : st.resolve name = some type ↔
      ∃ k, st.typeAt k name = some type ∧ ∀ j < k, st.typeAt j name = none := findSome?_eq_some_iff_nearest
  rw [hresolve]
  constructor
  · rintro ⟨k, hk, hnearer⟩
    obtain ⟨later, earlier, type', j, hevents, hj, hle, hlatest⟩ := ((h.bindings k name type).mp hk).exists_latest
    have htype : st.typeAt j name = some type' := (h.bindings j name type').mpr ⟨later, earlier, hevents, hj⟩
    have hsame : j = k := by
      by_contra hne
      rw [hnearer j (by omega)] at htype
      cases htype
    subst hsame
    obtain rfl := Option.some.inj (htype.symm.trans hk)
    exact ⟨later, earlier, hevents, by rw [hj]; rfl, hlatest⟩
  · rintro ⟨later, earlier, hevents, hopen, hlatest⟩
    obtain ⟨k, hk⟩ := Option.isSome_iff_exists.mp hopen
    refine ⟨k, (h.bindings k name type).mpr ⟨later, earlier, hevents, hk⟩, fun j hj => ?_⟩
    by_contra hne
    obtain ⟨type', htype⟩ := Option.ne_none_iff_exists'.mp hne
    obtain ⟨later', earlier', hevents', hj'⟩ := (h.bindings j name type').mp htype
    -- the nearer declaration is the earlier one, which is further away, or the later one, of which there is none
    rcases List.append_eq_append_iff.mp (hevents.symm.trans hevents') with ⟨since, rfl, -⟩ | ⟨since, rfl, hrest⟩
    · obtain ⟨m, -, hm⟩ := Option.map_eq_some_iff.mp ((inside?_append hk).symm.trans hj')
      omega
    · cases since with
      | nil =>
        rw [List.append_nil, hj'] at hk
        have := Option.some.inj hk
        omega
      | cons e since =>
        obtain ⟨rfl, -⟩ := List.cons.inj hrest
        rw [hlatest later' type' since rfl] at hj'
        cases hj'

end Follows

/-! ### Scopes opened and closed again -/

/-- Changes that close the scopes they open, and no others; the declarations listed are those made between them in the
    scope in which they begin. -/
inductive Nested : List Change → List (String × VarType) → Prop
  | nil : Nested [] []
  | declare {cs : List Change} {ds : List (String × VarType)} (name : String) (type : VarType) (h : Nested cs ds) :
    Nested (.declare name type :: cs) ((name, type) :: ds)
  | block {body cs : List Change} {inner ds : List (String × VarType)} (hbody : Nested body inner) (h : Nested cs ds) :
    Nested (.push :: (body ++ .pop :: cs)) ds

/-- The scopes around the innermost one come back when that is closed. -/
theorem History.extend_pop {h : History} (houter : h.stack.outer = st.scopes) :
    h.extend .pop = ⟨.closed h.stack.inner :: h.events, st⟩ := by
  rw [extend, change_pop_of_outer houter]

theorem type?_change_declare (st : ScopeStack) (name n : String) (type : VarType) :
    (st.change (.declare name type)).2.inner.type? n =
      (st.inner.type? n).or (if n = name then some type else none) := by
  rcases hbound : st.inner.binds name with _ | _
  · rw [change_declare_of_free hbound]
    refine (Scope.type?_insert hbound).trans ?_
    split_ifs with hn
    · rw [hn, Scope.binds_eq_false_iff.mp hbound, Option.none_or]
    · rw [Option.or_none]
  · rw [change_declare_of_bound hbound]
    split_ifs with hn
    · obtain ⟨t, ht⟩ := Option.isSome_iff_exists.mp (show (st.inner.type? name).isSome = true from hbound)
      rw [hn, ht, Option.some_or]
    · rw [Option.or_none]

theorem outer_change_declare (st : ScopeStack) (name : String) (type : VarType) :
    (st.change (.declare name type)).2.outer = st.outer := by
  rcases hbound : st.inner.binds name with _ | _
  · rw [change_declare_of_free hbound]
  · rw [change_declare_of_bound hbound]

/-- The first declaration of a name in the innermost scope counts. -/
theorem Nested.after {cs : List Change} {ds : List (String × VarType)} (hnested : Nested cs ds) (h : History) :
    (h.after cs).stack.outer = h.stack.outer ∧
      ∀ n, (h.after cs).stack.inner.type? n = (h.stack.inner.type? n).or (ds.lookup n) := by
  induction hnested generalizing h with
  | nil => exact ⟨rfl, fun n => by rw [List.lookup_nil, Option.or_none]; rfl⟩
  | declare name type _ ih =>
    obtain ⟨houter, htypes⟩ := ih (h.extend (.declare name type))
    refine ⟨houter.trans (outer_change_declare _ _ _), fun n => (htypes n).trans ?_⟩
    have hdeclared := type?_change_declare h.stack name n type
    rw [History.extend, hdeclared, Option.or_assoc, List.lookup_cons]
    by_cases hn : n = name
    · rw [if_pos hn, beq_iff_eq.mpr hn, Option.some_or]
    · rw [if_neg hn, beq_eq_false_iff_ne.mpr hn, Option.none_or]
  | @block body cs inner ds _ _ ihbody ih =>
    obtain ⟨houter, -⟩ := ihbody (h.extend .push)
    have hclosed : ((h.extend .push).after body).extend .pop = ⟨_, h.stack⟩ := History.extend_pop houter
    rw [History.after_cons, History.after_append, History.after_cons, hclosed]
    exact ih _

/-! ### Lexical scoping -/

/-- A stack is what its events make it. -/
structure LexicallyScoped (h : History) : Prop where
  depth_pos : 1 ≤ h.stack.depth
  depth : (h.stack.depth : Int) = 1 + openings (sinceCleared h.events) - closings (sinceCleared h.events)
  underflow : (h.stack.change .pop).1 = .underflow ↔ h.stack.depth = 1
  underflow_keeps : (h.stack.change .pop).1 = .underflow → (h.stack.change .pop).2 = h.stack
  refused : ∀ name type, (h.stack.change (.declare name type)).1 = .refused name type ↔ h.stack.inner.binds name = true
  refused_keeps : ∀ name type, (h.stack.change (.declare name type)).1 = .refused name type →
    (h.stack.change (.declare name type)).2 = h.stack
  inner : ∀ name type, h.stack.inner.type? name = some type ↔ Stands 0 h.events name type
  resolve : ∀ name type, h.stack.resolve name = some type ↔ LatestStands h.events name type
  names_sorted : h.stack.visibleNames.Pairwise fun a b => Text.bytes a < Text.bytes b
  names : ∀ name, name ∈ h.stack.visibleNames ↔ (h.stack.resolve name).isSome = true

theorem Follows.lexicallyScoped {h : History} (hf : Follows h.events h.stack) : LexicallyScoped h where
  depth_pos := Nat.le_add_left 1 _
  depth := by
    have := hf.depth
    omega
  underflow := by
    rcases houter : h.stack.outer with _ | ⟨next, rest⟩
    · rw [change_pop_of_alone houter, ScopeStack.depth, houter]
      simp
    · rw [change_pop_of_outer houter, ScopeStack.depth, houter]
      simp
  underflow_keeps := by
    rcases houter : h.stack.outer with _ | ⟨next, rest⟩
    · rw [change_pop_of_alone houter]
      exact fun _ => rfl
    · rw [change_pop_of_outer houter]
      exact fun hunderflow => by cases hunderflow
  refused name type := by
    rcases hbound : h.stack.inner.binds name with _ | _
    · rw [change_declare_of_free hbound]
      simp
    · rw [change_declare_of_bound hbound]
      simp
  refused_keeps name type := by
    rcases hbound : h.stack.inner.binds name with _ | _
    · rw [change_declare_of_free hbound]
      exact fun hrefused => by cases hrefused
    · rw [change_declare_of_bound hbound]
      exact fun _ => rfl
  inner := hf.bindings 0
  resolve _ _ := hf.resolve_iff
  names_sorted := (sorted_visibleNames h.stack).imp Text.bytes_lt_bytes
  names _ := mem_visibleNames

/-- Whatever is done to a new stack, in whatever order: its depth is what has been opened and not closed, only the
    program's scope cannot be closed, only a name of the innermost scope cannot be declared, and a name stands for its
    latest declaration in an open scope. A scope that is opened and closed again leaves the stack as it was, and hands
    back what was declared in it. -/
theorem scopes_are_lexical :
    (∀ changes, LexicallyScoped (History.start.after changes)) ∧
    ∀ (h : History) (body : List Change) (ds : List (String × VarType)), Nested body ds →
      (h.after (.push :: (body ++ [.pop]))).stack = h.stack ∧
      ∃ scope events, (h.after (.push :: (body ++ [.pop]))).events = .closed scope :: events ∧
        ∀ name, scope.type? name = ds.lookup name := by
  constructor
  · intro changes
    exact (History.follows_after .new changes).lexicallyScoped
  · intro h body ds hnested
    obtain ⟨houter, htypes⟩ := hnested.after (h.extend .push)
    have hclosed : ((h.extend .push).after body).extend .pop = ⟨_, h.stack⟩ := History.extend_pop houter
    rw [History.after_cons, History.after_append, History.after_cons, hclosed]
    refine ⟨rfl, _, _, rfl, fun name => ?_⟩
    rw [htypes name]
    exact Option.none_or

/-- A name is declared again in an inner scope, where a third declaration of it is refused, and is what it was after
    that scope has been closed. -/
theorem scopes_are_lexical_shadowed :
    let h := History.start.after [.declare "x" .number]
    let body : List Change := [.declare "x" .string, .push, .declare "y" .boolean, .pop, .declare "x" .boolean]
    Nested body [("x", .string), ("x", .boolean)] ∧
    LatestStands (h.after (.push :: body)).events "x" .string ∧
    (h.after (.push :: (body ++ [.pop]))).stack = h.stack ∧ h.stack.resolve "x" = some .number ∧
    ∃ scope events, (h.after (.push :: (body ++ [.pop]))).events = .closed scope :: events ∧
      scope.type? "x" = some .string := by
  intro h body
  have hnested : Nested body [("x", .string), ("x", .boolean)] :=
    .declare _ _ (.block (.declare _ _ .nil) (.declare _ _ .nil))
  obtain ⟨hlexical, hbracket⟩ := scopes_are_lexical
  have hstring : (h.after (.push :: body)).stack.resolve "x" = some .string := by decide
  have hlatest : LatestStands (h.after (.push :: body)).events "x" .string :=
    ((hlexical (.declare "x" .number :: .push :: body)).resolve "x" .string).mp hstring
  obtain ⟨hsame, scope, events, hevents, htypes⟩ := hbracket h body _ hnested
  exact ⟨hnested, hlatest, hsame, by decide, scope, events, hevents, htypes "x"⟩

end RandomPrograms.ScopeStack
