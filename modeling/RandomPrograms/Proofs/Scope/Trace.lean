import RandomPrograms.Proofs.Scope.Names

/-! What has been done to a stack, told by events. The events since the stack was new say which declarations stand:
    those whose scope has not been closed, and how many scopes have been opened inside it. Each change keeps the stack
    in step with its events: every open scope binds just what stands in it. -/

namespace RandomPrograms.ScopeStack

open Grammar

/-! ### Changes and events -/

/-- What can be done to a stack. -/
inductive Change
  | push
  | pop
  | declare (name : String) (type : VarType)
  | reset
deriving Repr, DecidableEq

/-- What comes of it. -/
inductive Event
  | opened
  | closed (scope : Scope)
  /-- The program's scope was to be closed. -/
  | underflow
  | declared (name : String) (type : VarType)
  | refused (name : String) (type : VarType)
  | cleared
deriving Repr, DecidableEq

/-- What a change does. -/
def change (st : ScopeStack) : Change → Event × ScopeStack
  | .push => (.opened, st.push)
  | .pop =>
    match st.pop? with
    | some (scope, st') => (.closed scope, st')
    | none => (.underflow, st)
  | .declare name type =>
    match st.declare? name type with
    | some st' => (.declared name type, st')
    | none => (.refused name type, st)
  | .reset => (.cleared, .new)

/-- A stack, and what has happened to it, the latest first. -/
structure History where
  events : List Event
  stack : ScopeStack
deriving Repr, DecidableEq

namespace History

def start : History := ⟨[], .new⟩

def extend (h : History) (c : Change) : History := ⟨(h.stack.change c).1 :: h.events, (h.stack.change c).2⟩

/-- The history after some more changes. -/
def after (h : History) (changes : List Change) : History := changes.foldl extend h

theorem after_cons (h : History) (c : Change) (changes : List Change) :
    h.after (c :: changes) = (h.extend c).after changes := rfl

theorem after_append (h : History) (changes later : List Change) :
    h.after (changes ++ later) = (h.after changes).after later := List.foldl_append

end History

/-! ### What the events say -/

/-- The number of scopes that these events, the latest first, have opened inside the one that was innermost before
    them and left open; none if they have closed that one. -/
def inside? : List Event → Option Nat
  | [] => some 0
  | .opened :: earlier => (inside? earlier).map (· + 1)
  | .closed _ :: earlier =>
    match inside? earlier with
    | some (k + 1) => some k
    | _ => none
  | .cleared :: _ => none
  | .underflow :: earlier | .declared _ _ :: earlier | .refused _ _ :: earlier => inside? earlier

/-- A name was declared in a scope that is open, with so many others open inside it. -/
def Stands (k : Nat) (events : List Event) (name : String) (type : VarType) : Prop :=
  ∃ later earlier, events = later ++ .declared name type :: earlier ∧ inside? later = some k

/-- Of the declarations of a name whose scope is still open, the latest gives it this type. -/
def LatestStands (events : List Event) (name : String) (type : VarType) : Prop :=
  ∃ later earlier, events = later ++ .declared name type :: earlier ∧ (inside? later).isSome = true ∧
    ∀ since type' before, later = since ++ .declared name type' :: before → inside? since = none

/-- The events since the stack was last cleared. -/
def sinceCleared (events : List Event) : List Event := events.takeWhile (· ≠ .cleared)

def Event.isOpening : Event → Bool
  | .opened => true
  | _ => false

def Event.isClosing : Event → Bool
  | .closed _ => true
  | _ => false

def openings (events : List Event) : Nat := events.countP Event.isOpening

def closings (events : List Event) : Nat := events.countP Event.isClosing

section
variable {k : Nat} {e : Event} {events later earlier : List Event} {name n : String} {type t : VarType} {scope : Scope}

theorem stands_cons : Stands k (e :: events) name type ↔ (e = .declared name type ∧ k = 0) ∨
    ∃ later earlier, events = later ++ .declared name type :: earlier ∧ inside? (e :: later) = some k := by
  constructor
  · rintro ⟨later, earlier, hevents, hk⟩
    rcases List.cons_eq_append_iff.mp hevents with ⟨rfl, heq⟩ | ⟨later, rfl, heq⟩
    · obtain ⟨rfl, -⟩ := List.cons.inj heq
      exact Or.inl ⟨rfl, (Option.some.inj hk).symm⟩
    · exact Or.inr ⟨later, earlier, heq, hk⟩
  · rintro (⟨rfl, rfl⟩ | ⟨later, earlier, rfl, hk⟩)
    · exact ⟨[], events, rfl, rfl⟩
    · exact ⟨e :: later, earlier, rfl, hk⟩

theorem not_stands_nil : ¬Stands k [] name type := by
  rintro ⟨later, earlier, hevents, -⟩
  cases later <;> cases hevents

/-- An event that opens and closes nothing, and declares nothing, changes nothing. -/
theorem stands_cons_of_idle (hinside : ∀ later, inside? (e :: later) = inside? later) (hnot : e ≠ .declared name type) :
    Stands k (e :: events) name type ↔ Stands k events name type := by
  rw [stands_cons]
  simp only [hinside, hnot, false_and, false_or]
  rfl

theorem stands_declared : Stands k (.declared n t :: events) name type ↔
    (k = 0 ∧ n = name ∧ t = type) ∨ Stands k events name type := by
  rw [stands_cons, Event.declared.injEq, and_comm]
  rfl

/-- What stood is one scope further away. -/
theorem stands_opened : Stands k (.opened :: events) name type ↔ ∃ j, k = j + 1 ∧ Stands j events name type := by
  rw [stands_cons]
  constructor
  · rintro (⟨heq, -⟩ | ⟨later, earlier, hevents, hk⟩)
    · cases heq
    · obtain ⟨j, hj, rfl⟩ := Option.map_eq_some_iff.mp hk
      exact ⟨j, rfl, later, earlier, hevents, hj⟩
  · rintro ⟨j, rfl, later, earlier, hevents, hj⟩
    exact Or.inr ⟨later, earlier, hevents, by rw [inside?, hj, Option.map_some]⟩

theorem inside?_closed : inside? (.closed scope :: later) = some k ↔ inside? later = some (k + 1) := by
  rw [inside?]
  rcases inside? later with _ | _ | j <;> simp

/-- What stood in the scope that is closed stands no longer, and what stood around it is one scope nearer. -/
theorem stands_closed : Stands k (.closed scope :: events) name type ↔ Stands (k + 1) events name type := by
  rw [stands_cons]
  simp only [inside?_closed, reduceCtorEq, false_and, false_or]
  rfl

theorem not_stands_cleared : ¬Stands k (.cleared :: events) name type := by
  rw [stands_cons]
  rintro (⟨heq, -⟩ | ⟨later, earlier, -, hk⟩)
  · cases heq
  · cases hk

/-- Scopes opened inside add up. -/
theorem inside?_append (h : inside? later = some k) : inside? (later ++ earlier) = (inside? earlier).map (k + ·) := by
  induction later generalizing k with
  | nil =>
    obtain rfl := Option.some.inj h
    simp
  | cons e later ih =>
    cases e with
    | opened =>
      obtain ⟨j, hj, rfl⟩ := Option.map_eq_some_iff.mp h
      rw [List.cons_append, inside?, ih hj, Option.map_map]
      congr 1
      funext m
      exact Nat.add_right_comm j m 1
    | closed scope =>
      have hj := ih (inside?_closed.mp h)
      rw [List.cons_append, inside?, hj]
      rcases inside? earlier with _ | m
      · rfl
      · simp only [Option.map_some, Nat.add_right_comm k 1 m]
    | cleared => cases h
    | underflow | declared | refused => exact ih h

end

/-! ### The stack follows its events -/

variable {st : ScopeStack} {scope : Scope} {name : String} {type : VarType}

theorem change_pop_of_outer {next : Scope} {rest : List Scope} (h : st.outer = next :: rest) :
    st.change .pop = (.closed st.inner, ⟨next, rest⟩) := by
  rw [change, pop?, h]

theorem change_pop_of_alone (h : st.outer = []) : st.change .pop = (.underflow, st) := by
  rw [change, pop?, h]

theorem change_declare_of_free (h : st.inner.binds name = false) :
    st.change (.declare name type) = (.declared name type, { st with inner := st.inner.insert ⟨name, type⟩ }) := by
  rw [change, declare?_eq_some_iff.mpr ⟨h, rfl⟩]

theorem change_declare_of_bound (h : st.inner.binds name = true) :
    st.change (.declare name type) = (.refused name type, st) := by
  rw [change, declare?, if_pos h]

theorem openings_cons {e : Event} (h : e ≠ .cleared) (events : List Event) :
    openings (sinceCleared (e :: events)) = openings (sinceCleared events) + if e.isOpening then 1 else 0 := by
  rw [sinceCleared, List.takeWhile_cons_of_pos (by simpa using h)]
  exact List.countP_cons

theorem closings_cons {e : Event} (h : e ≠ .cleared) (events : List Event) :
    closings (sinceCleared (e :: events)) = closings (sinceCleared events) + if e.isClosing then 1 else 0 := by
  rw [sinceCleared, List.takeWhile_cons_of_pos (by simpa using h)]
  exact List.countP_cons

/-- The type that a name has in the scope with so many others inside it. -/
def typeAt (st : ScopeStack) (k : Nat) (name : String) : Option VarType := st.scopes[k]?.bind (·.type? name)

/-- Each open scope binds what was declared in it, and there are as many as were opened and not closed. -/
structure Follows (events : List Event) (st : ScopeStack) : Prop where
  depth : st.depth + closings (sinceCleared events) = 1 + openings (sinceCleared events)
  bindings : ∀ k name type, st.typeAt k name = some type ↔ Stands k events name type

namespace Follows

variable {events : List Event}

theorem new : Follows [] .new where
  depth := rfl
  bindings k name type := by
    refine iff_of_false (fun hbound => ?_) not_stands_nil
    cases k <;> cases hbound

theorem cleared : Follows (.cleared :: events) .new where
  depth := rfl
  bindings k name type := by
    refine iff_of_false (fun hbound => ?_) not_stands_cleared
    cases k <;> cases hbound

theorem opened (h : Follows events st) : Follows (.opened :: events) st.push where
  depth := by
    have hdepth : st.push.depth = st.depth + 1 := rfl
    have hbefore := h.depth
    rw [openings_cons (by decide), closings_cons (by decide), hdepth]
    simp only [Event.isOpening, Event.isClosing, Bool.false_eq_true, if_true, if_false]
    omega
  bindings k name type := by
    rw [stands_opened]
    cases k with
    | zero => exact iff_of_false (fun hbound => by cases hbound) fun ⟨j, hj, _⟩ => by cases hj
    | succ k =>
      simp only [Nat.add_right_cancel_iff, exists_eq_left']
      exact h.bindings k name type

theorem closed {next : Scope} {rest : List Scope} (h : Follows events st) (houter : st.outer = next :: rest) :
    Follows (.closed scope :: events) ⟨next, rest⟩ where
  depth := by
    have hdepth : st.depth = rest.length + 1 + 1 := by rw [ScopeStack.depth, houter, List.length_cons]
    have hbefore := h.depth
    rw [openings_cons (by simp), closings_cons (by simp)]
    simp only [Event.isOpening, Event.isClosing, Bool.false_eq_true, if_true, if_false, ScopeStack.depth]
    omega
  bindings k name type := by
    have hnext : (ScopeStack.mk next rest).typeAt k name = st.typeAt (k + 1) name := by
      rw [typeAt, typeAt, scopes, scopes, houter, List.getElem?_cons_succ]
    rw [stands_closed, hnext]
    exact h.bindings (k + 1) name type

/-- A change that only looks at the stack. -/
theorem idle {e : Event} (h : Follows events st) (hcleared : e ≠ .cleared) (hopening : e.isOpening = false)
    (hclosing : e.isClosing = false) (hdeclared : ∀ name type, e ≠ .declared name type)
    (hinside : ∀ later, inside? (e :: later) = inside? later) : Follows (e :: events) st where
  depth := by
    rw [openings_cons hcleared, closings_cons hcleared, hopening, hclosing]
    exact h.depth
  bindings k name type := by
    rw [stands_cons_of_idle hinside (hdeclared name type)]
    exact h.bindings k name type

theorem declared (h : Follows events st) (hfree : st.inner.binds name = false) :
    Follows (.declared name type :: events) { st with inner := st.inner.insert ⟨name, type⟩ } where
  depth := by
    rw [openings_cons (by simp), closings_cons (by simp)]
    exact h.depth
  bindings k n t := by
    have hbefore := h.bindings k n t
    rw [stands_declared]
    cases k with
    | zero =>
      have hinner : st.typeAt 0 n = st.inner.type? n := rfl
      show (st.inner.insert ⟨name, type⟩).type? n = some t ↔ _
      rw [← hbefore, hinner, Scope.type?_insert hfree]
      by_cases hn : n = name
      · subst hn
        simp [Scope.binds_eq_false_iff.mp hfree]
      · simp [hn, Ne.symm hn]
    | succ k =>
      simp only [Nat.add_one_ne_zero, false_and, false_or]
      exact hbefore

/-- What a change does, its event tells. -/
theorem change (h : Follows events st) (c : Change) : Follows ((st.change c).1 :: events) (st.change c).2 := by
  cases c with
  | push => exact h.opened
  | pop =>
    rcases houter : st.outer with _ | ⟨next, rest⟩
    · rw [change_pop_of_alone houter]
      exact h.idle (by simp) rfl rfl (by simp) fun _ => rfl
    · rw [change_pop_of_outer houter]
      exact h.closed houter
  | declare name type =>
    rcases hbound : st.inner.binds name with _ | _
    · rw [change_declare_of_free hbound]
      exact h.declared hbound
    · rw [change_declare_of_bound hbound]
      exact h.idle (by simp) rfl rfl (by simp) fun _ => rfl
  | reset => exact .cleared

end Follows

theorem History.follows_after {h : History} (hf : Follows h.events h.stack) (changes : List Change) :
    Follows (h.after changes).events (h.after changes).stack := by
  induction changes generalizing h with
  | nil => exact hf
  | cons c changes ih => exact ih (hf.change c)

end RandomPrograms.ScopeStack
