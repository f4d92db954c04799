import RandomPrograms.Proofs.Generator.Programs

/-! A checker of scopes, which knows nothing of generators: it walks a list of statements with the readings of
    the open scopes and refuses a name declared twice in one scope, a name that stands for nothing, and a use
    of a name at another type than its own. A block is accepted from the scopes in which it was written, and
    the checker ends with the scopes that the generator ended with. -/

namespace RandomPrograms

open Grammar Randomness

/-! ### The checker -/

/-- What the names in one scope stand for. -/
abbrev Frame := String → Option VarType

namespace Frame

def empty : Frame := fun _ => none

def bind (f : Frame) (name : String) (type : VarType) : Frame := fun n => if n = name then some type else f n

end Frame

/-- The open scopes, from the inside out. -/
abbrev Frames := List Frame

namespace Frames

def declare (fs : Frames) (name : String) (type : VarType) : Option Frames :=
  match fs with
  | [] => none
  | f :: rest => if (f name).isSome then none else some (f.bind name type :: rest)

/-- What a name stands for: the innermost scope that knows it decides. -/
def resolve (fs : Frames) (name : String) : Option VarType := fs.findSome? (· name)

def admits (fs : Frames) (name : String) (value : Value) : Bool := fs.resolve name == some value.type

def admitsCondition (fs : Frames) : Condition → Bool
  | .compare name _ value => fs.admits name value
  | .literal _ => true

end Frames

mutual

/-- The scopes after a statement, if it is accepted. -/
def Grammar.Statement.check (fs : Frames) : Statement → Option Frames
  | .declaration name value => fs.declare name value.type
  | .assignment name value => if fs.admits name value then some fs else none
  | .ifThen c body => if fs.admitsCondition c then body.checkWithin fs else none
  | .ifElse c body otherwise =>
    if fs.admitsCondition c then do
      let fs ← body.checkWithin fs
      otherwise.checkWithin fs
    else none
  | .empty => some fs

/-- A body is checked in a scope of its own, which is dropped at the end. -/
def Grammar.Block.checkWithin (fs : Frames) : Block → Option Frames
  | ⟨ss, _⟩ => (checkAll (Frame.empty :: fs) ss).map List.tail

def checkAll (fs : Frames) : List Statement → Option Frames
  | [] => some fs
  | s :: ss => do
    let fs ← s.check fs
    checkAll fs ss

end

/-- What the declarations among some statements, but not those in bodies, make their names stand for. -/
def topLevel (ss : List Statement) : Frame := fun name => ss.findSome? fun
  | .declaration n value => if name = n then some value.type else none
  | _ => none

/-! ### Readings of scopes -/

namespace ScopeStack

variable {st : ScopeStack} {name : String} {type : VarType}

/-- What the checker sees of open scopes. -/
def frames (st : ScopeStack) : Frames := st.scopes.map Scope.type?

theorem frames_injective : Function.Injective frames := by
  intro st st' h
  have hinj : Function.Injective Scope.type? := fun _ _ => Scope.ext_type?
  have := List.map_injective_iff.mpr hinj h
  cases st
  cases st'
  simpa [scopes] using this

theorem resolve_frames (st : ScopeStack) (name : String) : st.frames.resolve name = st.resolve name := by
  simp [frames, Frames.resolve, resolve, List.findSome?_map, Function.comp_def]

theorem declare_frames (h : st.inner.binds name = false) : st.frames.declare name type =
    some { st with inner := st.inner.insert ⟨name, type⟩ }.frames := by
  have hnone := Scope.binds_eq_false_iff.mp h
  have hbind : (st.inner.insert ⟨name, type⟩).type? = Frame.bind st.inner.type? name type :=
    funext fun _ => Scope.type?_insert h
  simp [frames, scopes, Frames.declare, hnone, hbind]

theorem admits_frames {value : Value} (h : st.resolve name = some value.type) : st.frames.admits name value = true := by
  simp [Frames.admits, resolve_frames, h]

end ScopeStack

theorem Grammar.Condition.Asks.admitted {scopes : ScopeStack} {limits : Value.Limits} {c : Condition}
    (h : c.Asks scopes limits) : scopes.frames.admitsCondition c = true := by
  cases c with
  | compare name op value => exact ScopeStack.admits_frames h.1
  | literal b => rfl

/-! ### What is made is accepted -/

/-- A body that is accepted in its own scope leaves the scopes around it. -/
theorem checkWithin_of_fills {budget : Nat} {g g₁ : Generator} {source : Source} {b : Block}
    (h : Fills budget (g.opening source) b g₁)
    (hb : checkAll (g.opening source).scopes.frames b.statements = some g₁.scopes.frames) :
    b.checkWithin g.scopes.frames = some g.scopes.frames := by
  have houter : g₁.scopes.outer = g.scopes.scopes := h.kept.outer
  have htail : g₁.scopes.frames.tail = g.scopes.frames := by
    rw [ScopeStack.frames, ScopeStack.scopes, houter]
    rfl
  obtain ⟨ss, code⟩ := b
  have hbody : checkAll (Frame.empty :: g.scopes.frames) ss = some g₁.scopes.frames := hb
  rw [Block.checkWithin, hbody, Option.map_some, htail]

mutual

theorem Makes.check {g g' : Generator} {s : Statement} : Makes g s g' → s.check g.scopes.frames = some g'.scopes.frames
  | .declared _ _ free _ _ => ScopeStack.declare_frames free
  | .assigned _ visible _ => if_pos (ScopeStack.admits_frames visible)
  | .suppressed .. => rfl
  | .ifThen _ _ asks body => by
    rw [Statement.check, if_pos asks.admitted]
    exact checkWithin_of_fills body body.check
  | .ifElse _ _ asks body otherwise => by
    rw [Statement.check, if_pos asks.admitted, checkWithin_of_fills body body.check]
    have hsecond := checkWithin_of_fills otherwise otherwise.check
    exact hsecond

theorem Fills.check {budget : Nat} {g g' : Generator} {b : Block} :
    Fills budget g b g' → checkAll g.scopes.frames b.statements = some g'.scopes.frames
  | .last made _ => by
    rw [checkAll, made.check]
    rfl
  | .more made _ rest => by
    rw [checkAll, made.check]
    exact rest.check

end

/-! ### Top-level declarations -/

theorem topLevel_cons (s : Statement) (ss : List Statement) (name : String) :
    topLevel (s :: ss) name = (topLevel [s] name).or (topLevel ss name) := by
  unfold topLevel
  rw [← List.singleton_append, List.findSome?_append]

/-- A statement declares no more than itself in the innermost scope, whatever its bodies declare in theirs. -/
theorem Makes.inner_type? {g g' : Generator} {s : Statement} (h : Makes g s g') (name : String) :
    g'.scopes.inner.type? name = (g.scopes.inner.type? name).or (topLevel [s] name) := by
  cases h with
  | @declared _ n value rejected source free =>
    refine (Scope.type?_insert free).trans ?_
    by_cases hn : name = n
    · subst hn
      rw [Scope.binds_eq_false_iff.mp free]
      simp [topLevel]
    · simp [topLevel, hn]
  | assigned => exact Option.or_none.symm
  | suppressed => exact Option.or_none.symm
  | ifThen => exact Option.or_none.symm
  | ifElse => exact Option.or_none.symm

theorem Fills.inner_type? {budget : Nat} {g g' : Generator} {b : Block} (name : String) :
    Fills budget g b g' →
      g'.scopes.inner.type? name = (g.scopes.inner.type? name).or (topLevel b.statements name)
  | .last made _ => made.inner_type? name
  | .more made _ rest => by
    rw [topLevel_cons, ← Option.or_assoc, ← made.inner_type? name]
    exact rest.inner_type? name

/-! ### Generated blocks and programs -/

/-- A block is accepted from the scopes in which it was asked for, whatever they are, and leaves just those
    that the checker ends with. A program is accepted from one scope with nothing in it, and what is left
    there is what its top-level declarations say. -/
theorem generated_accepted :
    (∀ budget g b g', Run.block budget g = (.ok b, g') →
      checkAll g.scopes.frames b.statements = some g'.scopes.frames) ∧
    (∀ budget g p g', Run.program budget g = (.ok p, g') →
      checkAll [Frame.empty] p.statements = some g'.scopes.frames ∧ g'.scopes.frames = [topLevel p.statements]) ∧
    Function.Injective ScopeStack.frames := by
  refine ⟨fun budget g b g' h => (Run.fills_of_block h).check, ?_, ScopeStack.frames_injective⟩
  intro budget g p g' h
  obtain ⟨hfills, -, -⟩ := Run.program_eq_ok h
  have hcheck := hfills.check
  have houter := hfills.kept.outer
  have hinner := fun name => hfills.inner_type? name
  rw [g.begun_scopes] at hcheck houter hinner
  refine ⟨hcheck, ?_⟩
  have hroot : g'.scopes.inner.type? = topLevel p.statements := funext hinner
  have halone : g'.scopes.outer = [] := houter
  rw [ScopeStack.frames, ScopeStack.scopes, halone, List.map_singleton, hroot]

/-- A block with one variable visible from around it, and a whole program. -/
theorem generated_accepted_seed_twelve :
    (∃ b g', Run.block 60 { Generator.withSeed 12 with scopes := ⟨.empty, [Scope.empty.insert ⟨"x", .number⟩]⟩ } =
        (.ok b, g') ∧
      checkAll (ScopeStack.frames ⟨.empty, [Scope.empty.insert ⟨"x", .number⟩]⟩) b.statements = some g'.scopes.frames) ∧
    ∃ p g', Run.program (some 60) (Generator.withSeed 12) = (.ok p, g') ∧
      checkAll [Frame.empty] p.statements = some [topLevel p.statements] := by
  constructor
  · obtain ⟨b, g', h⟩ := Run.exists_of_isOk (x := Run.block 60
      { Generator.withSeed 12 with scopes := ⟨.empty, [Scope.empty.insert ⟨"x", .number⟩]⟩ }) (by decide +kernel)
    exact ⟨b, g', h, generated_accepted.1 _ _ _ _ h⟩
  · obtain ⟨p, g', h⟩ := Run.program_seed_twelve
    have hp := generated_accepted.2.1 _ _ _ _ h
    exact ⟨p, g', h, hp.2 ▸ hp.1⟩

end RandomPrograms
