import RandomPrograms.Generator.Program
import RandomPrograms.Proofs.Randomness.Draws

/-! What the elementary computations on a generator return and how they change it. -/

namespace RandomPrograms

open Grammar Randomness

/-! ### States -/

namespace Generator

def indentation (g : Generator) : String := String.join (List.replicate (g.scopes.depth - 1) g.config.indent)

/-- The text of a statement in the innermost scope, without the end of its last line. -/
def line (g : Generator) (s : Statement) : String := g.indentation ++ s.text g.indentation

def counting (g : Generator) (f : Tally → Tally) : Generator := { g with tally := f g.tally }

/-- With one more scope, entered with the given source. -/
def opening (g : Generator) (source : Source) : Generator :=
  { g with
    source
    scopes := g.scopes.push
    tally := { g.tally with
      pushes := g.tally.pushes + 1
      maxDepth := max g.tally.maxDepth (g.scopes.depth + 1) } }

/-- With the given scopes, which are those left after a scope is closed. -/
def closing (g : Generator) (scopes : ScopeStack) : Generator :=
  { g with scopes, tally := { g.tally with pops := g.tally.pops + 1 } }

theorem depth_opening (g : Generator) (source : Source) :
    (g.opening source).scopes.depth = g.scopes.depth + 1 := rfl

theorem depth_closing (g : Generator) (scopes : ScopeStack) : (g.closing scopes).scopes.depth = scopes.depth := rfl

end Generator

/-! ### Computations -/

theorem exists_error {α : Type} {x : Except Error α} (h : x.isOk = false) : ∃ e, x = .error e := by
  cases x with
  | error e => exact ⟨e, rfl⟩
  | ok a => cases h

namespace Run

variable {α β : Type}

theorem bind_apply (r : Run α) (f : α → Run β) (g : Generator) :
    (r >>= f) g = match r g with
      | (.ok a, g₁) => f a g₁
      | (.error e, g₁) => (.error e, g₁) := by
  show ExceptT.bind r f g = _
  simp only [ExceptT.bind, ExceptT.mk, bind, StateT.bind, ExceptT.bindCont]
  rcases r g with ⟨a | a, g₁⟩ <;> rfl

/-- What a computation gave, if it has not failed. -/
theorem exists_of_isOk {x : Except Error α × Generator} (h : x.1.isOk = true) : ∃ a g, x = (.ok a, g) := by
  rcases x with ⟨e | a, g⟩
  · cases h
  · exact ⟨a, g, rfl⟩

theorem exists_of_any {x : Except Error α × Generator} {q : α → Bool} (h : x.1.toOption.any q = true) :
    ∃ a g, x = (.ok a, g) ∧ q a = true := by
  rcases x with ⟨e | a, g⟩
  · cases h
  · exact ⟨a, g, rfl, h⟩

theorem bind_of_ok {r : Run α} {f : α → Run β} {g g₁ : Generator} {a : α} (h : r g = (.ok a, g₁)) :
    (r >>= f) g = f a g₁ := by
  rw [bind_apply, h]

theorem bind_of_error {r : Run α} {f : α → Run β} {g g₁ : Generator} {e : Error} (h : r g = (.error e, g₁)) :
    (r >>= f) g = (.error e, g₁) := by
  rw [bind_apply, h]

theorem get_bind (f : Generator → Run β) (g : Generator) : (get >>= f) g = f g g := rfl

theorem draw_bind (d : Draw α) (f : α → Run β) (g : Generator) :
    (draw d >>= f) g = f (d g.source).1 { g with source := (d g.source).2 } := rfl

theorem literal_apply (type : VarType) (g : Generator) :
    literal type g = (.ok (Value.draw g.config.limits type g.source).1,
      { g with source := (Value.draw g.config.limits type g.source).2 }) := rfl

theorem literal_of_draw {type : VarType} {g : Generator} {value : Value} {source : Source}
    (h : Value.draw g.config.limits type g.source = (value, source)) :
    literal type g = (.ok value, { g with source }) := by
  rw [literal_apply, h]

theorem line_apply (next : Run Statement) (g : Generator) :
    Run.line next g = match next g with
      | (.ok s, g₁) => (.ok (s, g.line s), g₁)
      | (.error e, g₁) => (.error e, g₁) := by
  show (next >>= fun s => pure (s, g.indentation ++ s.text g.indentation)) g = _
  rw [bind_apply]
  rcases next g with ⟨e | s, g₁⟩ <;> rfl

/-- A body whose scope is the innermost one again at its end has its scope closed, whatever its outcome. -/
theorem branch_apply {body : Run Block} {g g₁ : Generator} {o : Except Error Block}
    (hb : body (g.opening g.source) = (o, g₁)) (hs : g₁.scopes.outer = g.scopes.scopes) :
    branch body g = (o, g₁.closing g.scopes) := by
  have hpop : g₁.scopes.pop? = some (g₁.scopes.inner, g.scopes) := by
    unfold ScopeStack.pop?
    rw [hs]
    rfl
  have hclose : closeScope g₁ = (.ok (), g₁.closing g.scopes) := by
    unfold closeScope
    rw [get_bind, hpop]
    rfl
  unfold branch
  rw [bind_of_ok (show openScope g = (.ok (), g.opening g.source) from rfl),
    bind_of_ok (show outcome body (g.opening g.source) = (.ok o, g₁) by unfold outcome; rw [hb]),
    bind_of_ok hclose]
  cases o <;> rfl

end Run

end RandomPrograms
