import RandomPrograms.Proofs.Generator.Computation
import RandomPrograms.Proofs.Grammar.Vocabulary
import RandomPrograms.Proofs.Scope.Bindings

/-! What a generator can do, as derivations: `Makes g s g'` for a statement, `Fills budget g b g'` for a block,
    `Breaks g e g'` for a statement or block that fails somewhere inside. A step is described by what it has
    found out and by the generator that it leaves, not by the words drawn. In every derivation the scopes
    around the innermost one come back as they were (`Kept`). -/

namespace RandomPrograms

open Grammar Randomness

/-- A condition that can be asked: about the value of a visible variable, or, where nothing is bound, a bare
    truth value. -/
def Grammar.Condition.Asks (scopes : ScopeStack) (limits : Value.Limits) : Condition → Prop
  | .compare name _ value => scopes.resolve name = some value.type ∧ value.Fits limits
  | .literal _ => ∀ s ∈ scopes.scopes, s.bindings = []

theorem Grammar.Condition.draw_gives (scopes : ScopeStack) (limits : Value.Limits) :
    Draw.Gives (Condition.Asks scopes limits) (Condition.draw scopes limits) :=
  (scopes.lookup_gives).bind fun o ho => by
    rcases o with _ | b
    · exact fun _ => ho
    · refine (Value.draw_gives limits b.type).bind fun value hvalue => fun _ => ?_
      have hvisible : scopes.resolve b.name = some b.type := ho
      exact ⟨by rw [hvisible, hvalue.1], hvalue.2⟩

namespace Generator

/-- After a declaration: one more binding, and the names rejected for it counted. -/
def declaring (g : Generator) (name : String) (type : VarType) (rejected : Nat) (source : Source) : Generator :=
  { g with
    source
    scopes := { g.scopes with inner := g.scopes.inner.insert ⟨name, type⟩ }
    tally := { g.tally with
      retries := g.tally.retries + rejected
      declarations := g.tally.declarations + 1 } }

/-- After a declaration that found no name. -/
def exhausting (g : Generator) (rejected : Nat) (source : Source) : Generator :=
  { g with source, tally := { g.tally with retries := g.tally.retries + rejected } }

def assigning (g : Generator) (source : Source) : Generator :=
  { g with source, tally := { g.tally with assignments := g.tally.assignments + 1 } }

def suppressing (g : Generator) (source : Source) : Generator :=
  { g with source, tally := { g.tally with suppressed := g.tally.suppressed + 1 } }

/-- The bytes of a branch body. -/
def bodyBudget (g : Generator) : Nat := g.config.blockSizeBudget.toNat

/-- The depth at which conditionals are left out. -/
def bound (g : Generator) : Nat := g.config.maxIndentLevel.toNat

theorem bound_opening (g : Generator) (source : Source) : (g.opening source).bound = g.bound := rfl

end Generator

mutual

/-- From `g`, statement `s` can be made, which leaves `g'`. -/
inductive Makes : Generator → Statement → Generator → Prop
  | declared {g : Generator} {name : String} {value : Value} (rejected : Nat) (source : Source)
      (free : g.scopes.inner.binds name = false) (named : IsName g.config.limits.letters name)
      (fits : value.Fits g.config.limits) :
      Makes g (.declaration name value) (g.declaring name value.type rejected source)
  | assigned {g : Generator} {name : String} {value : Value} (source : Source)
      (visible : g.scopes.resolve name = some value.type) (fits : value.Fits g.config.limits) :
      Makes g (.assignment name value) (g.assigning source)
  | suppressed {g : Generator} (source : Source) (deep : g.bound ≤ g.scopes.depth) :
      Makes g .empty (g.suppressing source)
  | ifThen {g g₁ : Generator} {c : Condition} {b : Block} (source : Source) (room : g.scopes.depth < g.bound)
      (asks : c.Asks g.scopes g.config.limits) (body : Fills g.bodyBudget (g.opening source) b g₁) :
      Makes g (.ifThen c b) ((g₁.closing g.scopes).counting fun t => { t with ifs := t.ifs + 1 })
  | ifElse {g g₁ g₂ : Generator} {c : Condition} {b o : Block} (source : Source) (room : g.scopes.depth < g.bound)
      (asks : c.Asks g.scopes g.config.limits) (body : Fills g.bodyBudget (g.opening source) b g₁)
      (otherwise : Fills g.bodyBudget ((g₁.closing g.scopes).opening g₁.source) o g₂) :
      Makes g (.ifElse c b o) ((g₂.closing g.scopes).counting fun t => { t with ifElses := t.ifElses + 1 })

/-- From `g`, block `b` can be written with `budget` bytes to fill, which leaves `g'`. -/
inductive Fills : Nat → Generator → Block → Generator → Prop
  | last {budget : Nat} {g g' : Generator} {s : Statement} (made : Makes g s g')
      (enough : budget ≤ (g.line s).utf8ByteSize + 1) : Fills budget g ⟨[s], g.line s ++ "\n"⟩ g'
  | more {budget : Nat} {g g₁ g' : Generator} {s : Statement} {b : Block} (made : Makes g s g₁)
      (short : (g.line s).utf8ByteSize + 1 < budget)
      (rest : Fills (budget - ((g.line s).utf8ByteSize + 1)) g₁ b g') :
      Fills budget g ⟨s :: b.statements, g.line s ++ "\n" ++ b.code⟩ g'

end

/-- From `g`, making a statement or a block can fail with `e`, which leaves `g'`. -/
inductive Breaks : Generator → Error → Generator → Prop
  | exhausted {g : Generator} (source : Source) :
      Breaks g (.identifierExhausted g.config.maxIdentifierAttempts.toNat)
        (g.exhausting g.config.maxIdentifierAttempts.toNat source)
  | later {g g₁ g₂ : Generator} {s : Statement} {e : Error} (made : Makes g s g₁) (breaks : Breaks g₁ e g₂) :
      Breaks g e g₂
  | inThen {g g₁ : Generator} {e : Error} (source : Source) (breaks : Breaks (g.opening source) e g₁) :
      Breaks g e (g₁.closing g.scopes)
  | inElse {g g₁ g₂ : Generator} {b : Block} {e : Error} (source : Source)
      (body : Fills g.bodyBudget (g.opening source) b g₁)
      (breaks : Breaks ((g₁.closing g.scopes).opening g₁.source) e g₂) : Breaks g e (g₂.closing g.scopes)

/-- Induction on the statements of a block, without going into their bodies. -/
@[elab_as_elim]
theorem Fills.statement_induction {P : ∀ budget g b g', Fills budget g b g' → Prop}
    (last : ∀ {budget : Nat} {g g' : Generator} {s : Statement} (made : Makes g s g')
      (enough : budget ≤ (g.line s).utf8ByteSize + 1), P _ _ _ _ (.last made enough))
    (more : ∀ {budget : Nat} {g g₁ g' : Generator} {s : Statement} {b : Block} (made : Makes g s g₁)
      (short : (g.line s).utf8ByteSize + 1 < budget)
      (rest : Fills (budget - ((g.line s).utf8ByteSize + 1)) g₁ b g'), P _ _ _ _ rest →
      P _ _ _ _ (.more made short rest))
    {budget : Nat} {g : Generator} {b : Block} {g' : Generator} : ∀ h : Fills budget g b g', P budget g b g' h
  | .last made enough => last made enough
  | .more made short rest => more made short rest (rest.statement_induction last more)

theorem Fills.statements_ne_nil {budget : Nat} {g g' : Generator} {b : Block} :
    Fills budget g b g' → b.statements ≠ []
  | .last .. => List.cons_ne_nil _ _
  | .more .. => List.cons_ne_nil _ _

/-! ### What every derivation keeps -/

/-- Between two states of a run: the configuration and what later runs start from stay, the scopes around
    the innermost one too, the innermost one keeps its bindings, and as many scopes are closed as opened. -/
structure Kept (g g' : Generator) : Prop where
  config : g'.config = g.config
  seed : g'.seed = g.seed
  seeds : g'.seeds = g.seeds
  runs : g'.runs = g.runs
  outer : g'.scopes.outer = g.scopes.outer
  inner : g.scopes.inner.bindings ⊆ g'.scopes.inner.bindings
  balance : g'.tally.pushes + g.tally.pops = g.tally.pushes + g'.tally.pops

namespace Kept

variable {g g₁ g₂ : Generator}

theorem refl (g : Generator) : Kept g g := ⟨rfl, rfl, rfl, rfl, rfl, List.Subset.refl _, rfl⟩

theorem trans (h₁ : Kept g g₁) (h₂ : Kept g₁ g₂) : Kept g g₂ where
  config := h₂.config.trans h₁.config
  seed := h₂.seed.trans h₁.seed
  seeds := h₂.seeds.trans h₁.seeds
  runs := h₂.runs.trans h₁.runs
  outer := h₂.outer.trans h₁.outer
  inner := List.Subset.trans h₁.inner h₂.inner
  balance := by
    have := h₁.balance
    have := h₂.balance
    omega

theorem depth (h : Kept g g₁) : g₁.scopes.depth = g.scopes.depth := by
  unfold ScopeStack.depth
  rw [h.outer]

theorem bound (h : Kept g g₁) : g₁.bound = g.bound := by
  unfold Generator.bound
  rw [h.config]

/-- A body in a scope of its own, which is closed again. -/
theorem closing {source : Source} (h : Kept (g.opening source) g₁) : Kept g (g₁.closing g.scopes) where
  config := h.config
  seed := h.seed
  seeds := h.seeds
  runs := h.runs
  outer := rfl
  inner := List.Subset.refl _
  balance := by
    have := h.balance
    simp only [Generator.opening, Generator.closing] at this ⊢
    omega

/-- Counting anything but scopes. -/
theorem counting (h : Kept g g₁) {f : Tally → Tally} (hpushes : (f g₁.tally).pushes = g₁.tally.pushes)
    (hpops : (f g₁.tally).pops = g₁.tally.pops) : Kept g (g₁.counting f) where
  config := h.config
  seed := h.seed
  seeds := h.seeds
  runs := h.runs
  outer := h.outer
  inner := h.inner
  balance := by
    have := h.balance
    simp only [Generator.counting, hpushes, hpops]
    exact this

end Kept

mutual

theorem Makes.kept {g g' : Generator} {s : Statement} : Makes g s g' → Kept g g'
  | .declared _ _ free _ _ =>
    ⟨rfl, rfl, rfl, rfl, rfl, fun _ hb => (Scope.mem_insert free).mpr (Or.inr hb), rfl⟩
  | .assigned .. => ⟨rfl, rfl, rfl, rfl, rfl, List.Subset.refl _, rfl⟩
  | .suppressed .. => ⟨rfl, rfl, rfl, rfl, rfl, List.Subset.refl _, rfl⟩
  | .ifThen _ _ _ body => body.kept.closing.counting rfl rfl
  | .ifElse _ _ _ body otherwise => (body.kept.closing.trans otherwise.kept.closing).counting rfl rfl

theorem Fills.kept {budget : Nat} {g g' : Generator} {b : Block} : Fills budget g b g' → Kept g g'
  | .last made _ => made.kept
  | .more made _ rest => made.kept.trans rest.kept

end

theorem Breaks.kept {g g' : Generator} {e : Error} (h : Breaks g e g') : Kept g g' := by
  induction h with
  | exhausted source => exact ⟨rfl, rfl, rfl, rfl, rfl, List.Subset.refl _, rfl⟩
  | later made breaks ih => exact made.kept.trans ih
  | inThen source breaks ih => exact ih.closing
  | inElse source body breaks ih => exact body.kept.closing.trans ih.closing

end RandomPrograms
