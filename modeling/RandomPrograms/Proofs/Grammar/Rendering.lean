import RandomPrograms.Proofs.Generator.Bodies
import RandomPrograms.Proofs.Generator.Programs

/-! The text of a tree, from the tree alone: the texts that its blocks keep are not read. A block keeps just
    this text, at the depth at which it was written, and so does every body in it. -/

namespace RandomPrograms

open Grammar Randomness

/-- So many steps of indentation. -/
def tab (indent : String) (levels : Nat) : String := String.join (List.replicate levels indent)

mutual

/-- The text of a statement whose line stands at a level, without the indentation of that line. -/
def Grammar.Statement.render (indent : String) (level : Nat) : Statement → String
  | .declaration name value => "let " ++ name ++ " = " ++ value.text
  | .assignment name value => name ++ " = " ++ value.text
  | .ifThen c body => "if (" ++ c.text ++ ") " ++ body.renderBraced indent level
  | .ifElse c body otherwise =>
    "if (" ++ c.text ++ ") " ++ body.renderBraced indent level ++ " else " ++ otherwise.renderBraced indent level
  | .empty => ""

/-- A body is one level deeper than its braces, and the closing brace begins a line. -/
def Grammar.Block.renderBraced (indent : String) (level : Nat) : Block → String
  | ⟨ss, _⟩ => "\x7b\n" ++ render indent (level + 1) ss ++ tab indent level ++ "\x7d"

/-- One line for each statement, or more where it has bodies. -/
def render (indent : String) (level : Nat) : List Statement → String
  | [] => ""
  | s :: ss => tab indent level ++ s.render indent level ++ "\n" ++ render indent level ss

end

/-! ### What is kept is the text of the tree -/

/-- The level of lines in the innermost scope. -/
def Generator.level (g : Generator) : Nat := g.scopes.depth - 1

theorem Generator.indentation_eq (g : Generator) : g.indentation = tab g.config.indent g.level := rfl

theorem Generator.config_opening (g : Generator) (source : Source) : (g.opening source).config = g.config := rfl

theorem Generator.level_opening (g : Generator) (source : Source) : (g.opening source).level = g.level + 1 := rfl

theorem Generator.level_begun (g : Generator) : g.begun.level = 0 := by
  rw [Generator.level, g.begun_scopes]
  rfl

theorem Kept.level {g g' : Generator} (h : Kept g g') : g'.level = g.level := by
  rw [Generator.level, h.depth, Generator.level]

/-- A body that keeps its text is braced as it is rendered. -/
theorem braced_of_code {g : Generator} {source : Source} {b : Block}
    (h : b.code = render (g.opening source).config.indent (g.opening source).level b.statements) :
    braced b.code g.indentation = b.renderBraced g.config.indent g.level := by
  obtain ⟨ss, code⟩ := b
  have hcode : code = render g.config.indent (g.level + 1) ss := h
  rw [Block.renderBraced, braced, hcode, g.indentation_eq]

mutual

theorem Makes.text {g g' : Generator} {s : Statement} :
    Makes g s g' → s.text g.indentation = s.render g.config.indent g.level
  | .declared .. => rfl
  | .assigned .. => rfl
  | .suppressed .. => rfl
  | .ifThen _ _ _ body => by
    rw [Statement.text, Statement.render, braced_of_code body.code]
  | .ifElse _ _ _ body otherwise => by
    -- The second body is opened from the state that the first one has left.
    have hkept := body.kept.closing
    have hsecond := braced_of_code otherwise.code
    rw [Generator.indentation_eq, hkept.config, hkept.level] at hsecond
    rw [Statement.text, Statement.render, braced_of_code body.code, g.indentation_eq, hsecond]

theorem Fills.code {budget : Nat} {g g' : Generator} {b : Block} :
    Fills budget g b g' → b.code = render g.config.indent g.level b.statements
  | .last made _ => by
    rw [render, render, Generator.line, made.text, g.indentation_eq, String.append_empty]
  | .more made _ rest => by
    have hrest := rest.code
    rw [made.kept.config, made.kept.level] at hrest
    rw [render, Generator.line, made.text, g.indentation_eq, hrest]

end

/-- So does every body, at its own level. -/
theorem Fills.body_code {budget levels : Nat} {g g' : Generator} {b c : Block} (h : Fills budget g b g')
    (hc : BodyAt levels c b.statements) : c.code = render g.config.indent (g.level + levels) c.statements := by
  obtain ⟨h₁, h₁', hfills, hconfig, hdepth⟩ := h.body hc
  have hlevel : h₁.level = g.level + levels := by
    unfold Generator.level ScopeStack.depth at *
    omega
  rw [hfills.code, hconfig, hlevel]

/-- The text of a block, and of each body in it, is that of its tree; a program starts at the margin. -/
theorem generated_code :
    (∀ budget g b g', Run.block budget g = (.ok b, g') →
      b.code = render g.config.indent (g.scopes.depth - 1) b.statements ∧
        ∀ levels c, BodyAt levels c b.statements →
          c.code = render g.config.indent (g.scopes.depth - 1 + levels) c.statements) ∧
    ∀ budget g p g', Run.program budget g = (.ok p, g') →
      p.code = render g.config.indent 0 p.statements ∧
        ∀ levels c, BodyAt levels c p.statements → c.code = render g.config.indent levels c.statements := by
  constructor
  · intro budget g b g' h
    have hfills := Run.fills_of_block h
    exact ⟨hfills.code, fun levels c hc => hfills.body_code hc⟩
  · intro budget g p g' h
    obtain ⟨hfills, -, -⟩ := Run.program_eq_ok h
    have hcode := hfills.code
    have hbodies := fun levels c (hc : BodyAt levels c p.statements) => hfills.body_code hc
    rw [g.level_begun, g.begun_config] at hcode hbodies
    exact ⟨hcode, fun levels c hc => by rw [hbodies levels c hc, Nat.zero_add]⟩

/-- A program with a conditional, whose body is one step in. -/
theorem generated_code_seed_twelve : ∃ p g' s c, Run.program (some 60) (Generator.withSeed 12) = (.ok p, g') ∧
    s ∈ p.statements ∧ c ∈ s.bodies ∧ p.code = render "  " 0 p.statements ∧ c.code = render "  " 1 c.statements := by
  have hsome : (Run.program (some 60) (Generator.withSeed 12)).1.toOption.any
      (fun p => p.statements.any fun s => !s.bodies.isEmpty) = true := by decide +kernel
  obtain ⟨p, g', h⟩ := Run.program_seed_twelve
  rw [h] at hsome
  obtain ⟨s, hs, hbodies⟩ := List.any_eq_true.mp hsome
  obtain ⟨c, hc⟩ := List.exists_mem_of_ne_nil s.bodies (by simpa using hbodies)
  obtain ⟨hcode, hbody⟩ := generated_code.2 _ _ _ _ h
  exact ⟨p, g', s, c, h, hs, hc, hcode, hbody 1 c (.here hs hc)⟩

end RandomPrograms
