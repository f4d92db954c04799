import RandomPrograms.Proofs.Grammar.Decoder
import RandomPrograms.Proofs.Grammar.Lengths

/-! Trees without the texts that their blocks keep. In what a generator makes, these texts are given by the rest of
    the tree (`Fills.eq_of_erase`). For the bytes of a statement it is enough to know how many bytes the texts of
    its bodies have (`Statement.measured`). -/

namespace RandomPrograms

open Grammar Randomness

mutual

def Grammar.Statement.erase : Statement → Statement
  | .declaration name value => .declaration name value
  | .assignment name value => .assignment name value
  | .ifThen c body => .ifThen c body.erase
  | .ifElse c body otherwise => .ifElse c body.erase otherwise.erase
  | .empty => .empty

def Grammar.Block.erase : Block → Block
  | ⟨ss, _⟩ => ⟨eraseAll ss, ""⟩

def eraseAll : List Statement → List Statement
  | [] => []
  | s :: ss => s.erase :: eraseAll ss

end

theorem Grammar.Block.erase_eq (b : Block) : b.erase = ⟨eraseAll b.statements, ""⟩ := by
  cases b
  rw [Block.erase]

/-! ### The kept texts are given by the rest -/

mutual

theorem Grammar.Statement.lines_erase (level : Nat) : ∀ s : Statement, s.erase.lines level = s.lines level
  | .declaration .. => by rw [Statement.erase]
  | .assignment .. => by rw [Statement.erase]
  | .ifThen _ ⟨ss, _⟩ => by
    rw [Statement.erase, Statement.lines, Statement.lines, Block.erase, Block.lines, Block.lines,
      outline_eraseAll (level + 1) ss]
  | .ifElse _ ⟨ss, _⟩ ⟨ss', _⟩ => by
    rw [Statement.erase, Statement.lines, Statement.lines, Block.erase, Block.erase, Block.lines, Block.lines,
      Block.lines, Block.lines, outline_eraseAll (level + 1) ss, outline_eraseAll (level + 1) ss']
  | .empty => by rw [Statement.erase]

/-- No kept text is read for the lines of a tree. -/
theorem outline_eraseAll (level : Nat) : ∀ ss : List Statement, outline level (eraseAll ss) = outline level ss
  | [] => by rw [eraseAll]
  | s :: ss => by rw [eraseAll, outline, outline, s.lines_erase level, outline_eraseAll level ss]

end

/-- Two blocks that were written at one level with one indentation are equal if they are without their texts. -/
theorem Fills.eq_of_erase {budget budget' : Nat} {g g' h h' : Generator} {b c : Block} (hb : Fills budget g b g')
    (hc : Fills budget' h c h') (hlevel : h.level = g.level) (hindent : h.config.indent = g.config.indent)
    (herase : c.erase = b.erase) : c = b := by
  have heraseAll : eraseAll c.statements = eraseAll b.statements := by
    rw [c.erase_eq, b.erase_eq] at herase
    exact congrArg Block.statements herase
  have houtline : outline g.level c.statements = outline g.level b.statements := by
    rw [← outline_eraseAll g.level c.statements, heraseAll, outline_eraseAll]
  -- Read back from their last lines, as a text is decoded, equal lines give equal statements.
  have hread := hb.assembled ⟨[], none⟩ (List.replicate g.level ⟨[], none⟩) List.length_replicate
  have hread' := hc.assembled ⟨[], none⟩ (List.replicate g.level ⟨[], none⟩) (by rw [hlevel, List.length_replicate])
  rw [hlevel, hindent, houtline, hread] at hread'
  have hstatements : c.statements = b.statements := by simpa using hread'.symm
  have hcode : c.code = b.code := by rw [hc.code, hb.code, hlevel, hindent, hstatements]
  cases b
  cases c
  congr

/-! ### What the bytes of a statement depend on -/

/-- A statement without kept texts, and the bytes of its own text, by the bytes of its indentation. -/
def Grammar.Statement.measured (s : Statement) : Statement × (Nat → Nat) := (s.erase, fun n => s.bytes n)

/-- A block without kept texts, and the bytes of its text. -/
def Grammar.Block.measured (b : Block) : Block × Nat := (b.erase, b.code.utf8ByteSize)

def Program.measured (p : Program) : (Block × Nat) × Tally × UInt64 :=
  (Block.measured ⟨p.statements, p.code⟩, p.tally, p.seed)

section
variable {b b' o o' : Block}

theorem Grammar.Statement.measured_ifThen (c : Condition) (hb : b'.measured = b.measured) :
    (ifThen c b').measured = (ifThen c b).measured := by
  obtain ⟨herase, hsize⟩ := Prod.mk.inj hb
  simp only [measured, erase, bytes, herase, hsize]

theorem Grammar.Statement.measured_ifElse (c : Condition) (hb : b'.measured = b.measured)
    (ho : o'.measured = o.measured) : (ifElse c b' o').measured = (ifElse c b o).measured := by
  obtain ⟨herase, hsize⟩ := Prod.mk.inj hb
  obtain ⟨herase', hsize'⟩ := Prod.mk.inj ho
  simp only [measured, erase, bytes, herase, hsize, herase', hsize']

end

end RandomPrograms
