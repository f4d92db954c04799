import RandomPrograms.Proofs.Grammar.Rendering

/-! The lines of a tree. A statement without bodies takes one line, a conditional one for its condition, one
    for each closing brace and those of its bodies in between, one level deeper. The text of a tree is these
    lines, each at its level. -/

namespace RandomPrograms

open Grammar

/-- What a line says, its indentation aside. -/
inductive Line
  | declaration (name : String) (value : Value)
  | assignment (name : String) (value : Value)
  | blank
  /-- A condition, and the brace that opens the first body. -/
  | opening (condition : Condition)
  /-- The brace that closes the first of two bodies, and the one that opens the second. -/
  | turn
  | closing
deriving Repr, DecidableEq

namespace Line

def text : Line → String
  | declaration name value => "let " ++ name ++ " = " ++ value.text
  | assignment name value => name ++ " = " ++ value.text
  | blank => ""
  | opening c => "if (" ++ c.text ++ ") \x7b"
  | turn => "\x7d else \x7b"
  | closing => "\x7d"

end Line

mutual

/-- The lines of a statement at a level, with their own levels. -/
def Grammar.Statement.lines (level : Nat) : Statement → List (Nat × Line)
  | .declaration name value => [(level, .declaration name value)]
  | .assignment name value => [(level, .assignment name value)]
  | .ifThen c body => (level, .opening c) :: (body.lines (level + 1) ++ [(level, .closing)])
  | .ifElse c body otherwise =>
    (level, .opening c) :: (body.lines (level + 1) ++ (level, .turn) :: (otherwise.lines (level + 1) ++
      [(level, .closing)]))
  | .empty => [(level, .blank)]

def Grammar.Block.lines (level : Nat) : Block → List (Nat × Line)
  | ⟨ss, _⟩ => outline level ss

def outline (level : Nat) : List Statement → List (Nat × Line)
  | [] => []
  | s :: ss => s.lines level ++ outline level ss

end

theorem Grammar.Block.lines_eq (level : Nat) (b : Block) : b.lines level = outline level b.statements := by
  cases b
  rw [Block.lines]

/-- The text of some lines, each ended. -/
def written (indent : String) (ls : List (Nat × Line)) : String :=
  String.join (ls.map fun l => tab indent l.1 ++ l.2.text ++ "\n")

section
variable {indent : String}

theorem written_cons (l : Nat × Line) (ls : List (Nat × Line)) :
    written indent (l :: ls) = tab indent l.1 ++ l.2.text ++ "\n" ++ written indent ls := by
  simp [written, String.join_cons]

theorem written_append (ls ms : List (Nat × Line)) :
    written indent (ls ++ ms) = written indent ls ++ written indent ms := by
  simp [written, String.join_append]

theorem written_singleton (l : Nat × Line) : written indent [l] = tab indent l.1 ++ l.2.text ++ "\n" := by
  simp [written]

/-- The ends of lines, which stand with the braces in the texts of statements. -/
theorem opening_end (t : String) : ") \x7b" ++ ("\n" ++ t) = ") " ++ ("\x7b\n" ++ t) := by
  rw [← String.append_assoc, ← String.append_assoc]
  rfl

theorem turn_end (t : String) : "\x7d else \x7b" ++ ("\n" ++ t) = "\x7d" ++ (" else " ++ ("\x7b\n" ++ t)) := by
  rw [← String.append_assoc, ← String.append_assoc, ← String.append_assoc]
  rfl

end

mutual

theorem Grammar.Statement.written_lines (indent : String) (level : Nat) :
    ∀ s : Statement, written indent (s.lines level) = tab indent level ++ s.render indent level ++ "\n"
  | .declaration name value => by
    rw [Statement.lines, written_singleton, Statement.render, Line.text]
  | .assignment name value => by
    rw [Statement.lines, written_singleton, Statement.render, Line.text]
  | .ifThen c ⟨ss, code⟩ => by
    rw [Statement.lines, written_cons, written_append, written_singleton, Block.lines, written_outline indent _ ss,
      Statement.render, Block.renderBraced, Line.text, Line.text]
    simp only [String.append_assoc, opening_end]
  | .ifElse c ⟨ss, code⟩ ⟨ss', code'⟩ => by
    rw [Statement.lines, written_cons, written_append, written_cons, written_append, written_singleton, Block.lines,
      Block.lines, written_outline indent _ ss, written_outline indent _ ss', Statement.render, Block.renderBraced,
      Block.renderBraced, Line.text, Line.text, Line.text]
    simp only [String.append_assoc, opening_end, turn_end]
  | .empty => by
    rw [Statement.lines, written_singleton, Statement.render, Line.text]

/-- The text of a tree is that of its lines. -/
theorem written_outline (indent : String) (level : Nat) :
    ∀ ss : List Statement, written indent (outline level ss) = render indent level ss
  | [] => by
    rw [outline, render]
    rfl
  | s :: ss => by
    rw [outline, written_append, s.written_lines indent level, written_outline indent level ss, render]

end

end RandomPrograms
