import RandomPrograms.Generator.State

/-! How statements are made: declarations of new names, assignments to variables in scope, conditionals
    whose bodies are blocks in scopes of their own, and blocks of statements up to a number of bytes.

    A conditional holds blocks and a block holds conditionals. The nesting ends because each body lies one
    scope deeper and conditionals are left out from a certain depth on, a block ends because each of its
    statements takes at least one byte. -/

namespace RandomPrograms

open Grammar Randomness

namespace Run

/-! ### Declarations and assignments -/

/-- Declares the first name drawn that is neither reserved nor bound in the innermost scope. After `left`
    more names it gives up; `rejected` have been rejected before. -/
def declareName (type : VarType) : (left rejected : Nat) → Run String
  | 0, rejected => do
    count fun t => { t with retries := t.retries + rejected }
    throw (.identifierExhausted rejected)
  | left + 1, rejected => do
    let g ← get
    let name ← draw (drawWord (some g.config.maxIdentifierLength))
    match if isReserved name then none else g.scopes.declare? name type with
    | none => declareName type left (rejected + 1)
    | some scopes =>
      modify fun g => { g with
        scopes
        tally := { g.tally with
          retries := g.tally.retries + rejected
          declarations := g.tally.declarations + 1 } }
      return name

def literal (type : VarType) : Run Value := do
  let g ← get
  draw (Value.draw g.config.limits type)

/-- The declaration of a new variable of the given type: its name is found first, then its value. -/
def declaration (type : VarType) : Run Statement := do
  let g ← get
  let name ← declareName type g.config.maxIdentifierAttempts.toNat 0
  let value ← literal type
  return .declaration name value

/-- A new value for a variable in scope; where none is, the declaration of a variable of any type. -/
def assignment : Run Statement := do
  let g ← get
  match ← draw (g.scopes.lookup none) with
  | some b =>
    let value ← literal b.type
    count fun t => { t with assignments := t.assignments + 1 }
    return .assignment b.name value
  | none =>
    let type ← draw VarType.draw
    declaration type

/-! ### Blocks and conditionals -/

/-- A statement of any kind, given how conditionals are made. -/
def statement (conditional : ConditionalKind → Run Statement) : Run Statement := do
  match ← draw StatementKind.draw with
  | .declaration =>
    let type ← draw VarType.draw
    declaration type
  | .assignment => assignment
  | .conditional =>
    let kind ← draw ConditionalKind.draw
    conditional kind

/-- A statement and its text, indented, without the end of its last line. -/
def line (next : Run Statement) : Run (Statement × String) := do
  let indent ← indentation
  let s ← next
  return (s, indent ++ s.text indent)

/-- Statements with their texts, until `owed` bytes are written, ends of lines included: at least one
    statement, and none after that. -/
def lines (next : Run Statement) (owed : Nat) : Run (List (Statement × String)) := do
  let (s, text) ← line next
  if text.utf8ByteSize + 1 < owed then
    let rest ← lines next (owed - (text.utf8ByteSize + 1))
    return (s, text) :: rest
  else return [(s, text)]
termination_by owed

/-- A block of statements, filled up to `budget` bytes. -/
def fill (next : Run Statement) (budget : Nat) : Run Block := do
  let ls ← lines next budget
  return ⟨ls.map (·.1), String.join (ls.map fun l => l.2 ++ "\n")⟩

/-- A body in a scope of its own, which is closed again even if the body fails. -/
def branch (body : Run Block) : Run Block := do
  openScope
  let o ← outcome body
  closeScope
  MonadExcept.ofExcept o

/-- A conditional where `levels` more scopes may be opened; if none may, the empty statement. -/
def conditionalWithin : (levels : Nat) → ConditionalKind → Run Statement
  | 0, _ => do
    count fun t => { t with suppressed := t.suppressed + 1 }
    return .empty
  | levels + 1, kind => do
    let g ← get
    let condition ← draw (Condition.draw g.scopes g.config.limits)
    let body := branch (fill (statement (conditionalWithin levels)) g.config.blockSizeBudget.toNat)
    match kind with
    | .ifThen =>
      let thenBody ← body
      count fun t => { t with ifs := t.ifs + 1 }
      return .ifThen condition thenBody
    | .ifElse =>
      let thenBody ← body
      let elseBody ← body
      count fun t => { t with ifElses := t.ifElses + 1 }
      return .ifElse condition thenBody elseBody

/-- The number of scopes that may still be opened. -/
def levelsLeft : Run Nat := do
  let g ← get
  return g.config.maxIndentLevel.toNat - g.scopes.depth

def conditional (kind : ConditionalKind) : Run Statement := do
  let levels ← levelsLeft
  conditionalWithin levels kind

/-- A block in the innermost scope, filled up to `budget` bytes. -/
def block (budget : Nat) : Run Block := do
  let levels ← levelsLeft
  fill (statement (conditionalWithin levels)) budget

end Run

end RandomPrograms
