import RandomPrograms.Scope.Stack

/-! Conditions of conditional statements: a variable compared with a literal of its type, or a bare truth
    value where no variable is in scope. -/

namespace RandomPrograms.Grammar

open Randomness

inductive CompareOp
  | less
  | greater
  | atMost
  | atLeast
  | equal
  | notEqual
deriving Repr, DecidableEq, Inhabited

namespace CompareOp

def all : List CompareOp := [.less, .greater, .atMost, .atLeast, .equal, .notEqual]

theorem mem_all (op : CompareOp) : op ∈ all := by cases op <;> decide

def text : CompareOp → String
  | .less => "<"
  | .greater => ">"
  | .atMost => "<="
  | .atLeast => ">="
  | .equal => "==="
  | .notEqual => "!=="

def draw : Draw CompareOp := Draw.among all (by decide)

end CompareOp

/-- What a conditional asks. -/
inductive Condition
  | compare (name : String) (op : CompareOp) (value : Value)
  | literal (b : Bool)
deriving Repr, DecidableEq, Inhabited

namespace Condition

def text : Condition → String
  | .compare name op value => name ++ " " ++ op.text ++ " " ++ value.text
  | .literal b => Text.truth b

/-- A condition on a variable in scope, or a truth value if none is: the variable is drawn first, then the
    literal, then the comparison. -/
def draw (scopes : ScopeStack) (limits : Value.Limits) : Draw Condition := do
  match ← scopes.lookup none with
  | some b =>
    let value ← Value.draw limits b.type
    let op ← CompareOp.draw
    return .compare b.name op value
  | none =>
    let b ← Draw.coin
    return .literal b

end Condition

end RandomPrograms.Grammar
