import RandomPrograms.Grammar.Statement
import RandomPrograms.Tally

/-! The nodes of a tree, at whatever depth: of what shapes they are, and how many conditionals lie inside each
    other. -/

namespace RandomPrograms

open Grammar

/-- What kind of statement a node is. -/
inductive Shape
  | declaration
  | assignment
  | ifThen
  | ifElse
  | empty
deriving Repr, DecidableEq

mutual

/-- The shapes of a statement and of all statements inside it. -/
def Grammar.Statement.nodes : Statement → List Shape
  | .declaration .. => [.declaration]
  | .assignment .. => [.assignment]
  | .ifThen _ body => .ifThen :: body.nodes
  | .ifElse _ body otherwise => .ifElse :: (body.nodes ++ otherwise.nodes)
  | .empty => [.empty]

def Grammar.Block.nodes : Block → List Shape
  | ⟨ss, _⟩ => nodesOf ss

def nodesOf : List Statement → List Shape
  | [] => []
  | s :: ss => s.nodes ++ nodesOf ss

end

mutual

/-- The most conditionals that lie inside each other, the statement itself counted if it is one. -/
def Grammar.Statement.height : Statement → Nat
  | .declaration .. => 0
  | .assignment .. => 0
  | .ifThen _ body => body.height + 1
  | .ifElse _ body otherwise => max body.height otherwise.height + 1
  | .empty => 0

def Grammar.Block.height : Block → Nat
  | ⟨ss, _⟩ => heightOf ss

def heightOf : List Statement → Nat
  | [] => 0
  | s :: ss => max s.height (heightOf ss)

end

theorem Grammar.Block.nodes_eq (b : Block) : b.nodes = nodesOf b.statements := by
  cases b
  rw [Block.nodes]

theorem Grammar.Block.height_eq (b : Block) : b.height = heightOf b.statements := by
  cases b
  rw [Block.height]

theorem length_eq_counts (ns : List Shape) : ns.length = ns.count .declaration + ns.count .assignment +
    (ns.count .ifThen + ns.count .ifElse) + ns.count .empty := by
  induction ns with
  | nil => rfl
  | cons n ns ih =>
    cases n <;> simp only [List.length_cons, List.count_cons, reduceCtorEq, beq_iff_eq, ↓reduceIte] <;> omega

/-- The counters of a tree written from the start: its nodes by their shapes, a scope opened and closed for each
    body, and the depth of the innermost body. How many names were rejected does not show in a tree. -/
def Tally.ofTree (ss : List Statement) (retries : Nat) : Tally where
  declarations := (nodesOf ss).count .declaration
  assignments := (nodesOf ss).count .assignment
  ifs := (nodesOf ss).count .ifThen
  ifElses := (nodesOf ss).count .ifElse
  suppressed := (nodesOf ss).count .empty
  pushes := (nodesOf ss).count .ifThen + 2 * (nodesOf ss).count .ifElse
  pops := (nodesOf ss).count .ifThen + 2 * (nodesOf ss).count .ifElse
  retries := retries
  maxDepth := 1 + heightOf ss

theorem Tally.statements_ofTree (ss : List Statement) (retries : Nat) :
    (ofTree ss retries).statements = (nodesOf ss).length :=
  (length_eq_counts _).symm

end RandomPrograms
