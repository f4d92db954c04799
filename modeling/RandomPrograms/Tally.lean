/-! The counters of one run, and how those of several runs add up. -/

namespace RandomPrograms

/-- What happened in a run. -/
structure Tally where
  /-- Declarations written, also those in place of an assignment. -/
  declarations : Nat
  assignments : Nat
  /-- Conditionals with one branch. -/
  ifs : Nat
  /-- Conditionals with two branches. -/
  ifElses : Nat
  /-- Conditionals left out at the nesting bound. -/
  suppressed : Nat
  /-- Scopes opened. -/
  pushes : Nat
  /-- Scopes closed. -/
  pops : Nat
  /-- Names rejected, also those of a declaration that found none. -/
  retries : Nat
  /-- The greatest depth of the scope stack. -/
  maxDepth : Nat
deriving Repr, DecidableEq, Inhabited

namespace Tally

def zero : Tally := ⟨0, 0, 0, 0, 0, 0, 0, 0, 0⟩

/-- Conditionals of both kinds. -/
def conditionals (t : Tally) : Nat := t.ifs + t.ifElses

def statements (t : Tally) : Nat := t.declarations + t.assignments + t.conditionals + t.suppressed

/-- The counters of two runs together: sums, and the greater of the depths. -/
def merge (t u : Tally) : Tally where
  declarations := t.declarations + u.declarations
  assignments := t.assignments + u.assignments
  ifs := t.ifs + u.ifs
  ifElses := t.ifElses + u.ifElses
  suppressed := t.suppressed + u.suppressed
  pushes := t.pushes + u.pushes
  pops := t.pops + u.pops
  retries := t.retries + u.retries
  maxDepth := max t.maxDepth u.maxDepth

end Tally

end RandomPrograms
