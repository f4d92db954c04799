import RandomPrograms.Generator.Statements

/-! Runs: each makes one program from a seed of its own, and nothing of an earlier run but the count of runs
    has a part in it. -/

namespace RandomPrograms

open Grammar Randomness

/-- A program: its text, its statements, the counters of its run, and the seed of that run. -/
structure Program where
  code : String
  statements : List Statement
  tally : Tally
  seed : UInt64
deriving Repr, DecidableEq

namespace Run

/-- The seed of the next run: the generator's own for the first run, then one from the source of seeds. -/
def nextSeed : Run UInt64 := fun g =>
  if g.runs = 0 then (.ok g.seed, { g with runs := 1 })
  else
    let (seed, seeds) := Draw.word64 g.seeds
    (.ok seed, { g with seeds, runs := g.runs + 1 })

/-- Begins a run: a fresh source, no scope but the program's, and counters at zero. -/
def restart (seed : UInt64) : Run Unit := modify fun g => { g with
  source := Source.ofSeed seed
  scopes := .new
  tally := { Tally.zero with maxDepth := 1 } }

/-- A program of at least `budget` bytes, or of the size that the configuration asks for. -/
def program (budget : Option UInt64) : Run Program := do
  let seed ← nextSeed
  restart seed
  let g ← get
  let b ← block (budget.getD g.config.sizeBudget).toNat
  let g ← get
  if g.scopes.depth ≠ 1 ∨ g.tally.pushes ≠ g.tally.pops then
    throw (.unbalancedScopes g.scopes.depth)
  return { code := b.code, statements := b.statements, tally := g.tally, seed }

def programText (budget : Option UInt64) : Run String := do
  let p ← program budget
  return p.code

/-- Several programs one after the other; the first failure ends the batch. -/
def batch (budget : Option UInt64) : (count : Nat) → Run (List Program)
  | 0 => return []
  | count + 1 => do
    let p ← program budget
    let rest ← batch budget count
    return p :: rest

end Run

/-- The text of a program for the default configuration. -/
def programText (budget : Option UInt64) (entropy : UInt64) : Except Error String := do
  let g ← Generator.new .default entropy
  (Run.programText budget g).1

end RandomPrograms
