import RandomPrograms.Error
import RandomPrograms.Grammar.Statement
import RandomPrograms.Tally

/-! The state of a generator, and the computations on it. A computation that fails keeps the state that it
    reached, so that what a failed run drew and counted can be seen. -/

namespace RandomPrograms

open Grammar Randomness

/-- A generator between two calls. -/
structure Generator where
  config : Config
  /-- All choices of the present run come from here. -/
  source : Source
  scopes : ScopeStack
  /-- The counters since the present run began. -/
  tally : Tally
  /-- The seed of the first run. -/
  seed : UInt64
  /-- The seeds of the later runs come from here. -/
  seeds : Source
  /-- Runs begun so far. -/
  runs : Nat
deriving Repr, DecidableEq

/-- A computation on a generator that can fail. -/
abbrev Run := ExceptT Error (StateM Generator)

namespace Generator

/-- A generator with a given seed, before its first run; the configuration is taken as it is. -/
def start (config : Config) (seed : UInt64) : Generator where
  config := config
  source := Source.ofSeed seed
  scopes := .new
  tally := .zero
  seed := seed
  seeds := Source.ofSeed seed
  runs := 0

/-- A generator for a usable configuration. If the configuration fixes no seed, `entropy` is the seed. -/
def new (config : Config) (entropy : UInt64) : Except Error Generator := do
  config.validate
  return start config (config.seed.getD entropy)

/-- A generator with the default configuration and a given seed. -/
def withSeed (seed : UInt64) : Generator := start { Config.default with seed := some seed } seed

end Generator

namespace Run

/-- Draws from the source of the run. -/
def draw {α : Type} (d : Draw α) : Run α := fun g =>
  let (a, source) := d g.source
  (.ok a, { g with source })

def count (f : Tally → Tally) : Run Unit := modify fun g => { g with tally := f g.tally }

/-- Runs a computation and hands over its outcome; this does not fail. -/
def outcome {α : Type} (r : Run α) : Run (Except Error α) := fun g =>
  let (o, g') := r g
  (.ok o, g')

/-- The indentation of lines in the innermost scope: one step for each scope around it. -/
def indentation : Run String := do
  let g ← get
  return String.join (List.replicate (g.scopes.depth - 1) g.config.indent)

def openScope : Run Unit := modify fun g =>
  let scopes := g.scopes.push
  { g with
    scopes
    tally := { g.tally with
      pushes := g.tally.pushes + 1
      maxDepth := max g.tally.maxDepth scopes.depth } }

def closeScope : Run Unit := do
  let g ← get
  match g.scopes.pop? with
  | none => throw .scopeUnderflow
  | some (_, scopes) => set { g with scopes, tally := { g.tally with pops := g.tally.pops + 1 } }

end Run

end RandomPrograms
