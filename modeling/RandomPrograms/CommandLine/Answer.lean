import RandomPrograms.CommandLine.Arguments
import RandomPrograms.Config.Reader
import RandomPrograms.Json.Write

/-! What the program answers: its standard output, its standard error, and its exit code. A command writes to
    standard output as it goes, and what it has written when it fails stays written. -/

namespace RandomPrograms.CommandLine

/-- The answer to a command. -/
structure Answer where
  exit : UInt8
  stdout : String
  stderr : String
deriving Repr, DecidableEq, Inhabited

/-! ### Writing -/

/-- A computation that can fail, and adds to what has been written to standard output. -/
abbrev Writing := ExceptT Error (StateM String)

namespace Writing

def write (s : String) : Writing Unit := modify (· ++ s)

def writeLine (s : String) : Writing Unit := write (s ++ "\n")

/-- The answer of a program that does this and no more. -/
def answer (w : Writing Unit) : Answer :=
  match w "" with
  | (.ok _, out) => ⟨0, out, ""⟩
  | (.error e, out) => ⟨1, out, "scopegen: " ++ e.message ++ "\n"⟩

end Writing

open Writing

/-! ### Programs -/

/-- The configuration of `generate`: that of the file if one is given, with the options in place of its
    fields. -/
def Generate.configured (o : Generate) (file : Except FileProblem ByteArray) : Except Error Config := do
  let c ← if o.config.isSome then Config.ofFile file else pure Config.default
  return { c with
    seed := o.seed <|> c.seed
    maxIndentLevel := o.maxDepth.getD c.maxIndentLevel
    blockSizeBudget := o.blockSize.getD c.blockSizeBudget }

/-- The line before a program of a batch, without its end. -/
def heading (number : Nat) (seed : UInt64) : String :=
  "// --- Program " ++ number.repr ++ " (seed: " ++ seed.toNat.repr ++ ") ---"

/-- Writes programs one after the other, each after its heading if there are headings. -/
def writeTexts (headings : Bool) : (number : Nat) → List Program → Writing Unit
  | _, [] => return
  | number, p :: later => do
    if headings then writeLine (heading number p.seed)
    write p.code
    writeTexts headings (number + 1) later

/-- Writes programs in the form that is asked for. There are headings if more than one program is asked for. -/
def Generate.write (o : Generate) (programs : List Program) : Writing Unit :=
  if o.output = "json" then writeLine (Json.Document.list (programs.map Program.document)).pretty
  else if o.output = "text" then writeTexts (1 < o.count) 1 programs
  else throw (.configuration (.other ("unknown output format '" ++ o.output ++ "' (expected text or json)")))

def Generate.run (o : Generate) (file : Except FileProblem ByteArray) (entropy : UInt64) : Writing Unit := do
  let config ← o.configured file
  let g ← Generator.new config entropy
  let programs ← (Run.batch o.size o.count.toNat g).1
  o.write programs

/-! ### Statistics -/

/-- The lines of a report: how many programs were asked for and with which seed, their bytes and their counters. -/
def reportLines (count seed : UInt64) (bytes : Nat) (t : Tally) : List String := [
  "Generation Statistics (" ++ count.toNat.repr ++ " programs, seed " ++ seed.toNat.repr ++ "):",
  "  Bytes generated:         " ++ bytes.repr,
  "  Declarations:            " ++ t.declarations.repr,
  "  Assignments:             " ++ t.assignments.repr,
  "  If statements:           " ++ t.ifs.repr,
  "  If/else statements:      " ++ t.ifElses.repr,
  "  Suppressed conditionals: " ++ t.suppressed.repr,
  "  Scope pushes / pops:     " ++ t.pushes.repr ++ " / " ++ t.pops.repr,
  "  Identifier retries:      " ++ t.retries.repr,
  "  Max scope depth:         " ++ t.maxDepth.repr]

def Stats.run (o : Stats) : Writing Unit := do
  let g ← Generator.new { Config.default with seed := some o.seed } o.seed
  let programs ← (Run.batch o.size o.count.toNat g).1
  let bytes := programs.foldl (fun n p => n + p.code.utf8ByteSize) 0
  let total := programs.foldl (fun t p => t.merge p.tally) Tally.zero
  (reportLines o.count o.seed bytes total).forM writeLine

/-! ### Answers -/

def versionLine : String := "scopegen 0.1.0"

/-- What a command does, given what is under the path of its configuration, and a seed for where none is fixed. -/
def Command.run (file : Except FileProblem ByteArray) (entropy : UInt64) : Command → Writing Unit
  | .version => writeLine versionLine
  | .generate o => o.run file entropy
  | .stats o => o.run

def Command.answer (file : Except FileProblem ByteArray) (entropy : UInt64) (c : Command) : Answer :=
  (c.run file entropy).answer

def Answer.refusal : Answer := ⟨2, "", "scopegen: the arguments are not understood\n"⟩

end RandomPrograms.CommandLine
