import RandomPrograms.Defaults
import RandomPrograms.Grammar.Value

/-! The configuration of a generator: its limits, the indentation, and the seed if it is fixed. -/

namespace RandomPrograms

open Grammar

/-- What a generator goes by. -/
structure Config where
  /-- The longest name or string content. -/
  maxIdentifierLength : UInt64 := Defaults.maxIdentifierLength
  /-- Number literals are below this. -/
  maxInt : UInt64 := Defaults.maxInt
  /-- Bytes that a program is filled up to. -/
  sizeBudget : UInt64 := Defaults.sizeBudget
  /-- Bytes that a branch body is filled up to. -/
  blockSizeBudget : UInt64 := Defaults.blockSizeBudget
  /-- The scope depth at which conditionals are left out. -/
  maxIndentLevel : UInt64 := Defaults.maxIndentLevel
  /-- Names tried for one declaration. -/
  maxIdentifierAttempts : UInt64 := Defaults.maxIdentifierAttempts
  /-- One step of indentation. -/
  indent : String := Defaults.indent
  seed : Option UInt64 := none
deriving Repr, DecidableEq, Inhabited

namespace Config

def default : Config := {}

/-- What literals may hold under a configuration. -/
def limits (c : Config) : Value.Limits := ⟨c.maxInt, c.maxIdentifierLength⟩

end Config

end RandomPrograms
