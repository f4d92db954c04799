import RandomPrograms.Config.Basic
import RandomPrograms.Text.Blank
import RandomPrograms.Text.Quoted

/-! The fields of a configuration, and when a configuration is usable: the limits that must be positive
    are, and the indentation is blank without an end of line. -/

namespace RandomPrograms

namespace Config

/-- The fields, in the order in which they are written. -/
inductive Field
  | maxIdentifierLength
  | maxInt
  | sizeBudget
  | blockSizeBudget
  | maxIndentLevel
  | maxIdentifierAttempts
  | indent
  | seed
deriving Repr, DecidableEq, Inhabited

namespace Field

def all : List Field := [.maxIdentifierLength, .maxInt, .sizeBudget, .blockSizeBudget, .maxIndentLevel,
  .maxIdentifierAttempts, .indent, .seed]

def name : Field → String
  | .maxIdentifierLength => "max_identifier_length"
  | .maxInt => "max_int"
  | .sizeBudget => "size_budget"
  | .blockSizeBudget => "block_size_budget"
  | .maxIndentLevel => "max_indent_level"
  | .maxIdentifierAttempts => "max_identifier_attempts"
  | .indent => "indent"
  | .seed => "seed"

end Field

/-- Why a configuration is refused. -/
inductive Problem
  | notPositive (field : Field)
  | badIndent (indent : String)
  /-- A reason given in words. -/
  | other (reason : String)
deriving Repr, DecidableEq, Inhabited

def Problem.message : Problem → String
  | .notPositive field => field.name ++ " must be positive"
  | .badIndent indent => "indent must be non-empty horizontal whitespace, got " ++ Text.quoted indent
  | .other reason => reason

/-- The limits that must be positive, in the order in which they are looked at. -/
def positiveLimits (c : Config) : List (Field × UInt64) := [
  (.maxIdentifierLength, c.maxIdentifierLength), (.maxInt, c.maxInt),
  (.blockSizeBudget, c.blockSizeBudget), (.maxIndentLevel, c.maxIndentLevel),
  (.maxIdentifierAttempts, c.maxIdentifierAttempts)]

/-- Whether a text can be a step of indentation: not empty, and made of blanks other than the line feed and
    the carriage return. -/
def isIndent (s : String) : Bool :=
  !s.isEmpty && s.toList.all fun c => Text.isBlank c && c != '\n' && c != '\r'

/-- What is wrong with a configuration: the first limit that is zero, or else the indentation. -/
def problem? (c : Config) : Option Problem :=
  match c.positiveLimits.find? (·.2 == 0) with
  | some (field, _) => some (.notPositive field)
  | none => if isIndent c.indent then none else some (.badIndent c.indent)

end Config

end RandomPrograms
