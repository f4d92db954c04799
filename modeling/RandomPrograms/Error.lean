import RandomPrograms.Config.Field
import RandomPrograms.Json.Fault

/-! The errors of the library, and how they are said. -/

namespace RandomPrograms

/-- Why a file could not be read as a text. -/
inductive FileProblem
  | missing
  | directory
  /-- The path leads through something that holds no files. -/
  | notDirectory
  | nameTooLong
  | forbidden
  | notText
  /-- A reason given in words. -/
  | other (reason : String)
deriving Repr, DecidableEq, Inhabited

def FileProblem.message : FileProblem → String
  | .missing => "No such file or directory (os error 2)"
  | .directory => "Is a directory (os error 21)"
  | .notDirectory => "Not a directory (os error 20)"
  | .nameTooLong => "File name too long (os error 36)"
  | .forbidden => "Permission denied (os error 13)"
  | .notText => "stream did not contain valid UTF-8"
  | .other reason => reason

/-- What can fail. -/
inductive Error
  /-- The program's own scope was to be closed. -/
  | scopeUnderflow
  /-- Scopes were left open, or closed too often, by a run. -/
  | unbalancedScopes (depth : Nat)
  /-- No name was found for a declaration. -/
  | identifierExhausted (attempts : Nat)
  | configuration (problem : Config.Problem)
  | file (problem : FileProblem)
  | json (fault : Json.Fault)
deriving Repr, DecidableEq, Inhabited

def Error.message : Error → String
  | .scopeUnderflow => "scope underflow: the root scope cannot be popped"
  | .unbalancedScopes depth => "unbalanced scope stack: depth " ++ depth.repr ++ " after generation"
  | .identifierExhausted attempts => "identifier space exhausted after " ++ attempts.repr ++ " attempts"
  | .configuration problem => "configuration error: " ++ problem.message
  | .file problem => "io error: " ++ problem.message
  | .json fault => "serialization error: " ++ fault.message

/-- Accepts a configuration that has no problem. -/
def Config.validate (c : Config) : Except Error Unit :=
  match c.problem? with
  | some problem => .error (.configuration problem)
  | none => .ok ()

end RandomPrograms
