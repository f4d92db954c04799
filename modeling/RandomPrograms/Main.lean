import RandomPrograms.CommandLine.Answer

/-! The command-line program. -/

open RandomPrograms RandomPrograms.CommandLine

def contents (path : String) : IO (Except FileProblem ByteArray) := do
  try
    let bytes ← IO.FS.readBinFile path
    return .ok bytes
  catch e =>
    match e with
    | .noFileOrDirectory .. => return .error .missing
    | .inappropriateType _ code _ => return .error (if code = 21 then .directory else .notDirectory)
    | .permissionDenied .. => return .error .forbidden
    | .invalidArgument _ _ "name too long" => return .error .nameTooLong
    | e => return .error (.other (toString e))

/-- A seed that cannot be foreseen. -/
def freshSeed : IO UInt64 := do
  let bytes ← IO.getRandomBytes 8
  return bytes.toList.foldl (fun n b => n * 256 + b.toUInt64) 0

def main (args : List String) : IO UInt32 := do
  let answer ←
    match Command.ofArguments? args with
    | none => pure Answer.refusal
    | some command =>
      let file ←
        match command with
        | .generate { config := some path, .. } => contents path
        | _ => pure (.error .missing)
      pure (command.answer file (← freshSeed))
  (← IO.getStdout).putStr answer.stdout
  (← IO.getStderr).putStr answer.stderr
  return answer.exit.toUInt32
