import RandomPrograms.Json.Node

/-! Values that are one token: what is found where another kind of value is wanted, integers of a bounded
    size, and texts. -/

namespace RandomPrograms.Json

/-- What a token begins, or why it begins no value. -/
def Token.found : Token → Except Fault Found
  | .openList => .ok .list
  | .openObject => .ok .object
  | .null => .ok .null
  | .boolean b => .ok (.boolean b)
  | .number l => do
    match ← l.value with
    | .natural n => return .integer n
    | .negative n => return .integer (-n)
    | .floating x => return .floating (Decimal.ofFloat x)
  | .text pieces => do
    let s ← decodeText pieces
    return .text s
  | .malformed _ wanted _ => .error wanted
  | .closeList | .closeObject | .comma | .colon => .error .noValue

/-- The fault of a token where a value of another kind is wanted. -/
def Token.unwanted (t : Token) (wanted : String) : Fault :=
  match t.found with
  | .ok found => .wrongType found wanted
  | .error fault => fault

/-- A natural number below `bound`. -/
def Token.natural (bound : Nat) (wanted : String) (t : Token) : Except Fault Nat :=
  match t with
  | .number l =>
    match l.value with
    | .ok (.natural n) => if n < bound then .ok n else .error (.wrongInteger n wanted)
    | .ok (.negative n) => .error (.wrongInteger (-n) wanted)
    | _ => .error (t.unwanted wanted)
  | _ => .error (t.unwanted wanted)

def Token.content (wanted : String) (t : Token) : Except Fault String :=
  match t with
  | .text pieces => decodeText pieces
  | _ => .error (t.unwanted wanted)

/-- The machine that reads a document of one token. -/
def scalarMachine {α : Type} (read : Token → Except Fault α) : Machine (Option α) α where
  step
    | none, t => (read t).map some
    | some _, _ => .error .trailingCharacters
  finish
    | none => .error .endOfValue
    | some a => .ok a

/-- An integer of 32 bits, as a whole document. -/
def readWord32 (s : String) : Except Fault Nat :=
  (scalarMachine (Token.natural UInt32.size "u32")).run none (tokens s.toList)

end RandomPrograms.Json
