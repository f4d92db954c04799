import RandomPrograms.Decimal.Shortest
import RandomPrograms.Json.Fault

/-! Literals of JSON documents as they are written, and what they mean. Every well-formed literal has a
    written form; some have no meaning: a text can hold half of a surrogate pair, a number can be too
    great for a floating point number. -/

namespace RandomPrograms.Json

/-! ### Texts -/

/-- One written part of a text: a character, or a `\u` escape for a unit of 16 bits. -/
inductive Piece
  | char (c : Char)
  | unit (n : Nat)
deriving Repr, DecidableEq, Inhabited

/-- The first half of a surrogate pair. -/
def isHighHalf (n : Nat) : Bool := 0xd800 ≤ n && n < 0xdc00

/-- The second half of a surrogate pair. -/
def isLowHalf (n : Nat) : Bool := 0xdc00 ≤ n && n < 0xe000

def joinHalves (high low : Nat) : Char := Char.ofNat (0x10000 + (high - 0xd800) * 0x400 + (low - 0xdc00))

/-- The characters that the pieces stand for. The fault `unpaired` is that of a first half with no escape
    after it at the end. -/
def decodePieces (unpaired : Fault) : List Piece → Except Fault (List Char)
  | [] => .ok []
  | .char c :: rest => do
    let cs ← decodePieces unpaired rest
    return c :: cs
  | .unit n :: rest =>
    if isLowHalf n then .error .brokenPair
    else if isHighHalf n then
      match rest with
      | [] => .error unpaired
      | .char _ :: _ => .error .openPair
      | .unit m :: rest =>
        if isLowHalf m then do
          let cs ← decodePieces unpaired rest
          return joinHalves n m :: cs
        else .error .brokenPair
    else do
      let cs ← decodePieces unpaired rest
      return Char.ofNat n :: cs

/-- The text that the pieces of a closed literal stand for. -/
def decodeText (pieces : List Piece) : Except Fault String := do
  let cs ← decodePieces .openPair pieces
  return String.ofList cs

/-! ### Numbers -/

/-- A written number: its digits before and after the point, and the sign and digits of its exponent. The
    lists after the point and of the exponent are empty if the part is missing. -/
structure NumberLiteral where
  negative : Bool
  whole : List Char
  fraction : List Char
  exponentNegative : Bool
  exponent : List Char
deriving Repr, DecidableEq, Inhabited

/-- What a number is read as. -/
inductive Number
  | natural (n : Nat)
  /-- The integer `-n`. -/
  | negative (n : Nat)
  | floating (x : Float)

/-- The value of a decimal digit. -/
def digitValue (c : Char) : Nat := c.toNat - '0'.toNat

/-- Appends digits to a number as long as it stays below `bound`; the count is that of the digits taken. -/
def takeDigits (bound : Nat) : (start : Nat) → List Char → Nat × Nat
  | n, [] => (n, 0)
  | n, c :: rest =>
    let m := n * 10 + digitValue c
    if m < bound then
      let (n, taken) := takeDigits bound m rest
      (n, taken + 1)
    else (n, 0)

/-- The double `10 ^ e`. -/
def powerOfTen (e : Nat) : Float := Float.ofScientific 1 false e

/-- The double `x * 10 ^ (-e)`, in steps that a double can hold. -/
def scaleDown (x : Float) (e : Nat) : Float :=
  if e ≤ 308 then x / powerOfTen e
  else if x == 0 then x
  else scaleDown (x / powerOfTen 308) (e - 308)
termination_by e

/-- The double nearest to `significand * 10 ^ exponent` that one scaling gives. -/
def scaled (significand : Nat) (exponent : Int) : Except Fault Float :=
  let x := significand.toUInt64.toFloat
  if exponent < 0 then .ok (scaleDown x (-exponent).toNat)
  else if 308 < exponent then if x == 0 then .ok x else .error .numberOutOfRange
  else
    let y := x * powerOfTen exponent.toNat
    if y.isInf then .error .numberOutOfRange else .ok y

/-- The size of a number that is not read as an integer. The significand holds as many digits as stay below
    2^64, the others before the point only move it. An exponent of 2^31 or more is beyond any number. -/
def NumberLiteral.floatingSize (l : NumberLiteral) : Except Fault Float :=
  let (whole, taken) := takeDigits UInt64.size 0 l.whole
  let (significand, places) := takeDigits UInt64.size whole l.fraction
  let (exponent, read) := takeDigits (1 <<< 31) 0 l.exponent
  if read < l.exponent.length then
    if significand ≠ 0 && !l.exponentNegative then .error .numberOutOfRange else .ok 0
  else
    let shift : Int := (l.whole.length - taken : Nat) - (places : Int)
    scaled significand (if l.exponentNegative then shift - exponent else shift + exponent)

/-- What the number is read as: an integer if it has neither fraction nor exponent and 64 bits hold it, minus
    zero excepted, and else a double. -/
def NumberLiteral.value (l : NumberLiteral) : Except Fault Number :=
  let (n, taken) := takeDigits UInt64.size 0 l.whole
  if l.fraction.isEmpty && l.exponent.isEmpty && taken == l.whole.length &&
      (!l.negative || 0 < n && n ≤ 1 <<< 63) then
    .ok (if l.negative then .negative n else .natural n)
  else do
    let x ← l.floatingSize
    return .floating (if l.negative then -x else x)

end RandomPrograms.Json
