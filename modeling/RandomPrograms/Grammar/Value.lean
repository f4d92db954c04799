import RandomPrograms.Grammar.Word
import RandomPrograms.Text.Truth

/-! Types of variables, and the literal values of each type. -/

namespace RandomPrograms.Grammar

open Randomness

inductive VarType
  | number
  | string
  | boolean
deriving Repr, DecidableEq, Inhabited

namespace VarType

def all : List VarType := [.number, .string, .boolean]

def name : VarType → String
  | .number => "number"
  | .string => "string"
  | .boolean => "boolean"

def draw : Draw VarType := Draw.among all (by decide)

end VarType

/-- A literal; the text of a string literal stands without its quotes. -/
inductive Value
  | number (n : UInt64)
  | string (s : String)
  | boolean (b : Bool)
deriving Repr, DecidableEq, Inhabited

namespace Value

def type : Value → VarType
  | .number _ => .number
  | .string _ => .string
  | .boolean _ => .boolean

/-- The literal as it stands in a program; a string literal is not escaped. -/
def text : Value → String
  | .number n => toString n.toNat
  | .string s => "\"" ++ s ++ "\""
  | .boolean b => Text.truth b

/-- What literals may hold: numbers are below `maxInt`, words have at most `maxWordLength` letters. -/
structure Limits where
  maxInt : UInt64
  maxWordLength : UInt64
deriving Repr, DecidableEq, Inhabited

def draw (limits : Limits) : VarType → Draw Value
  | .number => do
    let n ← Draw.number (some limits.maxInt)
    return .number n
  | .string => do
    let s ← drawWord (some limits.maxWordLength)
    return .string s
  | .boolean => do
    let b ← Draw.coin
    return .boolean b

end Value

end RandomPrograms.Grammar
