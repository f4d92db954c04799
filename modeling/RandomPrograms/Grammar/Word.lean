import RandomPrograms.Randomness.Uniform

/-! Words of the output language: names and the contents of string literals are made of letters, and some
    words are reserved, so that they name no variable. -/

namespace RandomPrograms.Grammar

open Randomness

/-- The letters that words are made of. -/
def alphabet : List Char := "abcdefghijklmnopqrstuvwxyzABCDEFGHIJKLMNOPQRSTUVWXYZ".toList

/-- The words that the language keeps for itself, the shortest first. -/
def reservedWords : List String := [
  "as", "do", "if", "in", "is", "of", "for", "int", "let", "new", "try", "var", "byte", "case",
  "char", "else", "enum", "eval", "goto", "long", "null", "this", "true", "void", "with",
  "await", "break", "catch", "class", "const", "false", "final", "float", "short", "super",
  "throw", "while", "yield", "delete", "double", "export", "import", "native", "public",
  "return", "static", "switch", "throws", "typeof", "boolean", "default", "extends",
  "finally", "package", "private", "continue", "debugger", "function", "abstract",
  "volatile", "arguments", "interface", "protected", "transient", "implements",
  "instanceof", "synchronized", "undefined", "NaN", "Infinity"]

def isReserved (word : String) : Bool := reservedWords.contains word

/-- A number of letters. -/
def drawLetters : Nat → Draw (List Char)
  | 0 => return []
  | n + 1 => do
    let c ← Draw.choose alphabet
    let rest ← drawLetters n
    return c.toList ++ rest

/-- A word whose length is any number from 1 to the given one; that counts as 1 if it is 0. -/
def drawWord (maxLength : Option UInt64) : Draw String := do
  let less ← Draw.below64 (max 1 (maxLength.getD Defaults.maxIdentifierLength).toNat)
  let letters ← drawLetters (less + 1)
  return String.ofList letters

end RandomPrograms.Grammar
