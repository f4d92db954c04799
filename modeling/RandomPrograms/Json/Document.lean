import RandomPrograms.Text.Truth

/-! JSON documents and the two forms that they are written in: without space, and with one item a line. -/

namespace RandomPrograms.Json

/-- A document whose numbers are natural numbers. -/
inductive Document where
  | null
  | boolean (b : Bool)
  | number (n : Nat)
  | text (s : String)
  | list (items : List Document)
  | object (members : List (String × Document))
deriving Repr, Inhabited

/-! ### Texts -/

/-- The digit of a number below 16, in lower case. -/
def hexDigit (n : Nat) : Char := Nat.digitChar n

/-- A character as it stands in a written text: quotes, backslashes and controls are escaped. -/
def escapedChar (c : Char) : List Char :=
  if c = '"' then ['\\', '"']
  else if c = '\\' then ['\\', '\\']
  else if c = '\n' then ['\\', 'n']
  else if c = '\r' then ['\\', 'r']
  else if c = '\t' then ['\\', 't']
  else if c = '\x08' then ['\\', 'b']
  else if c = '\x0c' then ['\\', 'f']
  else if c.toNat < 0x20 then ['\\', 'u', '0', '0', hexDigit (c.toNat / 16), hexDigit (c.toNat % 16)]
  else [c]

/-- A text between quotes. -/
def written (s : String) : String := String.ofList ('"' :: (s.toList.flatMap escapedChar ++ ['"']))

/-! ### Forms -/

/-- The space that a form of writing has between the tokens. -/
structure Form where
  /-- Before an item or member at a level, and before the end of a list or object at one. -/
  newLine : (level : Nat) → String
  afterColon : String

/-- No space at all. -/
def Form.compact : Form := ⟨fun _ => "", ""⟩

/-- Each item and member on a line of its own, indented by two spaces a level. -/
def Form.pretty : Form := ⟨fun level => String.ofList ('\n' :: List.replicate (2 * level) ' '), " "⟩

namespace Document

mutual

/-- The pieces that a document is written with at a level, in order. -/
def pieces (form : Form) (level : Nat) : Document → List String
  | .null => ["null"]
  | .boolean b => [Text.truth b]
  | .number n => [n.repr]
  | .text s => [written s]
  | .list [] => ["[", "]"]
  | .list (d :: ds) => "[" :: form.newLine (level + 1) :: (pieces form (level + 1) d ++ itemPieces form level ds)
  | .object [] => ["\x7b", "\x7d"]
  | .object ((k, d) :: ms) =>
    "\x7b" :: form.newLine (level + 1) :: written k :: ":" :: form.afterColon ::
      (pieces form (level + 1) d ++ memberPieces form level ms)

/-- The items after the first one of a list, and its end. -/
def itemPieces (form : Form) (level : Nat) : List Document → List String
  | [] => [form.newLine level, "]"]
  | d :: ds => "," :: form.newLine (level + 1) :: (pieces form (level + 1) d ++ itemPieces form level ds)

/-- The members after the first one of an object, and its end. -/
def memberPieces (form : Form) (level : Nat) : List (String × Document) → List String
  | [] => [form.newLine level, "\x7d"]
  | (k, d) :: ms =>
    "," :: form.newLine (level + 1) :: written k :: ":" :: form.afterColon ::
      (pieces form (level + 1) d ++ memberPieces form level ms)

end

def compact (d : Document) : String := String.join (d.pieces .compact 0)

def pretty (d : Document) : String := String.join (d.pieces .pretty 0)

end Document

end RandomPrograms.Json
