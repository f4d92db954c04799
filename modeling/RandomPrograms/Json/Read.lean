import RandomPrograms.Json.Node
import RandomPrograms.Json.Write

/-! Reading values, statements and programs back from their documents. Records are objects or lists of their
    fields, cases are objects with one member. Members with other names are passed over, repeated ones are
    refused, and no document is nested more than `maxNesting` deep in what is read. -/

namespace RandomPrograms

open Json Grammar

namespace Json.Node

/-- The deepest nesting of lists and objects. -/
def maxNesting : Nat := 127

/-! ### Literals -/

def text? : Node → Option String
  | .text pieces => (decodeText pieces).toOption
  | _ => none

def boolean? : Node → Option Bool
  | .boolean b => some b
  | _ => none

def natural? : Node → Option Nat
  | .number l =>
    match l.value with
    | .ok (.natural n) => some n
    | _ => none
  | _ => none

def word? (t : Node) : Option UInt64 := do
  let n ← t.natural?
  return n.toUInt64

/-! ### Records and cases -/

/-- The keys as texts, if all of them are texts. -/
def keys? (members : List (List Piece × Node)) : Option (List (String × Node)) :=
  members.mapM fun m => do
    let key ← (decodeText m.1).toOption
    return (key, m.2)

/-- The values of a record's fields, in the order of their names; one that is missing is none. -/
def fields? (names : List String) : Node → Option (List (Option Node))
  | .list items => if items.length = names.length then some (items.map some) else none
  | .object members => do
    let members ← keys? members
    names.mapM fun name =>
      match members.filter (·.1 == name) with
      | [] => some none
      | [m] => some (some m.2)
      | _ => none
  | _ => none

/-- The one case that an object names, and what it holds. -/
def case? : Node → Option (String × Node)
  | .object [(key, content)] => do
    let name ← (decodeText key).toOption
    return (name, content)
  | _ => none

/-- A case that holds nothing: its name alone, or an object that gives it null. -/
def name? (depth : Nat) : Node → Option String
  | .text pieces => (decodeText pieces).toOption
  | t => do
    guard (0 < depth)
    match ← t.case? with
    | (name, .null) => return name
    | _ => none

end Json.Node

namespace Grammar

/-! ### Values and conditions

Each reader takes the number of lists and objects that may still be opened. -/

def VarType.ofNode? (depth : Nat) (t : Node) : Option VarType := do
  let name ← t.name? depth
  VarType.all.find? (·.name == name)

def CompareOp.ofNode? (depth : Nat) (t : Node) : Option CompareOp := do
  let name ← t.name? depth
  CompareOp.all.find? (·.word == name)

/-- The type of a value. A list of type and content must give the type's name alone. -/
def VarType.ofTag? (depth : Nat) (value tag : Node) : Option VarType :=
  match value with
  | .list _ => do
    let name ← tag.text?
    VarType.all.find? (·.name == name)
  | _ => VarType.ofNode? depth tag

def Value.ofNode? (depth : Nat) (t : Node) : Option Value := do
  guard (0 < depth)
  match ← t.fields? ["type", "value"] with
  | [some type, some content] =>
    match ← VarType.ofTag? (depth - 1) t type with
    | .number => return .number (← content.word?)
    | .string => return .string (← content.text?)
    | .boolean => return .boolean (← content.boolean?)
  | _ => none

def Condition.ofNode? (depth : Nat) (t : Node) : Option Condition := do
  guard (0 < depth)
  match ← t.case? with
  | ("Literal", content) => return .literal (← content.boolean?)
  | ("Compare", content) =>
    guard (1 < depth)
    match ← content.fields? ["name", "op", "value"] with
    | [some name, some op, some value] =>
      return .compare (← name.text?) (← CompareOp.ofNode? (depth - 2) op) (← Value.ofNode? (depth - 2) value)
    | _ => none
  | _ => none

/-! ### Statements and blocks -/

/-- The name and value of a declaration or an assignment. -/
def binding? (depth : Nat) (t : Node) : Option (String × Value) := do
  guard (0 < depth)
  match ← t.fields? ["name", "value"] with
  | [some name, some value] => return (← name.text?, ← Value.ofNode? (depth - 1) value)
  | _ => none

mutual

def Statement.ofNode? : (depth : Nat) → Node → Option Statement
  | 0, t => do
    let name ← t.name? 0
    guard (name = "Empty")
    return .empty
  | depth + 1, t =>
    match t.name? (depth + 1) with
    | some name => do
      guard (name = "Empty")
      return .empty
    | none => do
      match ← t.case? with
      | ("Declaration", content) =>
        let (name, value) ← binding? depth content
        return .declaration name value
      | ("Assignment", content) =>
        let (name, value) ← binding? depth content
        return .assignment name value
      | ("Conditional", content) => conditional? depth content
      | _ => none

/-- A conditional; it has one branch if the other is null or missing. -/
def conditional? : (depth : Nat) → Node → Option Statement
  | 0, _ => none
  | depth + 1, t => do
    match ← t.fields? ["condition", "then_body", "else_body"] with
    | [some condition, some body, otherwise] =>
      let condition ← Condition.ofNode? depth condition
      let body ← Block.ofNode? depth body
      match otherwise.getD .null with
      | .null => return .ifThen condition body
      | otherwise =>
        let otherwise ← Block.ofNode? depth otherwise
        return .ifElse condition body otherwise
    | _ => none

def Block.ofNode? : (depth : Nat) → Node → Option Block
  | 0, _ => none
  | depth + 1, t => do
    match ← t.fields? ["statements", "code"] with
    | [some statements, some code] => return ⟨← statements? depth statements, ← code.text?⟩
    | _ => none

def statements? : (depth : Nat) → Node → Option (List Statement)
  | 0, _ => none
  | depth + 1, t =>
    match t with
    | .list items => items.mapM fun item => Statement.ofNode? depth item
    | _ => none

end

end Grammar

/-! ### Counters and programs -/

def Tally.ofNode? (depth : Nat) (t : Node) : Option Tally := do
  guard (0 < depth)
  match ← t.fields? (Tally.zero.entries.map (·.1)) with
  | [some declarations, some assignments, some ifs, some ifElses, some suppressed, some pushes, some pops,
      some retries, some maxDepth] =>
    return {
      declarations := ← declarations.natural?
      assignments := ← assignments.natural?
      ifs := ← ifs.natural?
      ifElses := ← ifElses.natural?
      suppressed := ← suppressed.natural?
      pushes := ← pushes.natural?
      pops := ← pops.natural?
      retries := ← retries.natural?
      maxDepth := ← maxDepth.natural? }
  | _ => none

def Program.ofNode? (depth : Nat) (t : Node) : Option Program := do
  guard (0 < depth)
  match ← t.fields? ["code", "statements", "stats", "seed"] with
  | [some code, some statements, some tally, some seed] =>
    return {
      code := ← code.text?
      statements := ← statements? (depth - 1) statements
      tally := ← Tally.ofNode? (depth - 1) tally
      seed := ← seed.word? }
  | _ => none

/-- Reads a whole text with one of the readers above. -/
def ofText? {α : Type} (reader : (depth : Nat) → Node → Option α) (s : String) : Option α :=
  match Node.read s with
  | .ok t => reader Node.maxNesting t
  | .error _ => none

end RandomPrograms
