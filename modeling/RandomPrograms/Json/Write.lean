import RandomPrograms.Generator.Program
import RandomPrograms.Json.Document

/-! Values, statements, programs and configurations as JSON documents. -/

namespace RandomPrograms

open Json

namespace Grammar

def VarType.document (t : VarType) : Document := .text t.name

def Value.document (v : Value) : Document :=
  .object [("type", v.type.document), ("value",
    match v with
    | .number n => .number n.toNat
    | .string s => .text s
    | .boolean b => .boolean b)]

/-- The word that stands for a comparison in a document. -/
def CompareOp.word : CompareOp → String
  | .less => "Lt"
  | .greater => "Gt"
  | .atMost => "LtE"
  | .atLeast => "GtE"
  | .equal => "StrictEq"
  | .notEqual => "StrictNotEq"

def CompareOp.document (op : CompareOp) : Document := .text op.word

def Condition.document : Condition → Document
  | .compare name op value => .object [("Compare", .object
      [("name", .text name), ("op", op.document), ("value", value.document)])]
  | .literal b => .object [("Literal", .boolean b)]

mutual

def Statement.document : Statement → Document
  | .declaration name value => .object [("Declaration", .object
      [("name", .text name), ("value", value.document)])]
  | .assignment name value => .object [("Assignment", .object
      [("name", .text name), ("value", value.document)])]
  | .ifThen condition body => .object [("Conditional", .object
      [("condition", condition.document), ("then_body", body.document), ("else_body", .null)])]
  | .ifElse condition body otherwise => .object [("Conditional", .object
      [("condition", condition.document), ("then_body", body.document), ("else_body", otherwise.document)])]
  | .empty => .text "Empty"

def Block.document : Block → Document
  | ⟨statements, code⟩ => .object [("statements", .list (documents statements)), ("code", .text code)]

def documents : List Statement → List Document
  | [] => []
  | s :: rest => s.document :: documents rest

end

end Grammar

open Grammar

/-- The counters with their names in a document, in order. -/
def Tally.entries (t : Tally) : List (String × Nat) := [
  ("declarations", t.declarations), ("assignments", t.assignments), ("if_statements", t.ifs),
  ("if_else_statements", t.ifElses), ("suppressed_conditionals", t.suppressed), ("scope_pushes", t.pushes),
  ("scope_pops", t.pops), ("identifier_retries", t.retries), ("max_depth", t.maxDepth)]

def Tally.document (t : Tally) : Document := .object (t.entries.map fun e => (e.1, .number e.2))

def Program.document (p : Program) : Document := .object [
  ("code", .text p.code), ("statements", .list (documents p.statements)), ("stats", p.tally.document),
  ("seed", .number p.seed.toNat)]

/-- The value of a field as a document; a seed that is not fixed is null. -/
def Config.fieldDocument (c : Config) : Config.Field → Document
  | .maxIdentifierLength => .number c.maxIdentifierLength.toNat
  | .maxInt => .number c.maxInt.toNat
  | .sizeBudget => .number c.sizeBudget.toNat
  | .blockSizeBudget => .number c.blockSizeBudget.toNat
  | .maxIndentLevel => .number c.maxIndentLevel.toNat
  | .maxIdentifierAttempts => .number c.maxIdentifierAttempts.toNat
  | .indent => .text c.indent
  | .seed =>
    match c.seed with
    | none => .null
    | some seed => .number seed.toNat

def Config.document (c : Config) : Document :=
  .object (Config.Field.all.map fun f => (f.name, c.fieldDocument f))

end RandomPrograms
