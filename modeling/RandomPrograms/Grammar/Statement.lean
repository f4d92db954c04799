import RandomPrograms.Grammar.Condition

/-! Statements and blocks. A block keeps the text it was written as beside its statements, and a
    conditional is written from the kept texts of its bodies. -/

namespace RandomPrograms.Grammar

mutual

/-- A statement. The empty one stands where a conditional was left out. -/
inductive Statement where
  | declaration (name : String) (value : Value)
  | assignment (name : String) (value : Value)
  | ifThen (condition : Condition) (body : Block)
  | ifElse (condition : Condition) (body : Block) (otherwise : Block)
  | empty

/-- Statements in order, and their text: one line or more for each. -/
structure Block where
  statements : List Statement
  code : String

end

deriving instance Repr for Statement, Block

instance : Inhabited Statement := ⟨.empty⟩

instance : Inhabited Block := ⟨⟨[], ""⟩⟩

/-- The kinds that a block chooses from. -/
inductive StatementKind
  | declaration
  | assignment
  | conditional
deriving Repr, DecidableEq, Inhabited

def StatementKind.all : List StatementKind := [.declaration, .assignment, .conditional]

def StatementKind.draw : Randomness.Draw StatementKind := Randomness.Draw.among all (by decide)

/-- Conditionals have one branch or two. -/
inductive ConditionalKind
  | ifThen
  | ifElse
deriving Repr, DecidableEq, Inhabited

def ConditionalKind.draw : Randomness.Draw ConditionalKind := do
  let b ← Randomness.Draw.coin
  return if b then .ifThen else .ifElse

/-! ### Text -/

/-- A body between braces; the closing one stands at the indentation of its statement. -/
def braced (code indentation : String) : String :=
  "\x7b\n" ++ code ++ indentation ++ "\x7d"

/-- The text of a statement whose line starts with the given indentation, without that indentation. -/
def Statement.text (indentation : String) : Statement → String
  | .declaration name value => "let " ++ name ++ " = " ++ value.text
  | .assignment name value => name ++ " = " ++ value.text
  | .ifThen condition body => "if (" ++ condition.text ++ ") " ++ braced body.code indentation
  | .ifElse condition body otherwise =>
    "if (" ++ condition.text ++ ") " ++ braced body.code indentation ++ " else " ++
      braced otherwise.code indentation
  | .empty => ""

/-! ### Equality -/

mutual

def Statement.decEq : (s t : Statement) → Decidable (s = t)
  | .declaration n v, .declaration n' v' =>
    if h : n = n' ∧ v = v' then isTrue (by rw [h.1, h.2]) else isFalse (by simpa using h)
  | .assignment n v, .assignment n' v' =>
    if h : n = n' ∧ v = v' then isTrue (by rw [h.1, h.2]) else isFalse (by simpa using h)
  | .ifThen c b, .ifThen c' b' =>
    if hc : c = c' then
      match Block.decEq b b' with
      | isTrue hb => isTrue (by rw [hc, hb])
      | isFalse hb => isFalse (by simp [hb])
    else isFalse (by simp [hc])
  | .ifElse c b o, .ifElse c' b' o' =>
    if hc : c = c' then
      match Block.decEq b b' with
      | isTrue hb =>
        match Block.decEq o o' with
        | isTrue ho => isTrue (by rw [hc, hb, ho])
        | isFalse ho => isFalse (by simp [ho])
      | isFalse hb => isFalse (by simp [hb])
    else isFalse (by simp [hc])
  | .empty, .empty => isTrue rfl
  | .declaration .., .assignment .. | .declaration .., .ifThen .. | .declaration .., .ifElse ..
  | .declaration .., .empty | .assignment .., .declaration .. | .assignment .., .ifThen ..
  | .assignment .., .ifElse .. | .assignment .., .empty | .ifThen .., .declaration ..
  | .ifThen .., .assignment .. | .ifThen .., .ifElse .. | .ifThen .., .empty
  | .ifElse .., .declaration .. | .ifElse .., .assignment .. | .ifElse .., .ifThen ..
  | .ifElse .., .empty | .empty, .declaration .. | .empty, .assignment .. | .empty, .ifThen ..
  | .empty, .ifElse .. => isFalse (by simp)

def Block.decEq : (b c : Block) → Decidable (b = c)
  | ⟨sts, code⟩, ⟨sts', code'⟩ =>
    if hc : code = code' then
      match Block.decEqStatements sts sts' with
      | isTrue hs => isTrue (by rw [hs, hc])
      | isFalse hs => isFalse (by simp [hs])
    else isFalse (by simp [hc])

def Block.decEqStatements : (ss ts : List Statement) → Decidable (ss = ts)
  | [], [] => isTrue rfl
  | [], _ :: _ => isFalse (by simp)
  | _ :: _, [] => isFalse (by simp)
  | s :: ss, t :: ts =>
    match Statement.decEq s t with
    | isTrue h =>
      match Block.decEqStatements ss ts with
      | isTrue hs => isTrue (by rw [h, hs])
      | isFalse hs => isFalse (by simp [hs])
    | isFalse h => isFalse (by simp [h])

end

instance : DecidableEq Statement := Statement.decEq

instance : DecidableEq Block := Block.decEq

end RandomPrograms.Grammar
