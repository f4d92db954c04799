import RandomPrograms.Scope.Basic

/-! The stack of open scopes: the innermost one, which takes declarations, and those around it. The
    program's own scope lies at the bottom and is never closed. A name stands for its binding in the
    innermost scope that binds it. -/

namespace RandomPrograms

open Grammar Randomness

/-- The open scopes: `inner` is the innermost, `outer` those around it, from the inside out. -/
structure ScopeStack where
  inner : Scope
  outer : List Scope
deriving Repr, DecidableEq

namespace ScopeStack

/-- Only the program's scope, with nothing declared. -/
def new : ScopeStack := ⟨.empty, []⟩

instance : Inhabited ScopeStack := ⟨new⟩

/-- The open scopes, from the inside out. -/
def scopes (st : ScopeStack) : List Scope := st.inner :: st.outer

def depth (st : ScopeStack) : Nat := st.outer.length + 1

def push (st : ScopeStack) : ScopeStack := ⟨.empty, st.inner :: st.outer⟩

/-- Closes the innermost scope and hands it back; the program's scope stays open. -/
def pop? (st : ScopeStack) : Option (Scope × ScopeStack) :=
  match st.outer with
  | [] => none
  | next :: rest => some (st.inner, ⟨next, rest⟩)

/-- Declares a name in the innermost scope, unless that scope binds it already. -/
def declare? (st : ScopeStack) (name : String) (type : VarType) : Option ScopeStack :=
  if st.inner.binds name then none else some { st with inner := st.inner.insert ⟨name, type⟩ }

/-- The type that a name stands for: that of the innermost scope that binds it. -/
def resolve (st : ScopeStack) (name : String) : Option VarType :=
  st.scopes.findSome? (·.type? name)

/-- One of the candidates of the first scope that has any. -/
def firstMatch (wanted : Option VarType) : List Scope → Draw (Option Binding)
  | [] => return none
  | s :: rest => do
    match ← Draw.choose (s.matching wanted) with
    | some b => return some b
    | none => firstMatch wanted rest

/-- A variable in scope, of the wanted type if one is given: one of the matching bindings of the innermost
    scope that has any, all of them equally likely. -/
def lookup (st : ScopeStack) (wanted : Option VarType) : Draw (Option Binding) :=
  firstMatch wanted st.scopes

/-- Puts a name before the first greater one of a sorted list, unless it is there. -/
def placeName (name : String) : List String → List String
  | [] => [name]
  | n :: rest =>
    if name < n then name :: n :: rest
    else if name = n then n :: rest
    else n :: placeName name rest

/-- All names that stand for something, in increasing order, each once. -/
def visibleNames (st : ScopeStack) : List String :=
  st.scopes.foldr (fun s names => s.bindings.foldr (fun b names => placeName b.name names) names) []

end ScopeStack

end RandomPrograms
