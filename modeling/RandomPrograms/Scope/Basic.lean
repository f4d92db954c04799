import RandomPrograms.Grammar.Value

/-! One lexical scope: the variables that one block declares. A scope keeps its bindings in the order of
    their names, each name once, so that two scopes with the same bindings are equal. -/

namespace RandomPrograms

open Grammar

/-- A variable and its type. -/
structure Binding where
  name : String
  type : VarType
deriving Repr, DecidableEq, Inhabited

/-- The bindings of one block, strictly increasing by name. -/
structure Scope where
  bindings : List Binding
  sorted : bindings.Pairwise (·.name < ·.name)
deriving Repr, DecidableEq

namespace Scope

def empty : Scope := ⟨[], .nil⟩

instance : Inhabited Scope := ⟨empty⟩

def size (s : Scope) : Nat := s.bindings.length

/-- The type that a name has in this scope. -/
def type? (s : Scope) (name : String) : Option VarType :=
  (s.bindings.find? (·.name == name)).map (·.type)

def binds (s : Scope) (name : String) : Bool := (s.type? name).isSome

/-- The bindings of one type, or all bindings if none is asked for. -/
def matching (s : Scope) (wanted : Option VarType) : List Binding :=
  match wanted with
  | none => s.bindings
  | some t => s.bindings.filter (·.type == t)

/-! ### Insertion -/

/-- Puts a binding before the first one whose name is greater; a name that is there already stays as it is. -/
def place (b : Binding) : List Binding → List Binding
  | [] => [b]
  | c :: rest =>
    if b.name < c.name then b :: c :: rest
    else if b.name = c.name then c :: rest
    else c :: place b rest

theorem eq_or_mem_of_mem_place {b x : Binding} : ∀ {l : List Binding}, x ∈ place b l → x = b ∨ x ∈ l
  | [], h => by simpa [place] using h
  | c :: rest, h => by
    unfold place at h
    split at h
    · simpa using h
    · split at h
      · exact Or.inr h
      · rcases List.mem_cons.mp h with rfl | h
        · simp
        · rcases eq_or_mem_of_mem_place h with h | h <;> simp [h]

theorem lt_of_not_lt_of_ne {a b : String} (h : ¬a < b) (hne : a ≠ b) : b < a :=
  String.not_le.mp fun hab => hne (String.le_antisymm hab (String.not_lt.mp h))

theorem sorted_place {b : Binding} :
    ∀ {l : List Binding}, l.Pairwise (·.name < ·.name) → (place b l).Pairwise (·.name < ·.name)
  | [], _ => by simp [place]
  | c :: rest, h => by
    obtain ⟨hc, hr⟩ := List.pairwise_cons.mp h
    unfold place
    split
    · rename_i hlt
      refine List.pairwise_cons.mpr ⟨fun x hx => ?_, h⟩
      rcases List.mem_cons.mp hx with rfl | hx
      · exact hlt
      · exact String.lt_trans hlt (hc x hx)
    · split
      · exact h
      · rename_i hlt hne
        refine List.pairwise_cons.mpr ⟨fun x hx => ?_, sorted_place hr⟩
        rcases eq_or_mem_of_mem_place hx with rfl | hx
        · exact lt_of_not_lt_of_ne hlt hne
        · exact hc x hx

/-- The scope with one more binding, if the name is new to it. -/
def insert (s : Scope) (b : Binding) : Scope := ⟨place b s.bindings, sorted_place s.sorted⟩

end Scope

end RandomPrograms
