import Mathlib.Data.List.Sort
import RandomPrograms.Proofs.Randomness.Draws
import RandomPrograms.Scope.Stack

/-! A scope is a finite map from names to types: `type?` reads it, an insertion changes it at one name, and
    two scopes with the same reading are equal. In a stack, a name stands for the reading of the innermost
    scope that binds it, and a lookup finds a match of the innermost scope that has one; a variable found without
    asking for a type is what its name stands for. -/

namespace RandomPrograms

open Grammar Randomness Draw

/-! ### One scope -/

namespace Scope

variable {s t : Scope} {n m : String} {ty : VarType}

theorem eq_of_name_eq : ∀ {l : List Binding}, l.Pairwise (·.name < ·.name) → ∀ {b c : Binding}, b ∈ l → c ∈ l →
    b.name = c.name → b = c
  | d :: l, h, b, c, hb, hc, hn => by
    obtain ⟨hd, hl⟩ := List.pairwise_cons.mp h
    rcases List.mem_cons.mp hb with rfl | hb' <;> rcases List.mem_cons.mp hc with rfl | hc'
    · rfl
    · exact absurd (hn ▸ hd c hc') (String.lt_irrefl _)
    · exact absurd (hn ▸ hd b hb') (String.lt_irrefl _)
    · exact eq_of_name_eq hl hb' hc' hn

theorem type?_eq_some_iff : s.type? n = some ty ↔ ⟨n, ty⟩ ∈ s.bindings := by
  unfold type?
  rw [Option.map_eq_some_iff]
  constructor
  · rintro ⟨b, hb, rfl⟩
    have hn : b.name = n := by simpa using List.find?_some hb
    subst hn
    exact List.mem_of_find?_eq_some hb
  · intro hb
    obtain ⟨c, hc⟩ := Option.isSome_iff_exists.mp
      (List.find?_isSome (p := (·.name == n)).mpr ⟨_, hb, by simp⟩)
    have hn : c.name = n := by simpa using List.find?_some hc
    have := eq_of_name_eq s.sorted (List.mem_of_find?_eq_some hc) hb hn
    exact ⟨c, hc, by rw [this]⟩

theorem binds_eq_false_iff : s.binds n = false ↔ s.type? n = none := by
  simp [binds]

theorem binds_eq_true_iff : s.binds n = true ↔ ∃ t, ⟨n, t⟩ ∈ s.bindings := by
  simp only [binds, Option.isSome_iff_exists, type?_eq_some_iff]

theorem ext_type? (h : s.type? = t.type?) : s = t := by
  have hmem : ∀ b, b ∈ s.bindings ↔ b ∈ t.bindings := fun b => by
    rw [← type?_eq_some_iff (n := b.name), ← type?_eq_some_iff (n := b.name), h]
  have : Std.Antisymm fun b c : Binding => b.name < c.name :=
    ⟨fun _ _ h₁ h₂ => absurd (String.lt_trans h₁ h₂) (String.lt_irrefl _)⟩
  have : Std.Irrefl fun b c : Binding => b.name < c.name := ⟨fun _ => String.lt_irrefl _⟩
  have := List.Pairwise.eq_of_mem_iff s.sorted t.sorted hmem
  cases s
  cases t
  simpa using this

theorem mem_place {b x : Binding} : ∀ {l : List Binding}, (∀ c ∈ l, c.name ≠ b.name) →
    (x ∈ place b l ↔ x = b ∨ x ∈ l)
  | [], _ => by simp [place]
  | c :: l, h => by
    have hc : b.name ≠ c.name := fun he => h c (by simp) he.symm
    have ih := mem_place (b := b) (x := x) fun d hd => h d (List.mem_cons_of_mem _ hd)
    unfold place
    rw [if_neg hc]
    split
    · simp
    · rw [List.mem_cons, ih, List.mem_cons]
      exact or_left_comm

theorem mem_insert {b x : Binding} (h : s.binds b.name = false) :
    x ∈ (s.insert b).bindings ↔ x = b ∨ x ∈ s.bindings :=
  mem_place fun c hc he => by
    have := type?_eq_some_iff.mpr hc
    rw [he, binds_eq_false_iff.mp h] at this
    cases this

/-- An insertion changes the reading at the new name only. -/
theorem type?_insert (h : s.binds n = false) :
    (s.insert ⟨n, ty⟩).type? m = if m = n then some ty else s.type? m := by
  refine Option.ext fun t => ?_
  rw [type?_eq_some_iff, mem_insert h]
  by_cases hm : m = n
  · subst hm
    have : ⟨m, t⟩ ∉ s.bindings := fun hb => by
      rw [← type?_eq_some_iff, binds_eq_false_iff.mp h] at hb
      cases hb
    simp [this, eq_comm]
  · simp [hm, type?_eq_some_iff]

/-- The type is the one that is wanted, if one is. -/
def Suits (wanted : Option VarType) (t : VarType) : Prop := ∀ w, wanted = some w → t = w

theorem mem_matching {wanted : Option VarType} {b : Binding} :
    b ∈ s.matching wanted ↔ b ∈ s.bindings ∧ Suits wanted b.type := by
  cases wanted <;> simp [matching, Suits]

end Scope

/-! ### Scopes inside each other -/

namespace ScopeStack

variable {st : ScopeStack}

theorem declare?_eq_some_iff {st' : ScopeStack} {n : String} {ty : VarType} : st.declare? n ty = some st' ↔
    st.inner.binds n = false ∧ st' = { st with inner := st.inner.insert ⟨n, ty⟩ } := by
  unfold declare?
  by_cases h : st.inner.binds n = true
  · simp [h]
  · simp [h, eq_comm]

/-- What a name stands for is bound in some scope. -/
theorem mem_of_resolve {n : String} {ty : VarType} (h : st.resolve n = some ty) :
    ∃ s ∈ st.scopes, ⟨n, ty⟩ ∈ s.bindings := by
  obtain ⟨s, hs, hn⟩ := List.exists_of_findSome?_eq_some h
  exact ⟨s, hs, Scope.type?_eq_some_iff.mp hn⟩

/-- What a lookup in scopes inside each other ends with: a match of the first scope that has any, or nothing where
    no scope has one. -/
def Finds (wanted : Option VarType) (scopes : List Scope) : Option Binding → Prop
  | some b => ∃ inside s outside, scopes = inside ++ s :: outside ∧ (∀ i ∈ inside, i.matching wanted = []) ∧
      b ∈ s.matching wanted
  | none => ∀ s ∈ scopes, s.matching wanted = []

section
variable {wanted : Option VarType} {s : Scope} {inside rest outside : List Scope} {b : Binding}

/-- A scope without a match is passed over. -/
theorem Finds.cons (hs : s.matching wanted = []) : ∀ {o : Option Binding}, Finds wanted rest o →
    Finds wanted (s :: rest) o
  | some _, ⟨inside, t, outside, hscopes, hpassed, hb⟩ =>
    ⟨s :: inside, t, outside, by rw [hscopes, List.cons_append], List.forall_mem_cons.mpr ⟨hs, hpassed⟩, hb⟩
  | none, h => List.forall_mem_cons.mpr ⟨hs, h⟩

theorem firstMatch_finds : ∀ scopes : List Scope, Gives (Finds wanted scopes) (firstMatch wanted scopes)
  | [] => .pure (by simp [Finds])
  | s :: rest => by
    unfold firstMatch
    by_cases hs : s.matching wanted = []
    · rw [hs, choose_nil]
      exact fun r => (firstMatch_finds rest r).cons hs
    · refine (choose_mem hs).bind fun o ho => ?_
      obtain ⟨b, hb, rfl⟩ := ho
      exact .pure ⟨[], s, rest, rfl, by simp, hb⟩

/-- The name of a match stands for its type unless a scope that was passed over binds it: such a scope binds it to
    another type. -/
theorem findSome?_type?_iff (hpassed : ∀ i ∈ inside, i.matching wanted = []) (hb : b ∈ s.matching wanted) :
    (inside ++ s :: outside).findSome? (·.type? b.name) = some b.type ↔ ∀ i ∈ inside, i.binds b.name = false := by
  obtain ⟨hbound, hsuits⟩ := Scope.mem_matching.mp hb
  rw [List.findSome?_append]
  rcases hfound : inside.findSome? (·.type? b.name) with _ | t
  · have hunbound := List.findSome?_eq_none_iff.mp hfound
    have htype : s.type? b.name = some b.type := Scope.type?_eq_some_iff.mpr hbound
    rw [hfound, Option.none_or, List.findSome?_cons_of_isSome (by rw [htype]; rfl)]
    exact ⟨fun _ i hi => Scope.binds_eq_false_iff.mpr (hunbound i hi), fun _ => htype⟩
  · rw [hfound, Option.some_or]
    obtain ⟨i, hi, hit⟩ := List.exists_of_findSome?_eq_some hfound
    have hne : t ≠ b.type := by
      rintro rfl
      have hmatch := Scope.mem_matching.mpr ⟨Scope.type?_eq_some_iff.mp hit, hsuits⟩
      rw [hpassed i hi] at hmatch
      cases hmatch
    have hbinds : i.binds b.name = true := by simp [Scope.binds, hit]
    constructor
    · intro h
      exact absurd (Option.some.inj h) hne
    · intro h
      rw [h i hi] at hbinds
      cases hbinds

end

theorem lookup_finds (st : ScopeStack) (wanted : Option VarType) : Gives (Finds wanted st.scopes) (st.lookup wanted) :=
  firstMatch_finds st.scopes

/-- Where no type is asked for, what is passed over binds nothing, so that a variable is what its name stands for. -/
theorem lookup_gives (st : ScopeStack) : Gives (fun o : Option Binding =>
    match o with
    | some b => st.resolve b.name = some b.type
    | none => ∀ s ∈ st.scopes, s.bindings = []) (st.lookup none) := by
  intro r
  have hfinds := st.lookup_finds none r
  rcases h : (st.lookup none r).1 with _ | b <;> rw [h] at hfinds
  · exact hfinds
  · obtain ⟨inside, s, outside, hscopes, hpassed, hb⟩ := hfinds
    unfold resolve
    rw [hscopes]
    refine (findSome?_type?_iff hpassed hb).mpr fun i hi => ?_
    have hnone : i.bindings = [] := hpassed i hi
    simp [Scope.binds, Scope.type?, hnone]

end ScopeStack

end RandomPrograms
