import RandomPrograms.Proofs.Scope.Bindings

/-! What a lookup by type finds. A lookup passes over every scope that has no match, while a name stands for its
    binding in the innermost scope that binds it. So the variable found is what its name stands for unless a scope
    that was passed over binds the name again; this needs a type that is asked for, and another one that hides it. -/

namespace RandomPrograms.ScopeStack

open Grammar Randomness

/-- A variable that is found has the type asked for and belongs to the innermost scope with such a variable. Its name
    stands for that type exactly if no scope inside that one binds the name, so always where no type is asked for.
    Nothing is found only where no name stands for the type asked for. -/
theorem lookup_unless_hidden (st : ScopeStack) (wanted : Option VarType) (r : Source) :
    (∀ b, (st.lookup wanted r).1 = some b → Scope.Suits wanted b.type ∧
      ∃ inside s outside, st.scopes = inside ++ s :: outside ∧ b ∈ s.bindings ∧
        (∀ i ∈ inside, ∀ c ∈ i.bindings, ¬Scope.Suits wanted c.type) ∧
        (st.resolve b.name = some b.type ↔ ∀ i ∈ inside, i.binds b.name = false)) ∧
    (∀ b, (st.lookup none r).1 = some b → st.resolve b.name = some b.type) ∧
    ((st.lookup wanted r).1 = none → ∀ name type, st.resolve name = some type → ¬Scope.Suits wanted type) := by
  have hfinds := st.lookup_finds wanted r
  refine ⟨?_, ?_, ?_⟩
  · intro b hb
    rw [hb] at hfinds
    obtain ⟨inside, s, outside, hscopes, hpassed, hmatch⟩ := hfinds
    obtain ⟨hbound, hsuits⟩ := Scope.mem_matching.mp hmatch
    refine ⟨hsuits, inside, s, outside, hscopes, hbound, ?_, ?_⟩
    · intro i hi c hc hcsuits
      have hcmatch := Scope.mem_matching.mpr ⟨hc, hcsuits⟩
      rw [hpassed i hi] at hcmatch
      cases hcmatch
    · unfold resolve
      rw [hscopes]
      exact findSome?_type?_iff hpassed hmatch
  · intro b hb
    have hgives := st.lookup_gives r
    rwa [hb] at hgives
  · intro hnone name type hresolve hsuits
    rw [hnone] at hfinds
    obtain ⟨s, hs, hbound⟩ := mem_of_resolve hresolve
    have hmatch := Scope.mem_matching.mpr ⟨hbound, hsuits⟩
    rw [hfinds s hs] at hmatch
    cases hmatch

/-- A number `x` of the program's scope is found, though `x` stands for the text in the scope inside it. -/
theorem lookup_finds_hidden : ∃ outer st, new.declare? "x" .number = some outer ∧
    outer.push.declare? "x" .string = some st ∧ (st.lookup (some .number) (Source.ofSeed 1)).1 = some ⟨"x", .number⟩ ∧
    st.resolve "x" = some .string ∧ st.resolve "x" ≠ some .number := by
  refine ⟨⟨Scope.empty.insert ⟨"x", .number⟩, []⟩,
    ⟨Scope.empty.insert ⟨"x", .string⟩, [Scope.empty.insert ⟨"x", .number⟩]⟩, ?_⟩
  decide +kernel

/-- The number `x` is found behind the text `x`, and a scope that was passed over hides it; where no type is asked for
    the text is found; no truth value is found, and none is in scope. -/
theorem lookup_unless_hidden_two_scopes : ∃ st : ScopeStack,
    (st.lookup (some .number) (Source.ofSeed 1)).1 = some ⟨"x", .number⟩ ∧
    (∃ inside s outside, st.scopes = inside ++ s :: outside ∧ ⟨"x", .number⟩ ∈ s.bindings ∧
      ¬∀ i ∈ inside, i.binds "x" = false) ∧
    (st.lookup none (Source.ofSeed 1)).1 = some ⟨"x", .string⟩ ∧ st.resolve "x" = some .string ∧
    (st.lookup (some .boolean) (Source.ofSeed 1)).1 = none ∧ ∀ name, st.resolve name ≠ some .boolean := by
  let st : ScopeStack := ⟨Scope.empty.insert ⟨"x", .string⟩, [Scope.empty.insert ⟨"x", .number⟩]⟩
  have hnumber : (st.lookup (some .number) (Source.ofSeed 1)).1 = some ⟨"x", .number⟩ := by decide +kernel
  have hany : (st.lookup none (Source.ofSeed 1)).1 = some ⟨"x", .string⟩ := by decide +kernel
  have hnone : (st.lookup (some .boolean) (Source.ofSeed 1)).1 = none := by decide +kernel
  obtain ⟨-, inside, s, outside, hscopes, hbound, -, hiff⟩ :=
    (lookup_unless_hidden st (some .number) (Source.ofSeed 1)).1 _ hnumber
  have htext := (lookup_unless_hidden st none (Source.ofSeed 1)).2.1 _ hany
  have hfree := (lookup_unless_hidden st (some .boolean) (Source.ofSeed 1)).2.2 hnone
  refine ⟨st, hnumber, ⟨inside, s, outside, hscopes, hbound, ?_⟩, hany, htext, hnone, ?_⟩
  · intro hopen
    have hnumeric := hiff.mpr hopen
    rw [htext] at hnumeric
    cases hnumeric
  · intro name hname
    exact hfree name .boolean hname fun _ h => Option.some.inj h

end RandomPrograms.ScopeStack
