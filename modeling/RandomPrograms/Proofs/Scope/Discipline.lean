import RandomPrograms.Proofs.Generator.Counters

/-! What a call does to the scopes, whether it succeeds or fails, and whatever scopes it is begun in. The scopes
    around the innermost one come back as they were and the innermost one keeps its bindings; each scope opened
    is closed again, also where a declaration found no name in the middle of a body. That no name was found is
    the only way to fail: no scope is closed too often, and none is left open. -/

namespace RandomPrograms

open Grammar Randomness

/-! ### Opened and closed scopes -/

/-- As many scopes were closed as opened. -/
def Paired (t t' : Tally) : Prop := ∃ n, t'.pushes = t.pushes + n ∧ t'.pops = t.pops + n

namespace Paired

variable {t t₁ t₂ : Tally}

theorem refl (t : Tally) : Paired t t := ⟨0, rfl, rfl⟩

theorem trans (h₁ : Paired t t₁) (h₂ : Paired t₁ t₂) : Paired t t₂ := by
  obtain ⟨n, hpush, hpop⟩ := h₁
  obtain ⟨m, hpush', hpop'⟩ := h₂
  exact ⟨n + m, by rw [hpush', hpush, Nat.add_assoc], by rw [hpop', hpop, Nat.add_assoc]⟩

/-- A scope of its own, opened before and closed after. -/
theorem closing {g g₁ : Generator} {source : Source} (h : Paired (g.opening source).tally g₁.tally)
    (scopes : ScopeStack) : Paired g.tally (g₁.closing scopes).tally := by
  obtain ⟨n, hpush, hpop⟩ := h
  refine ⟨n + 1, ?_, ?_⟩
  · show g₁.tally.pushes = _
    rw [hpush]
    show g.tally.pushes + 1 + n = _
    omega
  · show g₁.tally.pops + 1 = _
    rw [hpop]
    rfl

end Paired

theorem Counted.paired {t t' : Tally} {ns : List Shape} (h : Counted t t' ns) : Paired t t' := ⟨_, h.pushes, h.pops⟩

/-! ### Where something fails -/

variable {g g' : Generator} {e : Error}

theorem Breaks.paired (h : Breaks g e g') : Paired g.tally g'.tally := by
  induction h with
  | exhausted source => exact .refl _
  | later made breaks ih => exact made.counted.paired.trans ih
  | inThen source breaks ih => exact ih.closing _
  | inElse source body breaks ih => exact (body.counted.paired.closing _).trans (ih.closing _)

theorem Breaks.error (h : Breaks g e g') : e = .identifierExhausted g.config.maxIdentifierAttempts.toNat := by
  induction h with
  | exhausted source => rfl
  | later made breaks ih => rw [ih, made.kept.config]
  | inThen source breaks ih => exact ih
  | inElse source body breaks ih =>
    have hconfig := body.kept.closing.config
    rw [ih]
    exact congrArg (fun c : Config => Error.identifierExhausted c.maxIdentifierAttempts.toNat) hconfig

/-! ### Calls -/

/-- However the call ends: what it has done to the scopes and to their count, and why it failed if it did. -/
structure Disciplined {α : Type} (call : Run α) (g : Generator) : Prop where
  depth : (call g).2.scopes.depth = g.scopes.depth
  outer : (call g).2.scopes.outer = g.scopes.outer
  inner : g.scopes.inner.bindings ⊆ (call g).2.scopes.inner.bindings
  paired : Paired g.tally (call g).2.tally
  error : ∀ e, (call g).1 = .error e → e = .identifierExhausted g.config.maxIdentifierAttempts.toNat

theorem Ends.disciplined {α : Type} {call : Run α} {M : α → Generator → Prop} (h : Ends M g (call g))
    (hkept : ∀ a g', M a g' → Kept g g') (hpaired : ∀ a g', M a g' → Paired g.tally g'.tally) :
    Disciplined call g := by
  have hk := h.kept hkept
  refine ⟨hk.depth, hk.outer, hk.inner, ?_, ?_⟩
  · rcases hc : call g with ⟨e | a, g'⟩ <;> rw [hc] at h
    · exact Breaks.paired h
    · exact hpaired a g' h
  · intro e he
    rcases hc : call g with ⟨e' | a, g'⟩ <;> rw [hc] at h he
    · obtain rfl := Except.error.inj he
      exact Breaks.error h
    · cases he

theorem disciplined_of_makes {call : Run Statement} (h : Ends (Makes g) g (call g)) : Disciplined call g :=
  h.disciplined (fun _ _ => Makes.kept) fun _ _ made => made.counted.paired

/-- Whatever scopes are open and whatever has been counted: each call that makes a statement or a block keeps the
    scopes in order; a conditional, and a declaration that fails, leave them as they were; a run ends with one
    scope open and as many closed as opened. All of them can fail only for want of a name. -/
theorem calls_disciplined (g : Generator) :
    (∀ budget, Disciplined (Run.block budget) g) ∧ (∀ type, Disciplined (Run.declaration type) g) ∧
    Disciplined Run.assignment g ∧ (∀ kind, Disciplined (Run.conditional kind) g) ∧
    (∀ kind, (Run.conditional kind g).2.scopes = g.scopes) ∧
    (∀ type e, (Run.declaration type g).1 = .error e → (Run.declaration type g).2.scopes = g.scopes) ∧
    (∀ budget e, (Run.program budget g).1 = .error e →
      e = .identifierExhausted g.config.maxIdentifierAttempts.toNat) ∧
    ∀ budget, (Run.program budget g).2.scopes.depth = 1 ∧
      (Run.program budget g).2.tally.pushes = (Run.program budget g).2.tally.pops := by
  refine ⟨?_, ?_, ?_, ?_, ?_, ?_, ?_, ?_⟩
  · intro budget
    exact (Run.block_ends budget g).disciplined (fun _ _ => Fills.kept) fun _ _ fills => fills.counted.paired
  · intro type
    exact disciplined_of_makes (Run.declaration_ends type g)
  · exact disciplined_of_makes (Run.assignment_ends g)
  · intro kind
    exact disciplined_of_makes (Run.conditional_ends kind g)
  · intro kind
    exact Run.conditional_scopes kind g
  · intro type e he
    exact Run.scopes_of_declaration_error (Prod.ext he rfl)
  · intro budget e he
    rw [Run.program_apply] at he
    rcases hb : Run.block (budget.getD g.config.sizeBudget).toNat g.begun with ⟨e' | b, g'⟩ <;> rw [hb] at he
    · obtain rfl := Except.error.inj he
      have herror := (Run.breaks_of_block hb).error
      rwa [g.begun_config] at herror
    · cases he
  · intro budget
    have hkept := Run.program_kept budget g
    exact ⟨Run.depth_of_kept hkept, Run.balance_of_kept hkept⟩

/-- The one name tried is bound already in the inner one of two scopes, and a run of the same generator fails in
    the middle of its program. -/
theorem calls_disciplined_one_letter : ∃ g : Generator, g.scopes.depth = 2 ∧
    (Run.declaration .number g).1 = .error (.identifierExhausted 1) ∧
    (Run.declaration .number g).2.scopes = g.scopes ∧
    (Run.program (some 60) g).1 = .error (.identifierExhausted 1) ∧ (Run.program (some 60) g).2.scopes.depth = 1 := by
  let g : Generator := { Generator.start
    { Config.default with maxIdentifierLength := 1, maxIdentifierAttempts := 1 } 12 with
      scopes := ⟨Scope.empty.insert ⟨"I", .string⟩, [.empty]⟩ }
  have hall := calls_disciplined g
  obtain ⟨e, he⟩ := exists_error (x := (Run.declaration .number g).1) (by decide +kernel)
  obtain ⟨e', he'⟩ := exists_error (x := (Run.program (some 60) g).1) (by decide +kernel)
  obtain ⟨-, hdeclaration, -, -, -, hsame, hrun, hend⟩ := hall
  have hnone : e = .identifierExhausted 1 := (hdeclaration .number).error e he
  have hnone' : e' = .identifierExhausted 1 := hrun (some 60) e' he'
  subst hnone hnone'
  exact ⟨g, rfl, he, hsame .number _ he, he', (hend (some 60)).1⟩

end RandomPrograms
