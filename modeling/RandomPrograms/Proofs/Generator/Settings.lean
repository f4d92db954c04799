import RandomPrograms.Proofs.Generator.Lockstep

/-! What a program does not depend on. The cap on names tried and the nesting bound cut runs off and do nothing else:
    a run that gives a program gives the same one where more names may be tried, and, if no conditional was left
    out in it, under every nesting bound that its scopes allow. Of the indentation only the bytes matter. -/

namespace RandomPrograms

open Grammar Randomness

/-- A configuration, and the one that it becomes with more names to try, another nesting bound, and another indentation
    of as many bytes. -/
def Twins.ofEq {c c' : Config} {attempts levels : UInt64} {indent : String}
    (h : c' = { c with
      maxIdentifierAttempts := attempts, maxIndentLevel := levels, indent := indent, seed := c'.seed })
    (hattempts : c.maxIdentifierAttempts ≤ attempts) (hindent : indent.utf8ByteSize = c.indent.utf8ByteSize) :
    Twins where
  first := c
  second := c'
  limits := by
    rw [h]
    rfl
  sizeBudget := by rw [h]
  blockSizeBudget := by rw [h]
  indent := by
    rw [h]
    exact hindent
  attempts := by
    rw [h]
    exact UInt64.le_iff_toNat_le.mp hattempts

/-! ### Caps -/

/-- The same program is given to another run of the same seed where at least as many names are tried for each
    declaration, and, if nothing was left out, also where the nesting bound is another one, above or below, that no
    scope of the program goes beyond. -/
theorem caps_cut_off {g : Generator} {budget : Option UInt64} {p : Program} (hp : (Run.program budget g).1 = .ok p) :
    (∀ attempts h, g.config.maxIdentifierAttempts ≤ attempts →
      h.config = { g.config with maxIdentifierAttempts := attempts, seed := h.config.seed } → h.runSeed = g.runSeed →
      (Run.program budget h).1 = .ok p) ∧
    (p.tally.suppressed = 0 → ∀ levels h, p.tally.maxDepth ≤ levels.toNat →
      h.config = { g.config with maxIndentLevel := levels, seed := h.config.seed } → h.runSeed = g.runSeed →
      (Run.program budget h).1 = .ok p) := by
  constructor
  · intro attempts h hattempts hsame hseed
    have hindent : h.config.indent = g.config.indent := by rw [hsame]
    have hlevels : h.config.maxIndentLevel = g.config.maxIndentLevel := by rw [hsame]
    exact Twins.program_eq (w := .ofEq hsame hattempts rfl) rfl rfl hseed hindent (Or.inl hlevels) hp
  · intro hnone levels h hdepth hsame hseed
    have hindent : h.config.indent = g.config.indent := by rw [hsame]
    have hlevels : h.config.maxIndentLevel = levels := by rw [hsame]
    have hroom : p.tally.maxDepth ≤ h.config.maxIndentLevel.toNat := by rwa [hlevels]
    exact Twins.program_eq (w := .ofEq hsame (UInt64.le_refl _) rfl) rfl rfl hseed hindent
      (Or.inr ⟨hnone, hroom, Nat.zero_le _⟩) hp

/-- With names of one letter, one of which is rejected, and no conditional in the scopes at depth 3: two names for each
    declaration are enough, and so are three levels. -/
theorem caps_cut_off_seed_twenty_six : ∃ g p, g = Generator.start { Config.default with
      maxIdentifierLength := 1, blockSizeBudget := 16, maxIndentLevel := 5, maxIdentifierAttempts := 2 } 26 ∧
    (Run.program (some 120) g).1 = .ok p ∧ p.tally.retries = 1 ∧ p.tally.suppressed = 0 ∧ p.tally.maxDepth = 3 ∧
    (Run.program (some 120) { g with config := { g.config with maxIdentifierAttempts := 1000 } }).1 = .ok p ∧
    (Run.program (some 120) { g with config := { g.config with maxIndentLevel := 3 } }).1 = .ok p ∧
    (Run.program (some 120) { g with config := { g.config with maxIndentLevel := 40 } }).1 = .ok p := by
  obtain ⟨p, g', hrun, htally⟩ := Run.exists_of_any (x := Run.program (some 120) (Generator.start { Config.default with
      maxIdentifierLength := 1, blockSizeBudget := 16, maxIndentLevel := 5, maxIdentifierAttempts := 2 } 26))
    (q := fun p => decide (p.tally.retries = 1 ∧ p.tally.suppressed = 0 ∧ p.tally.maxDepth = 3)) (by decide +kernel)
  obtain ⟨hretries, hnone, hdepth⟩ := of_decide_eq_true htally
  obtain ⟨hattempts, hlevels⟩ := caps_cut_off (congrArg Prod.fst hrun)
  refine ⟨_, p, rfl, congrArg Prod.fst hrun, hretries, hnone, hdepth, ?_, ?_, ?_⟩
  · exact hattempts 1000 _ (by decide) rfl rfl
  · exact hlevels hnone 3 _ (by rw [hdepth]; decide) rfl rfl
  · exact hlevels hnone 40 _ (by rw [hdepth]; decide) rfl rfl

/-! ### Indentation -/

/-- Runs of one seed with indentations of as many bytes fail alike, with the same counters, or give programs that have
    the same counters, as many bytes, and the same statements but for the texts of their bodies. -/
theorem indent_counts_by_bytes {g h : Generator} {budget : Option UInt64}
    (hsame : h.config = { g.config with indent := h.config.indent, seed := h.config.seed })
    (hseed : h.runSeed = g.runSeed) (hsize : h.config.indent.utf8ByteSize = g.config.indent.utf8ByteSize) :
    (∃ e, (Run.program budget g).1 = .error e ∧ (Run.program budget h).1 = .error e ∧
      (Run.program budget h).2.tally = (Run.program budget g).2.tally) ∨
    ∃ p q, (Run.program budget g).1 = .ok p ∧ (Run.program budget h).1 = .ok q ∧ q.tally = p.tally ∧ q.seed = p.seed ∧
      q.code.utf8ByteSize = p.code.utf8ByteSize ∧ eraseAll q.statements = eraseAll p.statements := by
  have hattempts : h.config.maxIdentifierAttempts = g.config.maxIdentifierAttempts := by rw [hsame]
  have hlevels : h.config.maxIndentLevel = g.config.maxIndentLevel := by rw [hsame]
  have hpermits : (Twins.ofEq hsame (UInt64.le_refl _) hsize).Permits (Run.program budget g) :=
    Twins.permits_of_caps hattempts hlevels
  obtain ⟨hend, htally⟩ := Twins.program_along rfl rfl hseed budget hpermits
  rcases hx : (Run.program budget g).1 with e | p <;> rcases hy : (Run.program budget h).1 with e' | q <;>
    rw [hx, hy] at hend
  · exact Or.inl ⟨e, rfl, congrArg Except.error (Except.error.inj hend), htally⟩
  · cases hend
  · cases hend
  · obtain ⟨hmeasured, hrest⟩ := Prod.mk.inj (Except.ok.inj hend)
    obtain ⟨herase, hbytes⟩ := Prod.mk.inj hmeasured
    obtain ⟨htallies, hseeds⟩ := Prod.mk.inj hrest
    rw [Block.erase_eq, Block.erase_eq] at herase
    exact Or.inr ⟨p, q, rfl, rfl, htallies, hseeds, hbytes, congrArg Block.statements herase⟩

/-- Two blanks, and the blank of two bytes that breaks no line: a program with a conditional in a body, and a run that
    fails as its names have one letter and are tried once. -/
theorem indent_counts_by_bytes_no_break :
    (∃ p q, (Run.program (some 12) (Generator.start { Config.default with blockSizeBudget := 12 } 0)).1 = .ok p ∧
      (Run.program (some 12) (Generator.start
        { Config.default with blockSizeBudget := 12, indent := "\u00a0" } 0)).1 = .ok q ∧
      q.code.utf8ByteSize = p.code.utf8ByteSize ∧ eraseAll q.statements = eraseAll p.statements ∧
      q.statements ≠ p.statements) ∧
    ∃ e, (Run.program (some 60) (Generator.start
        { Config.default with maxIdentifierLength := 1, maxIdentifierAttempts := 1 } 12)).1 = .error e ∧
      (Run.program (some 60) (Generator.start
        { Config.default with maxIdentifierLength := 1, maxIdentifierAttempts := 1, indent := "\u00a0" } 12)).1 =
          .error e := by
  constructor
  · have hother : (Run.program (some 12) (Generator.start
          { Config.default with blockSizeBudget := 12, indent := "\u00a0" } 0)).1.toOption.map (·.statements) ≠
        (Run.program (some 12) (Generator.start { Config.default with blockSizeBudget := 12 } 0)).1.toOption.map
          (·.statements) := by decide +kernel
    rcases @indent_counts_by_bytes (Generator.start { Config.default with blockSizeBudget := 12 } 0)
      (Generator.start { Config.default with blockSizeBudget := 12, indent := "\u00a0" } 0) (some 12) rfl rfl (by decide)
      with ⟨e, hx, hy, -⟩ | ⟨p, q, hx, hy, -, -, hbytes, herase⟩
    · rw [hx, hy] at hother
      exact absurd rfl hother
    · rw [hx, hy] at hother
      exact ⟨p, q, hx, hy, hbytes, herase, fun hpq => hother (congrArg some hpq)⟩
  · have hfails : (Run.program (some 60) (Generator.start
        { Config.default with maxIdentifierLength := 1, maxIdentifierAttempts := 1 } 12)).1.isOk = false := by
      decide +kernel
    rcases @indent_counts_by_bytes
      (Generator.start { Config.default with maxIdentifierLength := 1, maxIdentifierAttempts := 1 } 12)
      (Generator.start
        { Config.default with maxIdentifierLength := 1, maxIdentifierAttempts := 1, indent := "\u00a0" } 12)
      (some 60) rfl rfl (by decide) with ⟨e, hx, hy, -⟩ | ⟨p, q, hx, -⟩
    · exact ⟨e, hx, hy⟩
    · rw [hx] at hfails
      cases hfails

end RandomPrograms
