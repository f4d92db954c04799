import Mathlib.Algebra.Order.Floor.Div
import RandomPrograms.Proofs.Grammar.Lengths

/-! Budgets of blocks. A block ends with the statement that fills its budget: it has at least as many bytes, and
    without its last statement it has fewer. As each statement takes a line of its own, indented, there are only
    so many of them. -/

namespace RandomPrograms

open Grammar Randomness

/-- At some level, the block fills the budget with its last statement and not before. -/
structure Filled (indent : String) (level budget : Nat) (b : Block) : Prop where
  nonempty : b.statements ≠ []
  code : b.code = render indent level b.statements
  enough : budget ≤ b.code.utf8ByteSize
  unfinished : 1 < b.statements.length → (render indent level b.statements.dropLast).utf8ByteSize < budget
  most : 1 ≤ budget → b.statements.length ≤ budget ⌈/⌉ (level * indent.utf8ByteSize + 1)
  single : budget = 0 → b.statements.length = 1

section
variable {indent : String} {level budget : Nat} {g g' : Generator} {b : Block}

theorem utf8ByteSize_render_cons (s : Statement) (ss : List Statement) :
    (render indent level (s :: ss)).utf8ByteSize = level * indent.utf8ByteSize +
      (s.render indent level).utf8ByteSize + 1 + (render indent level ss).utf8ByteSize := by
  rw [render, String.utf8ByteSize_append, String.utf8ByteSize_append, String.utf8ByteSize_append, utf8ByteSize_tab]
  rfl

theorem length_mul_le_utf8ByteSize_render (ss : List Statement) :
    ss.length * (level * indent.utf8ByteSize + 1) ≤ (render indent level ss).utf8ByteSize := by
  induction ss with
  | nil => rw [List.length_nil, Nat.zero_mul]; exact Nat.zero_le _
  | cons s ss ih =>
    rw [List.length_cons, Nat.succ_mul, utf8ByteSize_render_cons]
    omega

theorem Fills.budget_le (h : Fills budget g b g') : budget ≤ b.code.utf8ByteSize := by
  have hend : "\n".utf8ByteSize = 1 := rfl
  induction h using Fills.statement_induction with
  | last made enough =>
    rw [String.utf8ByteSize_append, hend]
    exact enough
  | more made short rest ih =>
    rw [String.utf8ByteSize_append, String.utf8ByteSize_append, hend]
    omega

/-- A budget of 0 counts as 1 here: any statement fills it. -/
theorem Fills.unfinished (h : Fills budget g b g') :
    (render g.config.indent g.level b.statements.dropLast).utf8ByteSize < max budget 1 := by
  induction h using Fills.statement_induction with
  | last made enough =>
    rw [List.dropLast_singleton, render]
    exact Nat.lt_of_lt_of_le Nat.one_pos (Nat.le_max_right ..)
  | @more budget g g₁ g' s b made short rest ih =>
    have hline : (g.line s).utf8ByteSize = g.level * g.config.indent.utf8ByteSize +
        (s.render g.config.indent g.level).utf8ByteSize := by
      rw [Generator.line, String.utf8ByteSize_append, made.text, g.indentation_eq, utf8ByteSize_tab]
    rw [made.kept.config, made.kept.level] at ih
    rw [List.dropLast_cons_of_ne_nil rest.statements_ne_nil, utf8ByteSize_render_cons]
    omega

theorem Fills.filled (h : Fills budget g b g') : Filled g.config.indent g.level budget b := by
  have hunfinished := h.unfinished
  have hpos : 0 < b.statements.length := List.length_pos_iff.mpr h.statements_ne_nil
  have hk : 0 < g.level * g.config.indent.utf8ByteSize + 1 := Nat.succ_pos _
  have hlines := @length_mul_le_utf8ByteSize_render g.config.indent g.level b.statements.dropLast
  have hcount := Nat.le_trans (Nat.le_mul_of_pos_right _ hk) hlines
  rw [List.length_dropLast] at hlines hcount
  refine ⟨h.statements_ne_nil, h.code, h.budget_le, fun _ => by omega, fun hbudget => ?_, fun _ => by omega⟩
  -- One statement fewer leaves the budget unfilled, so that the quotient is more than those.
  have hmore : b.statements.length - 1 < budget ⌈/⌉ (g.level * g.config.indent.utf8ByteSize + 1) := by
    refine Nat.lt_of_not_le fun hfew => ?_
    have hfilled := (ceilDiv_le_iff_le_mul hk).mp hfew
    rw [Nat.mul_comm] at hfilled
    omega
  omega

end

/-! ### Blocks and programs -/

/-- A body fills the budget of bodies, as many levels deeper as it lies. -/
theorem Fills.body_filled {budget levels : Nat} {g g' : Generator} {b c : Block} (h : Fills budget g b g')
    (hc : BodyAt levels c b.statements) : Filled g.config.indent (g.level + levels) g.bodyBudget c := by
  obtain ⟨h₁, h₁', hfills, hconfig, hdepth⟩ := h.body hc
  have hlevel : h₁.level = g.level + levels := by
    unfold Generator.level ScopeStack.depth at *
    omega
  have hfilled := hfills.filled
  rwa [hconfig, hlevel] at hfilled

/-- Each block fills its budget, and goes on no longer than that takes: a block that is asked for, a program with
    the budget of its run, and every body inside them with the budget of bodies. -/
theorem blocks_filled :
    (∀ budget g b g', Run.block budget g = (.ok b, g') → Filled g.config.indent (g.scopes.depth - 1) budget b ∧
      ∀ levels c, BodyAt levels c b.statements →
        Filled g.config.indent (g.scopes.depth - 1 + levels) g.config.blockSizeBudget.toNat c) ∧
    ∀ budget g p g', Run.program budget g = (.ok p, g') →
      Filled g.config.indent 0 (budget.getD g.config.sizeBudget).toNat ⟨p.statements, p.code⟩ ∧
      ∀ levels c, BodyAt levels c p.statements →
        Filled g.config.indent levels g.config.blockSizeBudget.toNat c := by
  constructor
  · intro budget g b g' h
    have hfills := Run.fills_of_block h
    exact ⟨hfills.filled, fun levels c hc => hfills.body_filled hc⟩
  · intro budget g p g' h
    obtain ⟨hfills, -, -⟩ := Run.program_eq_ok h
    have hfilled := hfills.filled
    have hbodies := fun levels c (hc : BodyAt levels c p.statements) => hfills.body_filled hc
    rw [g.level_begun, g.begun_config] at hfilled
    rw [g.level_begun, Generator.bodyBudget, g.begun_config] at hbodies
    refine ⟨hfilled, ?_⟩
    intro levels c hc
    have hbody := hbodies levels c hc
    rwa [Nat.zero_add] at hbody

/-- A program with a conditional, whose body fills the default budget of 64 bytes. -/
theorem blocks_filled_seed_twelve : ∃ p g' s c, Run.program (some 60) (Generator.withSeed 12) = (.ok p, g') ∧
    s ∈ p.statements ∧ c ∈ s.bodies ∧ Filled "  " 0 60 ⟨p.statements, p.code⟩ ∧ Filled "  " 1 64 c := by
  obtain ⟨p, g', h, hsome⟩ := Run.exists_of_any (x := Run.program (some 60) (Generator.withSeed 12))
    (q := fun p => p.statements.any fun s => !s.bodies.isEmpty) (by decide +kernel)
  obtain ⟨s, hs, hbodies⟩ := List.any_eq_true.mp hsome
  obtain ⟨c, hc⟩ := List.exists_mem_of_ne_nil s.bodies (by simpa using hbodies)
  obtain ⟨hfilled, hbody⟩ := blocks_filled.2 _ _ _ _ h
  exact ⟨p, g', s, c, h, hs, hc, hfilled, hbody 1 c (.here hs hc)⟩

end RandomPrograms
