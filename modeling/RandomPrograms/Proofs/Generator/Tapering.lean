import RandomPrograms.Proofs.Generator.Budgets
import RandomPrograms.Proofs.Generator.Counters

/-! The shape of bodies, and how much of a program they make. A conditional is longer than its first body, which
    fills the budget of bodies; so a body that has come to a conditional is filled too, and ends with it.
    Conditionals inside each other lie along the last statements of bodies: each has at most one conditional in each
    body, down to the nesting bound, which limits the scopes that it opens and with them the statements. -/

namespace RandomPrograms

open Grammar Randomness

/-- The conditionals among some statements, those in their bodies left aside. -/
def conditionalsAmong (ss : List Statement) : Nat := ss.countP (·.isConditional)

theorem conditionalsAmong_cons (s : Statement) (ss : List Statement) :
    conditionalsAmong (s :: ss) = conditionalsAmong [s] + conditionalsAmong ss := by
  unfold conditionalsAmong
  rw [← List.countP_append, List.singleton_append]

theorem conditionalsAmong_cons_of_pos {s : Statement} {ss : List Statement} (h : s.isConditional = true) :
    conditionalsAmong (s :: ss) = conditionalsAmong ss + 1 := List.countP_cons_of_pos h

theorem conditionalsAmong_cons_of_neg {s : Statement} {ss : List Statement} (h : s.isConditional = false) :
    conditionalsAmong (s :: ss) = conditionalsAmong ss := List.countP_cons_of_neg (Bool.eq_false_iff.mp h)

theorem Generator.bodyBudget_opening (g : Generator) (source : Source) :
    (g.opening source).bodyBudget = g.bodyBudget := rfl

theorem Kept.bodyBudget {g g' : Generator} (h : Kept g g') : g'.bodyBudget = g.bodyBudget := by
  unfold Generator.bodyBudget
  rw [h.config]

/-! ### A conditional fills a body -/

section
variable {g g' : Generator} {s : Statement} {b : Block} {budget : Nat}

/-- Beside its first body a conditional has a condition, its braces and the ends of two lines. -/
theorem Makes.bodyBudget_le_line (h : Makes g s g') (hs : s.isConditional = true) :
    g.bodyBudget + 14 ≤ (g.line s).utf8ByteSize + 1 := by
  cases h with
  | declared | assigned | suppressed => cases hs
  | @ifThen _ _ c b source room asks body =>
    have hfilled := body.budget_le
    have hcond := c.four_le_utf8ByteSize
    rw [g.utf8ByteSize_line, Statement.bytes]
    omega
  | @ifElse _ _ _ c b o source room asks body otherwise =>
    have hfilled := body.budget_le
    have hcond := c.four_le_utf8ByteSize
    rw [g.utf8ByteSize_line, Statement.bytes]
    omega

/-- What leaves something of a body to be filled is no conditional. -/
theorem Makes.not_conditional_of_short (h : Makes g s g') (hbudget : budget ≤ g.bodyBudget)
    (short : (g.line s).utf8ByteSize + 1 < budget) : s.isConditional = false := by
  refine Bool.eq_false_iff.mpr fun hs => ?_
  have hline := h.bodyBudget_le_line hs
  omega

theorem Fills.conditional_last {before after : List Statement} (h : Fills budget g b g')
    (hbudget : budget ≤ g.bodyBudget) (hb : b.statements = before ++ s :: after) (hs : s.isConditional = true) :
    after = [] := by
  induction h using Fills.statement_induction generalizing before with
  | last made enough =>
    cases before with
    | nil => exact (List.cons.inj hb).2.symm
    | cons t before => exact absurd (List.cons.inj hb).2.symm (by simp)
  | more made short rest ih =>
    cases before with
    | nil =>
      obtain ⟨rfl, -⟩ := List.cons.inj hb
      rw [made.not_conditional_of_short hbudget short] at hs
      cases hs
    | cons t before => exact ih (by rw [made.kept.bodyBudget]; omega) (List.cons.inj hb).2

/-- All conditionals of a block but the last one are followed by others, so that they do not fill it. -/
theorem Fills.conditionals_short (h : Fills budget g b g') (hone : 1 ≤ conditionalsAmong b.statements) :
    (conditionalsAmong b.statements - 1) * (g.bodyBudget + 14) < max budget 1 := by
  induction h using Fills.statement_induction with
  | @last budget g g' s made enough =>
    have hmost : conditionalsAmong [s] ≤ 1 := List.countP_le_length
    rw [Nat.sub_eq_zero_of_le hmost, Nat.zero_mul]
    omega
  | @more budget g g₁ g' s b made short rest ih =>
    rw [made.kept.bodyBudget] at ih
    rcases hs : s.isConditional with _ | _
    · rw [conditionalsAmong_cons_of_neg hs] at hone ⊢
      have hrest := ih hone
      omega
    · have hline := made.bodyBudget_le_line hs
      rw [conditionalsAmong_cons_of_pos hs, Nat.add_sub_cancel]
      rcases hmore : conditionalsAmong b.statements with _ | n
      · rw [Nat.zero_mul]
        omega
      · have hrest := ih (by omega)
        rw [hmore, Nat.add_sub_cancel] at hrest
        rw [Nat.succ_mul]
        omega

end

/-! ### Bodies

With `k` more scopes that may be opened, a conditional has at most `2 ^ (k + 1) - 2` bodies inside it: its own, one
or two, and in each of them those of at most one conditional. -/

/-- The bodies that belong to nodes of these shapes. -/
def bodyCount (ns : List Shape) : Nat := ns.count .ifThen + 2 * ns.count .ifElse

theorem bodyCount_append (ns ms : List Shape) : bodyCount (ns ++ ms) = bodyCount ns + bodyCount ms := by
  simp only [bodyCount, List.count_append]
  omega

theorem bodyCount_ifThen (ns : List Shape) : bodyCount (.ifThen :: ns) = bodyCount ns + 1 := by
  simp only [bodyCount, List.count_cons, beq_iff_eq, reduceCtorEq, ↓reduceIte]
  omega

theorem bodyCount_ifElse (ns : List Shape) : bodyCount (.ifElse :: ns) = bodyCount ns + 2 := by
  simp only [bodyCount, List.count_cons, beq_iff_eq, reduceCtorEq, ↓reduceIte]
  omega

theorem Grammar.Statement.bodyCount_eq_zero {s : Statement} (hs : s.isConditional = false) : bodyCount s.nodes = 0 := by
  cases s with
  | declaration | assignment | empty =>
    rw [Statement.nodes]
    rfl
  | ifThen | ifElse => cases hs

/-- One scope deeper there are half as many. -/
theorem two_pow_levels {bound depth : Nat} (room : depth < bound) :
    2 ^ (bound - depth + 1) = 2 * 2 ^ (bound - (depth + 1) + 1) := by
  rw [show bound - depth = bound - (depth + 1) + 1 by omega, Nat.pow_succ, Nat.mul_comm]

mutual

theorem Makes.bodyCount_le {g g' : Generator} {s : Statement} :
    Makes g s g' → bodyCount s.nodes + 2 ≤ 2 ^ (g.bound - g.scopes.depth + 1)
  | .declared .. => by
    rw [Statement.bodyCount_eq_zero rfl]
    exact Nat.le_pow (Nat.succ_pos _)
  | .assigned .. => by
    rw [Statement.bodyCount_eq_zero rfl]
    exact Nat.le_pow (Nat.succ_pos _)
  | .suppressed .. => by
    rw [Statement.bodyCount_eq_zero rfl]
    exact Nat.le_pow (Nat.succ_pos _)
  | .ifThen source room _ body => by
    have hbody := body.bodyCount_le (Nat.le_refl _)
    have hpos := Nat.two_pow_pos (g.bound - (g.scopes.depth + 1) + 1)
    rw [g.bound_opening, g.depth_opening] at hbody
    rw [Statement.nodes, Block.nodes_eq, bodyCount_ifThen, two_pow_levels room]
    omega
  | .ifElse source room _ body otherwise => by
    have hkept := body.kept.closing
    have hbody := body.bodyCount_le (Nat.le_refl _)
    have hsecond := otherwise.bodyCount_le (Nat.le_of_eq hkept.bodyBudget.symm)
    rw [g.bound_opening, g.depth_opening] at hbody
    rw [Generator.bound_opening, hkept.bound, Generator.depth_opening, hkept.depth] at hsecond
    rw [Statement.nodes, Block.nodes_eq, Block.nodes_eq, bodyCount_ifElse, bodyCount_append, two_pow_levels room]
    omega

theorem Fills.bodyCount_le {budget : Nat} {g g' : Generator} {b : Block} :
    Fills budget g b g' → budget ≤ g.bodyBudget →
      bodyCount (nodesOf b.statements) + 2 ≤ 2 ^ (g.bound - g.scopes.depth + 1)
  | .last made _, _ => by
    rw [nodesOf, nodesOf, List.append_nil]
    exact made.bodyCount_le
  | .more made short rest, hbudget => by
    have hkept := made.kept
    have hnone := made.not_conditional_of_short hbudget short
    have hrest := rest.bodyCount_le (by rw [hkept.bodyBudget]; omega)
    rw [hkept.bound, hkept.depth] at hrest
    rw [nodesOf, bodyCount_append, Statement.bodyCount_eq_zero hnone, Nat.zero_add]
    exact hrest

end

theorem Makes.bodyCount_le_mul {g g' : Generator} {s : Statement} (h : Makes g s g') :
    bodyCount s.nodes ≤ conditionalsAmong [s] * (2 ^ (g.bound - g.scopes.depth + 1) - 2) := by
  rcases hs : s.isConditional with _ | _
  · rw [Statement.bodyCount_eq_zero hs]
    exact Nat.zero_le _
  · have hbodies := h.bodyCount_le
    rw [conditionalsAmong_cons_of_pos hs, conditionalsAmong, List.countP_nil, Nat.zero_add, Nat.one_mul]
    omega

/-- A block of any budget may have several conditionals. -/
theorem Fills.bodyCount_le_mul {budget : Nat} {g g' : Generator} {b : Block} (h : Fills budget g b g') :
    bodyCount (nodesOf b.statements) ≤
      conditionalsAmong b.statements * (2 ^ (g.bound - g.scopes.depth + 1) - 2) := by
  induction h using Fills.statement_induction with
  | last made enough =>
    rw [nodesOf, nodesOf, List.append_nil]
    exact made.bodyCount_le_mul
  | @more _ g _ _ s b made short rest ih =>
    have hmade := made.bodyCount_le_mul
    rw [made.kept.bound, made.kept.depth] at ih
    rw [nodesOf, bodyCount_append, conditionalsAmong_cons s b.statements, Nat.add_mul]
    exact Nat.add_le_add hmade ih

/-! ### Statements

Each body holds as many statements as its budget has bytes, or fewer. -/

mutual

theorem Makes.length_nodes_le {g g' : Generator} {s : Statement} :
    Makes g s g' → 1 ≤ g.bodyBudget → s.nodes.length ≤ 1 + bodyCount s.nodes * g.bodyBudget
  | .declared .., _ => Nat.le_add_right ..
  | .assigned .., _ => Nat.le_add_right ..
  | .suppressed .., _ => Nat.le_add_right ..
  | .ifThen source _ _ body, hpos => by
    have hbody := body.length_nodes_le hpos
    rw [g.bodyBudget_opening] at hbody
    rw [Statement.nodes, Block.nodes_eq, bodyCount_ifThen, List.length_cons, Nat.succ_mul]
    omega
  | .ifElse source room _ body otherwise, hpos => by
    have hkept := body.kept.closing
    have hbody := body.length_nodes_le hpos
    have hsecond := otherwise.length_nodes_le (by rw [Generator.bodyBudget_opening, hkept.bodyBudget]; exact hpos)
    rw [g.bodyBudget_opening] at hbody
    rw [Generator.bodyBudget_opening, hkept.bodyBudget] at hsecond
    rw [Statement.nodes, Block.nodes_eq, Block.nodes_eq, bodyCount_ifElse, bodyCount_append, List.length_cons,
      List.length_append, Nat.add_mul, Nat.add_mul]
    omega

theorem Fills.length_nodes_le {budget : Nat} {g g' : Generator} {b : Block} :
    Fills budget g b g' → 1 ≤ g.bodyBudget →
      (nodesOf b.statements).length ≤ max budget 1 + bodyCount (nodesOf b.statements) * g.bodyBudget
  | .last made _, hpos => by
    have hmade := made.length_nodes_le hpos
    rw [nodesOf, nodesOf, List.append_nil]
    omega
  | .more made short rest, hpos => by
    have hmade := made.length_nodes_le hpos
    have hrest := rest.length_nodes_le (by rw [made.kept.bodyBudget]; exact hpos)
    rw [made.kept.bodyBudget] at hrest
    rw [nodesOf, List.length_append, bodyCount_append, Nat.add_mul]
    omega

end

/-! ### Programs -/

/-- In a body a conditional is the last statement, however deep the body lies. The conditionals of the outermost
    block without the last one do not fill the budget of the run; there are only so many scopes for each of them as
    the nesting bound allows, and in each scope only so many statements as the budget of bodies has bytes. -/
theorem bodies_taper {g g' : Generator} {budget : Option UInt64} {p : Program} (hvalid : g.config.validate = .ok ())
    (h : Run.program budget g = (.ok p, g')) :
    (∀ levels c, BodyAt levels c p.statements → ∀ before s after, c.statements = before ++ s :: after →
      s.isConditional = true → after = []) ∧
    (1 ≤ conditionalsAmong p.statements → (conditionalsAmong p.statements - 1) *
      (g.config.blockSizeBudget.toNat + 14) < max (budget.getD g.config.sizeBudget).toNat 1) ∧
    p.tally.pushes ≤ conditionalsAmong p.statements * (2 ^ g.config.maxIndentLevel.toNat - 2) ∧
    p.tally.statements ≤ max (budget.getD g.config.sizeBudget).toNat 1 +
      conditionalsAmong p.statements * (2 ^ g.config.maxIndentLevel.toNat - 2) * g.config.blockSizeBudget.toNat := by
  obtain ⟨hfills, -, -⟩ := Run.program_eq_ok h
  have hlevels : g.begun.bound - g.begun.scopes.depth + 1 = g.config.maxIndentLevel.toNat := by
    have hpos := Config.maxIndentLevel_pos hvalid
    rw [g.begun_depth, g.begun_bound]
    omega
  have hpos : 1 ≤ g.begun.bodyBudget := by
    rw [g.begun_bodyBudget]
    exact Config.blockSizeBudget_pos hvalid
  have hshort := hfills.conditionals_short
  have hbodies := hfills.bodyCount_le_mul
  have hnodes := hfills.length_nodes_le hpos
  rw [g.begun_bodyBudget] at hshort hnodes
  rw [hlevels] at hbodies
  have hpushes : p.tally.pushes = bodyCount (nodesOf p.statements) := by
    rw [Run.tally_eq_ofTree h]
    rfl
  have hstatements : p.tally.statements = (nodesOf p.statements).length := by
    rw [Run.tally_eq_ofTree h, Tally.statements_ofTree]
  refine ⟨?_, hshort, ?_, ?_⟩
  · intro levels c hc before s after hsplit hs
    obtain ⟨h₁, _, hinner, hconfig, -⟩ := hfills.body hc
    exact hinner.conditional_last (by rw [Generator.bodyBudget, Generator.bodyBudget, hconfig]) hsplit hs
  · rw [hpushes]
    exact hbodies
  · rw [hstatements]
    exact Nat.le_trans hnodes (Nat.add_le_add_left (Nat.mul_le_mul_right _ hbodies) _)

/-- Two conditionals at the top, of which one has a conditional in a body: one conditional of 78 bytes and more leaves
    250 bytes unfilled, and there are at most 12 scopes and 1018 statements. -/
theorem bodies_taper_seed_seven : (Generator.withSeed 7).config.validate = .ok () ∧
    ∃ p g' c before s after, Run.program (some 250) (Generator.withSeed 7) = (.ok p, g') ∧
      BodyAt 1 c p.statements ∧ c.statements = before ++ s :: after ∧ s.isConditional = true ∧ after = [] ∧
      conditionalsAmong p.statements = 2 ∧ (2 - 1) * (64 + 14) < 250 ∧ p.tally.pushes ≤ 2 * (2 ^ 3 - 2) ∧
      p.tally.statements ≤ 250 + 2 * (2 ^ 3 - 2) * 64 := by
  have hvalid : (Generator.withSeed 7).config.validate = .ok () := rfl
  obtain ⟨p, g', h, hsome⟩ := Run.exists_of_any (x := Run.program (some 250) (Generator.withSeed 7))
    (q := fun p => decide (conditionalsAmong p.statements = 2) &&
      p.statements.any fun s => s.bodies.any fun c => c.statements.any (·.isConditional)) (by decide +kernel)
  obtain ⟨htwo, hsome⟩ := (Bool.and_eq_true _ _).mp hsome
  obtain ⟨t, ht, hsome⟩ := List.any_eq_true.mp hsome
  obtain ⟨c, hc, hsome⟩ := List.any_eq_true.mp hsome
  obtain ⟨s, hs, hcond⟩ := List.any_eq_true.mp hsome
  obtain ⟨before, after, hsplit⟩ := List.append_of_mem hs
  have htwo : conditionalsAmong p.statements = 2 := of_decide_eq_true htwo
  obtain ⟨hlast, hshort, hpushes, hstatements⟩ := bodies_taper hvalid h
  rw [htwo] at hshort hpushes hstatements
  exact ⟨hvalid, p, g', c, before, s, after, h, .here ht hc, hsplit, hcond,
    hlast 1 c (.here ht hc) before s after hsplit hcond, htwo, hshort (by decide), hpushes, hstatements⟩

end RandomPrograms
