import RandomPrograms.Proofs.Generator.Budgets
import RandomPrograms.Proofs.Generator.Unbounded

/-! How long generated texts are. A block stops as soon as its budget is filled, so that it exceeds it by less than
    its last statement. The last statement may be a conditional with two bodies, which exceed their own budgets
    in the same way; as each body lies a scope deeper and conditionals stop at the nesting bound, there is a
    bound on the bytes of a statement at each depth, and on those of a program. -/

namespace RandomPrograms

open Grammar Randomness

/-- The most bytes of a statement in a scope at the given depth, with its indentation and the ends of its lines:
    a conditional with two bodies where the depth allows one, else a declaration. -/
def Config.longest (c : Config) (depth : Nat) : Nat :=
  if depth < c.maxIndentLevel.toNat then
    3 * ((depth - 1) * c.indent.utf8ByteSize) + c.maxIdentifierLength.toNat + c.literalBytes + 24 +
      2 * (c.blockSizeBudget.toNat - 1 + c.longest (depth + 1))
  else (depth - 1) * c.indent.utf8ByteSize + c.maxIdentifierLength.toNat + c.literalBytes + 8
termination_by c.maxIndentLevel.toNat - depth

theorem Config.longest_of_lt {c : Config} {depth : Nat} (h : depth < c.maxIndentLevel.toNat) : c.longest depth =
    3 * ((depth - 1) * c.indent.utf8ByteSize) + c.maxIdentifierLength.toNat + c.literalBytes + 24 +
      2 * (c.blockSizeBudget.toNat - 1 + c.longest (depth + 1)) := by
  rw [Config.longest, if_pos h]

/-- At every depth there is room for a declaration. -/
theorem Config.line_le_longest (c : Config) (depth : Nat) :
    (depth - 1) * c.indent.utf8ByteSize + c.maxIdentifierLength.toNat + c.literalBytes + 8 ≤ c.longest depth := by
  rw [Config.longest]
  split <;> omega

/-- The state of a generator while it writes under a configuration: what is bound has a name of the language, and
    no scope lies deeper than the bound. -/
structure Generator.Writing (c : Config) (g : Generator) : Prop where
  config : g.config = c
  named : g.Named
  within : g.scopes.depth ≤ g.bound

namespace Generator.Writing

variable {c : Config} {g g' g₁ : Generator} {source : Source}

theorem opening (h : g.Writing c) (room : g.scopes.depth < g.bound) (source : Source) :
    (g.opening source).Writing c :=
  ⟨h.config, h.named.opening source, room⟩

theorem closing (h : g.Writing c) (hk : Kept (g.opening source) g₁) : (g₁.closing g.scopes).Writing c where
  config := hk.config.trans h.config
  named := h.named.closing hk.config
  within := by
    rw [hk.closing.bound]
    exact h.within

theorem making {s : Statement} (h : g.Writing c) (made : Makes g s g') : g'.Writing c where
  config := made.kept.config.trans h.config
  named := made.named h.named
  within := by
    rw [made.kept.bound, made.kept.depth]
    exact h.within

end Generator.Writing

/-! ### Statements and blocks -/

theorem Grammar.Condition.Asks.utf8ByteSize_le {c : Config} {g : Generator} {cond : Condition}
    (h : cond.Asks g.scopes g.config.limits) (hvalid : c.validate = .ok ()) (hg : g.Writing c) :
    cond.text.utf8ByteSize ≤ c.maxIdentifierLength.toNat + c.literalBytes + 5 := by
  have hspoken := h.spoken hg.named
  rw [hg.config] at hspoken
  exact Condition.utf8ByteSize_le hvalid hspoken

mutual

theorem Makes.utf8ByteSize_le {c : Config} {g g' : Generator} {s : Statement} (hvalid : c.validate = .ok ()) :
    Makes g s g' → g.Writing c → (g.line s).utf8ByteSize + 1 ≤ c.longest g.scopes.depth
  | .declared _ _ _ named fits, hg => by
    have hroom := c.line_le_longest g.scopes.depth
    rw [hg.config] at named fits
    have hname := named.utf8ByteSize_le hvalid
    have hvalue := fits.utf8ByteSize_le hvalid
    rw [g.utf8ByteSize_line, hg.config, Statement.bytes]
    omega
  | .assigned _ visible fits, hg => by
    have hroom := c.line_le_longest g.scopes.depth
    have named := hg.named.resolve visible
    rw [hg.config] at named fits
    have hname := named.utf8ByteSize_le hvalid
    have hvalue := fits.utf8ByteSize_le hvalid
    rw [g.utf8ByteSize_line, hg.config, Statement.bytes]
    omega
  | .suppressed .., hg => by
    have hroom := c.line_le_longest g.scopes.depth
    rw [g.utf8ByteSize_line, hg.config, Statement.bytes]
    omega
  | .ifThen source room asks body, hg => by
    have hcond := asks.utf8ByteSize_le hvalid hg
    have hbody := body.utf8ByteSize_le hvalid (hg.opening room source)
    rw [Generator.bodyBudget, hg.config, g.depth_opening] at hbody
    rw [Generator.bound, hg.config] at room
    rw [g.utf8ByteSize_line, hg.config, Statement.bytes, Config.longest_of_lt room]
    omega
  | .ifElse source room asks body otherwise, hg => by
    have hcond := asks.utf8ByteSize_le hvalid hg
    have hbody := body.utf8ByteSize_le hvalid (hg.opening room source)
    -- The second body is opened from the state that the first one has left, at the same depth.
    have hclosed := hg.closing body.kept
    have hotherwise := otherwise.utf8ByteSize_le hvalid (hclosed.opening (by rw [body.kept.closing.bound]; exact room) _)
    rw [Generator.bodyBudget, hg.config, Generator.depth_opening] at hbody hotherwise
    rw [Generator.depth_closing] at hotherwise
    rw [Generator.bound, hg.config] at room
    rw [g.utf8ByteSize_line, hg.config, Statement.bytes, Config.longest_of_lt room]
    omega

theorem Fills.utf8ByteSize_le {c : Config} {budget : Nat} {g g' : Generator} {b : Block}
    (hvalid : c.validate = .ok ()) : Fills budget g b g' → g.Writing c →
    b.code.utf8ByteSize ≤ max budget 1 - 1 + c.longest g.scopes.depth
  | .last made _, hg => by
    have hmade := made.utf8ByteSize_le hvalid hg
    have hend : "\n".utf8ByteSize = 1 := rfl
    rw [String.utf8ByteSize_append, hend]
    omega
  | .more made short rest, hg => by
    have hrest := rest.utf8ByteSize_le hvalid (hg.making made)
    have hend : "\n".utf8ByteSize = 1 := rfl
    rw [made.kept.depth] at hrest
    rw [String.utf8ByteSize_append, String.utf8ByteSize_append, hend]
    omega

end

/-! ### Programs -/

theorem Generator.writing_begun {g : Generator} (hvalid : g.config.validate = .ok ()) :
    g.begun.Writing g.config where
  config := g.begun_config
  named := g.named_begun
  within := by
    rw [g.begun_scopes, Generator.bound, g.begun_config]
    exact Config.maxIndentLevel_pos hvalid

/-- A run for a usable configuration ends, without a limit on its rounds and its nesting. The text of its program
    fills the budget, and exceeds it by less than the longest statement of the outermost scope. -/
theorem generation_bounded {g : Generator} (hvalid : g.config.validate = .ok ()) (budget : Option UInt64) :
    Unbounded.program budget g = some (Run.program budget g) ∧
    ∀ p g', Run.program budget g = (.ok p, g') →
      (budget.getD g.config.sizeBudget).toNat ≤ p.code.utf8ByteSize ∧
      p.code.utf8ByteSize ≤ max (budget.getD g.config.sizeBudget).toNat 1 - 1 + g.config.longest 1 := by
  refine ⟨Unbounded.program_agrees budget g, ?_⟩
  intro p g' h
  obtain ⟨hfills, -, -⟩ := Run.program_eq_ok h
  have hsize := hfills.utf8ByteSize_le hvalid (Generator.writing_begun hvalid)
  rw [g.begun_scopes] at hsize
  exact ⟨hfills.budget_le, hsize⟩

/-- Under the default configuration the longest statement has 692 bytes. -/
theorem generation_bounded_seed_twelve : (Generator.withSeed 12).config.validate = .ok () ∧
    Unbounded.program (some 60) (Generator.withSeed 12) = some (Run.program (some 60) (Generator.withSeed 12)) ∧
    ∃ p g', Run.program (some 60) (Generator.withSeed 12) = (.ok p, g') ∧ 60 ≤ p.code.utf8ByteSize ∧
      p.code.utf8ByteSize ≤ 59 + 692 := by
  have hvalid : (Generator.withSeed 12).config.validate = .ok () := rfl
  have hlevel : (Generator.withSeed 12).config.maxIndentLevel.toNat = 3 := rfl
  have hdeepest : (Generator.withSeed 12).config.longest 3 = 38 := by
    rw [Config.longest, hlevel]
    rfl
  have hlongest : (Generator.withSeed 12).config.longest 1 = 692 := by
    rw [Config.longest_of_lt (by decide), Config.longest_of_lt (by decide), hdeepest]
    rfl
  obtain ⟨p, g', h⟩ := Run.program_seed_twelve
  obtain ⟨hends, hbounds⟩ := generation_bounded hvalid (some 60)
  obtain ⟨hleast, hmost⟩ := hbounds p g' h
  rw [hlongest] at hmost
  exact ⟨hvalid, hends, p, g', h, hleast, hmost⟩

end RandomPrograms
