import RandomPrograms.Proofs.Config.Usable
import RandomPrograms.Proofs.Generator.Bodies
import RandomPrograms.Proofs.Generator.Programs

/-! How deep conditionals lie. A conditional is made where the scopes have not reached the nesting bound, and left
    out where they have; each body is one scope deeper than the block of its conditional. So the bodies of a block
    stay within the bound, if the block itself does, and what stands for a conditional left out lies on it. -/

namespace RandomPrograms

open Grammar Randomness

/-! ### Statements -/

section
variable {g g' : Generator} {s : Statement}

theorem Makes.depth_lt_bound (h : Makes g s g') (hs : s.isConditional = true) : g.scopes.depth < g.bound := by
  cases h with
  | declared | assigned | suppressed => cases hs
  | ifThen source room => exact room
  | ifElse source room => exact room

theorem Makes.bound_le_depth (h : Makes g .empty g') : g.bound ≤ g.scopes.depth := by
  cases h with
  | suppressed source deep => exact deep

end

/-! ### Blocks -/

section
variable {budget levels : Nat} {g g' : Generator} {s : Statement} {b c : Block}

theorem Fills.conditional_depth_lt (h : Fills budget g b g') (hs : StandsAt levels s b.statements)
    (hcond : s.isConditional = true) : g.scopes.depth + levels < g.bound := by
  obtain ⟨h₁, _, hmade, hconfig, hdepth⟩ := h.stands hs
  have hlt := hmade.depth_lt_bound hcond
  rwa [hdepth, Generator.bound, hconfig] at hlt

theorem Fills.bound_le_empty_depth (h : Fills budget g b g') (hs : StandsAt levels .empty b.statements) :
    g.bound ≤ g.scopes.depth + levels := by
  obtain ⟨h₁, _, hmade, hconfig, hdepth⟩ := h.stands hs
  have hle := hmade.bound_le_depth
  rwa [hdepth, Generator.bound, hconfig] at hle

/-- A body is one scope deeper than a conditional, which is above the bound. -/
theorem Fills.body_depth_le (h : Fills budget g b g') (hc : BodyAt levels c b.statements) :
    g.scopes.depth + levels ≤ g.bound := by
  obtain ⟨above, s, rfl, hs, hmem⟩ := hc.exists_owner
  exact h.conditional_depth_lt hs (Statement.isConditional_of_mem_bodies hmem)

/-- Where the block is within the bound, so are its bodies, and what was left out lies on the bound itself. -/
theorem Fills.empty_depth_eq (h : Fills budget g b g') (hg : g.scopes.depth ≤ g.bound)
    (hs : StandsAt levels .empty b.statements) : g.scopes.depth + levels = g.bound := by
  refine Nat.le_antisymm ?_ (h.bound_le_empty_depth hs)
  cases hs with
  | top => exact hg
  | inside hc => exact h.body_depth_le hc

end

/-! ### The greatest depth that is counted -/

mutual

theorem Makes.maxDepth_le {g g' : Generator} {s : Statement} :
    Makes g s g' → g.tally.maxDepth ≤ g.bound → g'.tally.maxDepth ≤ g.bound
  | .declared .., hg => hg
  | .assigned .., hg => hg
  | .suppressed .., hg => hg
  | .ifThen _ room _ body, hg => body.maxDepth_le (Nat.max_le.mpr ⟨hg, room⟩)
  | .ifElse _ room _ body otherwise, hg => by
    have hfirst := body.maxDepth_le (Nat.max_le.mpr ⟨hg, room⟩)
    have hbound := body.kept.closing.bound
    have hsecond := otherwise.maxDepth_le (Nat.max_le.mpr ⟨hbound ▸ hfirst, hbound ▸ room⟩)
    rwa [Generator.bound_opening, hbound] at hsecond

theorem Fills.maxDepth_le {budget : Nat} {g g' : Generator} {b : Block} :
    Fills budget g b g' → g.tally.maxDepth ≤ g.bound → g'.tally.maxDepth ≤ g.bound
  | .last made _, hg => made.maxDepth_le hg
  | .more made _ rest, hg => by
    have hbound := made.kept.bound
    have hrest := rest.maxDepth_le (hbound ▸ made.maxDepth_le hg)
    rwa [hbound] at hrest

end

/-! ### Blocks and programs -/

/-- A block that begins on the bound or beyond it has no conditional; the bodies of any other block stay within the
    bound. In a program, whose scope has depth 1, conditionals stand above the bound, what was left out stands on
    it, and no scope was opened beyond it. -/
theorem nesting_bound_exact :
    (∀ budget g b g', Run.block budget g = (.ok b, g') →
      (g.config.maxIndentLevel.toNat ≤ g.scopes.depth →
        ∀ levels s, StandsAt levels s b.statements → s.isConditional = false) ∧
      (g.scopes.depth < g.config.maxIndentLevel.toNat →
        ∀ levels c, BodyAt levels c b.statements → g.scopes.depth + levels ≤ g.config.maxIndentLevel.toNat)) ∧
    ∀ budget g p g', g.config.validate = .ok () → Run.program budget g = (.ok p, g') →
      (∀ levels s, StandsAt levels s p.statements →
        (s.isConditional = true → 1 + levels < g.config.maxIndentLevel.toNat) ∧
        (s = .empty → 1 + levels = g.config.maxIndentLevel.toNat)) ∧
      p.tally.maxDepth ≤ g.config.maxIndentLevel.toNat := by
  constructor
  · intro budget g b g' h
    have hfills := Run.fills_of_block h
    refine ⟨?_, fun _ levels c hc => hfills.body_depth_le hc⟩
    intro hdeep levels s hs
    refine Bool.eq_false_iff.mpr fun hcond => ?_
    have hlt : g.scopes.depth + levels < g.config.maxIndentLevel.toNat := hfills.conditional_depth_lt hs hcond
    omega
  · intro budget g p g' hvalid h
    have hpos := Config.maxIndentLevel_pos hvalid
    obtain ⟨hfills, htally, -⟩ := Run.program_eq_ok h
    rw [← g.begun_bound] at hpos ⊢
    rw [htally, ← g.begun_depth]
    refine ⟨fun levels s hs => ⟨?_, ?_⟩, ?_⟩
    · exact hfills.conditional_depth_lt hs
    · rintro rfl
      exact hfills.empty_depth_eq (by rw [g.begun_depth]; exact hpos) hs
    · exact hfills.maxDepth_le (by rw [g.begun_tally]; exact hpos)

/-- Under the default bound of 3, a block in the third scope has no conditional; a program has one in the body of
    another, and in the bodies of that one a conditional was left out. -/
theorem nesting_bound_exact_seed_twelve :
    (∃ b g', Run.block 60 { Generator.withSeed 12 with scopes := ScopeStack.new.push.push } = (.ok b, g') ∧
      ∀ levels s, StandsAt levels s b.statements → s.isConditional = false) ∧
    (Generator.withSeed 12).config.validate = .ok () ∧
    ∃ p g' s, Run.program (some 60) (Generator.withSeed 12) = (.ok p, g') ∧ StandsAt 1 s p.statements ∧
      s.isConditional = true ∧ StandsAt 2 .empty p.statements ∧ 1 + 1 < 3 ∧ 1 + 2 = 3 ∧ p.tally.maxDepth ≤ 3 := by
  constructor
  · obtain ⟨b, g', h⟩ := Run.exists_of_isOk (x := Run.block 60 { Generator.withSeed 12 with
      scopes := ScopeStack.new.push.push }) (by decide +kernel)
    exact ⟨b, g', h, (nesting_bound_exact.1 _ _ _ _ h).1 (by decide)⟩
  · have hvalid : (Generator.withSeed 12).config.validate = .ok () := rfl
    obtain ⟨p, g', h, hsome⟩ := Run.exists_of_any (x := Run.program (some 60) (Generator.withSeed 12))
      (q := fun p => p.statements.any fun s => s.bodies.any fun c => c.statements.any fun t =>
        t.bodies.any fun d => decide (.empty ∈ d.statements)) (by decide +kernel)
    obtain ⟨s, hs, hsome⟩ := List.any_eq_true.mp hsome
    obtain ⟨c, hc, hsome⟩ := List.any_eq_true.mp hsome
    obtain ⟨t, ht, hsome⟩ := List.any_eq_true.mp hsome
    obtain ⟨d, hd, hempty⟩ := List.any_eq_true.mp hsome
    have hinner : StandsAt 1 t p.statements := .inside (.here hs hc) ht
    have hleft : StandsAt 2 .empty p.statements := .inside (.deeper hs hc (.here ht hd)) (of_decide_eq_true hempty)
    have hcond := Statement.isConditional_of_mem_bodies hd
    obtain ⟨hplaces, hmax⟩ := nesting_bound_exact.2 _ _ _ _ hvalid h
    exact ⟨hvalid, p, g', t, h, hinner, hcond, hleft, (hplaces 1 t hinner).1 hcond, (hplaces 2 _ hleft).2 rfl, hmax⟩

end RandomPrograms
