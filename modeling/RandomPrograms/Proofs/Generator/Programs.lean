import RandomPrograms.Proofs.Generator.Adequacy

/-! A run is a block written from a fresh state: the seed of the run is chosen, the source starts over from
    it, nothing is declared and nothing counted. The scopes are balanced at the end of the block, so that a
    run fails only where its block fails. -/

namespace RandomPrograms

open Grammar Randomness

namespace Generator

theorem new_eq_ok_iff {c : Config} {entropy : UInt64} {g : Generator} : Generator.new c entropy = .ok g ↔
    c.validate = .ok () ∧ g = Generator.start c (c.seed.getD entropy) := by
  unfold Generator.new
  constructor
  · intro h
    rcases hvalid : c.validate with e | _ <;> rw [hvalid] at h
    · cases h
    · exact ⟨rfl, (Except.ok.inj h).symm⟩
  · rintro ⟨hvalid, rfl⟩
    rw [hvalid]
    rfl

variable (g : Generator)

def runSeed : UInt64 := if g.runs = 0 then g.seed else (Draw.word64 g.seeds).1

/-- The source of the seeds of the runs after the next one. -/
def laterSeeds : Source := if g.runs = 0 then g.seeds else (Draw.word64 g.seeds).2

/-- With one more run begun on a source. -/
def beginning (source seeds : Source) : Generator :=
  { g with
    source
    seeds
    runs := g.runs + 1
    scopes := .new
    tally := { Tally.zero with maxDepth := 1 } }

theorem beginning_config (source seeds : Source) : (g.beginning source seeds).config = g.config := rfl

/-- The generator at the beginning of its next run. -/
def begun : Generator := g.beginning (Source.ofSeed g.runSeed) g.laterSeeds

-- Stated for any source first: to compare it with that of `g` would be to expand the seed.
theorem begun_config : g.begun.config = g.config := g.beginning_config _ _

theorem begun_scopes : g.begun.scopes = .new := rfl

theorem begun_depth : g.begun.scopes.depth = 1 := by
  rw [g.begun_scopes]
  rfl

theorem begun_bound : g.begun.bound = g.config.maxIndentLevel.toNat := by
  rw [bound, g.begun_config]

theorem begun_bodyBudget : g.begun.bodyBudget = g.config.blockSizeBudget.toNat := by
  rw [bodyBudget, g.begun_config]

theorem begun_tally : g.begun.tally = { Tally.zero with maxDepth := 1 } := rfl

end Generator

namespace Run

theorem nextSeed_apply (g : Generator) :
    nextSeed g = (.ok g.runSeed, { g with seeds := g.laterSeeds, runs := g.runs + 1 }) := by
  unfold nextSeed Generator.runSeed Generator.laterSeeds
  by_cases h : g.runs = 0
  · simp [h]
  · simp only [if_neg h]
    rcases Draw.word64 g.seeds with ⟨seed, seeds⟩
    rfl

theorem restart_apply (g : Generator) :
    restart g.runSeed { g with seeds := g.laterSeeds, runs := g.runs + 1 } = (.ok (), g.begun) := rfl

theorem depth_of_kept {g g' : Generator} (h : Kept g.begun g') : g'.scopes.depth = 1 := by
  rw [h.depth, g.begun_depth]

theorem balance_of_kept {g g' : Generator} (h : Kept g.begun g') : g'.tally.pushes = g'.tally.pops := by
  have := h.balance
  rw [g.begun_tally] at this
  simpa [Tally.zero] using this

/-- A run ends as its block does, and a program tells what the block and the counters hold. -/
theorem program_apply (budget : Option UInt64) (g : Generator) :
    program budget g = match block (budget.getD g.config.sizeBudget).toNat g.begun with
      | (.ok b, g') => (.ok ⟨b.code, b.statements, g'.tally, g.runSeed⟩, g')
      | (.error e, g') => (.error e, g') := by
  unfold program
  rw [bind_of_ok (nextSeed_apply g), bind_of_ok (restart_apply g), get_bind, bind_apply, g.begun_config]
  rcases hb : block (budget.getD g.config.sizeBudget).toNat g.begun with ⟨e | b, g'⟩
  · simp only
  · have hkept := (fills_of_block hb).kept
    simp only
    rw [get_bind, if_neg]
    · rfl
    · have := depth_of_kept hkept
      have := balance_of_kept hkept
      omega

theorem program_eq_ok {budget : Option UInt64} {g g' : Generator} {p : Program}
    (h : program budget g = (.ok p, g')) :
    Fills (budget.getD g.config.sizeBudget).toNat g.begun ⟨p.statements, p.code⟩ g' ∧ p.tally = g'.tally ∧
      p.seed = g.runSeed := by
  rw [program_apply] at h
  rcases hb : block (budget.getD g.config.sizeBudget).toNat g.begun with ⟨e | ⟨statements, code⟩, g₁⟩ <;> rw [hb] at h
  · cases h
  · obtain ⟨hp, rfl⟩ := Prod.mk.inj h
    obtain rfl := Except.ok.inj hp
    exact ⟨fills_of_block hb, rfl, rfl⟩

theorem program_kept (budget : Option UInt64) (g : Generator) : Kept g.begun (program budget g).2 := by
  rw [program_apply]
  rcases h : block (budget.getD g.config.sizeBudget).toNat g.begun with ⟨e | b, g'⟩
  · exact (breaks_of_block h).kept
  · exact (fills_of_block h).kept

/-- A run that succeeds, for the cases of general facts. -/
theorem program_seed_twelve : ∃ p g', program (some 60) (Generator.withSeed 12) = (.ok p, g') :=
  exists_of_isOk (by decide +kernel)

end Run

end RandomPrograms
