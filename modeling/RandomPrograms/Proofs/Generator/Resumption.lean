import RandomPrograms.Proofs.Generator.Counters
import RandomPrograms.Proofs.Generator.Replay

/-! A block that is long enough for one budget is how a block for a greater budget begins. The budget is looked at
    only after a statement, to tell whether another one follows, so that the longer block goes on from the state
    in which the shorter one ends. So with a smaller budget a run of the same seed gives a prefix of the program,
    and a run that fails with a smaller budget fails with a greater one. -/

namespace RandomPrograms

open Grammar Randomness

def Grammar.Block.append (b c : Block) : Block := ⟨b.statements ++ c.statements, b.code ++ c.code⟩

/-! ### Counters

No counter ever falls within a run. -/

/-- No counter is less in `t'` than in `t`. -/
structure Tally.Grows (t t' : Tally) : Prop where
  declarations : t.declarations ≤ t'.declarations
  assignments : t.assignments ≤ t'.assignments
  ifs : t.ifs ≤ t'.ifs
  ifElses : t.ifElses ≤ t'.ifElses
  suppressed : t.suppressed ≤ t'.suppressed
  pushes : t.pushes ≤ t'.pushes
  pops : t.pops ≤ t'.pops
  retries : t.retries ≤ t'.retries
  maxDepth : t.maxDepth ≤ t'.maxDepth

/-- The counters of nodes and of scopes grow by what is made; those that a tree does not show are given. -/
theorem Counted.grows {t t' : Tally} {ns : List Shape} (h : Counted t t' ns) (hretries : t.retries ≤ t'.retries)
    (hdepth : t.maxDepth ≤ t'.maxDepth) : t.Grows t' where
  declarations := h.declarations ▸ Nat.le_add_right ..
  assignments := h.assignments ▸ Nat.le_add_right ..
  ifs := h.ifs ▸ Nat.le_add_right ..
  ifElses := h.ifElses ▸ Nat.le_add_right ..
  suppressed := h.suppressed ▸ Nat.le_add_right ..
  pushes := h.pushes ▸ Nat.le_add_right ..
  pops := h.pops ▸ Nat.le_add_right ..
  retries := hretries
  maxDepth := hdepth

mutual

theorem Makes.retries_and_maxDepth_le {g g' : Generator} {s : Statement} :
    Makes g s g' → g.tally.retries ≤ g'.tally.retries ∧ g.tally.maxDepth ≤ g'.tally.maxDepth
  | .declared .. => ⟨Nat.le_add_right .., Nat.le_refl _⟩
  | .assigned .. => ⟨Nat.le_refl _, Nat.le_refl _⟩
  | .suppressed .. => ⟨Nat.le_refl _, Nat.le_refl _⟩
  | .ifThen source _ _ body => by
    obtain ⟨hretries, hdepth⟩ := body.retries_and_maxDepth_le
    exact ⟨hretries, Nat.le_trans (Nat.le_max_left ..) hdepth⟩
  | .ifElse source _ _ body otherwise => by
    obtain ⟨hretries, hdepth⟩ := body.retries_and_maxDepth_le
    obtain ⟨hretries', hdepth'⟩ := otherwise.retries_and_maxDepth_le
    have hfirst := Nat.le_trans (Nat.le_max_left ..) hdepth
    have hsecond := Nat.le_trans (Nat.le_max_left ..) hdepth'
    exact ⟨Nat.le_trans hretries hretries', Nat.le_trans hfirst hsecond⟩

theorem Fills.retries_and_maxDepth_le {budget : Nat} {g g' : Generator} {b : Block} :
    Fills budget g b g' → g.tally.retries ≤ g'.tally.retries ∧ g.tally.maxDepth ≤ g'.tally.maxDepth
  | .last made _ => made.retries_and_maxDepth_le
  | .more made _ rest => by
    obtain ⟨hretries, hdepth⟩ := made.retries_and_maxDepth_le
    obtain ⟨hretries', hdepth'⟩ := rest.retries_and_maxDepth_le
    exact ⟨Nat.le_trans hretries hretries', Nat.le_trans hdepth hdepth'⟩

end

theorem Fills.grows {budget : Nat} {g g' : Generator} {b : Block} (h : Fills budget g b g') :
    g.tally.Grows g'.tally :=
  h.counted.grows h.retries_and_maxDepth_le.1 h.retries_and_maxDepth_le.2

/-! ### Going on after a block -/

namespace Run

theorem ofLines_append (ls ms : List (Statement × String)) : ofLines (ls ++ ms) = (ofLines ls).append (ofLines ms) := by
  simp [ofLines, Block.append, String.join_append]

/-- What is still owed after the lines for a smaller budget is written after them. -/
theorem lines_resume (next : Run Statement) {owed owed' : Nat} (h : owed ≤ owed') : lines next owed' = (do
    let ls ← lines next owed
    if (ofLines ls).code.utf8ByteSize < owed' then
      let more ← lines next (owed' - (ofLines ls).code.utf8ByteSize)
      return ls ++ more
    else return ls) := by
  induction owed using Nat.strong_induction_on generalizing owed' with
  | _ owed ih =>
    rw [lines, lines.eq_1 next owed, bind_assoc]
    congr 1
    refine funext ?_
    rintro ⟨s, text⟩
    have hone : (ofLines [(s, text)]).code.utf8ByteSize = text.utf8ByteSize + 1 := utf8ByteSize_ofLines_cons s text []
    dsimp only
    by_cases hshort : text.utf8ByteSize + 1 < owed
    · rw [if_pos hshort, if_pos (Nat.lt_of_lt_of_le hshort h),
        ih (owed - (text.utf8ByteSize + 1)) (by omega) (Nat.sub_le_sub_right h _)]
      simp only [bind_assoc, pure_bind]
      congr 1
      funext ls
      rw [utf8ByteSize_ofLines_cons]
      by_cases hmore : text.utf8ByteSize + 1 + (ofLines ls).code.utf8ByteSize < owed'
      · rw [if_pos hmore, if_pos (by omega), Nat.sub_sub]
        simp only [bind_assoc, pure_bind, List.cons_append]
      · rw [if_neg hmore, if_neg (by omega), pure_bind]
    · rw [if_neg hshort, pure_bind, hone]
      rfl

theorem fill_eq (next : Run Statement) (budget : Nat) : fill next budget = (do
    let ls ← lines next budget
    return ofLines ls) := rfl

theorem fill_resume (next : Run Statement) {budget budget' : Nat} (h : budget ≤ budget') : fill next budget' = (do
    let b ← fill next budget
    if b.code.utf8ByteSize < budget' then
      let more ← fill next (budget' - b.code.utf8ByteSize)
      return b.append more
    else return b) := by
  rw [fill_eq, lines_resume next h, fill_eq]
  simp only [bind_assoc, pure_bind]
  congr 1
  funext ls
  by_cases hmore : (ofLines ls).code.utf8ByteSize < budget'
  · simp only [if_pos hmore, bind_assoc, pure_bind, fill_eq, ofLines_append]
  · simp only [if_neg hmore, pure_bind]

/-- A block ends as a block with a smaller budget and what is still owed after it. -/
theorem block_resume {budget budget' : Nat} (h : budget ≤ budget') : block budget' = (do
    let b ← block budget
    if b.code.utf8ByteSize < budget' then
      let more ← block (budget' - b.code.utf8ByteSize)
      return b.append more
    else return b) := by
  funext g
  have hfill : ∀ (n : Nat) (g : Generator),
      block n g = fill (statement (conditionalWithin (g.bound - g.scopes.depth))) n g := fun _ _ => rfl
  rw [hfill, fill_resume _ h, bind_apply, bind_apply, ← hfill]
  rcases hb : block budget g with ⟨e | b, g₁⟩
  · rfl
  · have hkept := (fills_of_block hb).kept
    dsimp only
    by_cases hmore : b.code.utf8ByteSize < budget'
    · -- As many levels are left as at the beginning, so that the same statements follow.
      rw [if_pos hmore, if_pos hmore, bind_apply, bind_apply, hfill, hkept.bound, hkept.depth]
    · rw [if_neg hmore, if_neg hmore]

/-- A run goes on from its block where a run with a smaller budget ends. -/
theorem program_resume {small large : UInt64} (h : small ≤ large) : program (some large) = (do
    let p ← program (some small)
    if p.code.utf8ByteSize < large.toNat then
      let more ← block (large.toNat - p.code.utf8ByteSize)
      let g ← get
      return ⟨p.code ++ more.code, p.statements ++ more.statements, g.tally, p.seed⟩
    else return p) := by
  funext g
  rw [program_apply, bind_apply, program_apply, Option.getD_some, Option.getD_some,
    block_resume (UInt64.le_iff_toNat_le.mp h), bind_apply]
  rcases block small.toNat g.begun with ⟨e | b, g₁⟩
  · rfl
  · dsimp only
    by_cases hmore : b.code.utf8ByteSize < large.toNat
    · rw [if_pos hmore, if_pos hmore, bind_apply, bind_apply]
      rcases block (large.toNat - b.code.utf8ByteSize) g₁ with ⟨e | more, g₂⟩ <;> rfl
    · rw [if_neg hmore, if_neg hmore]
      rfl

end Run

/-! ### Budgets -/

/-- One program begins as the other, statement by statement and byte by byte, and counts no more than it. -/
structure Program.Begins (p q : Program) : Prop where
  statements : p.statements <+: q.statements
  code : p.code.toList <+: q.code.toList
  tally : p.tally.Grows q.tally

theorem Program.Begins.refl (p : Program) : p.Begins p :=
  ⟨List.prefix_refl _, List.prefix_refl _, ⟨Nat.le_refl _, Nat.le_refl _, Nat.le_refl _, Nat.le_refl _, Nat.le_refl _,
    Nat.le_refl _, Nat.le_refl _, Nat.le_refl _, Nat.le_refl _⟩⟩

/-- Two runs with the same configuration and the same seed, of whatever generators. If the one with the greater
    budget gives a program, then the other one gives a beginning of it, and all of it if that fills the greater
    budget too; if the one with the smaller budget fails, so does the other, with the same error. -/
theorem smaller_budget_begins {g h : Generator} {small large : Option UInt64}
    (hsame : h.config.withSeed h.runSeed = g.config.withSeed g.runSeed)
    (hle : small.getD g.config.sizeBudget ≤ large.getD h.config.sizeBudget) :
    (∀ q, (Run.program large h).1 = .ok q → ∃ p, (Run.program small g).1 = .ok p ∧ p.Begins q ∧
      ((large.getD h.config.sizeBudget).toNat ≤ p.code.utf8ByteSize → p = q)) ∧
    ∀ e, (Run.program small g).1 = .error e → (Run.program large h).1 = .error e := by
  have hseed : h.runSeed = g.runSeed := Option.some.inj (congrArg Config.seed hsame)
  rw [Run.program_replay large h, Run.program_replay small g, hsame, hseed, Run.program_resume hle, Run.bind_apply]
  rcases hp : Run.program (some (small.getD g.config.sizeBudget))
    (Generator.start (g.config.withSeed g.runSeed) g.runSeed) with ⟨e | p, g₁⟩
  · refine ⟨?_, fun e' he' => he'⟩
    intro q hq
    cases hq
  · obtain ⟨-, htally, -⟩ := Run.program_eq_ok hp
    refine ⟨?_, fun e he => by cases he⟩
    intro q hq
    dsimp only at hq
    by_cases hmore : p.code.utf8ByteSize < (large.getD h.config.sizeBudget).toNat
    · rw [if_pos hmore, Run.bind_apply] at hq
      rcases hb : Run.block ((large.getD h.config.sizeBudget).toNat - p.code.utf8ByteSize) g₁ with ⟨e | more, g₂⟩ <;>
        rw [hb] at hq
      · cases hq
      · obtain rfl := Except.ok.inj hq
        have hgrows := (Run.fills_of_block hb).grows
        rw [← htally] at hgrows
        refine ⟨p, rfl, ⟨List.prefix_append .., ?_, hgrows⟩, fun henough => absurd hmore (Nat.not_lt.mpr henough)⟩
        rw [String.toList_append]
        exact List.prefix_append ..
    · rw [if_neg hmore] at hq
      obtain rfl := Except.ok.inj hq
      exact ⟨p, rfl, .refl p, fun _ => rfl⟩

/-- A program of at least 12 bytes begins the one of at least 60 bytes that another generator makes from its own
    seed; with names of one letter, tried once, the run for 60 bytes fails, and so does that for 512. -/
theorem smaller_budget_begins_seed_twelve :
    (∃ p q, (Run.program (some 12) (Generator.start Config.default 12)).1 = .ok p ∧
      (Run.program (some 60) (Generator.withSeed 12)).1 = .ok q ∧ p.Begins q ∧ p ≠ q) ∧
    ∃ e, (Run.program (some 60) (Generator.start
        { Config.default with maxIdentifierLength := 1, maxIdentifierAttempts := 1 } 12)).1 = .error e ∧
      (Run.program none (Generator.start
        { Config.default with maxIdentifierLength := 1, maxIdentifierAttempts := 1 } 12)).1 = .error e := by
  constructor
  · obtain ⟨q, g', hq⟩ := Run.program_seed_twelve
    have hq' := congrArg Prod.fst hq
    obtain ⟨p, hp, hbegins, -⟩ := (@smaller_budget_begins (Generator.start Config.default 12) (Generator.withSeed 12)
      (some 12) (some 60) rfl (by decide)).1 q hq'
    have hlengths : (Run.program (some 12) (Generator.start Config.default 12)).1.toOption.map (·.statements.length) ≠
        (Run.program (some 60) (Generator.withSeed 12)).1.toOption.map (·.statements.length) := by decide +kernel
    rw [hp, hq'] at hlengths
    exact ⟨p, q, hp, hq', hbegins, fun hpq => hlengths (by rw [hpq])⟩
  · obtain ⟨e, he⟩ := exists_error (x := (Run.program (some 60) (Generator.start
      { Config.default with maxIdentifierLength := 1, maxIdentifierAttempts := 1 } 12)).1) (by decide +kernel)
    exact ⟨e, he, (@smaller_budget_begins _ _ (some 60) none rfl (by decide)).2 e he⟩

end RandomPrograms
