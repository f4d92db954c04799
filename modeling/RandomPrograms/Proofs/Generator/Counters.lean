import RandomPrograms.Proofs.Generator.Programs
import RandomPrograms.Proofs.Grammar.Nodes

/-! The counters of a run count the nodes of its tree. What is made adds to each counter as many as there are
    nodes of its shape, at whatever depth, and opens and closes a scope for each body. The greatest depth seen
    is that of the innermost body. -/

namespace RandomPrograms

open Grammar Randomness

/-! ### Numbers of nodes -/

/-- From counters `t` to `t'`, nodes of just these shapes were made, and their bodies opened and closed. -/
structure Counted (t t' : Tally) (ns : List Shape) : Prop where
  declarations : t'.declarations = t.declarations + ns.count .declaration
  assignments : t'.assignments = t.assignments + ns.count .assignment
  ifs : t'.ifs = t.ifs + ns.count .ifThen
  ifElses : t'.ifElses = t.ifElses + ns.count .ifElse
  suppressed : t'.suppressed = t.suppressed + ns.count .empty
  pushes : t'.pushes = t.pushes + (ns.count .ifThen + 2 * ns.count .ifElse)
  pops : t'.pops = t.pops + (ns.count .ifThen + 2 * ns.count .ifElse)

namespace Counted

variable {t t₁ t₂ : Tally} {ns ms : List Shape}

theorem append (h₁ : Counted t t₁ ns) (h₂ : Counted t₁ t₂ ms) : Counted t t₂ (ns ++ ms) where
  declarations := by rw [h₂.declarations, h₁.declarations, List.count_append, Nat.add_assoc]
  assignments := by rw [h₂.assignments, h₁.assignments, List.count_append, Nat.add_assoc]
  ifs := by rw [h₂.ifs, h₁.ifs, List.count_append, Nat.add_assoc]
  ifElses := by rw [h₂.ifElses, h₁.ifElses, List.count_append, Nat.add_assoc]
  suppressed := by rw [h₂.suppressed, h₁.suppressed, List.count_append, Nat.add_assoc]
  pushes := by
    rw [h₂.pushes, h₁.pushes, List.count_append, List.count_append]
    omega
  pops := by
    rw [h₂.pops, h₁.pops, List.count_append, List.count_append]
    omega

end Counted

section
variable {g g₁ g₂ : Generator} {source source' : Source} {scopes scopes' : ScopeStack} {ns ms : List Shape}

/-- A conditional is counted after its body, whose scope was opened before the body and closed after it. -/
theorem Counted.ifThen (h : Counted (g.opening source).tally g₁.tally ns) :
    Counted g.tally ((g₁.closing scopes).counting fun t => { t with ifs := t.ifs + 1 }).tally (.ifThen :: ns) := by
  obtain ⟨hd, ha, hi, hie, hs, hpush, hpop⟩ := h
  simp only [Generator.opening] at hd ha hi hie hs hpush hpop
  constructor <;> simp only [Generator.closing, Generator.counting, List.count_cons, beq_iff_eq, reduceCtorEq,
    ↓reduceIte] <;> omega

theorem Counted.ifElse (h₁ : Counted (g.opening source).tally g₁.tally ns)
    (h₂ : Counted ((g₁.closing scopes).opening source').tally g₂.tally ms) :
    Counted g.tally ((g₂.closing scopes').counting fun t => { t with ifElses := t.ifElses + 1 }).tally
      (.ifElse :: (ns ++ ms)) := by
  obtain ⟨hd, ha, hi, hie, hs, hpush, hpop⟩ := h₁
  obtain ⟨hd', ha', hi', hie', hs', hpush', hpop'⟩ := h₂
  simp only [Generator.opening, Generator.closing] at hd ha hi hie hs hpush hpop hd' ha' hi' hie' hs' hpush' hpop'
  constructor <;> simp only [Generator.closing, Generator.counting, List.count_cons, List.count_append, beq_iff_eq,
    reduceCtorEq, ↓reduceIte] <;> omega

end

mutual

theorem Makes.counted {g g' : Generator} {s : Statement} : Makes g s g' → Counted g.tally g'.tally s.nodes
  | .declared .. => ⟨rfl, rfl, rfl, rfl, rfl, rfl, rfl⟩
  | .assigned .. => ⟨rfl, rfl, rfl, rfl, rfl, rfl, rfl⟩
  | .suppressed .. => ⟨rfl, rfl, rfl, rfl, rfl, rfl, rfl⟩
  | .ifThen _ _ _ body => by
    rw [Statement.nodes, Block.nodes_eq]
    exact .ifThen body.counted
  | .ifElse _ _ _ body otherwise => by
    rw [Statement.nodes, Block.nodes_eq, Block.nodes_eq]
    exact .ifElse body.counted otherwise.counted

theorem Fills.counted {budget : Nat} {g g' : Generator} {b : Block} :
    Fills budget g b g' → Counted g.tally g'.tally (nodesOf b.statements)
  | .last made _ => by
    rw [nodesOf, nodesOf, List.append_nil]
    exact made.counted
  | .more made _ rest => by
    rw [nodesOf]
    exact made.counted.append rest.counted

end

/-! ### The greatest depth

Where the scopes are no deeper than the greatest depth seen, which is so from the start of a run on. -/

namespace Generator

variable {g : Generator}

theorem maxDepth_opening (source : Source) :
    (g.opening source).tally.maxDepth = max g.tally.maxDepth (g.scopes.depth + 1) := rfl

theorem maxDepth_closing (scopes : ScopeStack) : (g.closing scopes).tally.maxDepth = g.tally.maxDepth := rfl

theorem depth_le_maxDepth_opening (source : Source) :
    (g.opening source).scopes.depth ≤ (g.opening source).tally.maxDepth := Nat.le_max_right ..

end Generator

mutual

theorem Makes.maxDepth {g g' : Generator} {s : Statement} :
    Makes g s g' → g.scopes.depth ≤ g.tally.maxDepth →
      g'.tally.maxDepth = max g.tally.maxDepth (g.scopes.depth + s.height)
  | .declared .., hdeep => (Nat.max_eq_left hdeep).symm
  | .assigned .., hdeep => (Nat.max_eq_left hdeep).symm
  | .suppressed .., hdeep => (Nat.max_eq_left hdeep).symm
  | .ifThen source _ _ body, hdeep => by
    have hbody := body.maxDepth (Generator.depth_le_maxDepth_opening source)
    rw [Generator.maxDepth_opening, Generator.depth_opening] at hbody
    refine hbody.trans ?_
    rw [Statement.height, Block.height_eq]
    omega
  | .ifElse source _ _ body otherwise, hdeep => by
    have hbody := body.maxDepth (Generator.depth_le_maxDepth_opening source)
    have hsecond := otherwise.maxDepth (Generator.depth_le_maxDepth_opening _)
    rw [Generator.maxDepth_opening, Generator.depth_opening] at hbody hsecond
    rw [Generator.maxDepth_closing, Generator.depth_closing, hbody] at hsecond
    refine hsecond.trans ?_
    rw [Statement.height, Block.height_eq, Block.height_eq]
    omega

theorem Fills.maxDepth {budget : Nat} {g g' : Generator} {b : Block} :
    Fills budget g b g' → g.scopes.depth ≤ g.tally.maxDepth →
      g'.tally.maxDepth = max g.tally.maxDepth (g.scopes.depth + heightOf b.statements)
  | .last made _, hdeep => by
    rw [heightOf, heightOf, Nat.max_zero]
    exact made.maxDepth hdeep
  | .more made _ rest, hdeep => by
    have hmade := made.maxDepth hdeep
    have hdepth := made.kept.depth
    have hrest := rest.maxDepth (by omega)
    rw [hrest, hmade, hdepth, heightOf]
    omega

end

/-! ### Blocks and programs -/

/-- Counted from the start of a run, the counters are those of the tree. -/
theorem Counted.eq_ofTree {t : Tally} {ss : List Statement}
    (h : Counted { Tally.zero with maxDepth := 1 } t (nodesOf ss)) (hdepth : t.maxDepth = 1 + heightOf ss) :
    t = Tally.ofTree ss t.retries := by
  obtain ⟨hd, ha, hi, hie, hs, hpush, hpop⟩ := h
  simp only [Tally.zero, Nat.zero_add] at hd ha hi hie hs hpush hpop
  cases t
  simp only at hd ha hi hie hs hpush hpop hdepth
  rw [Tally.ofTree, hd, ha, hi, hie, hs, hpush, hpop, hdepth]

theorem Run.tally_eq_ofTree {budget : Option UInt64} {g g' : Generator} {p : Program}
    (h : Run.program budget g = (.ok p, g')) : p.tally = Tally.ofTree p.statements p.tally.retries := by
  obtain ⟨hfills, htally, -⟩ := Run.program_eq_ok h
  have hcounted := hfills.counted
  have hdepth := hfills.maxDepth (Nat.le_of_eq (by rw [g.begun_scopes, g.begun_tally]; rfl))
  rw [g.begun_tally, ← htally] at hcounted hdepth
  rw [g.begun_scopes] at hdepth
  refine hcounted.eq_ofTree ?_
  rw [hdepth]
  exact Nat.max_eq_right (Nat.le_add_right 1 _)

/-- A block adds its nodes to the counters, whatever they hold and whatever scopes it is written in. The counters
    of a program are those of its tree. -/
theorem counters_of_tree :
    (∀ budget g b g', Run.block budget g = (.ok b, g') → Counted g.tally g'.tally (nodesOf b.statements)) ∧
    ∀ budget g p g', Run.program budget g = (.ok p, g') →
      p.tally = Tally.ofTree p.statements p.tally.retries ∧ p.tally.statements = (nodesOf p.statements).length := by
  refine ⟨fun budget g b g' h => (Run.fills_of_block h).counted, ?_⟩
  intro budget g p g' h
  have htree := Run.tally_eq_ofTree h
  refine ⟨htree, ?_⟩
  rw [htree, Tally.statements_ofTree]

/-- A program with a conditional in it, and a block of it written two scopes deep in counters that have counted
    before. -/
theorem counters_of_tree_seed_twelve :
    (∃ b g', Run.block 60 { Generator.withSeed 12 with scopes := ScopeStack.new.push, tally := ⟨5, 0, 1, 0, 0, 4, 2, 7, 9⟩ } =
        (.ok b, g') ∧
      Counted ⟨5, 0, 1, 0, 0, 4, 2, 7, 9⟩ g'.tally (nodesOf b.statements)) ∧
    ∃ p g', Run.program (some 60) (Generator.withSeed 12) = (.ok p, g') ∧
      .ifThen ∈ nodesOf p.statements ∧ p.tally = Tally.ofTree p.statements p.tally.retries ∧
      p.tally.statements = (nodesOf p.statements).length := by
  constructor
  · obtain ⟨b, g', h⟩ := Run.exists_of_isOk (x := Run.block 60 { Generator.withSeed 12 with
      scopes := ScopeStack.new.push, tally := ⟨5, 0, 1, 0, 0, 4, 2, 7, 9⟩ }) (by decide +kernel)
    exact ⟨b, g', h, counters_of_tree.1 _ _ _ _ h⟩
  · obtain ⟨p, g', h, hif⟩ := Run.exists_of_any (x := Run.program (some 60) (Generator.withSeed 12))
      (q := fun p => decide (.ifThen ∈ nodesOf p.statements)) (by decide +kernel)
    exact ⟨p, g', h, of_decide_eq_true hif, counters_of_tree.2 _ _ _ _ h⟩

end RandomPrograms
