import RandomPrograms.Proofs.Grammar.Nesting

/-! The layout of generated programs. Conditionals stop at the nesting bound, so that no line stands deeper than
    the bound allows; with the lines of a tree nested in each other, and nothing else that could pass for their
    braces and ends, the whole text of a program is bracketed and indented by its scopes. -/

namespace RandomPrograms

open Grammar Randomness

/-- A level below the bound on the depth of scopes, also for the braces that a line closes. -/
def Line.Within (bound : Nat) (l : Nat × Line) : Prop := l.1 + l.2.closes < bound

theorem Generator.level_lt {g : Generator} (h : g.scopes.depth ≤ g.bound) : g.level < g.bound := by
  have hpos : 0 < g.scopes.depth := Nat.succ_pos _
  unfold Generator.level
  omega

/-- A closing brace stands a level above its body. -/
theorem Generator.level_succ_lt {g : Generator} (h : g.scopes.depth < g.bound) : g.level + 1 < g.bound := by
  have hpos : 0 < g.scopes.depth := Nat.succ_pos _
  unfold Generator.level
  omega

mutual

theorem Makes.within {g g' : Generator} {s : Statement} :
    Makes g s g' → g.scopes.depth ≤ g.bound → ∀ l ∈ s.lines g.level, Line.Within g.bound l
  | .declared .., hdepth, l, hl => by
    obtain rfl := List.mem_singleton.mp hl
    exact Generator.level_lt hdepth
  | .assigned .., hdepth, l, hl => by
    obtain rfl := List.mem_singleton.mp hl
    exact Generator.level_lt hdepth
  | .suppressed .., hdepth, l, hl => by
    obtain rfl := List.mem_singleton.mp hl
    exact Generator.level_lt hdepth
  | .ifThen source room _ body, hdepth, l, hl => by
    rw [Statement.lines, Block.lines_eq] at hl
    rcases List.mem_cons.mp hl with rfl | hl
    · exact Generator.level_lt hdepth
    rcases List.mem_append.mp hl with hl | hl
    · exact body.within room l hl
    · obtain rfl := List.mem_singleton.mp hl
      exact Generator.level_succ_lt room
  | .ifElse source room _ body otherwise, hdepth, l, hl => by
    have hkept := body.kept.closing
    rw [Statement.lines, Block.lines_eq, Block.lines_eq] at hl
    rcases List.mem_cons.mp hl with rfl | hl
    · exact Generator.level_lt hdepth
    rcases List.mem_append.mp hl with hl | hl
    · exact body.within room l hl
    rcases List.mem_cons.mp hl with rfl | hl
    · exact Generator.level_succ_lt room
    rcases List.mem_append.mp hl with hl | hl
    · have hsecond := otherwise.within (by rw [Generator.bound_opening, hkept.bound]; exact room) l hl
      rwa [Generator.bound_opening, hkept.bound] at hsecond
    · obtain rfl := List.mem_singleton.mp hl
      exact Generator.level_succ_lt room

theorem Fills.within {budget : Nat} {g g' : Generator} {b : Block} :
    Fills budget g b g' → g.scopes.depth ≤ g.bound → ∀ l ∈ outline g.level b.statements, Line.Within g.bound l
  | .last made _, hdepth, l, hl => by
    rw [outline, outline, List.append_nil] at hl
    exact made.within hdepth l hl
  | .more made _ rest, hdepth, l, hl => by
    have hkept := made.kept
    rw [outline] at hl
    rcases List.mem_append.mp hl with hl | hl
    · exact made.within hdepth l hl
    · have hrest := rest.within (by rw [hkept.depth, hkept.bound]; exact hdepth) l
      rw [hkept.level, hkept.bound] at hrest
      exact hrest hl

end

/-! ### Programs -/

theorem outline_ne_nil {level : Nat} : ∀ {ss : List Statement}, ss ≠ [] → outline level ss ≠ []
  | [], h => absurd rfl h
  | s :: ss, _ => by
    rw [outline]
    cases s <;> rw [Statement.lines] <;> exact List.cons_ne_nil _ _

/-- In the text of a program the braces come in pairs, one for each scope, and none is closed before it is opened.
    There are as many lines as the counters tell, the last one ended like the others; each is indented by the
    braces open before it, and these are fewer than the bound. -/
theorem code_bracketed_and_indented {g g' : Generator} {budget : Option UInt64} {p : Program}
    (hvalid : g.config.validate = .ok ()) (h : Run.program budget g = (.ok p, g')) :
    p.code.toList.count '\x7b' = p.tally.pushes ∧ p.code.toList.count '\x7d' = p.tally.pushes ∧
    (∀ pre, pre <+: p.code.toList → pre.count '\x7d' ≤ pre.count '\x7b') ∧
    p.code.toList.count '\n' = p.tally.declarations + p.tally.assignments + p.tally.suppressed + 2 * p.tally.ifs +
      3 * p.tally.ifElses ∧
    p.code.toList.getLast? = some '\n' ∧
    ∀ before l after, p.code.toList.splitOn '\n' = before ++ l :: after →
      ∃ k, before.flatten.count '\x7b' = before.flatten.count '\x7d' + k ∧ k < g.config.maxIndentLevel.toNat ∧
        Indented g.config.indent k l := by
  obtain ⟨hfills, -, -⟩ := Run.program_eq_ok h
  obtain ⟨hcode, hspoken⟩ := Run.program_lines h
  have hmargin := margin_of_isIndent (Config.isIndent_of_validate hvalid)
  have hpos := Config.maxIndentLevel_pos hvalid
  have hnested := nested_outline 0 p.statements
  have hwithin := hfills.within (by rw [g.begun_scopes, Generator.bound, g.begun_config]; exact hpos)
  rw [g.level_begun, Generator.bound, g.begun_config] at hwithin
  obtain ⟨hends, hopens, hcloses⟩ := count_written hmargin hspoken
  obtain ⟨hlines, hbodies⟩ := sum_outline 0 p.statements
  obtain ⟨hlines', hbodies'⟩ := sum_shapes (nodesOf p.statements)
  have hpairs := hnested.sum_braces
  have htally := Run.tally_eq_ofTree h
  have hpushes : p.tally.pushes = ((outline 0 p.statements).map (·.2.opens)).sum := by
    rw [htally, hbodies, hbodies']
    rfl
  rw [hcode]
  refine ⟨?_, ?_, ?_, ?_, ?_, ?_⟩
  · rw [hopens, hpushes]
  · rw [hcloses, hpushes]
    omega
  · intro pre hpre
    have hprefix := hnested.count_prefix hmargin hspoken pre hpre
    rwa [Nat.zero_add] at hprefix
  · rw [hends, hlines, hlines', htally]
    rfl
  · exact getLast?_written (outline_ne_nil hfills.statements_ne_nil)
  · intro before l after hcut
    rw [splitOn_written hmargin hspoken] at hcut
    obtain ⟨k, hcount, hk, hindented⟩ := hnested.indented rfl hmargin hspoken hpos hwithin before l after hcut
    rw [Nat.zero_add] at hcount
    exact ⟨k, hcount, hk, hindented⟩

/-- In a program with a conditional the text ends outside its braces. -/
theorem code_bracketed_and_indented_seed_twelve : (Generator.withSeed 12).config.validate = .ok () ∧
    ∃ p g', Run.program (some 60) (Generator.withSeed 12) = (.ok p, g') ∧ 0 < p.tally.pushes ∧
      p.code.toList.count '\x7b' = p.tally.pushes ∧ p.code.toList.count '\x7d' = p.tally.pushes ∧
      p.code.toList.getLast? = some '\n' := by
  have hvalid : (Generator.withSeed 12).config.validate = .ok () := rfl
  obtain ⟨p, g', h, hsome⟩ := Run.exists_of_any (x := Run.program (some 60) (Generator.withSeed 12))
    (q := fun p => decide (0 < p.tally.pushes)) (by decide +kernel)
  obtain ⟨hopens, hcloses, -, -, hlast, -⟩ := code_bracketed_and_indented hvalid h
  exact ⟨hvalid, p, g', h, of_decide_eq_true hsome, hopens, hcloses, hlast⟩

end RandomPrograms
