import RandomPrograms.Proofs.Grammar.Outline

/-! The names and literals in generated lines. Where all bound names are names of the language, only such
    names are used, and what is declared is named so too; nothing is bound where a program begins. -/

namespace RandomPrograms

open Grammar Randomness

/-- Names that are used are names of the language, literals keep to the limits. -/
def Line.Spoken (limits : Value.Limits) : Line → Prop
  | declaration name value => IsName limits.letters name ∧ value.Fits limits
  | assignment name value => IsName limits.letters name ∧ value.Fits limits
  | opening (.compare name _ value) => IsName limits.letters name ∧ value.Fits limits
  | _ => True

/-- Every bound name is a name of the language. -/
def Generator.Named (g : Generator) : Prop :=
  ∀ s ∈ g.scopes.scopes, ∀ b ∈ s.bindings, IsName g.config.limits.letters b.name

namespace Generator

variable {g g₁ : Generator}

theorem named_begun (g : Generator) : g.begun.Named := by
  intro s hs b hb
  rw [g.begun_scopes] at hs
  obtain rfl := List.mem_singleton.mp hs
  cases hb

namespace Named

theorem resolve (hg : g.Named) {name : String} {type : VarType} (h : g.scopes.resolve name = some type) :
    IsName g.config.limits.letters name := by
  obtain ⟨s, hs, hb⟩ := ScopeStack.mem_of_resolve h
  exact hg s hs _ hb

theorem opening (hg : g.Named) (source : Source) : (g.opening source).Named := by
  intro s hs b hb
  rcases List.mem_cons.mp hs with rfl | hs
  · cases hb
  · exact hg s hs b hb

theorem closing (hg : g.Named) (hconfig : g₁.config = g.config) : (g₁.closing g.scopes).Named := by
  intro s hs b hb
  have hname := hg s hs b hb
  rwa [← hconfig] at hname

end Named

end Generator

theorem Makes.named {g g' : Generator} {s : Statement} (h : Makes g s g') (hg : g.Named) : g'.Named := by
  cases h with
  | declared rejected source free named fits =>
    intro t ht b hb
    rcases List.mem_cons.mp ht with rfl | ht
    · rcases (Scope.mem_insert free).mp hb with rfl | hb
      · exact named
      · exact hg _ (List.mem_cons_self ..) b hb
    · exact hg t (List.mem_cons_of_mem _ ht) b hb
  | assigned source visible fits => exact hg
  | suppressed source deep => exact hg
  | ifThen source room asks body => exact hg.closing body.kept.config
  | ifElse source room asks body otherwise =>
    exact hg.closing (otherwise.kept.closing.config.trans body.kept.closing.config)

theorem Grammar.Condition.Asks.spoken {g : Generator} {c : Condition} (h : c.Asks g.scopes g.config.limits)
    (hg : g.Named) : (Line.opening c).Spoken g.config.limits := by
  cases c with
  | compare name op value => exact ⟨hg.resolve h.1, h.2⟩
  | literal b => trivial

mutual

theorem Makes.spoken {g g' : Generator} {s : Statement} (level : Nat) :
    Makes g s g' → g.Named → ∀ l ∈ s.lines level, l.2.Spoken g.config.limits
  | .declared _ _ _ named fits, _, l, hl => by
    obtain rfl := List.mem_singleton.mp hl
    exact ⟨named, fits⟩
  | .assigned _ visible fits, hg, l, hl => by
    obtain rfl := List.mem_singleton.mp hl
    exact ⟨hg.resolve visible, fits⟩
  | .suppressed .., _, l, hl => by
    obtain rfl := List.mem_singleton.mp hl
    trivial
  | .ifThen source _ asks body, hg, l, hl => by
    rw [Statement.lines, Block.lines_eq] at hl
    rcases List.mem_cons.mp hl with rfl | hl
    · exact asks.spoken hg
    rcases List.mem_append.mp hl with hl | hl
    · exact body.spoken (level + 1) (hg.opening source) l hl
    · obtain rfl := List.mem_singleton.mp hl
      trivial
  | .ifElse source _ asks body otherwise, hg, l, hl => by
    have hnamed := hg.closing body.kept.config
    rw [Statement.lines, Block.lines_eq, Block.lines_eq] at hl
    rcases List.mem_cons.mp hl with rfl | hl
    · exact asks.spoken hg
    rcases List.mem_append.mp hl with hl | hl
    · exact body.spoken (level + 1) (hg.opening source) l hl
    rcases List.mem_cons.mp hl with rfl | hl
    · trivial
    rcases List.mem_append.mp hl with hl | hl
    · have hspoken := otherwise.spoken (level + 1) (hnamed.opening _) l hl
      have hconfig := body.kept.closing.config
      exact hconfig ▸ hspoken
    · obtain rfl := List.mem_singleton.mp hl
      trivial

theorem Fills.spoken {budget : Nat} {g g' : Generator} {b : Block} (level : Nat) :
    Fills budget g b g' → g.Named → ∀ l ∈ outline level b.statements, l.2.Spoken g.config.limits
  | .last made _, hg, l, hl => by
    rw [outline, outline, List.append_nil] at hl
    exact made.spoken level hg l hl
  | .more made _ rest, hg, l, hl => by
    rw [outline] at hl
    rcases List.mem_append.mp hl with hl | hl
    · exact made.spoken level hg l hl
    · have hspoken := rest.spoken level (made.named hg) l hl
      rwa [made.kept.config] at hspoken

end

/-- The text of a program is that of the lines of its tree, and these say nothing but what was drawn for them. -/
theorem Run.program_lines {budget : Option UInt64} {g g' : Generator} {p : Program}
    (h : Run.program budget g = (.ok p, g')) : p.code = written g.config.indent (outline 0 p.statements) ∧
      ∀ l ∈ outline 0 p.statements, l.2.Spoken g.config.limits := by
  obtain ⟨hfills, -, -⟩ := Run.program_eq_ok h
  have hcode := hfills.code
  have hspoken := hfills.spoken 0 g.named_begun
  rw [g.level_begun, g.begun_config, ← written_outline] at hcode
  rw [g.begun_config] at hspoken
  exact ⟨hcode, hspoken⟩

end RandomPrograms
