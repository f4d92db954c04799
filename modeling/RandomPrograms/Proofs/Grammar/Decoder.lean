import RandomPrograms.Proofs.Config.Usable
import RandomPrograms.Proofs.Grammar.Reader

/-! A program is determined by its text: there is a decoder that gets the statements back, bodies and the texts
    that they keep included. It cuts the text into lines, reads each, and puts the tree together from the last
    line to the first: a closing brace begins a body, and the line that opens the body makes a statement of it. -/

namespace RandomPrograms

open Grammar Randomness

/-! ### The decoder -/

/-- A block of which the statements from some line on have been read, and the block that follows it if it is the
    first of two bodies. -/
structure Pending where
  statements : List Statement
  otherwise : Option Block

namespace Pending

def add (p : Pending) (s : Statement) : Pending := { p with statements := s :: p.statements }

/-- The block that has been read, at a level. -/
def block (p : Pending) (indent : String) (level : Nat) : Block := ⟨p.statements, render indent level p.statements⟩

def conditional (p : Pending) (c : Condition) (indent : String) (level : Nat) : Statement :=
  match p.otherwise with
  | none => .ifThen c (p.block indent level)
  | some otherwise => .ifElse c (p.block indent level) otherwise

end Pending

/-- Takes in the line before those that have been read. The blocks are those around this line, from the inside
    out, so that there is one for each level but the first. -/
def assemble (indent : String) : Line → List Pending → List Pending
  | .declaration name value, p :: around => p.add (.declaration name value) :: around
  | .assignment name value, p :: around => p.add (.assignment name value) :: around
  | .blank, p :: around => p.add .empty :: around
  | .closing, around => ⟨[], none⟩ :: around
  | .turn, p :: around => ⟨[], some (p.block indent around.length)⟩ :: around
  | .opening c, p :: q :: around => q.add (p.conditional c indent (around.length + 1)) :: around
  | _, _ => []

def readLines (code : String) : Option (List Line) :=
  (code.toList.splitOn '\n').dropLast.mapM fun l => Line.read (l.dropWhile Text.isBlank)

/-- The statements of the program with a given text. -/
def decode (indent code : String) : Option (List Statement) := do
  let ls ← readLines code
  match ls.foldr (assemble indent) [⟨[], none⟩] with
  | [p] => some p.statements
  | _ => none

/-! ### Cutting and reading -/

theorem mem_of_mem_intercalate {α : Type} {a b : α} : ∀ {ls : List (List α)}, b ∈ [a].intercalate ls →
    b = a ∨ ∃ l ∈ ls, b ∈ l
  | [], h => by cases h
  | [l], h => Or.inr ⟨l, by simp, by simpa using h⟩
  | l :: m :: ls, h => by
    rw [List.intercalate_cons_cons, List.append_assoc] at h
    rcases List.mem_append.mp h with h | h
    · exact Or.inr ⟨l, by simp, h⟩
    rcases List.mem_cons.mp h with h | h
    · exact Or.inl h
    rcases mem_of_mem_intercalate h with h | ⟨l', hl', h⟩
    · exact Or.inl h
    · exact Or.inr ⟨l', List.mem_cons_of_mem _ hl', h⟩

namespace Line

variable {limits : Value.Limits} {x : Line}

/-- The spaces between its words are the only blanks of a line. -/
theorem eq_space_of_isBlank (h : x.Spoken limits) {c : Char} (hc : c ∈ x.text.toList)
    (hblank : Text.isBlank c = true) : c = ' ' := by
  rw [text_words] at hc
  rcases mem_of_mem_intercalate hc with hspace | ⟨w, hw, hmem⟩
  · exact hspace
  · exact absurd hmem ((solid_words h w hw).not_mem hblank)

theorem newline_not_mem_text (h : x.Spoken limits) : '\n' ∉ x.text.toList := by
  intro hx
  have hspace := eq_space_of_isBlank h hx (by decide)
  cases hspace

/-- No line begins with a blank, its indentation aside. -/
theorem dropWhile_text (h : x.Spoken limits) : x.text.toList.dropWhile Text.isBlank = x.text.toList := by
  have hl : Text.isBlank 'l' = false := by decide
  have hi : Text.isBlank 'i' = false := by decide
  have hbrace : Text.isBlank '\x7d' = false := by decide
  cases x with
  | assignment name value =>
    obtain ⟨c, w, hw⟩ := List.exists_cons_of_ne_nil h.1.nonempty
    have hc : Text.isBlank c = false := h.1.solid c (by rw [hw]; exact List.mem_cons_self ..)
    simp [text, hw, hc]
  | declaration name value => simp [text, hl]
  | blank => rfl
  | opening c => simp [text, hi]
  | turn => simp [text, hbrace]
  | closing => simp [text, hbrace]

end Line

section
variable {indent : String} {limits : Value.Limits}

/-- An indentation says nothing: it is blank, and it ends no line. -/
structure Margin (indent : String) : Prop where
  isBlank : ∀ c ∈ indent.toList, Text.isBlank c = true
  newline : '\n' ∉ indent.toList

theorem margin_of_isIndent (h : Config.isIndent indent = true) : Margin indent := by
  simp only [Config.isIndent, Bool.and_eq_true, List.all_eq_true, bne_iff_ne] at h
  exact ⟨fun c hc => (h.2 c hc).1.1, fun hc => (h.2 _ hc).1.2 rfl⟩

theorem mem_of_mem_tab {level : Nat} {c : Char} (hc : c ∈ (tab indent level).toList) : c ∈ indent.toList := by
  rw [tab, String.toList_join] at hc
  obtain ⟨s, hs, hc⟩ := List.mem_flatMap.mp hc
  rwa [List.eq_of_mem_replicate hs] at hc

theorem Margin.tab (h : Margin indent) (level : Nat) : Margin (tab indent level) :=
  ⟨fun c hc => h.isBlank c (mem_of_mem_tab hc), fun hc => h.newline (mem_of_mem_tab hc)⟩

theorem splitOn_written (h : Margin indent) : ∀ {ls : List (Nat × Line)}, (∀ l ∈ ls, l.2.Spoken limits) →
    (written indent ls).toList.splitOn '\n' = ls.map (fun l => (tab indent l.1).toList ++ l.2.text.toList) ++ [[]]
  | [], _ => by simp [written]
  | l :: ls, hls => by
    obtain ⟨hl, hls⟩ := List.forall_mem_cons.mp hls
    have hline : '\n' ∉ (tab indent l.1).toList ++ l.2.text.toList := by
      intro hc
      rcases List.mem_append.mp hc with hc | hc
      · exact (h.tab l.1).newline hc
      · exact Line.newline_not_mem_text hl hc
    have hcons : (written indent (l :: ls)).toList =
        (tab indent l.1).toList ++ l.2.text.toList ++ '\n' :: (written indent ls).toList := by
      rw [written_cons, String.toList_append, String.toList_append, String.toList_append, List.append_assoc]
      rfl
    rw [hcons, List.splitOn_append_cons_self_of_not_mem hline, splitOn_written h hls]
    rfl

theorem mapM_read (h : Margin indent) : ∀ {ls : List (Nat × Line)}, (∀ l ∈ ls, l.2.Spoken limits) →
    (ls.map fun l => (tab indent l.1).toList ++ l.2.text.toList).mapM
      (fun l => Line.read (l.dropWhile Text.isBlank)) = some (ls.map (·.2))
  | [], _ => rfl
  | l :: ls, hls => by
    obtain ⟨hl, hls⟩ := List.forall_mem_cons.mp hls
    rw [List.map_cons, List.mapM_cons, List.dropWhile_append_of_pos (h.tab l.1).isBlank, Line.dropWhile_text hl,
      Line.read_text hl, mapM_read h hls]
    rfl

theorem readLines_written (h : Margin indent) {ls : List (Nat × Line)} (hls : ∀ l ∈ ls, l.2.Spoken limits) :
    readLines (written indent ls) = some (ls.map (·.2)) := by
  rw [readLines, splitOn_written h hls, List.dropLast_concat, mapM_read h hls]

end

/-! ### Putting together -/

section
variable {indent : String} {b o : Block} {p : Pending} {around : List Pending} {c : Condition}

/-- A body that has been read to its first line keeps its text. -/
theorem Pending.block_eq {level : Nat} {after : Option Block} (h : b.code = render indent level b.statements) :
    Pending.block ⟨b.statements ++ [], after⟩ indent level = b := by
  obtain ⟨ss, code⟩ := b
  have hcode : code = render indent level ss := h
  rw [Pending.block, List.append_nil, hcode]

theorem assemble_closing : assemble indent .closing around = ⟨[], none⟩ :: around := rfl

theorem assemble_turn (h : o.code = render indent (around.length + 1) o.statements) :
    assemble indent .turn (⟨o.statements ++ [], none⟩ :: p :: around) = ⟨[], some o⟩ :: p :: around := by
  rw [assemble, List.length_cons, Pending.block_eq h]

theorem assemble_ifThen (h : b.code = render indent (around.length + 1) b.statements) :
    assemble indent (.opening c) (⟨b.statements ++ [], none⟩ :: p :: around) = p.add (.ifThen c b) :: around := by
  rw [assemble, Pending.conditional, Pending.block_eq h]

theorem assemble_ifElse (h : b.code = render indent (around.length + 1) b.statements) :
    assemble indent (.opening c) (⟨b.statements ++ [], some o⟩ :: p :: around) = p.add (.ifElse c b o) :: around := by
  rw [assemble, Pending.conditional, Pending.block_eq h]

end

-- The number of blocks around a line is its level, which is what the texts that bodies keep depend on.
mutual

/-- The lines of a statement add just this statement to the innermost block. -/
theorem Makes.assembled {g g' : Generator} {s : Statement} (p : Pending) (around : List Pending) :
    Makes g s g' → around.length = g.level →
      ((s.lines g.level).map (·.2)).foldr (assemble g.config.indent) (p :: around) = p.add s :: around
  | .declared .., _ => rfl
  | .assigned .., _ => rfl
  | .suppressed .., _ => rfl
  | .ifThen _ _ _ body, hlevel => by
    have hbody := body.assembled ⟨[], none⟩ (p :: around) (congrArg (· + 1) hlevel)
    have hcode := body.code
    rw [g.level_opening, g.config_opening, ← hlevel] at hbody hcode
    rw [Statement.lines, Block.lines_eq, ← hlevel]
    simp only [List.map_cons, List.map_append, List.map_nil, List.foldr_cons, List.foldr_append, List.foldr_nil]
    rw [assemble_closing, hbody, assemble_ifThen hcode]
  | .ifElse (o := o) _ _ _ body otherwise, hlevel => by
    have hkept := body.kept.closing
    have hbody := body.assembled ⟨[], some o⟩ (p :: around) (congrArg (· + 1) hlevel)
    have hcode := body.code
    have hsecond := otherwise.assembled ⟨[], none⟩ (p :: around) (congrArg (· + 1) (hlevel.trans hkept.level.symm))
    have hcode' := otherwise.code
    rw [g.level_opening, g.config_opening, ← hlevel] at hbody hcode
    rw [Generator.level_opening, Generator.config_opening, hkept.level, hkept.config, ← hlevel] at hsecond hcode'
    rw [Statement.lines, Block.lines_eq, Block.lines_eq, ← hlevel]
    simp only [List.map_cons, List.map_append, List.map_nil, List.foldr_cons, List.foldr_append, List.foldr_nil]
    rw [assemble_closing, hsecond, assemble_turn hcode', hbody, assemble_ifElse hcode]

theorem Fills.assembled {budget : Nat} {g g' : Generator} {b : Block} (p : Pending) (around : List Pending) :
    Fills budget g b g' → around.length = g.level →
      ((outline g.level b.statements).map (·.2)).foldr (assemble g.config.indent) (p :: around) =
        { p with statements := b.statements ++ p.statements } :: around
  | .last made _, hlevel => by
    rw [outline, outline, List.append_nil]
    exact made.assembled p around hlevel
  | .more made _ rest, hlevel => by
    have hkept := made.kept
    have hrest := rest.assembled p around (hlevel.trans hkept.level.symm)
    rw [hkept.level, hkept.config] at hrest
    rw [outline, List.map_append, List.foldr_append, hrest, made.assembled _ around hlevel]
    rfl

end

/-! ### Generated programs -/

theorem decode_code {g : Generator} {budget : Option UInt64} {p : Program} (hvalid : g.config.validate = .ok ())
    (hp : (Run.program budget g).1 = .ok p) : decode g.config.indent p.code = some p.statements := by
  have hrun : Run.program budget g = (.ok p, (Run.program budget g).2) := Prod.ext hp rfl
  obtain ⟨hfills, -, -⟩ := Run.program_eq_ok hrun
  obtain ⟨hcode, hspoken⟩ := Run.program_lines hrun
  have hmargin := margin_of_isIndent (Config.isIndent_of_validate hvalid)
  have hassembled := hfills.assembled ⟨[], none⟩ [] g.level_begun.symm
  rw [g.level_begun, g.begun_config] at hassembled
  have hread : readLines p.code = some ((outline 0 p.statements).map (·.2)) := by
    rw [hcode]
    exact readLines_written hmargin hspoken
  rw [decode, hread, Option.bind_eq_bind, Option.bind_some, hassembled, List.append_nil]

/-- The statements of a program are read back from its text, so that two programs with the same indentation
    and the same text have the same statements. -/
theorem code_determines_statements {g h : Generator} {budget budget' : Option UInt64} {p q : Program}
    (hg : g.config.validate = .ok ()) (hh : h.config.validate = .ok ()) (hindent : g.config.indent = h.config.indent)
    (hp : (Run.program budget g).1 = .ok p) (hq : (Run.program budget' h).1 = .ok q) :
    decode g.config.indent p.code = some p.statements ∧ (p.code = q.code → p.statements = q.statements) := by
  have hread := decode_code hg hp
  refine ⟨hread, ?_⟩
  intro hcode
  rw [hindent, hcode, decode_code hh hq] at hread
  exact (Option.some.inj hread).symm

/-- One run under two configurations, which limit the search for names differently. -/
theorem code_determines_statements_seed_twelve : ∃ p q,
    (Run.program (some 60) (Generator.withSeed 12)).1 = .ok p ∧
      (Run.program (some 60) (Generator.start { Config.default with maxIdentifierAttempts := 20 } 12)).1 = .ok q ∧
      decode "  " p.code = some p.statements ∧ p.code = q.code ∧ p.statements = q.statements := by
  have hsame : (Run.program (some 60) (Generator.withSeed 12)).1.toOption.map (·.code) =
      (Run.program (some 60) (Generator.start { Config.default with maxIdentifierAttempts := 20 } 12)).1.toOption.map
        (·.code) := by decide +kernel
  obtain ⟨p, g', hp⟩ := Run.program_seed_twelve
  rcases hq : Run.program (some 60) (Generator.start { Config.default with maxIdentifierAttempts := 20 } 12) with
    ⟨e | q, h'⟩ <;> rw [hp, hq] at hsame
  · cases hsame
  · have hcode : p.code = q.code := Option.some.inj hsame
    have hp' := congrArg Prod.fst hp
    have hq' := congrArg Prod.fst hq
    obtain ⟨hread, heq⟩ := code_determines_statements (g := Generator.withSeed 12)
      (h := Generator.start { Config.default with maxIdentifierAttempts := 20 } 12) rfl rfl rfl hp' hq'
    exact ⟨p, q, hp', rfl, hread, hcode, heq hcode⟩

end RandomPrograms
