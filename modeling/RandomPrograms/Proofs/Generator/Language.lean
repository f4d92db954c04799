import RandomPrograms.Proofs.Grammar.Lengths

/-! The tokens of a program are in the language, whatever was drawn and wherever they stand in the tree. A name that is
    assigned to or compared was not drawn for it: it is one of those in scope, which are names of the language all
    along a run. Each statement begins a line, which says nothing but such names, and literals within their limits. -/

namespace RandomPrograms

open Grammar Randomness

/-! ### The tokens of a statement -/

/-- The name that a condition compares, if it compares one. -/
def Grammar.Condition.names : Condition → List String
  | .compare name _ _ => [name]
  | .literal _ => []

def Grammar.Condition.literals : Condition → List Value
  | .compare _ _ value => [value]
  | .literal b => [.boolean b]

/-- The name that a statement declares, assigns to or compares; those in its bodies are theirs. -/
def Grammar.Statement.names : Statement → List String
  | .declaration name _ | .assignment name _ => [name]
  | .ifThen c _ | .ifElse c _ _ => c.names
  | .empty => []

def Grammar.Statement.literals : Statement → List Value
  | .declaration _ value | .assignment _ value => [value]
  | .ifThen c _ | .ifElse c _ _ => c.literals
  | .empty => []

def Grammar.Statement.head : Statement → Line
  | .declaration name value => .declaration name value
  | .assignment name value => .assignment name value
  | .ifThen c _ | .ifElse c _ _ => .opening c
  | .empty => .blank

section
variable {limits : Value.Limits} {c : Condition} {s : Statement}

theorem Grammar.Condition.tokens_of_spoken (h : (Line.opening c).Spoken limits) :
    (∀ name ∈ c.names, IsName limits.letters name) ∧ ∀ value ∈ c.literals, value.Fits limits := by
  cases c with
  | compare => exact ⟨List.forall_mem_singleton.mpr h.1, List.forall_mem_singleton.mpr h.2⟩
  | literal => exact ⟨List.forall_mem_nil _, List.forall_mem_singleton.mpr trivial⟩

/-- The tokens of a statement itself are those of its first line. -/
theorem Grammar.Statement.tokens_of_spoken (h : s.head.Spoken limits) :
    (∀ name ∈ s.names, IsName limits.letters name) ∧ ∀ value ∈ s.literals, value.Fits limits := by
  cases s with
  | declaration | assignment => exact ⟨List.forall_mem_singleton.mpr h.1, List.forall_mem_singleton.mpr h.2⟩
  | ifThen | ifElse => exact Condition.tokens_of_spoken h
  | empty => exact ⟨List.forall_mem_nil _, List.forall_mem_nil _⟩

end

/-! ### Words as texts -/

theorem Text.isHidden_of_printable {c : Char} (hl : 0x20 ≤ c.toNat) (hu : c.toNat ≤ 0x7e) : isHidden c = false := by
  -- every range ends before the blank or begins behind the tilde
  have houter : hiddenRanges.all (fun r => r.2 < 0x20 || 0x7e < r.1) = true := by decide +kernel
  refine List.any_eq_false.mpr fun r hr hin => ?_
  have hr : r.2 < 0x20 ∨ 0x7e < r.1 := by simpa using List.all_eq_true.mp houter r hr
  have hin : r.1 ≤ c.toNat ∧ c.toNat ≤ r.2 := by simpa using hin
  omega

theorem Text.quotedChar_of_printable {c : Char} (hl : 0x20 ≤ c.toNat) (hu : c.toNat ≤ 0x7e) (hquote : c ≠ '"')
    (hslash : c ≠ '\\') : quotedChar c = String.singleton c := by
  have hcontrol : ∀ {d : Char}, d.toNat < 0x20 → c ≠ d := by
    rintro d hd rfl
    exact Nat.not_lt.mpr hl hd
  unfold quotedChar
  rw [if_neg hquote, if_neg hslash, if_neg (hcontrol (by decide)), if_neg (hcontrol (by decide)),
    if_neg (hcontrol (by decide)), if_neg (hcontrol (by decide)), isHidden_of_printable hl hu,
    if_neg Bool.false_ne_true]

theorem Text.quoted_of_plain {s : String} (h : ∀ c ∈ s.toList, quotedChar c = String.singleton c) :
    quoted s = "\"" ++ s ++ "\"" := by
  have hjoin : ∀ {l : List Char}, (∀ c ∈ l, quotedChar c = String.singleton c) →
      String.join (l.map quotedChar) = String.ofList l := by
    intro l hl
    induction l with
    | nil => rfl
    | cons c l ih =>
      obtain ⟨hc, hl⟩ := List.forall_mem_cons.mp hl
      rw [List.map_cons, String.join_cons, hc, ih hl, String.ofList_cons]
  rw [quoted, hjoin h, String.ofList_toList]

namespace Grammar.IsWord
variable {n : Nat} {s : String}

theorem ne_empty (h : IsWord n s) : s ≠ "" := by
  rintro rfl
  exact h.nonempty rfl

theorem isAlpha (h : IsWord n s) : ∀ c ∈ s.toList, c.isAlpha = true := by
  have hall : alphabet.all (·.isAlpha) = true := by decide
  exact fun c hc => List.all_eq_true.mp hall c (h.letters c hc)

theorem length_le (h : IsWord n s) : s.length ≤ n := by
  rw [← String.length_toList]
  exact h.short

theorem quoted_eq (h : IsWord n s) : Text.quoted s = "\"" ++ s ++ "\"" := by
  have hall : alphabet.all (fun c => 0x20 ≤ c.toNat && c.toNat ≤ 0x7e && c != '"' && c != '\\') = true := by decide
  refine Text.quoted_of_plain fun c hc => ?_
  have hplain := List.all_eq_true.mp hall c (h.letters c hc)
  simp only [Bool.and_eq_true, decide_eq_true_eq, bne_iff_ne] at hplain
  obtain ⟨⟨⟨hl, hu⟩, hquote⟩, hslash⟩ := hplain
  exact Text.quotedChar_of_printable hl hu hquote hslash

end Grammar.IsWord

theorem Grammar.IsName.not_mem_reservedWords {n : Nat} {s : String} (h : IsName n s) : s ∉ reservedWords := by
  intro hs
  have hreserved : isReserved s = true := List.contains_iff_mem.mpr hs
  rw [h.unreserved] at hreserved
  cases hreserved

/-! ### Where statements stand -/

section
variable {level levels : Nat} {s : Statement} {ss : List Statement} {b : Block} {l : Nat × Line}

theorem Grammar.Statement.head_mem_lines (s : Statement) (level : Nat) : (level, s.head) ∈ s.lines level := by
  cases s <;> exact List.mem_cons_self ..

theorem Grammar.Statement.lines_of_bodies (hb : b ∈ s.bodies) (hl : l ∈ b.lines (level + 1)) : l ∈ s.lines level := by
  cases s with
  | declaration | assignment | empty => cases hb
  | ifThen c body =>
    obtain rfl := List.mem_singleton.mp hb
    rw [Statement.lines]
    exact List.mem_cons_of_mem _ (List.mem_append_left _ hl)
  | ifElse c body otherwise =>
    rw [Statement.lines]
    refine List.mem_cons_of_mem _ (List.mem_append.mpr ?_)
    rcases List.mem_cons.mp hb with rfl | hb
    · exact Or.inl hl
    · obtain rfl := List.mem_singleton.mp hb
      exact Or.inr (List.mem_cons_of_mem _ (List.mem_append_left _ hl))

theorem mem_outline_of_mem (hs : s ∈ ss) (hl : l ∈ s.lines level) : l ∈ outline level ss := by
  induction ss with
  | nil => cases hs
  | cons t ss ih =>
    rw [outline, List.mem_append]
    rcases List.mem_cons.mp hs with rfl | hs
    · exact Or.inl hl
    · exact Or.inr (ih hs)

/-- The lines of a body are lines of the tree in which it lies. -/
theorem BodyAt.mem_outline (h : BodyAt levels b ss) (hl : l ∈ outline (level + levels) b.statements) :
    l ∈ outline level ss := by
  induction h generalizing level with
  | here hs hb =>
    rw [← Block.lines_eq] at hl
    exact mem_outline_of_mem hs (Statement.lines_of_bodies hb hl)
  | deeper hs hc below ih =>
    have hinner : l ∈ outline (level + 1) _ := ih (by rwa [Nat.add_right_comm, Nat.add_assoc])
    rw [← Block.lines_eq] at hinner
    exact mem_outline_of_mem hs (Statement.lines_of_bodies hc hinner)

theorem StandsAt.head_mem_outline (h : StandsAt levels s ss) : (level + levels, s.head) ∈ outline level ss := by
  cases h with
  | top hs => exact mem_outline_of_mem hs (s.head_mem_lines level)
  | inside hb hs => exact hb.mem_outline (mem_outline_of_mem hs (s.head_mem_lines _))

end

/-! ### Programs -/

/-- Names and the contents of string literals are made of ASCII letters, of one at least and of as many at most as the
    configuration allows; no name is reserved, and numbers are below their limit. So a string literal is the same with
    escapes and without. -/
theorem tokens_in_language {g g' : Generator} {budget : Option UInt64} {p : Program}
    (hvalid : g.config.validate = .ok ()) (h : Run.program budget g = (.ok p, g')) :
    ∀ levels s, StandsAt levels s p.statements →
      (∀ name ∈ s.names, name ≠ "" ∧ (∀ c ∈ name.toList, c.isAlpha = true) ∧
        name.length ≤ g.config.maxIdentifierLength.toNat ∧ name ∉ reservedWords) ∧
      (∀ n, .number n ∈ s.literals → n.toNat < g.config.maxInt.toNat) ∧
      ∀ w, .string w ∈ s.literals → w ≠ "" ∧ (∀ c ∈ w.toList, c.isAlpha = true) ∧
        w.length ≤ g.config.maxIdentifierLength.toNat ∧ (Value.string w).text = Text.quoted w := by
  intro levels s hs
  -- a statement has no tokens of its own but those of its first line, and that is a line of the program
  obtain ⟨-, hspoken⟩ := Run.program_lines h
  obtain ⟨hnames, hliterals⟩ := s.tokens_of_spoken (hspoken _ hs.head_mem_outline)
  have hletters := Config.letters_of_validate hvalid
  refine ⟨fun name hname => ?_, fun n hn => ?_, fun w hw => ?_⟩
  · have hword := hnames name hname
    rw [hletters] at hword
    exact ⟨hword.ne_empty, hword.isAlpha, hword.length_le, hword.not_mem_reservedWords⟩
  · have hfits : n.toNat < max 1 g.config.maxInt.toNat := hliterals _ hn
    have hpos := Config.maxInt_pos hvalid
    omega
  · have hword : IsWord g.config.limits.letters w := hliterals _ hw
    rw [hletters] at hword
    exact ⟨hword.ne_empty, hword.isAlpha, hword.length_le, hword.quoted_eq.symm⟩

/-- A number at the top of a program, and two levels below it an assignment to a name of the body around it. -/
theorem tokens_in_language_seed_three :
    (Generator.withSeed 3).config.validate = .ok () ∧
      ∃ p g', Run.program (some 60) (Generator.withSeed 3) = (.ok p, g') ∧
        StandsAt 0 (.declaration "NOJFwWwiWP" (.number 63)) p.statements ∧
        (63 : UInt64).toNat < (Generator.withSeed 3).config.maxInt.toNat ∧
        StandsAt 2 (.assignment "KvbtRJ" (.string "ADgxlN")) p.statements ∧
        "KvbtRJ" ∉ reservedWords ∧ (Value.string "ADgxlN").text = Text.quoted "ADgxlN" := by
  have hvalid : (Generator.withSeed 3).config.validate = .ok () := rfl
  obtain ⟨p, g', h, hsome⟩ := Run.exists_of_any (x := Run.program (some 60) (Generator.withSeed 3))
    (q := fun p => decide (.declaration "NOJFwWwiWP" (.number 63) ∈ p.statements) && p.statements.any fun s =>
      s.bodies.any fun c => c.statements.any fun t => t.bodies.any fun d =>
        decide (.assignment "KvbtRJ" (.string "ADgxlN") ∈ d.statements)) (by decide +kernel)
  obtain ⟨htop, hsome⟩ := Bool.and_eq_true_iff.mp hsome
  obtain ⟨s, hs, hsome⟩ := List.any_eq_true.mp hsome
  obtain ⟨c, hc, hsome⟩ := List.any_eq_true.mp hsome
  obtain ⟨t, ht, hsome⟩ := List.any_eq_true.mp hsome
  obtain ⟨d, hd, hassigned⟩ := List.any_eq_true.mp hsome
  have hnumber : StandsAt 0 (.declaration "NOJFwWwiWP" (.number 63)) p.statements := .top (of_decide_eq_true htop)
  have hname : StandsAt 2 (.assignment "KvbtRJ" (.string "ADgxlN")) p.statements :=
    .inside (.deeper hs hc (.here ht hd)) (of_decide_eq_true hassigned)
  obtain ⟨-, hnumbers, -⟩ := tokens_in_language hvalid h 0 _ hnumber
  obtain ⟨hnames, -, hwords⟩ := tokens_in_language hvalid h 2 _ hname
  obtain ⟨-, -, -, hfree⟩ := hnames _ (List.mem_singleton_self _)
  obtain ⟨-, -, -, hquoted⟩ := hwords _ (List.mem_singleton_self _)
  exact ⟨hvalid, p, g', h, hnumber, hnumbers _ (List.mem_singleton_self _), hname, hfree, hquoted⟩

end RandomPrograms
