import RandomPrograms.Proofs.Generator.Bodies
import RandomPrograms.Proofs.Generator.Candidates
import RandomPrograms.Proofs.Generator.Language
import RandomPrograms.Proofs.Grammar.Supply

/-! There are only so many names, and a scope takes each of them once. So no block declares more variables than there
    are names, and where all names are taken a declaration fails, whatever is drawn. -/

namespace RandomPrograms

open Grammar Randomness

/-! ### What a block declares -/

/-- The name that a statement declares in its own scope. -/
def Grammar.Statement.declares? : Statement → Option String
  | .declaration name _ => some name
  | _ => none

/-- The names that statements declare in the scope in which they stand, one for each declaration. -/
def declaredNames (ss : List Statement) : List String := ss.filterMap Statement.declares?

section
variable {g g' : Generator} {budget : Nat} {s : Statement} {b : Block} {name : String}

/-- A name is declared only where the innermost scope does not bind it, and is bound there from then on. -/
theorem Makes.declares (h : Makes g s g') (hs : s.declares? = some name) :
    IsName g.config.limits.letters name ∧ g.scopes.inner.binds name = false ∧ g'.scopes.inner.binds name = true := by
  cases h with
  | declared rejected source free named fits =>
    obtain rfl := Option.some.inj hs
    exact ⟨named, free, Scope.binds_eq_true_iff.mpr ⟨_, (Scope.mem_insert free).mpr (Or.inl rfl)⟩⟩
  | assigned | suppressed | ifThen | ifElse => cases hs

/-- A name that is free at the end has been free all the time. -/
theorem Kept.free (h : Kept g g') (hfree : g'.scopes.inner.binds name = false) : g.scopes.inner.binds name = false := by
  refine Bool.eq_false_iff.mpr fun hbound => ?_
  obtain ⟨t, ht⟩ := Scope.binds_eq_true_iff.mp hbound
  have hstill : g'.scopes.inner.binds name = true := Scope.binds_eq_true_iff.mpr ⟨t, h.inner ht⟩
  rw [hfree] at hstill
  cases hstill

/-- The names that a block declares are all different, and none of them has been bound before. -/
theorem Fills.declares (h : Fills budget g b g') : (declaredNames b.statements).Nodup ∧
    ∀ name ∈ declaredNames b.statements, IsName g.config.limits.letters name ∧ g.scopes.inner.binds name = false := by
  induction h using Fills.statement_induction with
  | @last _ g _ s made _ =>
    rcases hs : s.declares? with _ | name
    · simp [declaredNames, hs]
    · obtain ⟨hname, hfree, -⟩ := made.declares hs
      simpa [declaredNames, hs] using ⟨hname, hfree⟩
  | @more _ g _ _ s b made _ rest ih =>
    obtain ⟨hnodup, hnames⟩ := ih
    have hrest : ∀ name ∈ declaredNames b.statements,
        IsName g.config.limits.letters name ∧ g.scopes.inner.binds name = false := by
      intro name hname
      obtain ⟨hword, hfree⟩ := hnames name hname
      rw [made.kept.config] at hword
      exact ⟨hword, made.kept.free hfree⟩
    rcases hs : s.declares? with _ | name
    · have hskip : declaredNames (s :: b.statements) = declaredNames b.statements := List.filterMap_cons_none hs
      rw [hskip]
      exact ⟨hnodup, hrest⟩
    · have hcons : declaredNames (s :: b.statements) = name :: declaredNames b.statements := List.filterMap_cons_some hs
      obtain ⟨hname, hfree, hbound⟩ := made.declares hs
      rw [hcons]
      refine ⟨List.nodup_cons.mpr ⟨fun hagain => ?_, hnodup⟩, List.forall_mem_cons.mpr ⟨⟨hname, hfree⟩, hrest⟩⟩
      rw [(hnames name hagain).2] at hbound
      cases hbound

theorem Fills.length_declaredNames_le (h : Fills budget g b g') :
    (declaredNames b.statements).length ≤ nameCount g.config.limits.letters := by
  obtain ⟨hnodup, hnames⟩ := h.declares
  exact length_le_nameCount hnodup fun name hname => (hnames name hname).1

end

/-! ### Where no name is left -/

/-- All words that could name a variable are bound in the innermost scope. -/
def Generator.Saturated (g : Generator) : Prop := ∀ w : String, w ≠ "" → w.length ≤ g.config.maxIdentifierLength.toNat →
  (∀ c ∈ w.toList, c.isAlpha = true) → w ∉ reservedWords → g.scopes.inner.binds w = true

theorem Generator.Saturated.not_acceptable {g : Generator} (hvalid : g.config.validate = .ok ()) (h : g.Saturated)
    (k : Nat) : ¬g.Acceptable (g.candidate k) := by
  rintro ⟨hunreserved, hfree⟩
  have hword := drawWord_isWord g.config.maxIdentifierLength (g.sourceAfter k)
  rw [Nat.max_eq_right (Config.maxIdentifierLength_pos hvalid)] at hword
  have hname : IsName g.config.maxIdentifierLength.toNat (g.candidate k) := ⟨hword, hunreserved⟩
  have hbound := h (g.candidate k) hword.ne_empty hword.length_le hword.isAlpha hname.not_mem_reservedWords
  rw [hfree] at hbound
  cases hbound

/-- Neither a program nor a body of it declares more variables in one scope than there are names; and where the
    innermost scope binds them all, every declaration ends with the error that names have run out, after all names
    that may be tried were drawn, and has changed nothing but the source and the count of rejected names. -/
theorem names_run_out {c : Config} (hvalid : c.validate = .ok ()) :
    (∀ (g g' : Generator) (budget : Option UInt64) (p : Program), g.config = c →
      Run.program budget g = (.ok p, g') →
      (declaredNames p.statements).length ≤ nameCount c.maxIdentifierLength.toNat ∧
      ∀ levels b, BodyAt levels b p.statements →
        (declaredNames b.statements).length ≤ nameCount c.maxIdentifierLength.toNat) ∧
    ∀ (g : Generator) (type : VarType), g.config = c → g.Saturated →
      Run.declaration type g = (.error (.identifierExhausted c.maxIdentifierAttempts.toNat),
        { g with
          source := g.sourceAfter c.maxIdentifierAttempts.toNat
          tally := { g.tally with retries := g.tally.retries + c.maxIdentifierAttempts.toNat } }) := by
  constructor
  · rintro g g' budget p rfl h
    obtain ⟨hfills, -, -⟩ := Run.program_eq_ok h
    have htop := hfills.length_declaredNames_le
    rw [g.begun_config, Config.letters_of_validate hvalid] at htop
    refine ⟨htop, fun levels b hb => ?_⟩
    obtain ⟨h₁, h₁', hbody, hconfig, -⟩ := hfills.body hb
    have hinner := hbody.length_declaredNames_le
    rwa [hconfig, g.begun_config, Config.letters_of_validate hvalid] at hinner
  · rintro g type rfl hsaturated
    exact Run.declaration_of_none fun i _ => hsaturated.not_acceptable hvalid i

/-- The letters are all the letters there are. -/
theorem Grammar.mem_alphabet_of_isAlpha {c : Char} (h : c.isAlpha = true) : c ∈ alphabet := by
  have hcode : c.toNat < 0x7b := by
    rcases (Bool.or_eq_true _ _).mp h with hupper | hlower
    · have hle : c.val ≤ 'Z'.val := (of_decide_eq_true hupper).2
      exact Nat.lt_of_le_of_lt (UInt32.le_iff_toNat_le.mp hle) (by decide)
    · have hle : c.val ≤ 'z'.val := of_decide_eq_true ((Bool.and_eq_true _ _).mp hlower).2
      exact Nat.lt_of_le_of_lt (UInt32.le_iff_toNat_le.mp hle) (by decide)
  have hall : (List.range 0x7b).all (fun n => !(Char.ofNat n).isAlpha || alphabet.contains (Char.ofNat n)) = true := by
    decide +kernel
  have hletter := List.all_eq_true.mp hall c.toNat (List.mem_range.mpr hcode)
  rw [Char.ofNat_toNat, h] at hletter
  exact List.contains_iff_mem.mp hletter

/-- With names of one letter: a program declares two variables at its top and three in a body, and where all letters are
    bound a thousand names are drawn in vain. -/
theorem names_run_out_one_letter : ∃ (g h h' : Generator) (p : Program) (b : Block), g.config.validate = .ok () ∧
    h.config = g.config ∧ Run.program (some 100) h = (.ok p, h') ∧ BodyAt 1 b p.statements ∧ nameCount 1 = 52 ∧
    (declaredNames p.statements).length = 2 ∧ 2 ≤ nameCount 1 ∧
    (declaredNames b.statements).length = 3 ∧ 3 ≤ nameCount 1 ∧ g.Saturated ∧
    Run.declaration .number g = (.error (.identifierExhausted 1000),
      { g with source := g.sourceAfter 1000, tally := { g.tally with retries := 1000 } }) := by
  let c : Config := { Config.default with maxIdentifierLength := 1 }
  let full : Scope := alphabet.foldl (fun s ch => s.insert ⟨String.ofList [ch], .number⟩) .empty
  let g : Generator := { Generator.start c 12 with scopes := ⟨full, []⟩ }
  have hvalid : c.validate = .ok () := Config.validate_eq_ok_iff.mpr (by decide +kernel)
  have hletters : alphabet.all (fun ch => full.binds (String.ofList [ch])) = true := by decide +kernel
  have hsaturated : g.Saturated := by
    intro w hne hle halpha _
    have hlength : w.toList.length = 1 := by
      have hpos := List.length_pos_iff.mpr fun hnil => hne (String.toList_eq_nil_iff.mp hnil)
      have hshort : w.length ≤ 1 := hle
      rw [← String.length_toList] at hshort
      omega
    obtain ⟨ch, hch⟩ := List.length_eq_one_iff.mp hlength
    have hmem := mem_alphabet_of_isAlpha (halpha ch (hch ▸ List.mem_cons_self))
    have hbound := List.all_eq_true.mp hletters ch hmem
    rwa [← hch, String.ofList_toList] at hbound
  obtain ⟨p, h', hp, hsome⟩ := Run.exists_of_any (x := Run.program (some 100) (Generator.start c 13))
    (q := fun p => (declaredNames p.statements).length == 2 && p.statements.any fun s => s.bodies.any fun b =>
      (declaredNames b.statements).length == 3) (by decide +kernel)
  obtain ⟨htwo, hsome⟩ := Bool.and_eq_true_iff.mp hsome
  obtain ⟨s, hs, hsome⟩ := List.any_eq_true.mp hsome
  obtain ⟨b, hb, hthree⟩ := List.any_eq_true.mp hsome
  obtain ⟨hprograms, hdeclaration⟩ := names_run_out hvalid
  obtain ⟨htop, hbodies⟩ := hprograms _ _ _ _ rfl hp
  have hbody := hbodies 1 b (.here hs hb)
  rw [beq_iff_eq.mp htwo] at htop
  rw [beq_iff_eq.mp hthree] at hbody
  exact ⟨g, Generator.start c 13, h', p, b, hvalid, rfl, hp, .here hs hb, by decide +kernel, beq_iff_eq.mp htwo, htop,
    beq_iff_eq.mp hthree, hbody, hsaturated, hdeclaration g .number rfl hsaturated⟩

end RandomPrograms
