import RandomPrograms.Proofs.Generator.Derivation

/-! The computations end in derivations: whatever a statement or a block returns, and whatever state it
    leaves, there is a derivation for it. In a derivation the nesting bound is tested against the depth of
    the scopes at that place, while the computation counts down the levels that are left. -/

namespace RandomPrograms

open Grammar Randomness Draw

/-- How a computation begun on `g` ends: as `M` says, or by breaking off. -/
def Ends {α : Type} (M : α → Generator → Prop) (g : Generator) : Except Error α × Generator → Prop
  | (.ok a, g') => M a g'
  | (.error e, g') => Breaks g e g'

/-- However a computation ends, what every derivation keeps is kept. -/
theorem Ends.kept {α : Type} {M : α → Generator → Prop} {g : Generator} (hM : ∀ a g', M a g' → Kept g g') :
    ∀ {p : Except Error α × Generator}, Ends M g p → Kept g p.2
  | (.ok _, _), h => hM _ _ h
  | (.error _, _), h => Breaks.kept h

/-! ### The source does not matter

A step uses up words of the source, and a derivation may start from any of them. -/

theorem Makes.of_source {g g' : Generator} {s : Statement} {r : Source} (h : Makes { g with source := r } s g') :
    Makes g s g' := by
  cases h with
  | declared rejected source free named fits => exact .declared (g := g) rejected source free named fits
  | assigned source visible fits => exact .assigned (g := g) source visible fits
  | suppressed source deep => exact .suppressed (g := g) source deep
  | ifThen source room asks body => exact .ifThen (g := g) source room asks body
  | ifElse source room asks body otherwise => exact .ifElse (g := g) source room asks body otherwise

theorem Breaks.of_source {g g' : Generator} {e : Error} {r : Source} (h : Breaks { g with source := r } e g') :
    Breaks g e g' := by
  cases h with
  | exhausted source => exact .exhausted (g := g) source
  | later made breaks => exact .later made.of_source breaks
  | inThen source breaks => exact .inThen (g := g) source breaks
  | inElse source body breaks => exact .inElse (g := g) source body breaks

theorem Ends.of_source {g : Generator} {r : Source} :
    ∀ {p : Except Error Statement × Generator},
      Ends (Makes { g with source := r }) { g with source := r } p → Ends (Makes g) g p
  | (.ok _, _), h => Makes.of_source h
  | (.error _, _), h => Breaks.of_source h

/-! ### Declarations and assignments -/

namespace Run

section
variable {type : VarType} {left rejected : Nat} {g : Generator} {name : String} {source : Source}

/-- A name that is reserved or bound already changes the source alone, and the search goes on. -/
theorem declareName_of_rejected (hd : drawWord (some g.config.maxIdentifierLength) g.source = (name, source))
    (h : isReserved name = true ∨ g.scopes.inner.binds name = true) :
    declareName type (left + 1) rejected g = declareName type left (rejected + 1) { g with source } := by
  have hnone : (if isReserved name then none else g.scopes.declare? name type) = none := by
    rcases h with h | h <;> simp [ScopeStack.declare?, h]
  rw [declareName, get_bind, draw_bind, hd]
  dsimp only
  rw [hnone]

theorem declareName_of_new (hd : drawWord (some g.config.maxIdentifierLength) g.source = (name, source))
    (hr : isReserved name = false) (hb : g.scopes.inner.binds name = false) :
    declareName type (left + 1) rejected g = (.ok name, g.declaring name type rejected source) := by
  have hsome : (if isReserved name then none else g.scopes.declare? name type) =
      some { g.scopes with inner := g.scopes.inner.insert ⟨name, type⟩ } := by
    rw [hr, if_neg Bool.false_ne_true]
    exact ScopeStack.declare?_eq_some_iff.mpr ⟨hb, rfl⟩
  rw [declareName, get_bind, draw_bind, hd]
  dsimp only
  rw [hsome]
  rfl

end

theorem declareName_ends {type : VarType} {left rejected : Nat} {g : Generator} {p : Except Error String × Generator}
    (h : declareName type left rejected g = p) :
    match p with
    | (.ok name, g') => g.scopes.inner.binds name = false ∧ IsName g.config.limits.letters name ∧
        ∃ k source, g' = g.declaring name type k source
    | (.error e, g') => e = .identifierExhausted (rejected + left) ∧
        ∃ source, g' = g.exhausting (rejected + left) source := by
  induction left generalizing rejected g with
  | zero =>
    subst h
    exact ⟨rfl, g.source, rfl⟩
  | succ left ih =>
    have hword := drawWord_isWord g.config.maxIdentifierLength g.source
    rcases hd : drawWord (some g.config.maxIdentifierLength) g.source with ⟨name, source⟩
    rw [hd] at hword
    by_cases hold : isReserved name = true ∨ g.scopes.inner.binds name = true
    · rw [declareName_of_rejected hd hold] at h
      have hrest := ih h
      rw [show rejected + 1 + left = rejected + (left + 1) by omega] at hrest
      rcases p with ⟨e | name', g'⟩ <;> exact hrest
    · simp only [not_or, Bool.not_eq_true] at hold
      rw [declareName_of_new hd hold.1 hold.2] at h
      subst h
      exact ⟨hold.2, ⟨hword, hold.1⟩, rejected, source, rfl⟩

theorem declaration_ends (type : VarType) (g : Generator) : Ends (Makes g) g (declaration type g) := by
  unfold declaration
  rw [get_bind]
  rcases h : declareName type g.config.maxIdentifierAttempts.toNat 0 g with ⟨e | name, g₁⟩
  · obtain ⟨rfl, source, rfl⟩ := declareName_ends h
    rw [bind_of_error h, Nat.zero_add]
    exact .exhausted source
  · obtain ⟨hfree, hnamed, k, source, rfl⟩ := declareName_ends h
    rw [bind_of_ok h, bind_of_ok (literal_apply type _)]
    obtain ⟨htype, hfits⟩ := Value.draw_gives g.config.limits type source
    have hmade := Makes.declared (g := g) k (Value.draw g.config.limits type source).2 hfree hnamed hfits
    rw [htype] at hmade
    exact hmade

/-- A declaration that finds no name declares nothing. -/
theorem scopes_of_declaration_error {type : VarType} {g g' : Generator} {e : Error}
    (h : declaration type g = (.error e, g')) : g'.scopes = g.scopes := by
  unfold declaration at h
  rw [get_bind] at h
  rcases hd : declareName type g.config.maxIdentifierAttempts.toNat 0 g with ⟨e' | name, g₁⟩
  · obtain ⟨-, source, rfl⟩ := declareName_ends hd
    rw [bind_of_error hd] at h
    obtain ⟨-, rfl⟩ := Prod.mk.inj h
    rfl
  · rw [bind_of_ok hd, bind_of_ok (literal_apply type g₁)] at h
    cases h

theorem assignment_ends (g : Generator) : Ends (Makes g) g (assignment g) := by
  have hlook := ScopeStack.lookup_gives g.scopes g.source
  unfold assignment
  rw [get_bind, draw_bind]
  rcases hl : g.scopes.lookup none g.source with ⟨_ | b, source⟩
  · dsimp only
    rw [draw_bind]
    exact Ends.of_source (declaration_ends _ { g with source := _ })
  · rw [hl] at hlook
    have hvisible : g.scopes.resolve b.name = some b.type := hlook
    obtain ⟨htype, hfits⟩ := Value.draw_gives g.config.limits b.type source
    rw [← htype] at hvisible
    have hmade := Makes.assigned (g := g) (Value.draw g.config.limits b.type source).2 hvisible hfits
    exact hmade

/-! ### Blocks and conditionals -/

def ofLines (ls : List (Statement × String)) : Block :=
  ⟨ls.map (·.1), String.join (ls.map fun l => l.2 ++ "\n")⟩

theorem ofLines_cons (s : Statement) (t : String) (ls : List (Statement × String)) :
    ofLines ((s, t) :: ls) = ⟨s :: (ofLines ls).statements, t ++ "\n" ++ (ofLines ls).code⟩ := by
  simp [ofLines, String.join_cons]

theorem utf8ByteSize_ofLines_cons (s : Statement) (text : String) (ls : List (Statement × String)) :
    (ofLines ((s, text) :: ls)).code.utf8ByteSize = text.utf8ByteSize + 1 + (ofLines ls).code.utf8ByteSize := by
  rw [ofLines_cons, String.utf8ByteSize_append, String.utf8ByteSize_append]
  rfl

section
variable {next : Run Statement} {P : Generator → Prop}

theorem lines_ends (hnext : ∀ g, P g → Ends (Makes g) g (next g)) (hkept : ∀ {g g'}, P g → Kept g g' → P g')
    (owed : Nat) (g : Generator) (hg : P g) :
    Ends (fun ls g' => Fills owed g (ofLines ls) g') g (lines next owed g) := by
  induction owed using Nat.strong_induction_on generalizing g with
  | _ owed ih =>
    have hmade := hnext g hg
    rw [lines, bind_apply, line_apply]
    rcases hn : next g with ⟨e | s, g₁⟩ <;> rw [hn] at hmade
    · exact hmade
    · dsimp only
      have hmade : Makes g s g₁ := hmade
      by_cases hshort : (g.line s).utf8ByteSize + 1 < owed
      · rw [if_pos hshort, bind_apply]
        have hrest := ih (owed - ((g.line s).utf8ByteSize + 1)) (by omega) g₁ (hkept hg hmade.kept)
        rcases hl : lines next (owed - ((g.line s).utf8ByteSize + 1)) g₁ with ⟨e | ls, g₂⟩ <;> rw [hl] at hrest
        · exact .later hmade hrest
        · show Fills owed g (ofLines ((s, g.line s) :: ls)) g₂
          rw [ofLines_cons]
          exact .more hmade hshort hrest
      · rw [if_neg hshort]
        show Fills owed g (ofLines [(s, g.line s)]) g₁
        rw [ofLines_cons]
        simpa [ofLines] using Fills.last hmade (Nat.not_lt.mp hshort)

theorem fill_ends (hnext : ∀ g, P g → Ends (Makes g) g (next g)) (hkept : ∀ {g g'}, P g → Kept g g' → P g')
    (budget : Nat) (g : Generator) (hg : P g) : Ends (Fills budget g) g (fill next budget g) := by
  have h := lines_ends hnext hkept budget g hg
  unfold fill
  rw [bind_apply]
  rcases hl : lines next budget g with ⟨e | ls, g₁⟩ <;> rw [hl] at h <;> exact h

end

theorem statement_ends {conditional : ConditionalKind → Run Statement} {g : Generator}
    (h : ∀ kind r, Ends (Makes g) g (conditional kind { g with source := r })) :
    Ends (Makes g) g (statement conditional g) := by
  unfold statement
  rw [draw_bind]
  rcases StatementKind.draw g.source with ⟨kind, r⟩
  cases kind with
  | declaration =>
    dsimp only
    rw [draw_bind]
    exact Ends.of_source (declaration_ends _ { g with source := _ })
  | assignment => exact Ends.of_source (assignment_ends { g with source := r })
  | conditional =>
    dsimp only
    rw [draw_bind]
    exact h _ _

/-- How a body in a scope of its own ends: as it would in that scope, which is then closed. -/
def EndsBranch (budget : Nat) (g : Generator) : Except Error Block × Generator → Prop
  | (.ok b, g') => ∃ g₁, Fills budget (g.opening g.source) b g₁ ∧ g' = g₁.closing g.scopes
  | (.error e, g') => ∃ g₁, Breaks (g.opening g.source) e g₁ ∧ g' = g₁.closing g.scopes

theorem branch_ends {body : Run Block} {budget : Nat} {g : Generator}
    (h : Ends (Fills budget (g.opening g.source)) (g.opening g.source) (body (g.opening g.source))) :
    EndsBranch budget g (branch body g) := by
  rcases hb : body (g.opening g.source) with ⟨e | b, g₁⟩ <;> rw [hb] at h
  · have hbreaks : Breaks (g.opening g.source) e g₁ := h
    rw [branch_apply hb hbreaks.kept.outer]
    exact ⟨g₁, hbreaks, rfl⟩
  · have hfills : Fills budget (g.opening g.source) b g₁ := h
    rw [branch_apply hb hfills.kept.outer]
    exact ⟨g₁, hfills, rfl⟩

/-- The body of a branch, where conditionals end that have one level less. -/
theorem body_ends {levels : Nat} (h : ∀ kind g, g.bound - g.scopes.depth = levels →
      Ends (Makes g) g (conditionalWithin levels kind g)) {g : Generator} (hg : g.bound - g.scopes.depth = levels + 1) :
    EndsBranch g.bodyBudget g (branch (fill (statement (conditionalWithin levels)) g.bodyBudget) g) := by
  have hlevels : (g.opening g.source).bound - (g.opening g.source).scopes.depth = levels := by
    show g.bound - (g.scopes.depth + 1) = levels
    omega
  exact branch_ends (fill_ends (P := fun h => h.bound - h.scopes.depth = levels)
    (fun g hg => statement_ends fun kind r => Ends.of_source (h kind { g with source := r } hg))
    (fun hg hk => by rw [Generator.bound, hk.config, hk.depth]; exact hg) g.bodyBudget _ hlevels)

/-- The levels that are counted down are those between the depth of the scopes and the bound. However a
    conditional ends, the scopes are those it began in. -/
theorem conditionalWithin_ends (levels : Nat) (kind : ConditionalKind) (g : Generator)
    (hg : g.bound - g.scopes.depth = levels) : Ends (Makes g) g (conditionalWithin levels kind g) ∧
      (conditionalWithin levels kind g).2.scopes = g.scopes := by
  induction levels generalizing kind g with
  | zero => exact ⟨Makes.suppressed (g := g) g.source (by omega), rfl⟩
  | succ levels ih =>
    have hroom : g.scopes.depth < g.bound := by omega
    have hbranch : ∀ h : Generator, h.config = g.config → h.scopes = g.scopes → EndsBranch g.bodyBudget h
        (branch (fill (statement (conditionalWithin levels)) g.config.blockSizeBudget.toNat) h) := fun h hc hs => by
      have hbody := body_ends (fun kind g hg => (ih kind g hg).1) (g := h) (by rw [Generator.bound, hc, hs]; exact hg)
      rw [Generator.bodyBudget, hc] at hbody
      exact hbody
    have hasks := Condition.draw_gives g.scopes g.config.limits g.source
    rw [conditionalWithin, get_bind, draw_bind]
    rcases hc : Condition.draw g.scopes g.config.limits g.source with ⟨c, r⟩
    rw [hc] at hasks
    generalize branch (fill (statement (conditionalWithin levels)) g.config.blockSizeBudget.toNat) = body at hbranch
    have hthen := hbranch { g with source := r } rfl rfl
    cases kind with
    | ifThen =>
      dsimp only
      rw [bind_apply]
      rcases hb : body { g with source := r } with ⟨e | b, g₁⟩ <;> rw [hb] at hthen <;>
        obtain ⟨g₁, hfirst, rfl⟩ := hthen
      · exact ⟨Breaks.inThen (g := g) r hfirst, rfl⟩
      · exact ⟨Makes.ifThen (g := g) r hroom hasks hfirst, rfl⟩
    | ifElse =>
      dsimp only
      rw [bind_apply]
      rcases hb : body { g with source := r } with ⟨e | b, g₁⟩ <;> rw [hb] at hthen <;>
        obtain ⟨g₁, hfirst, rfl⟩ := hthen
      · exact ⟨Breaks.inThen (g := g) r hfirst, rfl⟩
      · dsimp only
        have hkept : Kept (g.opening r) g₁ := hfirst.kept
        have helse := hbranch (g₁.closing g.scopes) hkept.config rfl
        rw [bind_apply]
        rcases ho : body (g₁.closing g.scopes) with ⟨e | o, g₂⟩ <;> rw [ho] at helse <;>
          obtain ⟨g₂, hsecond, rfl⟩ := helse
        · exact ⟨Breaks.inElse (g := g) r hfirst hsecond, rfl⟩
        · exact ⟨Makes.ifElse (g := g) r hroom hasks hfirst hsecond, rfl⟩

/-! ### From calls to derivations -/

theorem conditional_ends (kind : ConditionalKind) (g : Generator) : Ends (Makes g) g (conditional kind g) :=
  (conditionalWithin_ends _ kind g rfl).1

theorem conditional_scopes (kind : ConditionalKind) (g : Generator) : (conditional kind g).2.scopes = g.scopes :=
  (conditionalWithin_ends _ kind g rfl).2

theorem block_ends (budget : Nat) (g : Generator) : Ends (Fills budget g) g (block budget g) :=
  fill_ends (P := fun h => h.bound - h.scopes.depth = g.bound - g.scopes.depth)
    (fun h hh => statement_ends fun kind r =>
      Ends.of_source (conditionalWithin_ends _ kind { h with source := r } hh).1)
    (fun hh hk => by rw [Generator.bound, hk.config, hk.depth]; exact hh) budget g rfl

variable {budget : Nat} {g g' : Generator}

theorem fills_of_block {b : Block} (h : block budget g = (.ok b, g')) : Fills budget g b g' := by
  have := block_ends budget g
  rwa [h] at this

theorem breaks_of_block {e : Error} (h : block budget g = (.error e, g')) : Breaks g e g' := by
  have := block_ends budget g
  rwa [h] at this

end Run

end RandomPrograms
