import RandomPrograms.Proofs.Generator.Adequacy

/-! How a declaration finds its name. The source fixes all names that would be drawn from it one after the other,
    however many are drawn. A declaration takes the first of them that is neither reserved nor bound in the innermost
    scope, if it comes among the names that may be tried, and has then drawn the names up to it and no more; where
    none of these will do, they have all been drawn, and nothing else has happened. -/

namespace RandomPrograms

open Grammar Randomness

/-! ### Candidates -/

namespace Generator

/-- The source after so many names were drawn. -/
def sourceAfter (g : Generator) : Nat → Source
  | 0 => g.source
  | k + 1 => (drawWord (some g.config.maxIdentifierLength) (g.sourceAfter k)).2

/-- The name that would be drawn after `k` others. -/
def candidate (g : Generator) (k : Nat) : String :=
  (drawWord (some g.config.maxIdentifierLength) (g.sourceAfter k)).1

/-- A name that a declaration may take. -/
def Acceptable (g : Generator) (name : String) : Prop :=
  isReserved name = false ∧ g.scopes.inner.binds name = false

instance (g : Generator) (name : String) : Decidable (g.Acceptable name) := inferInstanceAs (Decidable (_ ∧ _))

variable {g : Generator} {name : String}

theorem draw_candidate (g : Generator) (k : Nat) : drawWord (some g.config.maxIdentifierLength) (g.sourceAfter k) =
    (g.candidate k, g.sourceAfter (k + 1)) := by
  rw [candidate, sourceAfter, Prod.mk.eta]

theorem rejected_of_not_acceptable (h : ¬g.Acceptable name) :
    isReserved name = true ∨ g.scopes.inner.binds name = true := by
  unfold Acceptable at h
  rcases hreserved : isReserved name with _ | _
  · exact Or.inr (by simpa [hreserved] using h)
  · exact Or.inl rfl

end Generator

/-! ### The search -/

namespace Run

section
variable {type : VarType} {g : Generator} {k tries : Nat}

/-- Names that will not do are drawn and counted, and the search goes on behind them. -/
theorem declareName_of_all_rejected (hk : k ≤ tries) (h : ∀ i < k, ¬g.Acceptable (g.candidate i)) :
    declareName type tries 0 g = declareName type (tries - k) k { g with source := g.sourceAfter k } := by
  induction k with
  | zero => rfl
  | succ k ih =>
    -- the tries left after `k` names are one and those left after the next
    have hleft : tries - k = tries - (k + 1) + 1 := by omega
    have hrejected := Generator.rejected_of_not_acceptable (h k (by omega))
    rw [ih (by omega) fun i hi => h i (by omega), hleft]
    exact declareName_of_rejected (g := { g with source := g.sourceAfter k }) (g.draw_candidate k) hrejected

theorem declareName_of_first (hk : k < tries) (hfirst : g.Acceptable (g.candidate k))
    (hbefore : ∀ i < k, ¬g.Acceptable (g.candidate i)) :
    declareName type tries 0 g = (.ok (g.candidate k), g.declaring (g.candidate k) type k (g.sourceAfter (k + 1))) := by
  have hleft : tries - k = tries - (k + 1) + 1 := by omega
  rw [declareName_of_all_rejected (by omega) hbefore, hleft]
  exact declareName_of_new (g := { g with source := g.sourceAfter k }) (g.draw_candidate k) hfirst.1 hfirst.2

theorem declareName_of_none (h : ∀ i < tries, ¬g.Acceptable (g.candidate i)) :
    declareName type tries 0 g = (.error (.identifierExhausted tries), g.exhausting tries (g.sourceAfter tries)) := by
  rw [declareName_of_all_rejected (Nat.le_refl _) h, Nat.sub_self]
  rfl

theorem declaration_of_none (h : ∀ i < g.config.maxIdentifierAttempts.toNat, ¬g.Acceptable (g.candidate i)) :
    declaration type g = (.error (.identifierExhausted g.config.maxIdentifierAttempts.toNat),
      { g with
        source := g.sourceAfter g.config.maxIdentifierAttempts.toNat
        tally := { g.tally with retries := g.tally.retries + g.config.maxIdentifierAttempts.toNat } }) := by
  have hname : declareName type g.config.maxIdentifierAttempts.toNat 0 g = (.error _, _) := declareName_of_none h
  unfold declaration
  rw [get_bind, bind_of_error hname]
  rfl

end

/-- The first name that will do, if it comes early enough, is declared with a literal drawn behind it; the names before
    it are counted, the scope gets that one binding, and all else stays. If none comes, the names that may be tried are
    drawn and counted, and all else stays. -/
theorem declares_first_acceptable (type : VarType) (g : Generator) :
    (∀ k, k < g.config.maxIdentifierAttempts.toNat → g.Acceptable (g.candidate k) →
      (∀ i < k, ¬g.Acceptable (g.candidate i)) →
      ∃ value source, Value.draw g.config.limits type (g.sourceAfter (k + 1)) = (value, source) ∧ value.type = type ∧
        declaration type g = (.ok (.declaration (g.candidate k) value),
          { g with
            source
            scopes := { g.scopes with inner := g.scopes.inner.insert ⟨g.candidate k, type⟩ }
            tally := { g.tally with
              retries := g.tally.retries + k
              declarations := g.tally.declarations + 1 } }) ∧
        ∀ b, b ∈ (g.scopes.inner.insert ⟨g.candidate k, type⟩).bindings ↔
          b = ⟨g.candidate k, type⟩ ∨ b ∈ g.scopes.inner.bindings) ∧
    ((∀ i < g.config.maxIdentifierAttempts.toNat, ¬g.Acceptable (g.candidate i)) →
      declaration type g = (.error (.identifierExhausted g.config.maxIdentifierAttempts.toNat),
        { g with
          source := g.sourceAfter g.config.maxIdentifierAttempts.toNat
          tally := { g.tally with retries := g.tally.retries + g.config.maxIdentifierAttempts.toNat } })) := by
  constructor
  · intro k hk hfirst hbefore
    have hname : declareName type g.config.maxIdentifierAttempts.toNat 0 g =
        (.ok (g.candidate k), g.declaring (g.candidate k) type k (g.sourceAfter (k + 1))) :=
      declareName_of_first hk hfirst hbefore
    have htype := (Value.draw_gives g.config.limits type (g.sourceAfter (k + 1))).1
    rcases hvalue : Value.draw g.config.limits type (g.sourceAfter (k + 1)) with ⟨value, source⟩
    rw [hvalue] at htype
    have hliteral := literal_of_draw (g := g.declaring (g.candidate k) type k (g.sourceAfter (k + 1))) hvalue
    refine ⟨value, source, rfl, htype, ?_, fun b => Scope.mem_insert hfirst.2⟩
    unfold declaration
    rw [get_bind, bind_of_ok hname, bind_of_ok hliteral]
    rfl
  · exact declaration_of_none

/-- Names of one letter, of which the first drawn is bound already: with one try there is none, with two the second is
    taken. -/
theorem declares_first_acceptable_one_letter : ∃ g h : Generator, g.config.maxIdentifierAttempts = 2 ∧
    ¬g.Acceptable (g.candidate 0) ∧ g.Acceptable (g.candidate 1) ∧
    (∃ value g', declaration .number g = (.ok (.declaration (g.candidate 1) value), g') ∧ value.type = .number ∧
      g'.tally.retries = 1 ∧ g'.tally.declarations = 1 ∧
      g'.scopes.inner = g.scopes.inner.insert ⟨g.candidate 1, .number⟩) ∧
    h.config.maxIdentifierAttempts = 1 ∧ ¬h.Acceptable (h.candidate 0) ∧
    declaration .number h = (.error (.identifierExhausted 1),
      { h with source := h.sourceAfter 1, tally := { h.tally with retries := 1 } }) := by
  let g : Generator := { Generator.start
    { Config.default with maxIdentifierLength := 1, maxIdentifierAttempts := 2 } 12 with
      scopes := ⟨Scope.empty.insert ⟨"I", .string⟩, []⟩ }
  let h : Generator := { g with config := { g.config with maxIdentifierAttempts := 1 } }
  have hbound : ∀ i < 1, ¬g.Acceptable (g.candidate i) := by decide +kernel
  have hfree : g.Acceptable (g.candidate 1) := by decide +kernel
  have hbound' : ∀ i < 1, ¬h.Acceptable (h.candidate i) := by decide +kernel
  obtain ⟨value, source, -, htype, hdeclares, -⟩ := (declares_first_acceptable .number g).1 1 (by decide) hfree hbound
  have hgives := (declares_first_acceptable .number h).2 hbound'
  exact ⟨g, h, rfl, hbound 0 (by decide), hfree, ⟨value, _, hdeclares, htype, rfl, rfl, rfl⟩, rfl,
    hbound' 0 (by decide), hgives⟩

end Run

end RandomPrograms
