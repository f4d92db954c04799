import RandomPrograms.Proofs.Generator.Derivation

/-! Every body in a tree, however deep, is itself a block that a generator wrote: with the same configuration,
    with the budget of bodies, and as many scopes deeper as it lies in the tree. So every statement was made at
    the depth at which it stands. -/

namespace RandomPrograms

open Grammar Randomness

def Grammar.Statement.bodies : Statement → List Block
  | .ifThen _ body => [body]
  | .ifElse _ body otherwise => [body, otherwise]
  | _ => []

def Grammar.Statement.isConditional : Statement → Bool
  | .ifThen .. => true
  | .ifElse .. => true
  | _ => false

/-- Block `b` lies `levels` levels below the statements `ss`. -/
inductive BodyAt : Nat → Block → List Statement → Prop
  | here {s : Statement} {ss : List Statement} {b : Block} (hs : s ∈ ss) (hb : b ∈ s.bodies) : BodyAt 1 b ss
  | deeper {levels : Nat} {s : Statement} {ss : List Statement} {b c : Block} (hs : s ∈ ss) (hc : c ∈ s.bodies)
      (below : BodyAt levels b c.statements) : BodyAt (levels + 1) b ss

/-- Statement `s` is one of the statements `ss`, or one of a block that lies `levels` levels below them. -/
inductive StandsAt : Nat → Statement → List Statement → Prop
  | top {s : Statement} {ss : List Statement} (hs : s ∈ ss) : StandsAt 0 s ss
  | inside {levels : Nat} {s : Statement} {ss : List Statement} {b : Block} (hb : BodyAt levels b ss)
      (hs : s ∈ b.statements) : StandsAt levels s ss

section
variable {levels : Nat} {s t : Statement} {ss : List Statement} {b : Block}

theorem Grammar.Statement.isConditional_of_mem_bodies (hb : b ∈ s.bodies) : s.isConditional = true := by
  cases s with
  | declaration | assignment | empty => cases hb
  | ifThen | ifElse => rfl

theorem StandsAt.deeper (hs : s ∈ ss) (hb : b ∈ s.bodies) (ht : StandsAt levels t b.statements) :
    StandsAt (levels + 1) t ss := by
  cases ht with
  | top ht => exact .inside (.here hs hb) ht
  | inside hc ht => exact .inside (.deeper hs hb hc) ht

/-- A body belongs to a statement that stands one level above it. -/
theorem BodyAt.exists_owner (h : BodyAt levels b ss) :
    ∃ above s, levels = above + 1 ∧ StandsAt above s ss ∧ b ∈ s.bodies := by
  induction h with
  | here hs hb => exact ⟨0, _, rfl, .top hs, hb⟩
  | deeper hs hc below ih =>
    obtain ⟨above, t, rfl, ht, hb⟩ := ih
    exact ⟨above + 1, t, rfl, ht.deeper hs hc, hb⟩

end

variable {g g' : Generator} {budget : Nat} {s : Statement} {b c : Block}

/-- A statement of a block was made in the scopes of the block. -/
theorem Fills.statement {budget : Nat} {g g' : Generator} {b : Block} :
    Fills budget g b g' → s ∈ b.statements → ∃ h h', Makes h s h' ∧ Kept g h
  | .last made _, hs => by
    obtain rfl := List.mem_singleton.mp hs
    exact ⟨_, _, made, .refl _⟩
  | .more made _ rest, hs => by
    rcases List.mem_cons.mp hs with rfl | hs
    · exact ⟨_, _, made, .refl _⟩
    · obtain ⟨h, h', hmade, hkept⟩ := rest.statement hs
      exact ⟨h, h', hmade, made.kept.trans hkept⟩

/-- A body of a statement was written one scope deeper. -/
theorem Makes.body (h : Makes g s g') (hb : b ∈ s.bodies) :
    ∃ h h', Fills g.bodyBudget h b h' ∧ h.config = g.config ∧ h.scopes.depth = g.scopes.depth + 1 := by
  cases h with
  | declared => cases hb
  | assigned => cases hb
  | suppressed => cases hb
  | ifThen source _ _ body =>
    obtain rfl := List.mem_singleton.mp hb
    exact ⟨_, _, body, rfl, rfl⟩
  | @ifElse _ g₁ _ _ _ _ source _ _ body otherwise =>
    rcases List.mem_cons.mp hb with rfl | hb
    · exact ⟨_, _, body, rfl, rfl⟩
    · obtain rfl := List.mem_singleton.mp hb
      exact ⟨_, _, otherwise, body.kept.config, rfl⟩

theorem Fills.body {levels : Nat} (h : Fills budget g b g') (hc : BodyAt levels c b.statements) :
    ∃ h h', Fills g.bodyBudget h c h' ∧ h.config = g.config ∧ h.scopes.depth = g.scopes.depth + levels := by
  generalize hss : b.statements = ss at hc
  -- On the way down each body is a block of its own, with its own budget and its own end.
  induction hc generalizing budget g b g' with
  | here hs hb =>
    subst hss
    obtain ⟨h₁, _, hmade, hkept⟩ := h.statement hs
    obtain ⟨h₂, h₂', hfills, hconfig, hdepth⟩ := hmade.body hb
    rw [Generator.bodyBudget, hkept.config] at hfills
    exact ⟨h₂, h₂', hfills, hconfig.trans hkept.config, by rw [hdepth, hkept.depth]⟩
  | deeper hs hc below ih =>
    subst hss
    obtain ⟨h₁, _, hmade, hkept⟩ := h.statement hs
    obtain ⟨h₂, h₂', hfills, hconfig, hdepth⟩ := hmade.body hc
    obtain ⟨h₃, h₃', hfills₃, hconfig₃, hdepth₃⟩ := ih hfills rfl
    have hconfig₂ := hconfig.trans hkept.config
    rw [Generator.bodyBudget, hconfig₂] at hfills₃
    refine ⟨h₃, h₃', hfills₃, hconfig₃.trans hconfig₂, ?_⟩
    rw [hdepth₃, hdepth, hkept.depth]
    omega

/-- A statement was made as many scopes deeper as it stands below the top of the block. -/
theorem Fills.stands {levels : Nat} (h : Fills budget g b g') (hs : StandsAt levels s b.statements) :
    ∃ h h', Makes h s h' ∧ h.config = g.config ∧ h.scopes.depth = g.scopes.depth + levels := by
  cases hs with
  | top hs =>
    obtain ⟨h₁, h₁', hmade, hkept⟩ := h.statement hs
    exact ⟨h₁, h₁', hmade, hkept.config, hkept.depth⟩
  | inside hc hs =>
    obtain ⟨h₁, _, hfills, hconfig, hdepth⟩ := h.body hc
    obtain ⟨h₂, h₂', hmade, hkept⟩ := hfills.statement hs
    exact ⟨h₂, h₂', hmade, hkept.config.trans hconfig, hkept.depth.trans hdepth⟩

end RandomPrograms
