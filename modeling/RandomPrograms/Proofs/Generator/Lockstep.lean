import RandomPrograms.Proofs.Generator.Programs
import RandomPrograms.Proofs.Grammar.Erasure

/-! Two runs side by side, under configurations that differ in the text of the indentation, but not in its bytes,
    in how many names are tried, and in the nesting bound. Whatever the first one does without running into a cap
    that the second one has not, or the other way round, the second one does with it: it draws the same words,
    comes to the same numbers of bytes, and leaves the same scopes and counters (`Twins.Lockstep`). -/

namespace RandomPrograms

open Grammar Randomness

/-- Two configurations. The second one tries at least as many names, and has any nesting bound, any seed, and an
    indentation of as many bytes; the rest is the same. -/
structure Twins where
  first : Config
  second : Config
  limits : second.limits = first.limits
  sizeBudget : second.sizeBudget = first.sizeBudget
  blockSizeBudget : second.blockSizeBudget = first.blockSizeBudget
  indent : second.indent.utf8ByteSize = first.indent.utf8ByteSize
  attempts : first.maxIdentifierAttempts.toNat ≤ second.maxIdentifierAttempts.toNat

namespace Twins

variable {α β γ δ : Type} {w : Twins}

/-- Generators of the two configurations, at one point of a run. -/
structure Beside (w : Twins) (g h : Generator) : Prop where
  first : g.config = w.first
  second : h.config = w.second
  source : h.source = g.source
  scopes : h.scopes = g.scopes
  tally : h.tally = g.tally

/-- The second nesting bound has not told so far: it is the first one, or nothing has been left out, and neither a
    scope that was opened nor one at depth `reach` lies beyond it. -/
def Room (w : Twins) (reach : Nat) (t : Tally) : Prop :=
  w.second.maxIndentLevel = w.first.maxIndentLevel ∨
    t.suppressed = 0 ∧ t.maxDepth ≤ w.second.maxIndentLevel.toNat ∧ reach ≤ w.second.maxIndentLevel.toNat

/-- A computation that ended so under the first configuration has not met a cap that the second one moves. -/
def Permits (w : Twins) : Except Error α × Generator → Prop
  | (.ok _, g) => w.Room 0 g.tally
  | (.error _, _) => w.second.maxIdentifierAttempts = w.first.maxIdentifierAttempts ∧
    w.second.maxIndentLevel = w.first.maxIndentLevel

/-- Of two computations, begun on `g` and beside it, the second one ends as the first one, as far as `view` shows,
    if the end of the first one permits it. On the way a scope at depth `reach` was opened. -/
structure Tracks (w : Twins) (view : α → β) (reach : Nat) (g : Generator) (x y : Except Error α × Generator) :
    Prop where
  config : x.2.config = w.first
  outer : x.2.scopes.outer = g.scopes.outer
  room : w.Permits x → w.Room reach g.tally
  along : w.Permits x → y.1.map view = x.1.map view ∧ w.Beside x.2 y.2

/-- In scopes of depth `d`, the second computation tracks the first one. -/
def Lockstep (w : Twins) (view : α → β) (d : Nat) (r r' : Run α) : Prop :=
  ∀ g h, w.Beside g h → g.scopes.depth = d → w.Tracks view 0 g (r g) (r' h)

/-! ### States -/

/-- Where there is room, there is room for less. -/
theorem Room.of_le {reach reach' : Nat} {t t' : Tally} (h : w.Room reach t) (hsuppressed : t'.suppressed ≤ t.suppressed)
    (hdepth : t'.maxDepth ≤ t.maxDepth) (hreach : reach' ≤ max reach t.maxDepth) : w.Room reach' t' := by
  rcases h with hsame | ⟨hnone, hmax, hle⟩
  · exact Or.inl hsame
  · exact Or.inr ⟨by omega, by omega, by omega⟩

theorem permits_of_caps (hattempts : w.second.maxIdentifierAttempts = w.first.maxIdentifierAttempts)
    (hlevels : w.second.maxIndentLevel = w.first.maxIndentLevel) : ∀ {x : Except Error α × Generator}, w.Permits x
  | (.ok _, _) => Or.inl hlevels
  | (.error _, _) => ⟨hattempts, hlevels⟩

namespace Beside

variable {g h g₁ h₁ : Generator}

theorem of_config (hg : g.config = w.first) : w.Beside g { g with config := w.second } := ⟨hg, rfl, rfl, rfl, rfl⟩

theorem limits (hb : w.Beside g h) : h.config.limits = g.config.limits := by
  rw [hb.second, hb.first, w.limits]

theorem blockSizeBudget (hb : w.Beside g h) : h.config.blockSizeBudget = g.config.blockSizeBudget := by
  rw [hb.second, hb.first, w.blockSizeBudget]

theorem asks (hb : w.Beside g h) :
    Condition.draw h.scopes h.config.limits h.source = Condition.draw g.scopes g.config.limits g.source := by
  rw [hb.limits, hb.scopes, hb.source]

theorem drawing (hb : w.Beside g h) (source : Source) : w.Beside { g with source } { h with source } :=
  ⟨hb.first, hb.second, rfl, hb.scopes, hb.tally⟩

theorem counting (hb : w.Beside g h) (f : Tally → Tally) : w.Beside (g.counting f) (h.counting f) :=
  ⟨hb.first, hb.second, hb.source, hb.scopes, congrArg f hb.tally⟩

theorem declaring (hb : w.Beside g h) (name : String) (type : VarType) (rejected : Nat) (source : Source) :
    w.Beside (g.declaring name type rejected source) (h.declaring name type rejected source) where
  first := hb.first
  second := hb.second
  source := rfl
  scopes := by simp only [Generator.declaring, hb.scopes]
  tally := by simp only [Generator.declaring, hb.tally]

theorem opening (hb : w.Beside g h) : w.Beside (g.opening g.source) (h.opening h.source) where
  first := hb.first
  second := hb.second
  source := hb.source
  scopes := congrArg ScopeStack.push hb.scopes
  tally := by simp only [Generator.opening, hb.tally, hb.scopes]

theorem closing (hb : w.Beside g h) (hb₁ : w.Beside g₁ h₁) : w.Beside (g₁.closing g.scopes) (h₁.closing h.scopes) where
  first := hb₁.first
  second := hb₁.second
  source := hb₁.source
  scopes := hb.scopes
  tally := by simp only [Generator.closing, hb₁.tally]

theorem beginning (hg : g.config = w.first) (hh : h.config = w.second) (source seeds seeds' : Source) :
    w.Beside (g.beginning source seeds) (h.beginning source seeds') := ⟨hg, hh, rfl, rfl, rfl⟩

theorem begun (hg : g.config = w.first) (hh : h.config = w.second) (hseed : h.runSeed = g.runSeed) :
    w.Beside g.begun h.begun := by
  rw [Generator.begun, Generator.begun, hseed]
  exact .beginning hg hh _ _ _

end Beside

/-! ### Parts of computations -/

section
variable {view : α → γ} {view' : β → δ} {d reach : Nat}

/-- What follows has begun beside itself too, so that it tells whether there was room until then. -/
theorem Tracks.bind {r r' : Run α} {f f' : α → Run β} {g h : Generator} (hr : w.Tracks view reach g (r g) (r' h))
    (hf : ∀ a b, view b = view a → w.Lockstep view' d (f a) (f' b)) (hd : g.scopes.depth = d) :
    w.Tracks view' reach g ((r >>= f) g) ((r' >>= f') h) := by
  obtain ⟨hconfig, houter, hroom, halong⟩ := hr
  rcases hx : r g with ⟨e | a, g₁⟩ <;> rw [hx] at hconfig houter hroom halong
  · rw [Run.bind_of_error hx]
    refine ⟨hconfig, houter, hroom, fun hp => ?_⟩
    obtain ⟨hsame, hbeside⟩ := halong hp
    rcases hy : r' h with ⟨e' | b, h₁⟩ <;> rw [hy] at hsame hbeside
    · obtain rfl := Except.error.inj hsame
      rw [Run.bind_of_error hy]
      exact ⟨rfl, hbeside⟩
    · cases hsame
  · rw [Run.bind_of_ok hx]
    have hd₁ : g₁.scopes.depth = d := by
      rw [ScopeStack.depth, houter]
      exact hd
    have hself := hf a a rfl g₁ _ (.of_config hconfig) hd₁
    have hearlier : w.Permits (f a g₁) → w.Permits (Except.ok a, g₁) := hself.room
    refine ⟨hself.config, hself.outer.trans houter, fun hp => hroom (hearlier hp), fun hp => ?_⟩
    obtain ⟨hsame, hbeside⟩ := halong (hearlier hp)
    rcases hy : r' h with ⟨e' | b, h₁⟩ <;> rw [hy] at hsame hbeside
    · cases hsame
    · rw [Run.bind_of_ok hy]
      exact (hf a b (Except.ok.inj hsame) g₁ h₁ hbeside hd₁).along hp

section
variable {g : Generator} {x y : Except Error α × Generator}

theorem Tracks.of_reach (h : w.Tracks view reach g x y) : w.Tracks view 0 g x y :=
  ⟨h.config, h.outer, fun hp => (h.room hp).of_le (Nat.le_refl _) (Nat.le_refl _) (Nat.zero_le _), h.along⟩

theorem Tracks.of_source (source : Source) (h : w.Tracks view reach { g with source } x y) :
    w.Tracks view reach g x y :=
  ⟨h.config, h.outer, h.room, h.along⟩

end

namespace Lockstep

theorem pure {a b : α} (h : view b = view a) : w.Lockstep view d (Pure.pure a) (Pure.pure b) := fun _ _ hb _ =>
  ⟨hb.first, rfl, id, fun _ => ⟨congrArg Except.ok h, hb⟩⟩

theorem bind {r r' : Run α} {f f' : α → Run β} (hr : w.Lockstep view d r r')
    (hf : ∀ a b, view b = view a → w.Lockstep view' d (f a) (f' b)) : w.Lockstep view' d (r >>= f) (r' >>= f') :=
  fun g h hb hd => (hr g h hb hd).bind hf hd

/-- The same is returned by both. -/
theorem bind_same {r r' : Run α} {f f' : α → Run β} (hr : w.Lockstep (fun a => a) d r r')
    (hf : ∀ a, w.Lockstep view' d (f a) (f' a)) : w.Lockstep view' d (r >>= f) (r' >>= f') := by
  refine .bind hr ?_
  rintro _ a rfl
  exact hf a

/-- A look at the generator, which is beside the other one. -/
theorem look {f f' : Generator → Run α}
    (hf : ∀ g h, w.Beside g h → g.scopes.depth = d → w.Lockstep view d (f g) (f' h)) :
    w.Lockstep view d (get >>= f) (get >>= f') := fun g h hb hd => hf g h hb hd g h hb hd

theorem draw (x : Draw α) : w.Lockstep (fun a => a) d (Run.draw x) (Run.draw x) := fun g h hb _ => by
  refine ⟨hb.first, rfl, id, fun _ => ?_⟩
  unfold Run.draw
  rw [hb.source]
  exact ⟨rfl, hb.drawing _⟩

/-- What counts neither nodes left out nor depths has no part in whether there is room. -/
theorem count_pure {f : Tally → Tally} {a b : α} (hf : ∀ t, (f t).suppressed = t.suppressed ∧ (f t).maxDepth = t.maxDepth)
    (h : view b = view a) : w.Lockstep view d (Run.count f >>= fun _ => Pure.pure a)
      (Run.count f >>= fun _ => Pure.pure b) := fun g _ hb _ => by
  obtain ⟨hsuppressed, hdepth⟩ := hf g.tally
  refine ⟨hb.first, rfl, fun hp => ?_, fun _ => ⟨congrArg Except.ok h, hb.counting f⟩⟩
  exact Room.of_le hp (Nat.le_of_eq hsuppressed.symm) (Nat.le_of_eq hdepth.symm) (Nat.zero_le _)

/-- A body in a scope of its own reaches the depth of that scope. -/
theorem branch_tracks {view : Block → γ} {body body' : Run Block} {g h : Generator}
    (hbody : w.Lockstep view (d + 1) body body') (hb : w.Beside g h) (hd : g.scopes.depth = d) :
    w.Tracks view (d + 1) g (Run.branch body g) (Run.branch body' h) := by
  obtain ⟨hconfig, houter, hroom, halong⟩ := hbody _ _ hb.opening (congrArg (· + 1) hd)
  rcases hx : body (g.opening g.source) with ⟨o, g₁⟩
  rw [hx] at hconfig houter hroom halong
  rw [Run.branch_apply hx houter]
  have hclosed : w.Permits (o, g₁.closing g.scopes) → w.Permits (o, g₁) := by cases o <;> exact id
  refine ⟨hconfig, rfl, fun hp => ?_, fun hp => ?_⟩
  · refine (hroom (hclosed hp)).of_le (Nat.le_refl _) (Nat.le_max_left ..) ?_
    rw [← hd]
    exact Nat.le_trans (Nat.le_max_right ..) (Nat.le_max_right ..)
  · obtain ⟨hsame, hbeside⟩ := halong (hclosed hp)
    rcases hy : body' (h.opening h.source) with ⟨o', h₁⟩
    rw [hy] at hsame hbeside
    rw [Run.branch_apply hy (by rw [hbeside.scopes, houter, hb.scopes]; rfl)]
    exact ⟨hsame, hb.closing hbeside⟩

theorem branch {view : Block → γ} {body body' : Run Block} (hbody : w.Lockstep view (d + 1) body body') :
    w.Lockstep view d (Run.branch body) (Run.branch body') := fun _ _ hb hd => (hbody.branch_tracks hb hd).of_reach

end Lockstep

end

/-! ### Declarations and assignments -/

section
variable {d : Nat}

/-- If the first search fails, the second one has no more names to try. -/
theorem declareName_lockstep (type : VarType) {left left' : Nat} (rejected : Nat) (hle : left ≤ left')
    (hsame : w.second.maxIdentifierAttempts = w.first.maxIdentifierAttempts → left' = left) :
    w.Lockstep (fun name => name) d (Run.declareName type left rejected) (Run.declareName type left' rejected) := by
  induction left generalizing left' rejected with
  | zero =>
    intro g h hb _
    refine ⟨hb.first, rfl, fun hp => Or.inl hp.2, fun hp => ?_⟩
    obtain rfl := hsame hp.1
    exact ⟨rfl, hb.counting fun t => { t with retries := t.retries + rejected }⟩
  | succ left ih =>
    obtain ⟨left', rfl⟩ := Nat.exists_eq_succ_of_ne_zero (Nat.ne_of_gt (Nat.lt_of_lt_of_le (Nat.succ_pos left) hle))
    intro g h hb hd
    rcases hx : drawWord (some g.config.maxIdentifierLength) g.source with ⟨name, source⟩
    have hlength : h.config.maxIdentifierLength = g.config.maxIdentifierLength :=
      congrArg Value.Limits.maxWordLength hb.limits
    have hy : drawWord (some h.config.maxIdentifierLength) h.source = (name, source) := by
      rw [hlength, hb.source, hx]
    by_cases hold : isReserved name = true ∨ g.scopes.inner.binds name = true
    · rw [Run.declareName_of_rejected hx hold, Run.declareName_of_rejected hy (by rwa [hb.scopes])]
      have hrest := ih (rejected + 1) (Nat.le_of_succ_le_succ hle) fun h => Nat.succ.inj (hsame h)
      exact .of_source source (hrest _ _ (hb.drawing source) hd)
    · simp only [not_or, Bool.not_eq_true] at hold
      rw [Run.declareName_of_new hx hold.1 hold.2, Run.declareName_of_new hy hold.1 (by rw [hb.scopes]; exact hold.2)]
      exact ⟨hb.first, rfl, id, fun _ => ⟨rfl, hb.declaring ..⟩⟩

theorem literal_lockstep (type : VarType) : w.Lockstep (fun v => v) d (Run.literal type) (Run.literal type) :=
  .look fun g h hb _ => by
    rw [hb.limits]
    exact .draw _

theorem declaration_lockstep (type : VarType) :
    w.Lockstep Statement.measured d (Run.declaration type) (Run.declaration type) := by
  refine .look fun g h hb _ => ?_
  rw [hb.first, hb.second]
  refine .bind_same (declareName_lockstep type 0 w.attempts fun hsame => by rw [hsame]) fun name => ?_
  exact .bind_same (literal_lockstep type) fun value => .pure rfl

theorem assignment_lockstep : w.Lockstep Statement.measured d Run.assignment Run.assignment := by
  refine .look fun g h hb _ => ?_
  rw [hb.scopes]
  refine .bind_same (.draw _) fun found => ?_
  cases found with
  | none => exact .bind_same (.draw _) declaration_lockstep
  | some b =>
    refine .bind_same (literal_lockstep b.type) fun value => ?_
    exact .count_pure (fun _ => ⟨rfl, rfl⟩) rfl

/-! ### Blocks and conditionals -/

theorem statement_lockstep {conditional conditional' : ConditionalKind → Run Statement}
    (hcond : ∀ kind, w.Lockstep Statement.measured d (conditional kind) (conditional' kind)) :
    w.Lockstep Statement.measured d (Run.statement conditional) (Run.statement conditional') := by
  refine .bind_same (.draw _) fun kind => ?_
  cases kind with
  | declaration => exact .bind_same (.draw _) declaration_lockstep
  | assignment => exact assignment_lockstep
  | conditional => exact .bind_same (.draw _) hcond

theorem indentation_lockstep : w.Lockstep String.utf8ByteSize d Run.indentation Run.indentation :=
  .look fun g h hb _ => .pure <| by
    change (tab h.config.indent _).utf8ByteSize = (tab g.config.indent _).utf8ByteSize
    rw [utf8ByteSize_tab, utf8ByteSize_tab, hb.scopes, hb.first, hb.second, w.indent]

theorem measured_ofLines_cons (s : Statement) (text : String) (ls : List (Statement × String)) :
    (Run.ofLines ((s, text) :: ls)).measured = (⟨s.erase :: (Run.ofLines ls).measured.1.statements, ""⟩,
      text.utf8ByteSize + 1 + (Run.ofLines ls).measured.2) := by
  rw [Block.measured, Run.utf8ByteSize_ofLines_cons, Run.ofLines_cons, Block.erase, eraseAll, Block.measured,
    Block.erase_eq]

section
variable {next next' : Run Statement} (hnext : w.Lockstep Statement.measured d next next')
include hnext

theorem line_lockstep :
    w.Lockstep (fun l => (l.1.erase, l.2.utf8ByteSize)) d (Run.line next) (Run.line next') := by
  refine .bind indentation_lockstep fun indent indent' hindent => .bind hnext fun s s' hs => .pure ?_
  obtain ⟨herase, hbytes⟩ := Prod.mk.inj hs
  simp only [String.utf8ByteSize_append, Statement.utf8ByteSize_text, herase, hindent, congrFun hbytes]

/-- The lines have as many bytes, so that as many of them fill the budget. -/
theorem lines_lockstep (owed : Nat) :
    w.Lockstep (fun ls => (Run.ofLines ls).measured) d (Run.lines next owed) (Run.lines next' owed) := by
  induction owed using Nat.strong_induction_on with
  | _ owed ih =>
    rw [Run.lines, Run.lines]
    refine .bind (line_lockstep hnext) ?_
    rintro ⟨s, text⟩ ⟨s', text'⟩ hl
    obtain ⟨herase, hsize⟩ : s'.erase = s.erase ∧ text'.utf8ByteSize = text.utf8ByteSize := Prod.mk.inj hl
    have hcons : ∀ ls ls', (Run.ofLines ls').measured = (Run.ofLines ls).measured →
        (Run.ofLines ((s', text') :: ls')).measured = (Run.ofLines ((s, text) :: ls)).measured := by
      intro ls ls' hls
      rw [measured_ofLines_cons, measured_ofLines_cons, herase, hsize, hls]
    dsimp only
    rw [hsize]
    by_cases hshort : text.utf8ByteSize + 1 < owed
    · simp only [if_pos hshort]
      exact .bind (ih _ (by omega)) fun ls ls' hls => .pure (hcons ls ls' hls)
    · simp only [if_neg hshort]
      exact .pure (hcons [] [] rfl)

theorem fill_lockstep (budget : Nat) :
    w.Lockstep Block.measured d (Run.fill next budget) (Run.fill next' budget) :=
  .bind (lines_lockstep hnext budget) fun _ _ hls => .pure hls

end

end

/-- A conditional that is not left out opens a scope. So the second one may go as deep, if the end of the first one
    permits it, and its levels can be counted down with those of the first one. -/
theorem conditionalWithin_lockstep {levels d : Nat} (kind : ConditionalKind)
    (hlevels : w.first.maxIndentLevel.toNat - d = levels) : w.Lockstep Statement.measured d
      (Run.conditionalWithin levels kind) (Run.conditionalWithin (w.second.maxIndentLevel.toNat - d) kind) := by
  induction levels generalizing d kind with
  | zero =>
    intro g h hb _
    -- A conditional is left out, so that only equal bounds permit it.
    have hsame : w.Permits (Run.conditionalWithin 0 kind g) → w.second.maxIndentLevel = w.first.maxIndentLevel := by
      rintro (hsame | ⟨hnone, -⟩)
      · exact hsame
      · exact absurd hnone (Nat.succ_ne_zero _)
    refine ⟨hb.first, rfl, fun hp => Or.inl (hsame hp), fun hp => ?_⟩
    rw [hsame hp, hlevels]
    exact ⟨rfl, hb.counting fun t => { t with suppressed := t.suppressed + 1 }⟩
  | succ levels ih =>
    have hstatement := statement_lockstep fun kind => ih (d := d + 1) kind (by omega)
    intro g h hb hd
    have htracks : w.Tracks Statement.measured (d + 1) g (Run.conditionalWithin (levels + 1) kind g)
        (Run.conditionalWithin (w.second.maxIndentLevel.toNat - (d + 1) + 1) kind h) := by
      rw [Run.conditionalWithin, Run.conditionalWithin, Run.get_bind, Run.get_bind, Run.draw_bind, Run.draw_bind,
        hb.asks, hb.blockSizeBudget]
      have hbody := fill_lockstep hstatement g.config.blockSizeBudget.toNat
      rcases Condition.draw g.scopes g.config.limits g.source with ⟨condition, source⟩
      have hthen := hbody.branch_tracks (hb.drawing source) hd
      refine .of_source source ?_
      cases kind with
      | ifThen =>
        refine hthen.bind (fun b b' hbb => ?_) hd
        exact .count_pure (fun _ => ⟨rfl, rfl⟩) (Statement.measured_ifThen condition hbb)
      | ifElse =>
        refine hthen.bind (fun b b' hbb => .bind hbody.branch fun o o' hoo => ?_) hd
        exact .count_pure (fun _ => ⟨rfl, rfl⟩) (Statement.measured_ifElse condition hbb hoo)
    refine ⟨htracks.config, htracks.outer, htracks.of_reach.room, fun hp => ?_⟩
    have hleft : w.second.maxIndentLevel.toNat - d = w.second.maxIndentLevel.toNat - (d + 1) + 1 := by
      rcases htracks.room hp with hsame | ⟨-, -, hreach⟩
      · rw [hsame]
        omega
      · omega
    rw [hleft]
    exact htracks.along hp

theorem block_lockstep (budget d : Nat) : w.Lockstep Block.measured d (Run.block budget) (Run.block budget) := by
  have hstatement := statement_lockstep (w := w) (d := d) fun kind => conditionalWithin_lockstep kind rfl
  intro g h hb hd
  have hfirst : Run.block budget g =
      Run.fill (Run.statement (Run.conditionalWithin (w.first.maxIndentLevel.toNat - d))) budget g := by
    rw [← hb.first, ← hd]
    rfl
  have hsecond : Run.block budget h =
      Run.fill (Run.statement (Run.conditionalWithin (w.second.maxIndentLevel.toNat - d))) budget h := by
    rw [← hb.second, ← hd, ← hb.scopes]
    rfl
  rw [hfirst, hsecond]
  exact fill_lockstep hstatement budget g h hb hd

/-! ### Runs -/

section
variable {g h : Generator} (hg : g.config = w.first) (hh : h.config = w.second) (hseed : h.runSeed = g.runSeed)
include hg hh hseed

theorem program_along (budget : Option UInt64) (hp : w.Permits (Run.program budget g)) :
    (Run.program budget h).1.map Program.measured = (Run.program budget g).1.map Program.measured ∧
      (Run.program budget h).2.tally = (Run.program budget g).2.tally := by
  have hbegun := Beside.begun hg hh hseed
  have hblock := (block_lockstep (budget.getD g.config.sizeBudget).toNat 1 _ _ hbegun g.begun_depth).along
  have hbudget : budget.getD h.config.sizeBudget = budget.getD g.config.sizeBudget := by rw [hh, hg, w.sizeBudget]
  rw [Run.program_apply] at hp
  rw [Run.program_apply, Run.program_apply, hbudget, hseed]
  rcases hx : Run.block (budget.getD g.config.sizeBudget).toNat g.begun with ⟨e | ⟨ss, code⟩, g₁⟩ <;>
    rcases hy : Run.block (budget.getD g.config.sizeBudget).toNat h.begun with ⟨e' | ⟨ss', code'⟩, h₁⟩ <;>
    rw [hx] at hp hblock <;> rw [hy] at hblock <;> obtain ⟨hsame, hbeside⟩ := hblock hp
  · exact ⟨congrArg Except.error (Except.error.inj hsame), hbeside.tally⟩
  · cases hsame
  · cases hsame
  · have hmeasured := Except.ok.inj hsame
    refine ⟨congrArg Except.ok ?_, hbeside.tally⟩
    rw [Program.measured, Program.measured, hmeasured, hbeside.tally]

/-- With the same indentation, the two programs are the same. -/
theorem program_eq {budget : Option UInt64} {p : Program} (hindent : h.config.indent = g.config.indent)
    (hroom : w.Room 0 p.tally) (hp : (Run.program budget g).1 = .ok p) : (Run.program budget h).1 = .ok p := by
  have hx : Run.program budget g = (.ok p, (Run.program budget g).2) := Prod.ext hp rfl
  obtain ⟨hfills, htally, -⟩ := Run.program_eq_ok hx
  have hpermits : w.Permits (Run.program budget g) := by
    rw [hx, Permits, ← htally]
    exact hroom
  obtain ⟨hsame, -⟩ := program_along hg hh hseed budget hpermits
  rcases hy : Run.program budget h with ⟨e | q, h₁⟩ <;> rw [hy, hp] at hsame
  · cases hsame
  obtain ⟨hfills', -, -⟩ := Run.program_eq_ok hy
  have hconfig : h.begun.config.indent = g.begun.config.indent := by rw [h.begun_config, g.begun_config, hindent]
  obtain ⟨code, statements, tally, seed⟩ := p
  obtain ⟨code', statements', tally', seed'⟩ := q
  obtain ⟨hmeasured, hrest⟩ := Prod.mk.inj (Except.ok.inj hsame)
  obtain ⟨rfl, rfl⟩ : tally' = tally ∧ seed' = seed := Prod.mk.inj hrest
  have hblock := hfills.eq_of_erase hfills' (h.level_begun.trans g.level_begun.symm) hconfig (Prod.mk.inj hmeasured).1
  obtain ⟨rfl, rfl⟩ : statements' = statements ∧ code' = code := Block.mk.inj hblock
  rfl

end

end Twins

end RandomPrograms
