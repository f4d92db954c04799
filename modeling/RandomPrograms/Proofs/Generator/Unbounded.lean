import Mathlib.Order.Filter.AtTopBot.Basic
import RandomPrograms.Proofs.Generator.Programs

/-! Generation without a measure. Blocks and conditionals call each other here with nothing that says when to stop:
    a block goes round until its whole text is long enough, and a conditional looks at the scopes around it. Such
    a computation is cut off where calls go deeper than a bound, and it has the result that it comes to under all
    bounds that are great enough; one that does not end is cut off under each of them, and has none. Generation
    does end, with what the computations that count down give: each round of a block brings its text nearer to
    the budget, by the end of a line at least, and each branch has one scope less to go. -/

namespace RandomPrograms

open Grammar Randomness

/-- A computation on a generator that need not end. -/
abbrev Unbounded := ExceptT Error (StateT Generator Option)

namespace Unbounded

variable {α β : Type}

/-- A computation that ends. -/
def ofRun (r : Run α) : Unbounded α := fun g => some (r g)

/-- A computation that is cut off. -/
def cutOff : Unbounded α := fun _ => none

/-! ### The recursion

Each of the four is cut off where more than `calls` of them would be inside each other. -/

mutual

def conditional : (calls : Nat) → ConditionalKind → Unbounded Statement
  | 0, _ => cutOff
  | calls + 1, kind => do
    let g ← ofRun get
    if g.bound ≤ g.scopes.depth then
      ofRun (Run.count fun t => { t with suppressed := t.suppressed + 1 })
      return .empty
    else
      let condition ← ofRun (Run.draw (Condition.draw g.scopes g.config.limits))
      let thenBody ← branch calls
      match kind with
      | .ifThen =>
        ofRun (Run.count fun t => { t with ifs := t.ifs + 1 })
        return .ifThen condition thenBody
      | .ifElse =>
        let elseBody ← branch calls
        ofRun (Run.count fun t => { t with ifElses := t.ifElses + 1 })
        return .ifElse condition thenBody elseBody

/-- A body in a scope of its own, which is closed again even if the body fails. -/
def branch : (calls : Nat) → Unbounded Block
  | 0 => cutOff
  | calls + 1 => do
    let g ← ofRun get
    ofRun Run.openScope
    let o ← (fun g' => do
      let (o, g'') ← blockFrom calls g.bodyBudget ⟨[], ""⟩ g'
      some (.ok o, g'') : Unbounded (Except Error Block))
    ofRun Run.closeScope
    ofRun (MonadExcept.ofExcept o)

/-- One more statement after those of a block, and more until the block has `budget` bytes. -/
def blockFrom : (calls budget : Nat) → Block → Unbounded Block
  | 0, _, _ => cutOff
  | calls + 1, budget, b => do
    let indent ← ofRun Run.indentation
    let s ← statement calls
    let b : Block := ⟨b.statements ++ [s], b.code ++ (indent ++ s.text indent) ++ "\n"⟩
    if budget ≤ b.code.utf8ByteSize then return b
    else blockFrom calls budget b

def statement : (calls : Nat) → Unbounded Statement
  | 0 => cutOff
  | calls + 1 => do
    match ← ofRun (Run.draw StatementKind.draw) with
    | .declaration =>
      let type ← ofRun (Run.draw VarType.draw)
      ofRun (Run.declaration type)
    | .assignment => ofRun Run.assignment
    | .conditional =>
      let kind ← ofRun (Run.draw ConditionalKind.draw)
      conditional calls kind

end

open Classical in
/-- The result that all of the computations come to, some of the first ones excepted, if there is one. -/
noncomputable def limit (u : Nat → Unbounded α) : Unbounded α := fun g =>
  if h : ∃ r, ∀ᶠ calls in Filter.atTop, u calls g = some r then some h.choose else none

/-- A run, from the choice of its seed to the test that the scopes are balanced. -/
noncomputable def program (budget : Option UInt64) : Unbounded Program := limit fun calls => do
  let seed ← ofRun Run.nextSeed
  ofRun (Run.restart seed)
  let g ← ofRun get
  let b ← blockFrom calls (budget.getD g.config.sizeBudget).toNat ⟨[], ""⟩
  let g ← ofRun get
  if g.scopes.depth ≠ 1 ∨ g.tally.pushes ≠ g.tally.pops then
    ofRun (throw (.unbalancedScopes g.scopes.depth))
  return { code := b.code, statements := b.statements, tally := g.tally, seed }

/-! ### Computations that end -/

theorem bind_apply (u : Unbounded α) (f : α → Unbounded β) (g : Generator) :
    (u >>= f) g = match u g with
      | some (.ok a, g₁) => f a g₁
      | some (.error e, g₁) => some (.error e, g₁)
      | none => none := by
  show ExceptT.bind u f g = _
  simp only [ExceptT.bind, ExceptT.mk, bind, StateT.bind, ExceptT.bindCont]
  rcases u g with _ | ⟨e | a, g₁⟩ <;> rfl

/-- From `g`, the computation ends as the other one does, if it is not cut off too early. -/
def Agrees (u : Nat → Unbounded α) (r : Run α) (g : Generator) : Prop :=
  ∀ᶠ calls in Filter.atTop, u calls g = some (r g)

namespace Agrees

variable {u : Nat → Unbounded α} {r : Run α} {g : Generator}

theorem always (h : ∀ calls, u calls g = some (r g)) : Agrees u r g := .of_forall h

theorem of_succ (h : Agrees (fun calls => u (calls + 1)) r g) : Agrees u r g := by
  rw [Agrees, ← Filter.map_add_atTop_eq_nat 1]
  exact h

theorem ofRun (r : Run α) (g : Generator) : Agrees (fun _ => Unbounded.ofRun r) r g := .always fun _ => rfl

theorem pure (a : α) (g : Generator) : Agrees (fun _ => Pure.pure a) (Pure.pure a) g := .always fun _ => rfl

theorem bind {f : Nat → α → Unbounded β} {k : α → Run β} (h : Agrees u r g)
    (hf : ∀ a g₁, r g = (.ok a, g₁) → Agrees (fun calls => f calls a) (k a) g₁) :
    Agrees (fun calls => u calls >>= f calls) (r >>= k) g := by
  rcases hr : r g with ⟨e | a, g₁⟩
  · refine h.mono fun calls hu => ?_
    change (u calls >>= f calls) g = _
    rw [bind_apply, Run.bind_apply, hu, hr]
  · refine (h.and (hf a g₁ hr)).mono ?_
    rintro calls ⟨hu, hnext⟩
    change (u calls >>= f calls) g = _
    rw [bind_apply, Run.bind_apply, hu, hr]
    exact hnext

/-- A step that is known to succeed. -/
theorem after {f : Nat → α → Unbounded β} {k : α → Run β} {a : α} {g₁ : Generator} (hr : r g = (.ok a, g₁))
    (h : Agrees (fun calls => f calls a) (k a) g₁) :
    Agrees (fun calls => Unbounded.ofRun r >>= f calls) (r >>= k) g := by
  refine bind (.ofRun r g) fun a' g' h' => ?_
  obtain ⟨ha, rfl⟩ := Prod.mk.inj (hr.symm.trans h')
  obtain rfl := Except.ok.inj ha
  exact h

/-- A look at the generator. -/
theorem look {f : Nat → Generator → Unbounded α} (h : Agrees (fun calls => f calls g) r g) :
    Agrees (fun calls => Unbounded.ofRun get >>= f calls) r g := by
  refine h.mono fun calls hf => ?_
  change (Unbounded.ofRun get >>= f calls) g = _
  rw [bind_apply]
  exact hf

/-- Draws change nothing but the source. -/
theorem draw {γ : Type} {d : Draw γ} {f : Nat → γ → Unbounded β} {k : γ → Run β}
    (hf : ∀ a source, Agrees (fun calls => f calls a) (k a) { g with source }) :
    Agrees (fun calls => Unbounded.ofRun (Run.draw d) >>= f calls) (Run.draw d >>= k) g := by
  refine (hf (d g.source).1 (d g.source).2).mono fun calls h => ?_
  change (Unbounded.ofRun (Run.draw d) >>= f calls) g = _
  rw [bind_apply, Run.draw_bind]
  exact h

theorem limit (h : Agrees u r g) : Unbounded.limit u g = some (r g) := by
  have hex : ∃ x, ∀ᶠ calls in Filter.atTop, u calls g = some x := ⟨_, h⟩
  obtain ⟨calls, hchosen, hu⟩ := (hex.choose_spec.and h).exists
  rw [Unbounded.limit, dif_pos hex, ← hchosen, hu]

end Agrees

/-! ### Statements, blocks and conditionals -/

section
variable {levels : Nat} {g : Generator}

/-- Conditionals end wherever so many levels are left. -/
def Settled (levels : Nat) : Prop :=
  ∀ g : Generator, g.bound - g.scopes.depth = levels → ∀ kind,
    Agrees (fun calls => conditional calls kind) (Run.conditionalWithin levels kind) g

theorem statement_agrees (h : Settled levels) (hg : g.bound - g.scopes.depth = levels) :
    Agrees statement (Run.statement (Run.conditionalWithin levels)) g := by
  refine .of_succ ?_
  simp only [statement, Run.statement]
  refine .draw fun kind source => ?_
  cases kind with
  | declaration => exact .draw fun type source => .ofRun _ _
  | assignment => exact .ofRun _ _
  | conditional => exact .draw fun kind source => h { g with source } hg kind

/-- The block with the statements and the text of the lines after it. -/
def extend (b : Block) (ls : List (Statement × String)) : Block :=
  ⟨b.statements ++ ls.map (·.1), b.code ++ String.join (ls.map fun l => l.2 ++ "\n")⟩

theorem extend_cons (b : Block) (s : Statement) (text : String) (ls : List (Statement × String)) :
    extend b ((s, text) :: ls) = extend ⟨b.statements ++ [s], b.code ++ text ++ "\n"⟩ ls := by
  simp [extend, String.join_cons, String.append_assoc]

/-- A statement leaves as many levels as there were. -/
theorem levels_of_statement {s : Statement} {g₁ : Generator} (hg : g.bound - g.scopes.depth = levels)
    (hs : Run.statement (Run.conditionalWithin levels) g = (.ok s, g₁)) :
    g₁.bound - g₁.scopes.depth = levels := by
  have hends : Ends (Makes g) g (Run.statement (Run.conditionalWithin levels) g) :=
    Run.statement_ends fun kind r => (Run.conditionalWithin_ends levels kind { g with source := r } hg).1.of_source
  rw [hs] at hends
  have hkept : Kept g g₁ := Makes.kept hends
  rw [Generator.bound, hkept.config, hkept.depth]
  exact hg

/-- A block goes round as often as the count of owed bytes allows: what its text lacks is what is owed. -/
theorem blockFrom_agrees (h : Settled levels) (budget owed : Nat) (b : Block) (g : Generator)
    (howed : budget - b.code.utf8ByteSize = owed) (hg : g.bound - g.scopes.depth = levels) :
    Agrees (fun calls => blockFrom calls budget b) (do
      let ls ← Run.lines (Run.statement (Run.conditionalWithin levels)) owed
      return extend b ls) g := by
  induction owed using Nat.strong_induction_on generalizing b g with
  | _ owed ih =>
    refine .of_succ ?_
    rw [Run.lines]
    simp only [blockFrom, Run.line, bind_assoc, pure_bind]
    have hindent : Run.indentation g = (.ok g.indentation, g) := rfl
    refine .after hindent ?_
    refine .bind (statement_agrees h hg) fun s g₁ hs => ?_
    have hg₁ := levels_of_statement hg hs
    have hsize : (b.code ++ (g.indentation ++ s.text g.indentation) ++ "\n").utf8ByteSize =
        b.code.utf8ByteSize + ((g.indentation ++ s.text g.indentation).utf8ByteSize + 1) := by
      rw [String.utf8ByteSize_append, String.utf8ByteSize_append, Nat.add_assoc]
      rfl
    generalize g.indentation ++ s.text g.indentation = text at hsize ⊢
    by_cases hshort : text.utf8ByteSize + 1 < owed
    · have hrest := ih (owed - (text.utf8ByteSize + 1)) (by omega) ⟨b.statements ++ [s], b.code ++ text ++ "\n"⟩ g₁
        (by rw [hsize]; omega) hg₁
      have hlonger : ¬budget ≤ (b.code ++ text ++ "\n").utf8ByteSize := by omega
      simp only [if_neg hlonger, if_pos hshort, bind_assoc, pure_bind, extend_cons]
      exact hrest
    · have hfilled : budget ≤ (b.code ++ text ++ "\n").utf8ByteSize := by omega
      simp only [if_pos hfilled, if_neg hshort, pure_bind, extend_cons]
      have hlast : ∀ c : Block, extend c [] = c := by
        rintro ⟨statements, code⟩
        simp [extend]
      rw [hlast]
      exact .pure _ g₁

theorem block_agrees (h : Settled levels) (budget : Nat) (hg : g.bound - g.scopes.depth = levels) :
    Agrees (fun calls => blockFrom calls budget ⟨[], ""⟩)
      (Run.fill (Run.statement (Run.conditionalWithin levels)) budget) g := by
  have hfrom := blockFrom_agrees h budget budget ⟨[], ""⟩ g rfl hg
  have hextend : ∀ ls, extend ⟨[], ""⟩ ls = Run.ofLines ls := fun ls => by simp [extend, Run.ofLines]
  simp only [hextend] at hfrom
  exact hfrom

/-- A body that ends has its outcome, whether it failed or not. -/
theorem outcome_agrees {u : Nat → Unbounded α} {r : Run α} (h : Agrees u r g) :
    Agrees (fun calls g' => do
      let (o, g'') ← u calls g'
      some (.ok o, g'')) (Run.outcome r) g := by
  refine h.mono fun calls hu => ?_
  change (u calls g).bind _ = _
  rw [hu]
  rfl

theorem branch_agrees (h : Settled levels) (hg : g.bound - g.scopes.depth = levels + 1) :
    Agrees branch (Run.branch (Run.fill (Run.statement (Run.conditionalWithin levels)) g.bodyBudget)) g := by
  have hlevels : (g.opening g.source).bound - (g.opening g.source).scopes.depth = levels := by
    show g.bound - (g.scopes.depth + 1) = levels
    omega
  have hbody := outcome_agrees (block_agrees h g.bodyBudget hlevels)
  have hopen : Run.openScope g = (.ok (), g.opening g.source) := rfl
  refine .of_succ ?_
  simp only [branch, Run.branch]
  refine .look (.after hopen ?_)
  exact .bind hbody fun o g₂ _ => .bind (.ofRun _ g₂) fun _ g₃ _ => .ofRun _ g₃

/-- A conditional where no level is left is suppressed, as the scopes are at the bound; else its branches have one
    level less. -/
theorem conditional_agrees : ∀ levels, Settled levels
  | 0 => fun g hg kind => by
    have hdeep : g.bound ≤ g.scopes.depth := by omega
    refine .of_succ ?_
    simp only [conditional, Run.conditionalWithin]
    refine .look ?_
    simp only [if_pos hdeep]
    exact .bind (.ofRun _ g) fun _ g₁ _ => .pure _ g₁
  | levels + 1 => fun g hg kind => by
    have hroom : ¬g.bound ≤ g.scopes.depth := by omega
    have ih := conditional_agrees levels
    have hbody : ∀ h : Generator, h.config = g.config → h.scopes = g.scopes → Agrees branch (Run.branch
        (Run.fill (Run.statement (Run.conditionalWithin levels)) g.config.blockSizeBudget.toNat)) h := fun h hc hs => by
      have hbranch := branch_agrees (g := h) ih (by rw [Generator.bound, hc, hs]; exact hg)
      rw [Generator.bodyBudget, hc] at hbranch
      exact hbranch
    have hget : (get : Run Generator) g = (.ok g, g) := rfl
    refine .of_succ ?_
    simp only [conditional, Run.conditionalWithin]
    refine .after hget ?_
    simp only [if_neg hroom]
    refine .draw fun condition source => ?_
    have hfirst := hbody { g with source } rfl rfl
    cases kind with
    | ifThen => exact hfirst.bind fun thenBody g₁ _ => .bind (.ofRun _ g₁) fun _ g₂ _ => .pure _ g₂
    | ifElse =>
      refine hfirst.bind fun thenBody g₁ hthen => ?_
      -- The second branch begins in the scopes in which the first one began.
      have hends := Run.body_ends (fun kind g hg => (Run.conditionalWithin_ends levels kind g hg).1)
        (g := { g with source }) hg
      have hthen : Run.branch (Run.fill (Run.statement (Run.conditionalWithin levels))
        (Generator.bodyBudget { g with source })) { g with source } = (.ok thenBody, g₁) := hthen
      rw [hthen] at hends
      obtain ⟨g₀, hfills, rfl⟩ := hends
      have hsecond := hbody (g₀.closing g.scopes) hfills.kept.closing.config rfl
      exact hsecond.bind fun elseBody g₂ _ => .bind (.ofRun _ g₂) fun _ g₃ _ => .pure _ g₃

end

/-- A run ends, whatever words are drawn in it. -/
theorem program_agrees (budget : Option UInt64) (g : Generator) : program budget g = some (Run.program budget g) := by
  rw [program, Run.program]
  refine Agrees.limit ?_
  refine .bind (.ofRun _ g) fun seed g₁ _ => .bind (.ofRun _ g₁) fun _ g₂ _ => .bind (.ofRun _ g₂) fun h g₃ _ => ?_
  have hblock : Agrees (fun calls => blockFrom calls (budget.getD h.config.sizeBudget).toNat ⟨[], ""⟩)
      (Run.block (budget.getD h.config.sizeBudget).toNat) g₃ :=
    block_agrees (conditional_agrees (g₃.bound - g₃.scopes.depth)) _ rfl
  refine hblock.bind fun b g₄ _ => .bind (.ofRun _ g₄) fun h' g₅ _ => ?_
  by_cases hbalanced : h'.scopes.depth ≠ 1 ∨ h'.tally.pushes ≠ h'.tally.pops
  · simp only [if_pos hbalanced]
    exact .bind (.ofRun _ g₅) fun _ g₆ _ => .pure _ g₆
  · simp only [if_neg hbalanced]
    exact .pure _ g₅

end Unbounded

end RandomPrograms
