import RandomPrograms.Proofs.Generator.Computation

/-! Within a run nobody asks where its seed came from. The seed that the configuration fixes, the first seed,
    the source of later seeds and the count of runs can be exchanged for others: every computation returns the
    same, and leaves the same but for these four (`Run.Oblivious`). -/

namespace RandomPrograms

open Grammar Randomness

/-- What a generator knows of the seeds of its runs. -/
structure Origin where
  fixed : Option UInt64
  seed : UInt64
  seeds : Source
  runs : Nat

/-- The same state in a generator with other seeds. -/
def Generator.fromOrigin (g : Generator) (o : Origin) : Generator :=
  { g with config := { g.config with seed := o.fixed }, seed := o.seed, seeds := o.seeds, runs := o.runs }

namespace Run

variable {α β : Type}

/-- Seeds have no part in the computation. -/
def Oblivious (r : Run α) : Prop := ∀ g o, r (g.fromOrigin o) = ((r g).1, (r g).2.fromOrigin o)

/-! ### Parts of computations -/

namespace Oblivious

theorem pure (a : α) : Oblivious (Pure.pure a) := fun _ _ => rfl

theorem throw (e : Error) : Oblivious (MonadExcept.throw e : Run α) := fun _ _ => rfl

theorem bind {r : Run α} {f : α → Run β} (hr : Oblivious r) (hf : ∀ a, Oblivious (f a)) : Oblivious (r >>= f) :=
  fun g o => by
    rw [bind_apply, bind_apply, hr g o]
    rcases r g with ⟨e | a, g₁⟩
    · rfl
    · exact hf a g₁ o

theorem get {f : Generator → Run β} (hf : ∀ g, Oblivious (f g)) (hsame : ∀ g o, f (g.fromOrigin o) = f g) :
    Oblivious (MonadState.get >>= f) := fun g o => by
  rw [get_bind, get_bind, hsame]
  exact hf g g o

theorem draw (d : Draw α) : Oblivious (Run.draw d) := fun _ _ => rfl

theorem count (f : Tally → Tally) : Oblivious (Run.count f) := fun _ _ => rfl

theorem outcome {r : Run α} (hr : Oblivious r) : Oblivious (Run.outcome r) := fun g o => by
  unfold Run.outcome
  rw [hr g o]
  rfl

end Oblivious

/-! ### Statements and blocks -/

theorem declareName_oblivious (type : VarType) (left rejected : Nat) :
    Oblivious (declareName type left rejected) := by
  induction left generalizing rejected with
  | zero => exact .bind (.count _) fun _ => .throw _
  | succ left ih =>
    refine .get (fun g => .bind (.draw _) fun name => ?_) fun _ _ => rfl
    cases if isReserved name then none else g.scopes.declare? name type with
    | none => exact ih _
    | some scopes => exact .bind (fun _ _ => rfl) fun _ => .pure _

theorem literal_oblivious (type : VarType) : Oblivious (literal type) :=
  .get (fun _ => .draw _) fun _ _ => rfl

theorem declaration_oblivious (type : VarType) : Oblivious (declaration type) :=
  .get (fun _ => .bind (declareName_oblivious type _ _) fun _ => .bind (literal_oblivious type) fun _ => .pure _)
    fun _ _ => rfl

theorem assignment_oblivious : Oblivious assignment := by
  refine .get (fun g => .bind (.draw _) fun found => ?_) fun _ _ => rfl
  cases found with
  | none => exact .bind (.draw _) fun type => declaration_oblivious type
  | some b => exact .bind (literal_oblivious b.type) fun _ => .bind (.count _) fun _ => .pure _

theorem statement_oblivious {conditional : ConditionalKind → Run Statement} (h : ∀ kind, Oblivious (conditional kind)) :
    Oblivious (statement conditional) := by
  refine .bind (.draw _) fun kind => ?_
  cases kind with
  | declaration => exact .bind (.draw _) fun type => declaration_oblivious type
  | assignment => exact assignment_oblivious
  | conditional => exact .bind (.draw _) h

theorem line_oblivious {next : Run Statement} (h : Oblivious next) : Oblivious (line next) :=
  .bind (.get (fun _ => .pure _) fun _ _ => rfl) fun _ => .bind h fun _ => .pure _

theorem lines_oblivious {next : Run Statement} (h : Oblivious next) (owed : Nat) : Oblivious (lines next owed) := by
  induction owed using Nat.strongRecOn with
  | ind owed ih =>
    rw [lines]
    refine .bind (line_oblivious h) fun l => ?_
    by_cases hshort : l.2.utf8ByteSize + 1 < owed
    · simp only [if_pos hshort]
      exact .bind (ih _ (by omega)) fun _ => .pure _
    · simp only [if_neg hshort]
      exact .pure _

theorem fill_oblivious {next : Run Statement} (h : Oblivious next) (budget : Nat) : Oblivious (fill next budget) :=
  .bind (lines_oblivious h budget) fun _ => .pure _

theorem closeScope_oblivious : Oblivious closeScope := fun g o => by
  unfold closeScope
  rw [get_bind, get_bind]
  have hsame : (g.fromOrigin o).scopes.pop? = g.scopes.pop? := rfl
  rw [hsame]
  rcases g.scopes.pop? with _ | ⟨s, scopes⟩ <;> rfl

theorem branch_oblivious {body : Run Block} (h : Oblivious body) : Oblivious (branch body) := by
  refine .bind (fun _ _ => rfl) fun _ => .bind h.outcome fun o => .bind closeScope_oblivious fun _ => ?_
  cases o with
  | ok b => exact .pure b
  | error e => exact .throw e

theorem conditionalWithin_oblivious (levels : Nat) (kind : ConditionalKind) :
    Oblivious (conditionalWithin levels kind) := by
  induction levels generalizing kind with
  | zero => exact .bind (.count _) fun _ => .pure _
  | succ levels ih =>
    rw [conditionalWithin]
    refine .get (fun g => .bind (.draw _) fun condition => ?_) fun _ _ => rfl
    have hbody := branch_oblivious (fill_oblivious (statement_oblivious ih) g.config.blockSizeBudget.toNat)
    cases kind with
    | ifThen => exact .bind hbody fun _ => .bind (.count _) fun _ => .pure _
    | ifElse => exact .bind hbody fun _ => .bind hbody fun _ => .bind (.count _) fun _ => .pure _

theorem block_oblivious (budget : Nat) : Oblivious (block budget) :=
  .bind (.get (fun _ => .pure _) fun _ _ => rfl) fun levels =>
    fill_oblivious (statement_oblivious (conditionalWithin_oblivious levels)) budget

end Run

end RandomPrograms
