import RandomPrograms.Proofs.Generator.Origin
import RandomPrograms.Proofs.Generator.Programs

/-! Every run can be had again from its seed. Whatever was asked of a generator before, a run ends as the first
    run of a new generator to which the configuration gives this seed; and the seeds of the runs follow from
    the first one alone, whatever the calls between the runs draw, declare or fail at. -/

namespace RandomPrograms

open Grammar Randomness

def Config.withSeed (c : Config) (seed : UInt64) : Config := { c with seed := some seed }

/-- The seed has no part in whether a configuration is usable. -/
theorem Config.validate_withSeed (c : Config) (seed : UInt64) : (c.withSeed seed).validate = c.validate := rfl

/-! ### One run -/

namespace Generator

variable (g : Generator) (seed : UInt64)

theorem runSeed_start : (start (g.config.withSeed seed) seed).runSeed = seed := if_pos rfl

/-- The first run of a new generator begins like any run with the same seed. -/
theorem beginning_start (source seeds seeds' : Source) : (start (g.config.withSeed seed) seed).beginning source seeds =
    (g.beginning source seeds').fromOrigin ⟨some seed, seed, seeds, 1⟩ := rfl

theorem begun_start : ∃ o, (start (g.config.withSeed g.runSeed) g.runSeed).begun = g.begun.fromOrigin o := by
  rw [begun, begun, runSeed_start, g.beginning_start g.runSeed _ _ g.laterSeeds]
  exact ⟨_, rfl⟩

end Generator

namespace Run

/-- A run ends as the first run of a new generator with its seed. -/
theorem program_replay (budget : Option UInt64) (g : Generator) : (program budget g).1 =
    (program (some (budget.getD g.config.sizeBudget)) (Generator.start (g.config.withSeed g.runSeed) g.runSeed)).1 := by
  obtain ⟨o, hbegun⟩ := g.begun_start
  rw [program_apply, program_apply, hbegun, g.runSeed_start, Option.getD_some, block_oblivious]
  rcases block (budget.getD g.config.sizeBudget).toNat g.begun with ⟨e | b, g'⟩ <;> rfl

end Run

/-! ### Histories -/

inductive Call
  | program (budget : Option UInt64)
  | programText (budget : Option UInt64)
  | batch (budget : Option UInt64) (count : Nat)
  | block (budget : Nat)
  | declaration (type : VarType)
  | assignment
  | conditional (kind : ConditionalKind)
  /-- The scopes changed from outside, in any way. -/
  | scopes (change : ScopeStack → ScopeStack)

/-- A run: the bytes that it was to be filled up to, and how it ended. -/
structure Attempt where
  budget : UInt64
  outcome : Except Error Program

def Generator.attempt (g : Generator) (budget : Option UInt64) : Attempt :=
  ⟨budget.getD g.config.sizeBudget, (Run.program budget g).1⟩

/-- The runs of a batch: none comes after one that fails. -/
def Generator.batchAttempts (budget : Option UInt64) : Nat → Generator → List Attempt
  | 0, _ => []
  | count + 1, g =>
    g.attempt budget ::
      if (g.attempt budget).outcome.isOk then batchAttempts budget count (Run.program budget g).2 else []

namespace Call

def after (g : Generator) : Call → Generator
  | program budget => (Run.program budget g).2
  | programText budget => (Run.programText budget g).2
  | batch budget count => (Run.batch budget count g).2
  | block budget => (Run.block budget g).2
  | declaration type => (Run.declaration type g).2
  | assignment => (Run.assignment g).2
  | conditional kind => (Run.conditional kind g).2
  | scopes change => { g with scopes := change g.scopes }

/-- The runs that a call makes, failed ones too. -/
def attempts (g : Generator) : Call → List Attempt
  | program budget => [g.attempt budget]
  | programText budget => [g.attempt budget]
  | batch budget count => g.batchAttempts budget count
  | _ => []

end Call

/-- All runs that some calls make, one call after the other. -/
def history : List Call → Generator → List Attempt
  | [], _ => []
  | c :: cs, g => c.attempts g ++ history cs (c.after g)

/-! ### What a call returns, from its runs -/

namespace Run

theorem programText_apply (budget : Option UInt64) (g : Generator) :
    programText budget g = ((program budget g).1.map (·.code), (program budget g).2) := by
  unfold programText
  rw [bind_apply]
  rcases program budget g with ⟨e | p, g'⟩ <;> rfl

section
variable {budget : Option UInt64} {count : Nat} {g g₁ : Generator} {p : Program} {e : Error}

theorem batch_succ_of_ok (h : program budget g = (.ok p, g₁)) : batch budget (count + 1) g =
    ((batch budget count g₁).1.map (p :: ·), (batch budget count g₁).2) := by
  rw [batch, bind_of_ok h, bind_apply]
  rcases batch budget count g₁ with ⟨e | ps, g₂⟩ <;> rfl

theorem batch_succ_of_error (h : program budget g = (.error e, g₁)) :
    batch budget (count + 1) g = (.error e, g₁) := by
  rw [batch, bind_of_error h]

theorem batchAttempts_succ_of_ok (h : program budget g = (.ok p, g₁)) :
    g.batchAttempts budget (count + 1) = g.attempt budget :: g₁.batchAttempts budget count := by
  have hok : (g.attempt budget).outcome.isOk = true := by
    rw [Generator.attempt, h]
    rfl
  rw [Generator.batchAttempts, if_pos hok, h]

theorem batchAttempts_succ_of_error (h : program budget g = (.error e, g₁)) :
    g.batchAttempts budget (count + 1) = [g.attempt budget] := by
  have herror : ¬(g.attempt budget).outcome.isOk = true := by
    rw [Generator.attempt, h]
    exact Bool.false_ne_true
  rw [Generator.batchAttempts, if_neg herror]

end

/-- A batch returns the programs of its runs, or the error of its last run, the only one to fail. -/
theorem batch_ends (budget : Option UInt64) (count : Nat) (g : Generator) :
    (∃ ps : List Program, ps.length = count ∧ (g.batchAttempts budget count).map (·.outcome) = ps.map .ok ∧
        (batch budget count g).1 = .ok ps) ∨
      ∃ (ps : List Program) (e : Error), ps.length < count ∧
        (g.batchAttempts budget count).map (·.outcome) = ps.map .ok ++ [.error e] ∧
        (batch budget count g).1 = .error e := by
  induction count generalizing g with
  | zero => exact Or.inl ⟨[], rfl, rfl, rfl⟩
  | succ count ih =>
    rcases h : program budget g with ⟨e | p, g₁⟩
    · have houtcome : (g.attempt budget).outcome = .error e := by rw [Generator.attempt, h]
      refine Or.inr ⟨[], e, Nat.succ_pos _, ?_, by rw [batch_succ_of_error h]⟩
      rw [batchAttempts_succ_of_error h, List.map_singleton, houtcome]
      rfl
    · have houtcome : (g.attempt budget).outcome = .ok p := by rw [Generator.attempt, h]
      rw [batchAttempts_succ_of_ok h, batch_succ_of_ok h, List.map_cons, houtcome]
      rcases ih g₁ with ⟨ps, hlen, hruns, hend⟩ | ⟨ps, e, hlen, hruns, hend⟩
      · exact Or.inl ⟨p :: ps, by simp [hlen], by rw [hruns]; rfl, by rw [hend]; rfl⟩
      · exact Or.inr ⟨p :: ps, e, by simp [hlen], by rw [hruns]; rfl, by rw [hend]; rfl⟩

theorem batch_add (budget : Option UInt64) (m n : Nat) : batch budget (m + n) = (do
    let ps ← batch budget m
    let qs ← batch budget n
    return ps ++ qs) := by
  induction m with
  | zero => simp [batch]
  | succ m ih =>
    rw [Nat.succ_add, batch, ih, batch]
    simp only [bind_assoc, pure_bind, List.cons_append]

/-- Each program of a batch is that of some run under the same configuration. -/
theorem exists_run_of_mem_batch {budget : Option UInt64} {count : Nat} {g : Generator} {ps : List Program}
    (h : (batch budget count g).1 = .ok ps) :
    ps.length = count ∧ ∀ p ∈ ps, ∃ g₁ g₂, g₁.config = g.config ∧ program budget g₁ = (.ok p, g₂) := by
  induction count generalizing g ps with
  | zero =>
    obtain rfl : [] = ps := Except.ok.inj h
    exact ⟨rfl, fun p hp => by cases hp⟩
  | succ count ih =>
    rcases hp : program budget g with ⟨e | p, g₁⟩
    · rw [batch_succ_of_error hp] at h
      cases h
    · rw [batch_succ_of_ok hp] at h
      have hconfig : g₁.config = g.config := by
        have hkept := program_kept budget g
        rw [hp] at hkept
        exact hkept.config.trans g.begun_config
      rcases hrest : (batch budget count g₁).1 with e | rest <;> rw [hrest] at h
      · cases h
      · obtain rfl : p :: rest = ps := Except.ok.inj h
        obtain ⟨hlength, hruns⟩ := ih hrest
        refine ⟨by rw [List.length_cons, hlength], List.forall_mem_cons.mpr ⟨⟨g, g₁, rfl, hp⟩, ?_⟩⟩
        intro q hq
        obtain ⟨h₁, h₂, hc, hrun⟩ := hruns q hq
        exact ⟨h₁, h₂, hc.trans hconfig, hrun⟩

/-- The seed of a program gives it alone. -/
theorem batch_one_of_seed {budget : Option UInt64} {g g' : Generator} {p : Program}
    (h : program budget g = (.ok p, g')) :
    (batch budget 1 (Generator.start (g.config.withSeed p.seed) p.seed)).1 = .ok [p] := by
  obtain ⟨-, -, hseed⟩ := program_eq_ok h
  have hreplay := program_replay budget g
  have hagain := program_replay budget (Generator.start (g.config.withSeed p.seed) p.seed)
  rw [Generator.runSeed_start] at hagain
  rw [← hseed, h] at hreplay
  have hsame : (program budget (Generator.start (g.config.withSeed p.seed) p.seed)).1 = .ok p :=
    hagain.trans hreplay.symm
  have hrun : program budget (Generator.start (g.config.withSeed p.seed) p.seed) = (.ok p, _) := Prod.ext hsame rfl
  rw [batch_succ_of_ok hrun]
  rfl

end Run

/-! ### Runs in a history -/

/-- The source of the seeds after so many of them. -/
def seedSource (seed : UInt64) : Nat → Source
  | 0 => Source.ofSeed seed
  | n + 1 => (Draw.word64 (seedSource seed n)).2

/-- The seed of each run, where the first seed is given: later ones are the words of a source of that seed. -/
def seedOfRun (seed : UInt64) : Nat → UInt64
  | 0 => seed
  | n + 1 => (Draw.word64 (seedSource seed n)).1

/-- Between calls, after `count` runs: what the next runs start from is known, whatever else has changed. -/
structure Poised (c : Config) (first : UInt64) (count : Nat) (g : Generator) : Prop where
  config : g.config = c
  seed : g.seed = first
  runs : g.runs = count
  seeds : g.seeds = seedSource first (count - 1)

/-- The run ends as the first one of a new generator with the seed of run number `run`. -/
def Attempt.Replays (c : Config) (first : UInt64) (run : Nat) (a : Attempt) : Prop :=
  a.outcome = (Run.program (some a.budget)
    (Generator.start (c.withSeed (seedOfRun first run)) (seedOfRun first run))).1

namespace Poised

variable {c : Config} {first : UInt64} {count : Nat} {g g' : Generator}

theorem start (c : Config) (first : UInt64) : Poised c first 0 (Generator.start c first) := ⟨rfl, rfl, rfl, rfl⟩

theorem kept (h : Poised c first count g) (hk : Kept g g') : Poised c first count g' :=
  ⟨hk.config.trans h.config, hk.seed.trans h.seed, hk.runs.trans h.runs, hk.seeds.trans h.seeds⟩

theorem runSeed (h : Poised c first count g) : g.runSeed = seedOfRun first count := by
  unfold Generator.runSeed
  rw [h.runs, h.seed, h.seeds]
  cases count with
  | zero => exact if_pos rfl
  | succ n => exact if_neg (Nat.succ_ne_zero n)

theorem beginning (h : Poised c first count g) (source : Source) :
    Poised c first (count + 1) (g.beginning source (seedSource first count)) :=
  ⟨h.config, h.seed, congrArg (· + 1) h.runs, rfl⟩

theorem begun (h : Poised c first count g) : Poised c first (count + 1) g.begun := by
  have hseeds : g.laterSeeds = seedSource first count := by
    unfold Generator.laterSeeds
    rw [h.runs, h.seeds]
    cases count with
    | zero => exact if_pos rfl
    | succ n => exact if_neg (Nat.succ_ne_zero n)
  rw [Generator.begun, hseeds]
  exact h.beginning _

theorem program (h : Poised c first count g) (budget : Option UInt64) :
    Poised c first (count + 1) (Run.program budget g).2 :=
  h.begun.kept (Run.program_kept budget g)

theorem attempt (h : Poised c first count g) (budget : Option UInt64) : (g.attempt budget).Replays c first count := by
  have hreplay := Run.program_replay budget g
  rw [h.runSeed, h.config] at hreplay
  rw [Attempt.Replays, Generator.attempt, h.config]
  exact hreplay

end Poised

/-- All of them do, the first being run number `run`. -/
def AllReplay (c : Config) (first : UInt64) : (run : Nat) → List Attempt → Prop
  | _, [] => True
  | run, a :: as => a.Replays c first run ∧ AllReplay c first (run + 1) as

section
variable {c : Config} {first : UInt64} {run : Nat}

theorem AllReplay.append {as bs : List Attempt} (ha : AllReplay c first run as)
    (hb : AllReplay c first (run + as.length) bs) : AllReplay c first run (as ++ bs) := by
  induction as generalizing run with
  | nil => exact hb
  | cons a as ih =>
    refine ⟨ha.1, ih ha.2 ?_⟩
    rwa [Nat.add_assoc, Nat.add_comm 1]

theorem AllReplay.getElem? {as : List Attempt} {i : Nat} {a : Attempt} (h : AllReplay c first run as)
    (hi : as[i]? = some a) : a.Replays c first (run + i) := by
  induction as generalizing run i with
  | nil => cases hi
  | cons b as ih =>
    cases i with
    | zero =>
      obtain rfl := Option.some.inj hi
      exact h.1
    | succ i =>
      have := ih h.2 hi
      rwa [Nat.add_assoc, Nat.add_comm 1] at this

end

namespace Poised

variable {c : Config} {first : UInt64} {n : Nat} {g : Generator}

theorem batch (h : Poised c first n g) (budget : Option UInt64) (count : Nat) :
    AllReplay c first n (g.batchAttempts budget count) ∧
      Poised c first (n + (g.batchAttempts budget count).length) (Run.batch budget count g).2 := by
  induction count generalizing n g with
  | zero => exact ⟨trivial, h⟩
  | succ count ih =>
    have hattempt := h.attempt budget
    have hnext := h.program budget
    rcases hp : Run.program budget g with ⟨e | p, g₁⟩ <;> rw [hp] at hnext
    · rw [Run.batchAttempts_succ_of_error hp, Run.batch_succ_of_error hp]
      exact ⟨⟨hattempt, trivial⟩, hnext⟩
    · obtain ⟨hall, hlater⟩ := ih hnext
      rw [Run.batchAttempts_succ_of_ok hp, Run.batch_succ_of_ok hp, List.length_cons, Nat.add_comm _ 1,
        ← Nat.add_assoc]
      exact ⟨⟨hattempt, hall⟩, hlater⟩

/-- One call: its runs replay, and the generator is poised for the runs after them. -/
theorem call (h : Poised c first n g) (call : Call) : AllReplay c first n (call.attempts g) ∧
    Poised c first (n + (call.attempts g).length) (call.after g) := by
  cases call with
  | program budget => exact ⟨⟨h.attempt budget, trivial⟩, h.program budget⟩
  | programText budget =>
    refine ⟨⟨h.attempt budget, trivial⟩, ?_⟩
    rw [Call.after, Run.programText_apply]
    exact h.program budget
  | batch budget count => exact h.batch budget count
  | block budget => exact ⟨trivial, h.kept ((Run.block_ends budget g).kept fun _ _ => Fills.kept)⟩
  | declaration type => exact ⟨trivial, h.kept ((Run.declaration_ends type g).kept fun _ _ => Makes.kept)⟩
  | assignment => exact ⟨trivial, h.kept ((Run.assignment_ends g).kept fun _ _ => Makes.kept)⟩
  | conditional kind => exact ⟨trivial, h.kept ((Run.conditional_ends kind g).kept fun _ _ => Makes.kept)⟩
  -- The next run clears the scopes, so nothing is asked of the change.
  | scopes change => exact ⟨trivial, h.config, h.seed, h.runs, h.seeds⟩

theorem history (h : Poised c first n g) (calls : List Call) : AllReplay c first n (history calls g) := by
  induction calls generalizing n g with
  | nil => trivial
  | cons call calls ih =>
    obtain ⟨hall, hlater⟩ := h.call call
    exact hall.append (ih hlater)

end Poised

/-- Whatever calls are made on a new generator, in whatever order, and whether they fail or not, each of their
    runs is the first run of a new generator that is given its seed, and the seeds of the runs come from the
    first alone. So two batches in a row are one batch, and a batch ends with the first run that fails. -/
theorem runs_replay {c : Config} {entropy : UInt64} {g : Generator} (hnew : Generator.new c entropy = .ok g) :
    (∀ calls run a, (history calls g)[run]? = some a → ∀ other, ∃ h,
      Generator.new (c.withSeed (seedOfRun (c.seed.getD entropy) run)) other = .ok h ∧
        a.outcome = (Run.program (some a.budget) h).1) ∧
    (∀ budget h, (Run.programText budget h).1 = (Run.program budget h).1.map (·.code)) ∧
    (∀ budget count h,
      (∃ ps : List Program, ps.length = count ∧ (h.batchAttempts budget count).map (·.outcome) = ps.map .ok ∧
        (Run.batch budget count h).1 = .ok ps) ∨
      ∃ (ps : List Program) (e : Error), ps.length < count ∧
        (h.batchAttempts budget count).map (·.outcome) = ps.map .ok ++ [.error e] ∧
        (Run.batch budget count h).1 = .error e) ∧
    ∀ budget m n, Run.batch budget (m + n) = (do
      let ps ← Run.batch budget m
      let qs ← Run.batch budget n
      return ps ++ qs) := by
  refine ⟨?_, fun budget h => by rw [Run.programText_apply], Run.batch_ends, Run.batch_add⟩
  intro calls run a ha other
  unfold Generator.new at hnew
  rcases hvalid : c.validate with e | _ <;> rw [hvalid] at hnew
  · cases hnew
  · obtain rfl := Except.ok.inj hnew
    have hreplays := ((Poised.start c (c.seed.getD entropy)).history calls).getElem? ha
    rw [Nat.zero_add] at hreplays
    refine ⟨_, ?_, hreplays⟩
    unfold Generator.new
    rw [c.validate_withSeed, hvalid]
    rfl

/-- With names of one letter, tried once, the first run fails, and a scope is left open before the batch. -/
theorem runs_replay_after_failure :
    ∃ g a h, Generator.new { Config.default with maxIdentifierLength := 1, maxIdentifierAttempts := 1 } 12 = .ok g ∧
      (history [.program (some 60), .declaration .number, .scopes .push, .batch (some 30) 2] g)[2]? = some a ∧
      Generator.new { Config.default with
        maxIdentifierLength := 1, maxIdentifierAttempts := 1, seed := some (seedOfRun 12 2) } 0 = .ok h ∧
      a.outcome = (Run.program (some a.budget) h).1 := by
  have hnew : Generator.new { Config.default with maxIdentifierLength := 1, maxIdentifierAttempts := 1 } 12 =
    .ok (Generator.start { Config.default with maxIdentifierLength := 1, maxIdentifierAttempts := 1 } 12) := rfl
  have hrun : ((history [.program (some 60), .declaration .number, .scopes .push, .batch (some 30) 2]
      (Generator.start { Config.default with maxIdentifierLength := 1, maxIdentifierAttempts := 1 } 12))[2]?).isSome =
    true := by decide +kernel
  obtain ⟨a, ha⟩ := Option.isSome_iff_exists.mp hrun
  obtain ⟨h, hh, houtcome⟩ := (runs_replay hnew).1 _ _ _ ha 0
  exact ⟨_, a, h, hnew, ha, hh, houtcome⟩

end RandomPrograms
