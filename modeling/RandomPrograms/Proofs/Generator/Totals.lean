import Mathlib.Algebra.GroupWithZero.Nat
import Mathlib.Data.List.Perm.Basic
import RandomPrograms.Json.Write
import RandomPrograms.Proofs.Generator.Counters

/-! The counters of several runs together. In whatever order and groups the runs are merged, and however often the
    counters of no run come in between, each counter ends as the sum of those of the runs and the depth as the
    greatest of theirs, and no counter was greater on the way. For programs that were generated these are the numbers
    of nodes in all their trees. -/

namespace RandomPrograms

open Grammar

namespace Tally

/-! ### Sums -/

theorem zero_merge (t : Tally) : zero.merge t = t := by
  simp only [zero, merge, Nat.zero_add, Nat.zero_max]

theorem merge_zero (t : Tally) : t.merge zero = t := by
  simp only [zero, merge, Nat.add_zero, Nat.max_zero]

theorem merge_assoc (t u v : Tally) : (t.merge u).merge v = t.merge (u.merge v) := by
  simp only [merge, Nat.add_assoc, Nat.max_assoc]

/-- The counters of some runs together: sums, and the greatest of the depths. -/
def total (ts : List Tally) : Tally where
  declarations := (ts.map (·.declarations)).sum
  assignments := (ts.map (·.assignments)).sum
  ifs := (ts.map (·.ifs)).sum
  ifElses := (ts.map (·.ifElses)).sum
  suppressed := (ts.map (·.suppressed)).sum
  pushes := (ts.map (·.pushes)).sum
  pops := (ts.map (·.pops)).sum
  retries := (ts.map (·.retries)).sum
  maxDepth := (ts.map (·.maxDepth)).foldr max 0

theorem total_nil : total [] = zero := rfl

theorem total_cons (t : Tally) (ts : List Tally) : total (t :: ts) = t.merge (total ts) := by
  simp only [total, merge, List.map_cons, List.sum_cons, List.foldr_cons]

theorem total_append (ts us : List Tally) : total (ts ++ us) = (total ts).merge (total us) := by
  induction ts with
  | nil => rw [List.nil_append, total_nil, zero_merge]
  | cons t ts ih => rw [List.cons_append, total_cons, ih, total_cons, merge_assoc]

theorem foldl_merge (t : Tally) (ts : List Tally) : ts.foldl merge t = t.merge (total ts) := by
  induction ts generalizing t with
  | nil => rw [List.foldl_nil, total_nil, merge_zero]
  | cons u us ih => rw [List.foldl_cons, ih, total_cons, merge_assoc]

theorem total_perm {ts us : List Tally} (h : ts.Perm us) : total ts = total us := by
  have hsum : ∀ f : Tally → Nat, (ts.map f).sum = (us.map f).sum := fun f => (h.map f).sum_nat
  have hmax : (ts.map (·.maxDepth)).foldr max 0 = (us.map (·.maxDepth)).foldr max 0 := (h.map _).foldr_eq 0
  simp only [total, hsum, hmax]

theorem conditionals_total (ts : List Tally) : (total ts).conditionals = (ts.map conditionals).sum := by
  induction ts with
  | nil => rfl
  | cons t ts ih =>
    rw [List.map_cons, List.sum_cons, ← ih]
    simp only [conditionals, total, List.map_cons, List.sum_cons]
    omega

theorem statements_total (ts : List Tally) : (total ts).statements = (ts.map statements).sum := by
  induction ts with
  | nil => rfl
  | cons t ts ih =>
    rw [List.map_cons, List.sum_cons, ← ih]
    simp only [statements, conditionals, total, List.map_cons, List.sum_cons]
    omega

/-! ### Merging -/

/-- A way to put counters together. -/
inductive Merging
  /-- The counters of no run, all zero. -/
  | nothing
  | run (t : Tally)
  | both (first second : Merging)

namespace Merging

/-- The counters of the runs that are merged, from the first to the last. -/
def runs : Merging → List Tally
  | nothing => []
  | run t => [t]
  | both first second => first.runs ++ second.runs

def result : Merging → Tally
  | nothing => zero
  | run t => t
  | both first second => first.result.merge second.result

theorem result_eq_total (m : Merging) : m.result = total m.runs := by
  induction m with
  | nothing => rfl
  | run t => rw [result, runs, total_cons, total_nil, merge_zero]
  | both first second hfirst hsecond => rw [result, hfirst, hsecond, runs, total_append]

end Merging

/-! ### Room in 64 bits -/

/-- No counter needs more than 64 bits. -/
def Fits (t : Tally) : Prop := ∀ e ∈ t.entries, e.2 < 2 ^ 64

instance (t : Tally) : Decidable t.Fits := inferInstanceAs (Decidable (∀ e ∈ t.entries, e.2 < 2 ^ 64))

theorem fits_of_merge {t u : Tally} (h : (t.merge u).Fits) : t.Fits ∧ u.Fits := by
  simp only [Fits, entries, merge, List.forall_mem_cons, List.not_mem_nil, false_implies, implies_true,
    and_true] at h ⊢
  omega

namespace Merging

/-- Nothing that is put together on the way needs more than 64 bits, nor does the result. -/
def Fits : Merging → Prop
  | nothing => zero.Fits
  | run t => t.Fits
  | both first second => first.Fits ∧ second.Fits ∧ (first.result.merge second.result).Fits

/-- Counters only grow when they are merged. -/
theorem fits_of_result {m : Merging} (h : m.result.Fits) : m.Fits := by
  induction m with
  | nothing => exact h
  | run t => exact h
  | both first second hfirst hsecond =>
    obtain ⟨hf, hs⟩ := fits_of_merge h
    exact ⟨hfirst hf, hsecond hs, h⟩

end Merging

/-! ### Trees -/

/-- What is counted in programs: the nodes of all their trees by their shapes, a scope opened and closed for each body,
    and the depth of the innermost body. How many names were rejected is taken from the programs. -/
def ofPrograms (ps : List Program) : Tally :=
  let nodes := nodesOf (ps.flatMap (·.statements))
  { declarations := nodes.count .declaration
    assignments := nodes.count .assignment
    ifs := nodes.count .ifThen
    ifElses := nodes.count .ifElse
    suppressed := nodes.count .empty
    pushes := nodes.count .ifThen + 2 * nodes.count .ifElse
    pops := nodes.count .ifThen + 2 * nodes.count .ifElse
    retries := (ps.map (·.tally.retries)).sum
    maxDepth := (ps.map fun p => 1 + heightOf p.statements).foldr max 0 }

end Tally

theorem nodesOf_append (ss ts : List Statement) : nodesOf (ss ++ ts) = nodesOf ss ++ nodesOf ts := by
  induction ss with
  | nil => rw [List.nil_append, nodesOf, List.nil_append]
  | cons s ss ih => rw [List.cons_append, nodesOf, nodesOf, ih, List.append_assoc]

namespace Tally

theorem ofPrograms_cons (p : Program) (ps : List Program) :
    ofPrograms (p :: ps) = (ofTree p.statements p.tally.retries).merge (ofPrograms ps) := by
  simp only [ofPrograms, ofTree, merge, List.flatMap_cons, nodesOf_append, List.count_append, List.map_cons,
    List.sum_cons, List.foldr_cons, mk.injEq, true_and, and_true]
  omega

/-- Where each program has the counters of its tree, all of them together have those of all trees. -/
theorem total_eq_ofPrograms {ps : List Program} (h : ∀ p ∈ ps, p.tally = ofTree p.statements p.tally.retries) :
    total (ps.map (·.tally)) = ofPrograms ps := by
  induction ps with
  | nil => rfl
  | cons p ps ih =>
    obtain ⟨hp, hps⟩ := List.forall_mem_cons.mp h
    rw [List.map_cons, total_cons, ih hps, ofPrograms_cons, ← hp]

end Tally

end RandomPrograms
