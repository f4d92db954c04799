import RandomPrograms.Proofs.CommandLine.Generate
import RandomPrograms.Proofs.Generator.Totals

/-! What `stats` reports. Its numbers are those that are counted in the programs which `generate` makes from the same
    number, size and seed. -/

namespace RandomPrograms.CommandLine

open Grammar

/-- The `generate` command for programs as those that a report is about, in a form of output. -/
def Stats.generating (o : Stats) (form : String) : Generate :=
  { size := o.size, count := o.count, seed := some o.seed, output := form }

theorem bytes_eq_sum (ps : List Program) :
    ps.foldl (fun n p => n + p.code.utf8ByteSize) 0 = (ps.map (·.code.utf8ByteSize)).sum := by
  rw [List.sum_eq_foldl, List.foldl_map]

theorem merged_eq_total (ps : List Program) :
    ps.foldl (fun t p => t.merge p.tally) Tally.zero = .total (ps.map (·.tally)) := by
  rw [← Tally.zero_merge (Tally.total _), ← Tally.foldl_merge, List.foldl_map]

section
variable {o : Stats} {ps : List Program} (h : (Run.batch o.size o.count.toNat (Generator.withSeed o.seed)).1 = .ok ps)
include h

theorem answer_generating (file : Except FileProblem ByteArray) (entropy : UInt64) {form out : String}
    (hout : programsOutput (o.generating form) ps = .ok out) :
    (Command.generate (o.generating form)).answer file entropy = ⟨0, out, ""⟩ :=
  Generate.Succeeds.answer ⟨rfl, new_withSeed o.seed entropy, h, hout⟩

theorem answer_stats (file : Except FileProblem ByteArray) (entropy : UInt64) : (Command.stats o).answer file entropy =
    ⟨0, String.join ((reportLines o.count o.seed (ps.map (·.code.utf8ByteSize)).sum (.ofPrograms ps)).map (· ++ "\n")),
      ""⟩ := by
  have hcounted : Tally.total (ps.map (·.tally)) = .ofPrograms ps := by
    refine Tally.total_eq_ofPrograms fun p hp => ?_
    obtain ⟨g, g', -, hrun⟩ := (Run.exists_run_of_mem_batch h).2 p hp
    exact Run.tally_eq_ofTree hrun
  have hrun : (Command.stats o).run file entropy =
      (reportLines o.count o.seed (ps.map (·.code.utf8ByteSize)).sum (.ofPrograms ps)).forM Writing.writeLine := by
    rw [← bytes_eq_sum, ← hcounted, ← merged_eq_total]
    exact (Writing.lift_bind_of_ok (new_withSeed o.seed o.seed) _).trans (Writing.lift_bind_of_ok h _)
  rw [Command.answer, hrun]
  exact (Writing.writes_lines _).answer

end

/-- However the counters of some runs are merged, and in whatever order, each ends as their sum, the depth as their
    greatest, and none is greater on the way than at the end. So what `stats` writes are the bytes of the programs that
    `generate` makes with the same number, size and seed, and what is counted in their trees: the nodes of each shape,
    a scope opened and closed for each body, and the depth of the innermost body. -/
theorem statistics_exact :
    (∀ (m : Tally.Merging) ts, m.runs.Perm ts → m.result = .total ts ∧
      m.result.conditionals = (ts.map Tally.conditionals).sum ∧
      m.result.statements = (ts.map Tally.statements).sum ∧ ((Tally.total ts).Fits → m.Fits)) ∧
    (∀ ts us : List Tally, us.Perm ts → us.foldl Tally.merge .zero = .total ts) ∧
    ∀ (o : Stats) (ps : List Program) file entropy, (Run.batch o.size o.count.toNat (Generator.withSeed o.seed)).1 = .ok ps →
      ps.length = o.count.toNat ∧
      (∀ form out, programsOutput (o.generating form) ps = .ok out →
        (Command.generate (o.generating form)).answer file entropy = ⟨0, out, ""⟩) ∧
      let nodes := nodesOf (ps.flatMap (·.statements))
      let bodies := nodes.count .ifThen + 2 * nodes.count .ifElse
      let bytes := (ps.map (·.code.utf8ByteSize)).sum
      let rejected := (ps.map (·.tally.retries)).sum
      let depth := (ps.map fun p => 1 + heightOf p.statements).foldr max 0
      (Command.stats o).answer file entropy = ⟨0, String.join (List.map (· ++ "\n") [
        "Generation Statistics (" ++ o.count.toNat.repr ++ " programs, seed " ++ o.seed.toNat.repr ++ "):",
        "  Bytes generated:         " ++ bytes.repr,
        "  Declarations:            " ++ (nodes.count .declaration).repr,
        "  Assignments:             " ++ (nodes.count .assignment).repr,
        "  If statements:           " ++ (nodes.count .ifThen).repr,
        "  If/else statements:      " ++ (nodes.count .ifElse).repr,
        "  Suppressed conditionals: " ++ (nodes.count .empty).repr,
        "  Scope pushes / pops:     " ++ bodies.repr ++ " / " ++ bodies.repr,
        "  Identifier retries:      " ++ rejected.repr,
        "  Max scope depth:         " ++ depth.repr]), ""⟩ := by
  refine ⟨fun m ts hm => ?_, fun ts us hus => ?_, fun o ps file entropy h => ?_⟩
  · have hresult : m.result = .total ts := m.result_eq_total.trans (Tally.total_perm hm)
    rw [← hresult]
    refine ⟨rfl, ?_, ?_, Tally.Merging.fits_of_result⟩
    · rw [hresult, Tally.conditionals_total]
    · rw [hresult, Tally.statements_total]
  · rw [Tally.foldl_merge, Tally.zero_merge, Tally.total_perm hus]
  · obtain ⟨hlength, -⟩ := Run.exists_run_of_mem_batch h
    exact ⟨hlength, fun form out => answer_generating h file entropy, answer_stats h file entropy⟩

/-- Two runs merged the other way round, with the counters of no run between them, and a report on the two programs that
    the other command writes as a document. -/
theorem statistics_exact_seed_twelve :
    (∃ m : Tally.Merging, m.runs = [⟨2, 1, 1, 0, 0, 1, 1, 0, 3⟩, ⟨1, 0, 0, 1, 2, 2, 2, 5, 2⟩] ∧
      m.result = ⟨3, 1, 1, 1, 2, 3, 3, 5, 3⟩ ∧ m.result.statements = 4 + 4 ∧ m.Fits) ∧
    [⟨2, 1, 1, 0, 0, 1, 1, 0, 3⟩, ⟨1, 0, 0, 1, 2, 2, 2, 5, 2⟩].foldl Tally.merge .zero =
      .total [⟨1, 0, 0, 1, 2, 2, 2, 5, 2⟩, ⟨2, 1, 1, 0, 0, 1, 1, 0, 3⟩] ∧
    ∃ ps : List Program, ps.length = 2 ∧
      (Command.generate { count := 2, size := some 60, seed := some 12, output := "json" }).answer (.error .missing) 0 =
        ⟨0, (Json.Document.list (ps.map Program.document)).pretty ++ "\n", ""⟩ ∧
      (ps.map (·.code.utf8ByteSize)).sum = 383 ∧ (nodesOf (ps.flatMap (·.statements))).count .declaration = 9 ∧
      (Command.stats { count := 2, size := some 60, seed := 12 }).answer (.error .missing) 0 = ⟨0,
        "Generation Statistics (2 programs, seed 12):\n" ++
        "  Bytes generated:         383\n" ++
        "  Declarations:            9\n" ++
        "  Assignments:             4\n" ++
        "  If statements:           3\n" ++
        "  If/else statements:      1\n" ++
        "  Suppressed conditionals: 2\n" ++
        "  Scope pushes / pops:     5 / 5\n" ++
        "  Identifier retries:      0\n" ++
        "  Max scope depth:         3\n", ""⟩ := by
  obtain ⟨hmerged, hfold, hreport⟩ := statistics_exact
  have hswap : [Tally.mk 2 1 1 0 0 1 1 0 3, ⟨1, 0, 0, 1, 2, 2, 2, 5, 2⟩].Perm
    [⟨1, 0, 0, 1, 2, 2, 2, 5, 2⟩, ⟨2, 1, 1, 0, 0, 1, 1, 0, 3⟩] := .swap ..
  refine ⟨?_, hfold _ _ hswap, ?_⟩
  · obtain ⟨hresult, -, hstatements, hfits⟩ := hmerged
      (.both (.run ⟨2, 1, 1, 0, 0, 1, 1, 0, 3⟩) (.both .nothing (.run ⟨1, 0, 0, 1, 2, 2, 2, 5, 2⟩))) _ hswap
    exact ⟨_, rfl, hresult, hstatements, hfits (by decide)⟩
  · obtain ⟨ps, g, h, hcounts⟩ := Run.exists_of_any (x := Run.batch (some 60) 2 (Generator.withSeed 12))
      (q := fun ps => decide ((ps.map (·.code.utf8ByteSize)).sum = 383 ∧ Tally.ofPrograms ps = ⟨9, 4, 3, 1, 2, 5, 5, 0, 3⟩))
      (by decide +kernel)
    obtain ⟨hbytes, htally⟩ := of_decide_eq_true hcounts
    let o : Stats := { count := 2, size := some 60, seed := 12 }
    obtain ⟨hlength, hanswer, hstats⟩ := hreport o ps (.error .missing) 0 (congrArg Prod.fst h)
    have hwrites : Writing.Writes ((o.generating "json").write ps) _ := write_json ps rfl
    have hjson := (programsOutput_eq_ok_iff ps).mpr hwrites
    refine ⟨ps, hlength, hanswer "json" _ hjson, hbytes, congrArg Tally.declarations htally, hstats.trans ?_⟩
    have hlines : reportLines 2 12 (ps.map (·.code.utf8ByteSize)).sum (.ofPrograms ps) =
        reportLines 2 12 383 ⟨9, 4, 3, 1, 2, 5, 5, 0, 3⟩ := by rw [hbytes, htally]
    refine (congrArg (fun ls => Answer.mk 0 (String.join (List.map (· ++ "\n") ls)) "") hlines).trans ?_
    decide +kernel

end RandomPrograms.CommandLine
