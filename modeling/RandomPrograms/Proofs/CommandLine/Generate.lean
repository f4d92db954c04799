import RandomPrograms.Proofs.CommandLine.Sections

/-! What `generate` answers. It fails when its configuration cannot be had or used, when a run of its batch fails,
    and when it does not know the form that is asked for, and then it has written nothing. A batch that it writes as
    text can be taken apart, and each of its programs had again from the seed in its heading. -/

namespace RandomPrograms.CommandLine

open Grammar Randomness

section
variable {o : Generate} {file : Except FileProblem ByteArray} {entropy : UInt64}

/-! ### Success and failure -/

/-- What `generate` comes by on its way to an output. -/
structure Generate.Succeeds (o : Generate) (file : Except FileProblem ByteArray) (entropy : UInt64) (c : Config)
    (g : Generator) (ps : List Program) (out : String) : Prop where
  configured : o.configured file = .ok c
  new : Generator.new c entropy = .ok g
  batch : (Run.batch o.size o.count.toNat g).1 = .ok ps
  output : programsOutput o ps = .ok out

inductive Generate.Fails (o : Generate) (file : Except FileProblem ByteArray) (entropy : UInt64) : Prop
  | unread {e : Error} (configured : o.configured file = .error e)
  | unusable {c : Config} {e : Error} (configured : o.configured file = .ok c) (invalid : c.validate = .error e)
  | run {c : Config} {g : Generator} {a : Attempt} {e : Error} (configured : o.configured file = .ok c)
      (new : Generator.new c entropy = .ok g) (attempted : a ∈ g.batchAttempts o.size o.count.toNat)
      (failed : a.outcome = .error e)
  | unknownForm (text : o.output ≠ "text") (json : o.output ≠ "json")

theorem run_of_new {c : Config} {g : Generator} (hc : o.configured file = .ok c)
    (hnew : Generator.new c entropy = .ok g) : (Command.generate o).run file entropy =
      (((Run.batch o.size o.count.toNat g).1 : Except Error (List Program)) : Writing (List Program)) >>= o.write := by
  show ((o.configured file : Writing Config) >>= _) = _
  rw [Writing.lift_bind_of_ok hc, Writing.lift_bind_of_ok hnew]

theorem Generate.Succeeds.answer {c : Config} {g : Generator} {ps : List Program} {out : String}
    (h : o.Succeeds file entropy c g ps out) : (Command.generate o).answer file entropy = ⟨0, out, ""⟩ := by
  rw [Command.answer, run_of_new h.configured h.new, Writing.lift_bind_of_ok h.batch]
  exact ((programsOutput_eq_ok_iff ps).mp h.output).answer

theorem Generate.Succeeds.not_fails {c : Config} {g : Generator} {ps : List Program} {out : String}
    (h : o.Succeeds file entropy c g ps out) : ¬o.Fails file entropy := by
  intro hfails
  cases hfails with
  | unread configured =>
    rw [h.configured] at configured
    cases configured
  | unusable configured invalid =>
    obtain rfl := Except.ok.inj (h.configured.symm.trans configured)
    rw [(Generator.new_eq_ok_iff.mp h.new).1] at invalid
    cases invalid
  | @run c' g' a e configured new attempted failed =>
    obtain rfl := Except.ok.inj (h.configured.symm.trans configured)
    obtain rfl := Except.ok.inj (h.new.symm.trans new)
    rcases Run.batch_ends o.size o.count.toNat g with ⟨qs, -, hruns, -⟩ | ⟨qs, e', -, -, herror⟩
    · have hmem : a.outcome ∈ qs.map (Except.ok (ε := Error)) := hruns ▸ List.mem_map_of_mem attempted
      obtain ⟨q, -, hq⟩ := List.mem_map.mp hmem
      rw [failed] at hq
      cases hq
    · rw [h.batch] at herror
      cases herror
  | unknownForm text json =>
    obtain ⟨e, hthrow⟩ := write_unknown ps json text
    have hwrites := (programsOutput_eq_ok_iff ps).mp h.output ""
    rw [hthrow] at hwrites
    cases hwrites

theorem Generate.succeeds_or_fails (o : Generate) (file : Except FileProblem ByteArray) (entropy : UInt64) :
    (∃ c g ps out, o.Succeeds file entropy c g ps out) ∨
      o.Fails file entropy ∧ ∃ e, (Command.generate o).run file entropy = throw e := by
  rcases hc : o.configured file with e | c
  · exact Or.inr ⟨.unread hc, e, Writing.lift_bind_of_error hc _⟩
  rcases hv : c.validate with e | _
  · have hnew : Generator.new c entropy = .error e := by rw [Generator.new, hv]; rfl
    refine Or.inr ⟨.unusable hc hv, e, (Writing.lift_bind_of_ok hc _).trans ?_⟩
    exact Writing.lift_bind_of_error hnew _
  obtain ⟨g, hnew⟩ : ∃ g, Generator.new c entropy = .ok g := ⟨_, Generator.new_eq_ok_iff.mpr ⟨hv, rfl⟩⟩
  rcases Run.batch_ends o.size o.count.toNat g with ⟨ps, -, -, hb⟩ | ⟨ps, e, -, hruns, hb⟩
  · rcases writes_or_throws ps o with ⟨out, hwrites⟩ | ⟨htext, hjson, e, hthrow⟩
    · exact Or.inl ⟨c, g, ps, out, hc, hnew, hb, (programsOutput_eq_ok_iff ps).mpr hwrites⟩
    · refine Or.inr ⟨.unknownForm htext hjson, e, ?_⟩
      rw [run_of_new hc hnew, Writing.lift_bind_of_ok hb, hthrow]
  · have hmem : Except.error e ∈ (g.batchAttempts o.size o.count.toNat).map (·.outcome) := by
      rw [hruns]
      exact List.mem_append_right _ (List.mem_singleton_self _)
    obtain ⟨a, ha, hfailed⟩ := List.mem_map.mp hmem
    refine Or.inr ⟨.run hc hnew ha hfailed, e, ?_⟩
    rw [run_of_new hc hnew, Writing.lift_bind_of_error hb]

end

/-! ### Seeds in place of a batch -/

theorem configured_withSeed {o : Generate} {file : Except FileProblem ByteArray} {c : Config}
    (h : o.configured file = .ok c) (count seed : UInt64) :
    Generate.configured { o with count, seed := some seed } file = .ok (c.withSeed seed) := by
  unfold Generate.configured at h ⊢
  generalize Config.ofFile file = read at h ⊢
  by_cases hsome : o.config.isSome = true
  · simp only [if_pos hsome] at h ⊢
    cases read with
    | error e => cases h
    | ok c₀ =>
      obtain rfl := Except.ok.inj h
      rfl
  · simp only [if_neg hsome] at h ⊢
    obtain rfl := Except.ok.inj h
    rfl

theorem new_withSeed (seed entropy : UInt64) :
    Generator.new { Config.default with seed := some seed } entropy = .ok (Generator.withSeed seed) := by
  have hvalid : Config.default.validate = .ok () := by decide +kernel
  exact Generator.new_eq_ok_iff.mpr ⟨(Config.validate_withSeed _ seed).trans hvalid, rfl⟩

/-- The command with the seed of a program alone writes its text, without a heading. -/
theorem answer_of_seed {o : Generate} {file : Except FileProblem ByteArray} {entropy : UInt64} {c : Config}
    {g : Generator} {ps : List Program} {out : String} (h : o.Succeeds file entropy c g ps out)
    (htext : o.output = "text") {p : Program} (hp : p ∈ ps) (again : UInt64) :
    (Command.generate { o with count := 1, seed := some p.seed }).answer file again = ⟨0, p.code, ""⟩ := by
  obtain ⟨hvalid, rfl⟩ := Generator.new_eq_ok_iff.mp h.new
  obtain ⟨g₁, g₂, hconfig, hrun⟩ := (Run.exists_run_of_mem_batch h.batch).2 p hp
  have hbatch := Run.batch_one_of_seed hrun
  rw [hconfig] at hbatch
  have hcode : textFrom false 1 [p] = p.code := by simp [textFrom]
  have hwrites : Writing.Writes (Generate.write { o with count := 1, seed := some p.seed } [p]) p.code :=
    hcode ▸ write_text [p] htext
  exact Generate.Succeeds.answer ⟨configured_withSeed h.configured 1 p.seed,
    Generator.new_eq_ok_iff.mpr ⟨hvalid, rfl⟩, hbatch, (programsOutput_eq_ok_iff [p]).mpr hwrites⟩

theorem sections_textFrom {o : Generate} {file : Except FileProblem ByteArray} {entropy : UInt64} {c : Config}
    {g : Generator} {ps : List Program} {out : String} (h : o.Succeeds file entropy c g ps out) :
    sections (textFrom true 1 ps) = (ps.zipIdx 1).map fun (p, i) => heading i p.seed ++ "\n" ++ p.code := by
  obtain ⟨hvalid, rfl⟩ := Generator.new_eq_ok_iff.mp h.new
  refine sections_join ?_
  rw [List.forall_mem_map]
  rintro ⟨p, i⟩ hp
  obtain ⟨g₁, g₂, hconfig, hrun⟩ := (Run.exists_run_of_mem_batch h.batch).2 p (List.fst_mem_of_mem_zipIdx hp)
  have hvalid₁ : g₁.config.validate = .ok () := by rw [hconfig]; exact hvalid
  exact isSection_program hvalid₁ hrun i

/-- Where `generate` writes several programs as text, its output is cut into them, each after the line with its number
    and its seed, and the same command for one program with this seed writes just the text of that program. It fails
    in the cases that are told, and then it has written nothing. -/
theorem text_taken_apart :
    (∀ (o : Generate) file entropy, o.output = "text" → 1 < o.count →
      ((Command.generate o).answer file entropy).exit = 0 →
      ∃ c g ps, o.configured file = .ok c ∧ Generator.new c entropy = .ok g ∧
        (Run.batch o.size o.count.toNat g).1 = .ok ps ∧ ps.length = o.count.toNat ∧
        sections ((Command.generate o).answer file entropy).stdout = ((ps.zipIdx 1).map fun (p, i) =>
          "// --- Program " ++ i.repr ++ " (seed: " ++ p.seed.toNat.repr ++ ") ---\n" ++ p.code) ∧
        ∀ p ∈ ps, ∀ again,
          (Command.generate { o with count := 1, seed := some p.seed }).answer file again = ⟨0, p.code, ""⟩) ∧
    ∀ (o : Generate) file entropy,
      (((Command.generate o).answer file entropy).exit ≠ 0 ↔ o.Fails file entropy) ∧
      (((Command.generate o).answer file entropy).exit ≠ 0 → ((Command.generate o).answer file entropy).stdout = "") := by
  constructor
  · intro o file entropy htext hcount hexit
    rcases o.succeeds_or_fails file entropy with ⟨c, g, ps, out, h⟩ | ⟨-, e, hrun⟩
    · have hwrites := write_text ps htext
      rw [decide_eq_true hcount] at hwrites
      have hout : out = textFrom true 1 ps :=
        Except.ok.inj (h.output.symm.trans ((programsOutput_eq_ok_iff ps).mpr hwrites))
      refine ⟨c, g, ps, h.configured, h.new, h.batch, (Run.exists_run_of_mem_batch h.batch).1, ?_,
        fun p hp again => answer_of_seed h htext hp again⟩
      rw [h.answer, hout, sections_textFrom h]
      simp only [heading_line]
    · rw [Command.answer, hrun, Writing.answer_throw] at hexit
      cases hexit
  · intro o file entropy
    refine ⟨?_, (Command.failsFirst _ file entropy).stdout_answer⟩
    rcases o.succeeds_or_fails file entropy with ⟨c, g, ps, out, h⟩ | ⟨hfails, e, hrun⟩
    · rw [h.answer]
      exact ⟨fun hexit => absurd rfl hexit, fun hfails => absurd hfails h.not_fails⟩
    · refine ⟨fun _ => hfails, fun _ hexit => ?_⟩
      rw [Command.answer, hrun, Writing.answer_throw] at hexit
      cases hexit

/-- Two programs of at least 60 bytes each, of which the second is had again from its seed, and a command that is refused
    for its nesting bound of 0. -/
theorem text_taken_apart_seed_twelve :
    (∃ p q : Program,
      sections ((Command.generate { size := some 60, count := 2, seed := some 12 }).answer (.error .missing) 0).stdout =
        ["// --- Program 1 (seed: 12) ---\n" ++ p.code,
          "// --- Program 2 (seed: 8900438150670479461) ---\n" ++ q.code] ∧
      (Command.generate { size := some 60, seed := some 8900438150670479461 }).answer (.error .missing) 7 =
        ⟨0, q.code, ""⟩) ∧
    ((Command.generate { count := 2, maxDepth := some 0 }).answer (.error .missing) 0).exit ≠ 0 ∧
      ((Command.generate { count := 2, maxDepth := some 0 }).answer (.error .missing) 0).stdout = "" := by
  constructor
  · obtain ⟨c, g, ps, hc, hnew, hbatch, hlength, hcut, hagain⟩ := text_taken_apart.1
      { size := some 60, count := 2, seed := some 12 } (.error .missing) 0 rfl (by decide) (by decide +kernel)
    obtain rfl := Except.ok.inj hc
    obtain rfl := Except.ok.inj (hnew.symm.trans (new_withSeed 12 0))
    have hseeds : ((Run.batch (some 60) 2 (Generator.withSeed 12)).1.map (·.map (·.seed))).toOption =
        some [12, 8900438150670479461] := by decide +kernel
    obtain ⟨p, q, rfl⟩ := List.length_eq_two.mp hlength
    rw [show (Run.batch (some 60) 2 (Generator.withSeed 12)).1 = .ok [p, q] from hbatch] at hseeds
    obtain ⟨hp, hq⟩ : p.seed = 12 ∧ q.seed = 8900438150670479461 := by
      simpa [Except.map, Except.toOption] using hseeds
    have hsecond := hagain q (by simp) 7
    rw [hq] at hsecond
    refine ⟨p, q, hcut.trans ?_, hsecond⟩
    simp only [List.zipIdx_cons, List.zipIdx_nil, List.map_cons, List.map_nil, hp, hq]
    rfl
  · obtain ⟨hcases, hnothing⟩ := text_taken_apart.2 { count := 2, maxDepth := some 0 } (.error .missing) 0
    have hexit := hcases.mpr (.unusable rfl rfl)
    exact ⟨hexit, hnothing hexit⟩

end RandomPrograms.CommandLine
