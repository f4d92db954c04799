import RandomPrograms.CommandLine.Answer

/-! What a command has written to standard output when it ends. All that can fail in a command lies before its first
    writing, so that a command that fails has written nothing, and one that succeeds has written all of its output. -/

namespace RandomPrograms.CommandLine

namespace Writing

variable {α β : Type}

theorem lift_bind_of_ok {x : Except Error α} {a : α} (h : x = .ok a) (f : α → Writing β) :
    ((x : Writing α) >>= f) = f a := by
  rw [h]
  rfl

theorem lift_bind_of_error {x : Except Error α} {e : Error} (h : x = .error e) (f : α → Writing β) :
    ((x : Writing α) >>= f) = throw e := by
  rw [h]
  rfl

/-! ### All or nothing -/

/-- Where it fails, it has written nothing. -/
def FailsFirst (w : Writing α) : Prop := ∀ out e out', w out = (.error e, out') → out' = out

theorem failsFirst_throw (e : Error) : FailsFirst (throw e : Writing α) := by
  rintro out e' out' ⟨⟩
  rfl

/-- What can fail and writes nothing may stand in front. -/
theorem FailsFirst.lift_bind (x : Except Error α) {f : α → Writing β} (h : ∀ a, FailsFirst (f a)) :
    FailsFirst ((x : Writing α) >>= f) := by
  rcases hx : x with e | a
  · rw [lift_bind_of_error rfl]
    exact failsFirst_throw e
  · rw [lift_bind_of_ok rfl]
    exact h a

/-- It does not fail, and writes a text. -/
def Writes (w : Writing Unit) (s : String) : Prop := ∀ out, w out = (.ok (), out ++ s)

variable {w : Writing Unit} {s : String}

theorem Writes.failsFirst (h : Writes w s) : FailsFirst w := by
  intro out e out' herror
  rw [h] at herror
  cases herror

theorem Writes.answer (h : Writes w s) : w.answer = ⟨0, s, ""⟩ := by
  rw [Writing.answer, h, String.empty_append]

theorem answer_throw (e : Error) : (throw e : Writing Unit).answer = ⟨1, "", "scopegen: " ++ e.message ++ "\n"⟩ := rfl

theorem FailsFirst.stdout_answer (h : FailsFirst w) (hexit : w.answer.exit ≠ 0) : w.answer.stdout = "" := by
  rcases hw : w "" with ⟨e | _, out⟩
  · rw [Writing.answer, hw]
    exact h _ _ _ hw
  · rw [Writing.answer, hw] at hexit
    exact absurd rfl hexit

theorem writes_line (s : String) : Writes (writeLine s) (s ++ "\n") := fun _ => rfl

theorem writes_lines (ls : List String) : Writes (ls.forM writeLine) (String.join (ls.map (· ++ "\n"))) := by
  induction ls with
  | nil => exact fun out => by rw [List.map_nil, String.join_nil, String.append_empty]; rfl
  | cons l ls ih =>
    intro out
    have hstep : (l :: ls).forM writeLine out = ls.forM writeLine (out ++ (l ++ "\n")) := rfl
    rw [hstep, ih, List.map_cons, String.join_cons, String.append_assoc]

end Writing

open Writing

/-! ### Programs -/

/-- Programs one after the other from a number on, each after its heading if there are headings. -/
def textFrom (headings : Bool) (number : Nat) (ps : List Program) : String :=
  String.join ((ps.zipIdx number).map fun (p, i) => (if headings then heading i p.seed ++ "\n" else "") ++ p.code)

theorem writes_texts (headings : Bool) (number : Nat) (ps : List Program) :
    Writes (writeTexts headings number ps) (textFrom headings number ps) := by
  induction ps generalizing number with
  | nil =>
    intro out
    rw [textFrom, List.zipIdx_nil, List.map_nil, String.join_nil, String.append_empty]
    rfl
  | cons p later ih =>
    intro out
    have hstep : writeTexts headings number (p :: later) out = writeTexts headings (number + 1) later
        (out ++ (if headings then heading number p.seed ++ "\n" else "") ++ p.code) := by
      cases headings
      · rw [if_neg Bool.false_ne_true, String.append_empty]
        rfl
      · rfl
    rw [hstep, ih, textFrom, textFrom, List.zipIdx_cons, List.map_cons, String.join_cons]
    simp only [String.append_assoc]

/-- What programs are written as in the form that is asked for, or why they are not written. -/
def programsOutput (o : Generate) (programs : List Program) : Except Error String :=
  match o.write programs "" with
  | (.ok _, out) => .ok out
  | (.error e, _) => .error e

section
variable {o : Generate} (ps : List Program)

theorem write_json (h : o.output = "json") :
    Writes (o.write ps) ((Json.Document.list (ps.map Program.document)).pretty ++ "\n") := by
  rw [Generate.write, if_pos h]
  exact writes_line _

theorem write_text (h : o.output = "text") : Writes (o.write ps) (textFrom (1 < o.count) 1 ps) := by
  rw [Generate.write, if_neg (by rw [h]; decide), if_pos h]
  exact writes_texts _ _ _

theorem write_unknown (hjson : o.output ≠ "json") (htext : o.output ≠ "text") : ∃ e, o.write ps = throw e := by
  rw [Generate.write, if_neg hjson, if_neg htext]
  exact ⟨_, rfl⟩

/-- Programs are written as a whole or not at all. -/
theorem writes_or_throws (o : Generate) : (∃ s, Writes (o.write ps) s) ∨
    o.output ≠ "text" ∧ o.output ≠ "json" ∧ ∃ e, o.write ps = throw e := by
  by_cases hjson : o.output = "json"
  · exact Or.inl ⟨_, write_json ps hjson⟩
  by_cases htext : o.output = "text"
  · exact Or.inl ⟨_, write_text ps htext⟩
  · exact Or.inr ⟨htext, hjson, write_unknown ps hjson htext⟩

theorem programsOutput_eq_ok_iff {out : String} : programsOutput o ps = .ok out ↔ Writes (o.write ps) out := by
  rw [programsOutput]
  rcases writes_or_throws ps o with ⟨s, h⟩ | ⟨-, -, e, h⟩
  · rw [h, String.empty_append]
    refine ⟨fun hs => Except.ok.inj hs ▸ h, fun hout => ?_⟩
    have heq := (h "").symm.trans (hout "")
    rw [String.empty_append, String.empty_append] at heq
    exact congrArg Except.ok (Prod.mk.inj heq).2
  · rw [h]
    refine ⟨fun hs => ?_, fun hout => ?_⟩
    · cases hs
    · cases hout ""

end

/-! ### Commands -/

theorem Generate.failsFirst_write (o : Generate) (ps : List Program) : FailsFirst (o.write ps) := by
  rcases writes_or_throws ps o with ⟨s, h⟩ | ⟨-, -, e, h⟩
  · exact h.failsFirst
  · rw [h]
    exact failsFirst_throw e

/-- A command that fails writes nothing to standard output. -/
theorem Command.failsFirst (c : Command) (file : Except FileProblem ByteArray) (entropy : UInt64) :
    FailsFirst (c.run file entropy) := by
  cases c with
  | version => exact (writes_line _).failsFirst
  | generate o => exact .lift_bind _ fun c => .lift_bind _ fun g => .lift_bind _ fun ps => o.failsFirst_write ps
  | stats o => exact .lift_bind _ fun g => .lift_bind _ fun ps => (writes_lines _).failsFirst

end RandomPrograms.CommandLine
