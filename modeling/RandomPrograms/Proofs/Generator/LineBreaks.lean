import RandomPrograms.Proofs.Config.Validation
import RandomPrograms.Proofs.Grammar.Nesting

/-! Line breaks in generated text. The lines themselves have none, so that each is the end of a line or comes from the
    indentation. An accepted indentation brings some in exactly where the check overlooks them. -/

namespace RandomPrograms

open Grammar Randomness

section
variable {indent : String} {limits : Value.Limits} {c : Char}

theorem Line.isLineBreak_text {x : Line} (h : x.Spoken limits) (hc : c ∈ x.text.toList) :
    Text.isLineBreak c = false := by
  rcases hbreak : Text.isLineBreak c with _ | _
  · rfl
  · rw [eq_space_of_isBlank h hc (Text.isBlank_of_isLineBreak hbreak)] at hbreak
    cases hbreak

theorem isLineBreak_written (hbreak : Text.isLineBreak c = true) :
    ∀ {ls : List (Nat × Line)}, (∀ l ∈ ls, l.2.Spoken limits) → c ∈ (written indent ls).toList →
      c = '\n' ∨ c ∈ indent.toList
  | [], _, hc => by cases hc
  | (level, x) :: ls, hls, hc => by
    obtain ⟨hx, hls⟩ := List.forall_mem_cons.mp hls
    rw [toList_written_cons] at hc
    rcases List.mem_append.mp hc with hc | hc
    · rcases List.mem_append.mp hc with hc | hc
      · rcases List.mem_append.mp hc with hc | hc
        · exact Or.inr (mem_of_mem_tab hc)
        · rw [Line.isLineBreak_text hx hc] at hbreak
          cases hbreak
      · exact Or.inl (List.mem_singleton.mp hc)
    · exact isLineBreak_written hbreak hls hc

end

theorem Config.not_isLineBreak_indent {config : Config} (hvalid : config.validate = .ok ())
    (hover : ¬config.Overlooked) {c : Char} (hc : c ∈ config.indent.toList) : Text.isLineBreak c = false := by
  have husable := (validate_meets_iff.mpr hover).1.mp hvalid
  have hhorizontal := husable.horizontal c hc
  rw [Text.isHorizontal, Bool.and_eq_true, Bool.not_eq_true'] at hhorizontal
  exact hhorizontal.2

/-- A configuration is accepted if it is usable, and refused otherwise with the first limit that is zero or with its
    indentation, unless the check overlooks a line break in the indentation. Unless it does, the text of a program has
    no line breaks but the ends of its lines. -/
theorem validation_exact (config : Config) :
    (((config.validate = .ok () ↔ config.Usable) ∧
      (¬config.Usable → config.validate = .error (.configuration config.refusal))) ↔ ¬config.Overlooked) ∧
    ∀ budget g p g', g.config = config → config.validate = .ok () → ¬config.Overlooked →
      Run.program budget g = (.ok p, g') →
      '\n' ∉ config.indent.toList ∧ ∀ c ∈ p.code.toList, Text.isLineBreak c = true → c = '\n' := by
  refine ⟨Config.validate_meets_iff, ?_⟩
  rintro budget g p g' rfl hvalid hover h
  have hindent : ∀ c ∈ g.config.indent.toList, Text.isLineBreak c = false := fun c hc =>
    Config.not_isLineBreak_indent hvalid hover hc
  obtain ⟨hcode, hspoken⟩ := Run.program_lines h
  constructor
  · intro hc
    cases hindent _ hc
  · intro c hc hbreak
    rw [hcode] at hc
    rcases isLineBreak_written hbreak hspoken hc with hend | hc
    · exact hend
    · rw [hindent c hc] at hbreak
      cases hbreak

/-- A vertical tab is accepted as an indentation, though it breaks the line, and stands in the text of a program. -/
theorem validation_overlooks_vertical_tab : ∃ config : Config, config.indent = "\x0b" ∧ config.validate = .ok () ∧
    ¬config.Usable ∧ Text.isLineBreak '\x0b' = true ∧
    ∃ p, (Run.program (some 0) (Generator.start config 1)).1 = .ok p ∧ '\x0b' ∈ p.code.toList := by
  let config := { Config.default with indent := "\x0b", blockSizeBudget := 1, maxIdentifierLength := 1 }
  have hvalid : config.validate = .ok () := Config.validate_eq_ok_iff.mpr (by decide +kernel)
  have hvertical : ¬config.Usable := fun h => by
    cases h.horizontal '\x0b' (by decide)
  obtain ⟨p, g', h, hmem⟩ := Run.exists_of_any (x := Run.program (some 0) (Generator.start config 1))
    (q := fun p => decide ('\x0b' ∈ p.code.toList)) (by decide +kernel)
  exact ⟨config, rfl, hvalid, hvertical, rfl, p, congrArg Prod.fst h, of_decide_eq_true hmem⟩

/-- An indentation by a tab; and a configuration with two limits that are zero, of which the first is named. -/
theorem validation_exact_tab : ∃ config p g', config.indent = "\t" ∧ config.validate = .ok () ∧ config.Usable ∧
    ¬config.Overlooked ∧ Run.program (some 60) (Generator.start config 12) = (.ok p, g') ∧
    (∀ c ∈ p.code.toList, Text.isLineBreak c = true → c = '\n') ∧
    { config with maxInt := 0, maxIndentLevel := 0 }.validate = .error (.configuration (.notPositive .maxInt)) := by
  let config : Config := { Config.default with indent := "\t" }
  have hover : ¬config.Overlooked := by
    rintro ⟨-, -, ch, hch, hpassed⟩
    have htab : config.indent.toList = ['\t'] := by decide
    rw [htab] at hch
    obtain rfl := List.mem_singleton.mp hch
    revert hpassed
    decide
  have hover' : ¬{ config with maxInt := 0, maxIndentLevel := 0 }.Overlooked := fun h => by
    cases h.positive
  have hvalid : config.validate = .ok () := Config.validate_eq_ok_iff.mpr (by decide +kernel)
  obtain ⟨p, g', h⟩ := Run.exists_of_isOk (x := Run.program (some 60) (Generator.start config 12)) (by decide +kernel)
  obtain ⟨hmeets, htext⟩ := validation_exact config
  obtain ⟨hiff, -⟩ := hmeets.mpr hover
  obtain ⟨-, hrefused⟩ := (validation_exact { config with maxInt := 0, maxIndentLevel := 0 }).1.mpr hover'
  have hunusable : ¬{ config with maxInt := 0, maxIndentLevel := 0 }.Usable := fun h => by
    cases h.maxInt
  exact ⟨config, p, g', rfl, hvalid, hiff.mp hvalid, hover, h, (htext _ _ _ _ rfl hvalid hover h).2, hrefused hunusable⟩

end RandomPrograms
