import RandomPrograms.Proofs.Config.Usable

/-! Which configurations should be accepted, and which are. An indentation should stay on its line. The check of it
    knows two of the characters that break a line and lets the others pass; but for these it accepts what it should,
    and otherwise names the first limit that is zero, or the indentation where no limit is. -/

namespace RandomPrograms

namespace Text

/-- The line feed and what follows it up to the carriage return, the next line, and the separators of lines and of
    paragraphs. -/
def isLineBreak (c : Char) : Bool :=
  (0xa ≤ c.toNat && c.toNat ≤ 0xd) || c.toNat == 0x85 || c.toNat == 0x2028 || c.toNat == 0x2029

/-- A blank that stays on its line. -/
def isHorizontal (c : Char) : Bool := isBlank c && !isLineBreak c

/-- The line breaks that an indentation is not searched for. -/
def passedBreaks : List Char := ['\x0b', '\x0c', '\u0085', '\u2028', '\u2029']

variable {c : Char}

theorem isLineBreak_iff : isLineBreak c = true ↔ c = '\n' ∨ c = '\r' ∨ c ∈ passedBreaks := by
  have hcode : ∀ d : Char, c = d ↔ c.toNat = d.toNat := fun d => Char.toNat_inj.symm
  simp only [passedBreaks, List.mem_cons, List.not_mem_nil, or_false, hcode]
  simp only [isLineBreak, Bool.or_eq_true, Bool.and_eq_true, decide_eq_true_eq, beq_iff_eq, Char.reduceToNat]
  omega

theorem isBlank_of_isLineBreak (h : isLineBreak c = true) : isBlank c = true := by
  rcases isLineBreak_iff.mp h with rfl | rfl | h
  · decide
  · decide
  · have hall : passedBreaks.all isBlank = true := by decide
    exact List.all_eq_true.mp hall c h

theorem isHorizontal_iff :
    isHorizontal c = true ↔ (isBlank c = true ∧ c ≠ '\n' ∧ c ≠ '\r') ∧ c ∉ passedBreaks := by
  rw [isHorizontal, Bool.and_eq_true, Bool.not_eq_true', ← Bool.not_eq_true, isLineBreak_iff]
  simp only [not_or, and_assoc]

end Text

namespace Config

variable {c : Config}

/-! ### What should be accepted -/

/-- A configuration that can be used: nothing that must be positive is zero, and the indentation is there and stays on
    its line. -/
structure Usable (c : Config) : Prop where
  maxIdentifierLength : 0 < c.maxIdentifierLength
  maxInt : 0 < c.maxInt
  blockSizeBudget : 0 < c.blockSizeBudget
  maxIndentLevel : 0 < c.maxIndentLevel
  maxIdentifierAttempts : 0 < c.maxIdentifierAttempts
  nonempty : c.indent ≠ ""
  horizontal : ∀ ch ∈ c.indent.toList, Text.isHorizontal ch = true

def firstZero? (c : Config) : Option Field :=
  if c.maxIdentifierLength = 0 then some .maxIdentifierLength
  else if c.maxInt = 0 then some .maxInt
  else if c.blockSizeBudget = 0 then some .blockSizeBudget
  else if c.maxIndentLevel = 0 then some .maxIndentLevel
  else if c.maxIdentifierAttempts = 0 then some .maxIdentifierAttempts
  else none

/-- What is said of a configuration that cannot be used. -/
def refusal (c : Config) : Problem :=
  match c.firstZero? with
  | some field => .notPositive field
  | none => .badIndent c.indent

/-- Nothing is wrong but a line break in the indentation that it is not searched for. -/
structure Overlooked (c : Config) : Prop where
  positive : c.firstZero? = none
  blank : ∀ ch ∈ c.indent.toList, Text.isBlank ch = true ∧ ch ≠ '\n' ∧ ch ≠ '\r'
  broken : ∃ ch ∈ c.indent.toList, ch ∈ Text.passedBreaks

/-! ### What is accepted -/

theorem map_find?_zero (field : Field) (n : UInt64) (rest : List (Field × UInt64)) :
    (((field, n) :: rest).find? (·.2 == 0)).map (·.1) =
      if n = 0 then some field else (rest.find? (·.2 == 0)).map (·.1) := by
  by_cases h : n = 0 <;> simp [h]

theorem firstZero?_eq : c.firstZero? = (c.positiveLimits.find? (·.2 == 0)).map (·.1) := by
  simp only [positiveLimits, map_find?_zero]
  rfl

theorem firstZero?_eq_none_iff : c.firstZero? = none ↔ ∀ l ∈ c.positiveLimits, 0 < l.2.toNat := by
  rw [firstZero?_eq, Option.map_eq_none_iff, find_zero_eq_none_iff]

theorem usable_iff : c.Usable ↔ c.firstZero? = none ∧ c.indent ≠ "" ∧
    ∀ ch ∈ c.indent.toList, Text.isHorizontal ch = true := by
  rw [firstZero?_eq_none_iff]
  simp only [positiveLimits, List.forall_mem_cons]
  constructor
  · rintro ⟨h₁, h₂, h₃, h₄, h₅, hnonempty, hhorizontal⟩
    exact ⟨⟨h₁, h₂, h₃, h₄, h₅, fun _ hl => by cases hl⟩, hnonempty, hhorizontal⟩
  · rintro ⟨⟨h₁, h₂, h₃, h₄, h₅, -⟩, hnonempty, hhorizontal⟩
    exact ⟨h₁, h₂, h₃, h₄, h₅, hnonempty, hhorizontal⟩

theorem isIndent_iff {s : String} : isIndent s = true ↔
    s ≠ "" ∧ ∀ ch ∈ s.toList, Text.isBlank ch = true ∧ ch ≠ '\n' ∧ ch ≠ '\r' := by
  simp only [isIndent, Bool.and_eq_true, Bool.not_eq_true', ← Bool.not_eq_true, String.isEmpty_iff, List.all_eq_true,
    bne_iff_ne, and_assoc]

theorem validate_eq : c.validate =
    if c.firstZero? = none ∧ isIndent c.indent = true then .ok () else .error (.configuration c.refusal) := by
  unfold refusal
  rw [firstZero?_eq]
  rcases hfind : c.positiveLimits.find? (·.2 == 0) with _ | l
  · rw [validate_of_no_zero hfind, hfind]
    simp
  · rw [validate_of_find_zero hfind, hfind]
    simp

theorem validate_of_ne_ok (h : c.validate ≠ .ok ()) : c.validate = .error (.configuration c.refusal) := by
  rw [validate_eq] at h ⊢
  exact if_neg fun haccepted => h (if_pos haccepted)

theorem Overlooked.nonempty (h : c.Overlooked) : c.indent ≠ "" := by
  intro hempty
  obtain ⟨ch, hch, -⟩ := h.broken
  rw [hempty] at hch
  cases hch

theorem Overlooked.not_usable (h : c.Overlooked) : ¬c.Usable := by
  intro husable
  obtain ⟨ch, hch, hpassed⟩ := h.broken
  exact (Text.isHorizontal_iff.mp (husable.horizontal ch hch)).2 hpassed

theorem validate_eq_ok_iff_usable_or_overlooked : c.validate = .ok () ↔ c.Usable ∨ c.Overlooked := by
  have haccepted : c.validate = .ok () ↔ c.firstZero? = none ∧ c.indent ≠ "" ∧
      ∀ ch ∈ c.indent.toList, Text.isBlank ch = true ∧ ch ≠ '\n' ∧ ch ≠ '\r' := by
    rw [validate_eq_ok_iff, firstZero?_eq_none_iff, isIndent_iff]
  rw [haccepted, usable_iff]
  constructor
  · rintro ⟨hpositive, hnonempty, hblank⟩
    by_cases hbroken : ∃ ch ∈ c.indent.toList, ch ∈ Text.passedBreaks
    · exact Or.inr ⟨hpositive, hblank, hbroken⟩
    · refine Or.inl ⟨hpositive, hnonempty, fun ch hch => ?_⟩
      exact Text.isHorizontal_iff.mpr ⟨hblank ch hch, fun hpassed => hbroken ⟨ch, hch, hpassed⟩⟩
  · rintro (⟨hpositive, hnonempty, hhorizontal⟩ | hover)
    · exact ⟨hpositive, hnonempty, fun ch hch => (Text.isHorizontal_iff.mp (hhorizontal ch hch)).1⟩
    · exact ⟨hover.positive, hover.nonempty, hover.blank⟩

/-- The check does what it should for all configurations but those in which it overlooks a line break, which it
    accepts. -/
theorem validate_meets_iff : ((c.validate = .ok () ↔ c.Usable) ∧
    (¬c.Usable → c.validate = .error (.configuration c.refusal))) ↔ ¬c.Overlooked := by
  constructor
  · rintro ⟨hiff, -⟩ hover
    exact hover.not_usable (hiff.mp (validate_eq_ok_iff_usable_or_overlooked.mpr (Or.inr hover)))
  · intro hover
    have hiff : c.validate = .ok () ↔ c.Usable := by
      rw [validate_eq_ok_iff_usable_or_overlooked, or_iff_left hover]
    exact ⟨hiff, fun hnot => validate_of_ne_ok fun haccepted => hnot (hiff.mp haccepted)⟩

end Config

end RandomPrograms
