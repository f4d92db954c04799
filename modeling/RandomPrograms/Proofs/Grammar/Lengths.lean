import RandomPrograms.Proofs.Config.Usable
import RandomPrograms.Proofs.Generator.Tokens
import RandomPrograms.Proofs.Grammar.Reader

/-! How many bytes statements and their parts take: literals and conditions at least a few, and at most what the
    longest word and the greatest number that a configuration allows make them take, statements as many as their
    parts and the text around these. -/

namespace RandomPrograms

open Grammar

/-! ### Characters of one byte -/

theorem utf8ByteSize_ofList_of_single : ∀ {l : List Char}, (∀ c ∈ l, c.utf8Size = 1) →
    (String.ofList l).utf8ByteSize = l.length
  | [], _ => rfl
  | c :: l, h => by
    obtain ⟨hc, hl⟩ := List.forall_mem_cons.mp h
    rw [String.ofList_cons, String.utf8ByteSize_append, String.utf8ByteSize_singleton, hc,
      utf8ByteSize_ofList_of_single hl, List.length_cons, Nat.add_comm]

theorem utf8ByteSize_of_single {s : String} (h : ∀ c ∈ s.toList, c.utf8Size = 1) :
    s.utf8ByteSize = s.toList.length := by
  have hsize := utf8ByteSize_ofList_of_single h
  rwa [String.ofList_toList] at hsize

theorem Grammar.IsWord.utf8ByteSize_le {n : Nat} {s : String} (h : IsWord n s) : s.utf8ByteSize ≤ n := by
  have hsingle : alphabet.all (·.utf8Size == 1) = true := by decide
  rw [utf8ByteSize_of_single fun c hc => eq_of_beq (List.all_eq_true.mp hsingle c (h.letters c hc))]
  exact h.short

theorem utf8Size_of_isDigit {c : Char} (h : c.isDigit = true) : c.utf8Size = 1 := by
  have hc : 48 ≤ c.toNat ∧ c.toNat ≤ 57 := by simpa [Char.isDigit, UInt32.le_iff_toNat_le] using h
  rw [Char.utf8Size_eq_one_iff, UInt32.le_iff_toNat_le]
  exact Nat.le_trans hc.2 (by decide)

theorem utf8ByteSize_tab (indent : String) (levels : Nat) :
    (tab indent levels).utf8ByteSize = levels * indent.utf8ByteSize := by
  unfold tab
  induction levels with
  | zero => rw [Nat.zero_mul]; rfl
  | succ levels ih =>
    rw [List.replicate_succ, String.join_cons, String.utf8ByteSize_append, ih, Nat.succ_mul, Nat.add_comm]

/-! ### The least literals and conditions -/

theorem Text.four_le_utf8ByteSize_truth (b : Bool) : 4 ≤ (truth b).utf8ByteSize := by
  cases b <;> decide

theorem Grammar.Value.one_le_utf8ByteSize (v : Value) : 1 ≤ v.text.utf8ByteSize := by
  cases v with
  | number n =>
    rw [utf8ByteSize_of_single fun d hd => utf8Size_of_isDigit (Value.isDigit_number hd), Value.toList_number]
    exact Nat.length_toDigits_pos
  | string s =>
    have hquote : "\"".utf8ByteSize = 1 := rfl
    rw [Value.text, String.utf8ByteSize_append, String.utf8ByteSize_append, hquote]
    omega
  | boolean b => exact Nat.le_trans (by decide) (Text.four_le_utf8ByteSize_truth b)

/-- Two blanks, a comparison and a literal, or a truth value. -/
theorem Grammar.Condition.four_le_utf8ByteSize (c : Condition) : 4 ≤ c.text.utf8ByteSize := by
  cases c with
  | compare name op value =>
    have hvalue := value.one_le_utf8ByteSize
    have hop : 1 ≤ op.text.utf8ByteSize := by cases op <;> decide
    have hblank : " ".utf8ByteSize = 1 := rfl
    simp only [Condition.text, String.utf8ByteSize_append, hblank]
    omega
  | literal b => exact Text.four_le_utf8ByteSize_truth b

/-! ### Literals and conditions within the limits -/

theorem Text.utf8ByteSize_truth_le (b : Bool) : (truth b).utf8ByteSize ≤ 5 := by
  cases b <;> decide

theorem length_toDigits_mono {m n : Nat} (h : m ≤ n) : (Nat.toDigits 10 m).length ≤ (Nat.toDigits 10 n).length := by
  have hpos : 0 < (Nat.toDigits 10 n).length := Nat.length_toDigits_pos
  have hn : n < 10 ^ (Nat.toDigits 10 n).length := (Nat.length_toDigits_le_iff (by decide) hpos).mp (Nat.le_refl _)
  exact (Nat.length_toDigits_le_iff (by decide) hpos).mpr (Nat.lt_of_le_of_lt h hn)

namespace Config

/-- The most bytes of a literal: a word between quotes, a number, or a truth value. -/
def literalBytes (c : Config) : Nat :=
  max (c.maxIdentifierLength.toNat + 2) (max (Nat.toDigits 10 (c.maxInt.toNat - 1)).length 5)

theorem letters_of_validate {c : Config} (h : c.validate = .ok ()) :
    c.limits.letters = c.maxIdentifierLength.toNat :=
  Nat.max_eq_right (maxIdentifierLength_pos h)

end Config

section
variable {c : Config} (hvalid : c.validate = .ok ())
include hvalid

theorem Grammar.IsName.utf8ByteSize_le {name : String} (h : IsName c.limits.letters name) :
    name.utf8ByteSize ≤ c.maxIdentifierLength.toNat := by
  have hword := h.toIsWord.utf8ByteSize_le
  rwa [Config.letters_of_validate hvalid] at hword

theorem Grammar.Value.Fits.utf8ByteSize_le {v : Value} (h : v.Fits c.limits) :
    v.text.utf8ByteSize ≤ c.literalBytes := by
  cases v with
  | number n =>
    have hpos := Config.maxInt_pos hvalid
    have hn : n.toNat < max 1 c.maxInt.toNat := h
    have hdigits : (Nat.toDigits 10 n.toNat).length ≤ (Nat.toDigits 10 (c.maxInt.toNat - 1)).length :=
      length_toDigits_mono (by omega)
    rw [utf8ByteSize_of_single fun d hd => utf8Size_of_isDigit (Value.isDigit_number hd), Value.toList_number]
    unfold Config.literalBytes
    omega
  | string s =>
    have hword : s.utf8ByteSize ≤ c.limits.letters := IsWord.utf8ByteSize_le h
    have hquote : "\"".utf8ByteSize = 1 := rfl
    rw [Config.letters_of_validate hvalid] at hword
    rw [Value.text, String.utf8ByteSize_append, String.utf8ByteSize_append, hquote]
    unfold Config.literalBytes
    omega
  | boolean b =>
    unfold Config.literalBytes
    exact Nat.le_trans (Text.utf8ByteSize_truth_le b) (by omega)

theorem Grammar.Condition.utf8ByteSize_le {cond : Condition} (h : (Line.opening cond).Spoken c.limits) :
    cond.text.utf8ByteSize ≤ c.maxIdentifierLength.toNat + c.literalBytes + 5 := by
  cases cond with
  | compare name op value =>
    have hname := IsName.utf8ByteSize_le hvalid h.1
    have hvalue := Value.Fits.utf8ByteSize_le hvalid h.2
    have hop : op.text.utf8ByteSize ≤ 3 := by cases op <;> decide
    have hblank : " ".utf8ByteSize = 1 := rfl
    simp only [Condition.text, String.utf8ByteSize_append, hblank]
    omega
  | literal b => exact Nat.le_trans (Text.utf8ByteSize_truth_le b) (Nat.le_add_left ..)

end

/-! ### Statements -/

/-- The bytes of a statement's text where so many bytes indent the closing braces. -/
def Grammar.Statement.bytes (indentation : Nat) : Statement → Nat
  | .declaration name value => name.utf8ByteSize + value.text.utf8ByteSize + 7
  | .assignment name value => name.utf8ByteSize + value.text.utf8ByteSize + 3
  | .ifThen cond body => cond.text.utf8ByteSize + (body.code.utf8ByteSize + indentation) + 9
  | .ifElse cond body otherwise =>
    cond.text.utf8ByteSize + (body.code.utf8ByteSize + indentation) + (otherwise.code.utf8ByteSize + indentation) + 18
  | .empty => 0

theorem Grammar.utf8ByteSize_braced (code indentation : String) :
    (braced code indentation).utf8ByteSize = code.utf8ByteSize + indentation.utf8ByteSize + 3 := by
  have hopen : "\x7b\n".utf8ByteSize = 2 := rfl
  have hclose : "\x7d".utf8ByteSize = 1 := rfl
  simp only [braced, String.utf8ByteSize_append, hopen, hclose]
  omega

theorem Grammar.Statement.utf8ByteSize_text (indentation : String) (s : Statement) :
    (s.text indentation).utf8ByteSize = s.bytes indentation.utf8ByteSize := by
  have hlet : "let ".utf8ByteSize = 4 := rfl
  have hequals : " = ".utf8ByteSize = 3 := rfl
  have hif : "if (".utf8ByteSize = 4 := rfl
  have hthen : ") ".utf8ByteSize = 2 := rfl
  have helse : " else ".utf8ByteSize = 6 := rfl
  cases s with
  | declaration name value =>
    simp only [text, bytes, String.utf8ByteSize_append, hlet, hequals]
    omega
  | assignment name value =>
    simp only [text, bytes, String.utf8ByteSize_append, hequals]
    omega
  | ifThen cond body =>
    simp only [text, bytes, String.utf8ByteSize_append, utf8ByteSize_braced, hif, hthen]
    omega
  | ifElse cond body otherwise =>
    simp only [text, bytes, String.utf8ByteSize_append, utf8ByteSize_braced, hif, hthen, helse]
    omega
  | empty => rfl

/-- The bytes of the lines of a statement, but for the end of the last one. -/
theorem Generator.utf8ByteSize_line (g : Generator) (s : Statement) :
    (g.line s).utf8ByteSize = (g.scopes.depth - 1) * g.config.indent.utf8ByteSize +
      s.bytes ((g.scopes.depth - 1) * g.config.indent.utf8ByteSize) := by
  rw [Generator.line, String.utf8ByteSize_append, Statement.utf8ByteSize_text, g.indentation_eq, utf8ByteSize_tab,
    Generator.level]

end RandomPrograms
