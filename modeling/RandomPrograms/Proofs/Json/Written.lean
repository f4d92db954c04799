import Mathlib.Tactic.SplitIfs
import RandomPrograms.Json.Document
import RandomPrograms.Proofs.Json.Tree

/-! A written document is a text of its tree, whatever space its form has between the tokens, and the literals in the
    tree mean what has been written: the escapes of a text are undone, and a number below 2^64 is read as the integer
    it is. -/

namespace RandomPrograms.Json

/-! ### Texts -/

/-- The piece that a character is written as. Only a control without a letter of its own becomes a unit. -/
def writtenPiece (c : Char) : Piece :=
  if c.toNat < 0x20 ∧ c ∉ ['\n', '\r', '\t', '\x08', '\x0c'] then .unit c.toNat else .char c

def writtenPieces (s : String) : List Piece := s.toList.map writtenPiece

theorem hexUnit?_hexDigit :
    ∀ n < 0x20, hexUnit? '0' '0' (hexDigit (n / 16)) (hexDigit (n % 16)) = some n := by decide

theorem SpellsPieces.written (c : Char) {cs : List Char} {ps : List Piece} (h : SpellsPieces cs ps) :
    SpellsPieces (escapedChar c ++ cs) (writtenPiece c :: ps) := by
  unfold escapedChar
  split_ifs with hquote hescape hfeed hreturn htab hback hform hcontrol
  iterate 7
    subst c
    exact .escape rfl h
  · have hpiece : writtenPiece c = .unit c.toNat := if_pos ⟨hcontrol, by simp [*]⟩
    rw [hpiece]
    exact .unit (hexUnit?_hexDigit _ hcontrol) h
  · have hpiece : writtenPiece c = .char c := if_neg fun hc => hcontrol hc.1
    rw [hpiece]
    exact .plain hquote hescape hcontrol h

theorem spellsPieces_written (cs : List Char) :
    SpellsPieces (cs.flatMap escapedChar) (cs.map writtenPiece) := by
  induction cs with
  | nil => exact .nil
  | cons c cs ih => exact .written c ih

theorem spellsToken_written (s : String) : SpellsToken (written s).toList (.text (writtenPieces s)) := by
  rw [written, String.toList_ofList]
  exact .text (spellsPieces_written s.toList)

theorem decodePieces_written (unpaired : Fault) (cs : List Char) :
    decodePieces unpaired (cs.map writtenPiece) = .ok cs := by
  induction cs with
  | nil => rfl
  | cons c cs ih =>
    rw [List.map_cons, writtenPiece]
    split_ifs with hc
    · have hbelow : ¬0xdc00 ≤ c.toNat ∧ ¬0xd800 ≤ c.toNat := by omega
      have hlow : isLowHalf c.toNat = false := by simp [isLowHalf, hbelow.1]
      have hhigh : isHighHalf c.toNat = false := by simp [isHighHalf, hbelow.2]
      rw [decodePieces.eq_def]
      simp only [hlow, hhigh, ih, Bool.false_eq_true, if_false, Char.ofNat_toNat]
      rfl
    · rw [decodePieces, ih]
      rfl

theorem decodeText_written (s : String) : decodeText (writtenPieces s) = .ok s := by
  rw [decodeText, writtenPieces, decodePieces_written]
  exact congrArg Except.ok String.ofList_toList

/-! ### Numbers -/

theorem le_ofDigitChars (cs : List Char) (start : Nat) : start ≤ Nat.ofDigitChars 10 cs start := by
  induction cs generalizing start with
  | nil => exact Nat.le_refl _
  | cons c cs ih =>
    rw [Nat.ofDigitChars_cons]
    exact Nat.le_trans (by omega) (ih _)

theorem takeDigits_of_lt {bound : Nat} {cs : List Char} {start : Nat} (h : Nat.ofDigitChars 10 cs start < bound) :
    takeDigits bound start cs = (Nat.ofDigitChars 10 cs start, cs.length) := by
  induction cs generalizing start with
  | nil => rfl
  | cons c cs ih =>
    rw [Nat.ofDigitChars_cons] at h ⊢
    have hnext : start * 10 + digitValue c = 10 * start + (c.toNat - '0'.toNat) := by
      rw [digitValue, Nat.mul_comm]
    rw [takeDigits, hnext, if_pos (Nat.lt_of_le_of_lt (le_ofDigitChars cs _) h), ih h]
    rfl

/-- A plain integer that 64 bits hold is never read as a double. -/
theorem value_plain {whole : List Char} {exponentNegative : Bool} (h : Nat.ofDigitChars 10 whole 0 < UInt64.size) :
    NumberLiteral.value ⟨false, whole, [], exponentNegative, []⟩ = .ok (.natural (Nat.ofDigitChars 10 whole 0)) := by
  unfold NumberLiteral.value
  simp [takeDigits_of_lt h]

theorem value_natural {n : Nat} (h : n < UInt64.size) : (NumberLiteral.natural n).value = .ok (.natural n) := by
  have hdigits : Nat.ofDigitChars 10 (Nat.toDigits 10 n) 0 = n := Nat.ofDigitChars_ten_toDigits
  rw [NumberLiteral.natural, value_plain (hdigits.symm ▸ h), hdigits]

/-! ### Trees -/

namespace Document

mutual

def node : Document → Node
  | .null => .null
  | .boolean b => .boolean b
  | .number n => .number (.natural n)
  | .text s => .text (writtenPieces s)
  | .list ds => .list (itemNodes ds)
  | .object ms => .object (memberNodes ms)

def itemNodes : List Document → List Node
  | [] => []
  | d :: ds => d.node :: itemNodes ds

def memberNodes : List (String × Document) → List (List Piece × Node)
  | [] => []
  | (k, d) :: ms => (writtenPieces k, d.node) :: memberNodes ms

end

end Document

/-! ### Space -/

/-- What a form has between the tokens is space. -/
structure Form.IsSpaced (form : Form) : Prop where
  newLine : ∀ level, ∀ c ∈ (form.newLine level).toList, isSpace c = true
  afterColon : ∀ c ∈ form.afterColon.toList, isSpace c = true

theorem Form.isSpaced_compact : Form.compact.IsSpaced where
  newLine _ _ hc := absurd hc List.not_mem_nil
  afterColon _ hc := absurd hc List.not_mem_nil

theorem Form.isSpaced_pretty : Form.pretty.IsSpaced where
  newLine level c hc := by
    rw [pretty, String.toList_ofList] at hc
    rcases List.mem_cons.mp hc with rfl | hc
    · decide
    · rw [List.eq_of_mem_replicate hc]
      decide
  afterColon := by
    have hchars : Form.pretty.afterColon.toList = [' '] := by decide
    rw [hchars]
    exact List.forall_mem_singleton.mpr rfl

theorem Spells.spaces {w cs : List Char} {ts : List Token} (hw : ∀ c ∈ w, isSpace c = true) (h : Spells cs ts) :
    Spells (w ++ cs) ts := by
  induction w with
  | nil => exact h
  | cons c w ih => exact .space (hw c List.mem_cons_self) (ih fun d hd => hw d (List.mem_cons_of_mem _ hd))

/-- Space ends a number, and where there is none, it ends if it does so at what follows. -/
theorem EndsNumber.spaces {w cs : List Char} (hw : ∀ c ∈ w, isSpace c = true) (h : EndsNumber cs) :
    EndsNumber (w ++ cs) := by
  cases w with
  | nil => exact h
  | cons c w =>
    have hc := hw c List.mem_cons_self
    simp only [isSpace, Bool.or_eq_true, decide_eq_true_eq] at hc
    rintro d ⟨⟩
    rcases hc with ((rfl | rfl) | rfl) | rfl <;> decide

/-! ### Texts of documents -/

/-- The characters of some pieces of a written document. -/
def chars (pieces : List String) : List Char := pieces.flatMap String.toList

theorem chars_cons (p : String) (ps : List String) : chars (p :: ps) = p.toList ++ chars ps := rfl

theorem chars_append (ps qs : List String) : chars (ps ++ qs) = chars ps ++ chars qs := List.flatMap_append

theorem Spells.piece {p : String} {ps : List String} {w cs : List Char} {t : Token} {ts : List Token}
    (hp : p.toList = w) (hw : SpellsToken w t) (h : Spells (chars ps ++ cs) ts) :
    Spells (chars (p :: ps) ++ cs) (t :: ts) := by
  rw [chars_cons, hp, List.append_assoc]
  exact .token hw h

/-- A piece that is only space stands between the tokens. -/
theorem Spells.spacePiece {p : String} {ps : List String} {cs : List Char} {ts : List Token}
    (hp : ∀ c ∈ p.toList, isSpace c = true) (h : Spells (chars ps ++ cs) ts) : Spells (chars (p :: ps) ++ cs) ts := by
  rw [chars_cons, List.append_assoc]
  exact .spaces hp h

namespace Document

variable {form : Form} (hform : form.IsSpaced)
include hform

theorem endsNumber_items (level : Nat) (ds : List Document) (cs : List Char) :
    EndsNumber (chars (itemPieces form level ds) ++ cs) := by
  cases ds with
  | nil =>
    rw [itemPieces, chars_cons, List.append_assoc]
    refine .spaces (hform.newLine level) ?_
    rintro c ⟨⟩
    decide
  | cons d ds => rintro c ⟨⟩; decide

theorem endsNumber_members (level : Nat) (ms : List (String × Document)) (cs : List Char) :
    EndsNumber (chars (memberPieces form level ms) ++ cs) := by
  cases ms with
  | nil =>
    rw [memberPieces, chars_cons, List.append_assoc]
    refine .spaces (hform.newLine level) ?_
    rintro c ⟨⟩
    decide
  | cons m ms => rintro c ⟨⟩; decide

/-- A key stands on a line of its member, with its colon. -/
theorem spells_key {level : Nat} {k : String} {ps : List String} {cs : List Char} {ts : List Token}
    (h : Spells (chars ps ++ cs) ts) :
    Spells (chars (form.newLine level :: written k :: ":" :: form.afterColon :: ps) ++ cs)
      (.text (writtenPieces k) :: .colon :: ts) :=
  .spacePiece (hform.newLine level) (.piece rfl (spellsToken_written k) (.piece (by decide) .colon
    (.spacePiece hform.afterColon h)))

mutual

/-- A document spells the tokens of its tree, whatever follows that ends a number. -/
theorem spells_pieces : ∀ (d : Document) (level : Nat) {cs : List Char} {ts : List Token}, EndsNumber cs →
    Spells cs ts → Spells (chars (d.pieces form level) ++ cs) (d.node.tokens ++ ts)
  | .null, _, _, _, _, h => .piece (by decide) .null h
  | .boolean true, _, _, _, _, h => .piece (by decide) .true h
  | .boolean false, _, _, _, _, h => .piece (by decide) .false h
  | .number n, level, cs, ts, hend, h => by
    have hchars : chars (pieces form level (.number n)) = Nat.toDigits 10 n := by
      simp [pieces, chars, Nat.toList_repr]
    rw [hchars]
    exact .number (spellsNumber_natural n) hend h
  | .text s, _, _, _, _, h => .piece rfl (spellsToken_written s) h
  | .list [], _, _, _, _, h => .piece (by decide) .openList (.piece (by decide) .closeList h)
  | .list (d :: ds), level, cs, ts, hend, h => by
    have hitems := spells_items ds level hend h
    have hfirst := spells_pieces d (level + 1) (endsNumber_items hform level ds cs) hitems
    rw [pieces, node, itemNodes, Node.tokens, List.cons_append, List.append_assoc]
    refine .piece (by decide) .openList (.spacePiece (hform.newLine _) ?_)
    rwa [chars_append, List.append_assoc]
  | .object [], _, _, _, _, h => .piece (by decide) .openObject (.piece (by decide) .closeObject h)
  | .object ((k, d) :: ms), level, cs, ts, hend, h => by
    have hmembers := spells_members ms level hend h
    have hfirst := spells_pieces d (level + 1) (endsNumber_members hform level ms cs) hmembers
    rw [pieces, node, memberNodes, Node.tokens, List.cons_append, List.cons_append, List.cons_append,
      List.append_assoc]
    refine .piece (by decide) .openObject (spells_key hform ?_)
    rwa [chars_append, List.append_assoc]

theorem spells_items : ∀ (ds : List Document) (level : Nat) {cs : List Char} {ts : List Token}, EndsNumber cs →
    Spells cs ts → Spells (chars (itemPieces form level ds) ++ cs) (Node.itemTokens (itemNodes ds) ++ ts)
  | [], _, _, _, _, h => .spacePiece (hform.newLine _) (.piece (by decide) .closeList h)
  | d :: ds, level, cs, ts, hend, h => by
    have hitems := spells_items ds level hend h
    have hfirst := spells_pieces d (level + 1) (endsNumber_items hform level ds cs) hitems
    rw [itemPieces, itemNodes, Node.itemTokens, List.cons_append, List.append_assoc]
    refine .piece (by decide) .comma (.spacePiece (hform.newLine _) ?_)
    rwa [chars_append, List.append_assoc]

theorem spells_members : ∀ (ms : List (String × Document)) (level : Nat) {cs : List Char} {ts : List Token},
    EndsNumber cs → Spells cs ts →
      Spells (chars (memberPieces form level ms) ++ cs) (Node.memberTokens (memberNodes ms) ++ ts)
  | [], _, _, _, _, h => .spacePiece (hform.newLine _) (.piece (by decide) .closeObject h)
  | (k, d) :: ms, level, cs, ts, hend, h => by
    have hmembers := spells_members ms level hend h
    have hfirst := spells_pieces d (level + 1) (endsNumber_members hform level ms cs) hmembers
    rw [memberPieces, memberNodes, Node.memberTokens, List.cons_append, List.cons_append, List.cons_append,
      List.append_assoc]
    refine .piece (by decide) .comma (spells_key hform ?_)
    rwa [chars_append, List.append_assoc]

end

/-- With any space after it, a document in a form is a text of its tree. -/
theorem spells_join (d : Document) {w : List Char} (hw : ∀ c ∈ w, isSpace c = true) :
    Spells ((String.join (d.pieces form 0)).toList ++ w) d.node.tokens := by
  have hend : EndsNumber (w ++ []) := .spaces hw (by rintro c ⟨⟩)
  have h := spells_pieces hform d 0 hend (.spaces hw .nil)
  rw [List.append_nil, List.append_nil] at h
  rw [String.toList_join]
  exact h

omit hform

theorem isText_compact (d : Document) : Node.IsText d.compact d.node := by
  have h := spells_join Form.isSpaced_compact d (w := []) fun _ hc => absurd hc List.not_mem_nil
  rwa [List.append_nil] at h

/-- The pretty form, with the end of its last line, is a text of the document's tree. -/
theorem isText_pretty (d : Document) : Node.IsText (d.pretty ++ "\n") d.node := by
  rw [Node.IsText, String.toList_append]
  have hend : "\n".toList = ['\n'] := by decide
  rw [hend]
  exact spells_join Form.isSpaced_pretty d (List.forall_mem_singleton.mpr rfl)

end Document

end RandomPrograms.Json
