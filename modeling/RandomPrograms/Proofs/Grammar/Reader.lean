import RandomPrograms.Proofs.Generator.Tokens

/-! Reading one line. A line is a few words with spaces between them, and no word has a blank in it, so that the
    words can be told apart; their number, and at most one of them, tell what kind of line it is. The reader
    is for generated lines, and looks at no more than it needs. -/

namespace RandomPrograms

open Grammar

/-! ### The reader -/

def Grammar.Value.read (w : List Char) : Value :=
  if w.head? = some '"' then .string (String.ofList w.tail.dropLast)
  else if w = "true".toList then .boolean true
  else if w = "false".toList then .boolean false
  else .number (Nat.ofDigitChars 10 w 0).toUInt64

def Grammar.CompareOp.read? (w : List Char) : Option CompareOp := all.find? (·.text.toList == w)

namespace Line

def ofWords : List (List Char) → Option Line
  | [w] => some (if w = [] then .blank else .closing)
  | [first, second, third] =>
    if second = ['='] then some (.assignment (String.ofList first) (Value.read third))
    else if second = "else".toList then some .turn
    else some (.opening (.literal (second == "(true)".toList)))
  | [_, name, _, value] => some (.declaration (String.ofList name) (Value.read value))
  | [_, name, op, value, _] =>
    (CompareOp.read? op).map fun op => .opening (.compare (String.ofList name.tail) op (Value.read value.dropLast))
  | _ => none

def read (content : List Char) : Option Line := ofWords (content.splitOn ' ')

end Line

/-! ### Words -/

/-- Without blanks. -/
def Solid (w : List Char) : Prop := ∀ c ∈ w, Text.isBlank c = false

instance : DecidablePred Solid := fun w => List.decidableBAll (Text.isBlank · = false) w

theorem Solid.not_mem {w : List Char} {c : Char} (h : Solid w) (hc : Text.isBlank c = true) : c ∉ w := by
  intro hw
  rw [h c hw] at hc
  cases hc

theorem Solid.append {v w : List Char} (hv : Solid v) (hw : Solid w) : Solid (v ++ w) := by
  intro c hc
  rcases List.mem_append.mp hc with hc | hc
  · exact hv c hc
  · exact hw c hc

theorem Solid.cons {c : Char} {w : List Char} (hc : Text.isBlank c = false) (hw : Solid w) : Solid (c :: w) :=
  List.forall_mem_cons.mpr ⟨hc, hw⟩

theorem Grammar.IsWord.solid {n : Nat} {s : String} (h : IsWord n s) : Solid s.toList := by
  intro c hc
  have hletters : Solid alphabet := by decide
  exact hletters c (h.letters c hc)

theorem isBlank_of_isDigit {c : Char} (h : c.isDigit = true) : Text.isBlank c = false := by
  have hc : 48 ≤ c.toNat ∧ c.toNat ≤ 57 := by simpa [Char.isDigit, UInt32.le_iff_toNat_le] using h
  simp only [Text.isBlank, Text.blankRanges, List.any_cons, List.any_nil, Bool.or_false, Bool.or_eq_false_iff,
    Bool.and_eq_false_iff, decide_eq_false_iff_not]
  omega

namespace Grammar.Value

variable {limits : Limits} {v : Value}

theorem toList_number (n : UInt64) : (number n).text.toList = Nat.toDigits 10 n.toNat := Nat.toList_repr

theorem toList_string (s : String) : (string s).text.toList = '"' :: (s.toList ++ ['"']) := by
  simp [text]

theorem isDigit_number {n : UInt64} {c : Char} (h : c ∈ (number n).text.toList) : c.isDigit = true := by
  rw [toList_number] at h
  exact Nat.isDigit_of_mem_toDigits (by decide) (by decide) h

theorem solid_text (h : v.Fits limits) : Solid v.text.toList := by
  cases v with
  | number n => exact fun c hc => isBlank_of_isDigit (isDigit_number hc)
  | string s =>
    have hword : IsWord limits.letters s := h
    rw [toList_string]
    exact .cons (by decide) (hword.solid.append (by decide))
  | boolean b => cases b <;> decide

/-- The first characters tell the types apart. -/
theorem read_text (v : Value) : read v.text.toList = v := by
  cases v with
  | number n =>
    have hquote : (number n).text.toList.head? ≠ some '"' := fun h => by
      have := isDigit_number (List.mem_of_head? h)
      cases this
    have htrue : (number n).text.toList ≠ "true".toList := fun h => by
      have : 't'.isDigit = true := isDigit_number (n := n) (by rw [h]; decide)
      cases this
    have hfalse : (number n).text.toList ≠ "false".toList := fun h => by
      have : 'f'.isDigit = true := isDigit_number (n := n) (by rw [h]; decide)
      cases this
    rw [read, if_neg hquote, if_neg htrue, if_neg hfalse, toList_number, Nat.ofDigitChars_ten_toDigits]
    exact congrArg number (UInt64.ofNat_toNat ..)
  | string s =>
    rw [read, toList_string, if_pos List.head?_cons, List.tail_cons, List.dropLast_concat, String.ofList_toList]
  | boolean b => cases b <;> rfl

end Grammar.Value

theorem Grammar.CompareOp.read?_text (op : CompareOp) : read? op.text.toList = some op := by
  cases op <;> rfl

/-! ### Lines -/

namespace Line

def words : Line → List (List Char)
  | declaration name value => ["let".toList, name.toList, ['='], value.text.toList]
  | assignment name value => [name.toList, ['='], value.text.toList]
  | blank => [[]]
  | opening (.compare name op value) =>
    ["if".toList, '(' :: name.toList, op.text.toList, value.text.toList ++ [')'], ['\x7b']]
  | opening (.literal b) => ["if".toList, '(' :: ((Text.truth b).toList ++ [')']), ['\x7b']]
  | turn => [['\x7d'], "else".toList, ['\x7b']]
  | closing => [['\x7d']]

variable {limits : Value.Limits} {x : Line}

theorem words_ne_nil (x : Line) : x.words ≠ [] := by
  rcases x with _ | _ | _ | (_ | _) | _ | _ <;> exact List.cons_ne_nil _ _

theorem text_words (x : Line) : x.text.toList = [' '].intercalate x.words := by
  rcases x with _ | _ | _ | (_ | _) | _ | _ <;>
    simp [text, words, Condition.text, List.intercalate]

theorem solid_words (h : x.Spoken limits) : ∀ w ∈ x.words, Solid w := by
  intro w hw
  rcases x with ⟨name, value⟩ | ⟨name, value⟩ | _ | (⟨name, op, value⟩ | b) | _ | _ <;>
    simp only [words, List.mem_cons, List.not_mem_nil, or_false] at hw
  · rcases hw with rfl | rfl | rfl | rfl
    · decide
    · exact h.1.solid
    · decide
    · exact Value.solid_text h.2
  · rcases hw with rfl | rfl | rfl
    · exact h.1.solid
    · decide
    · exact Value.solid_text h.2
  · subst hw
    decide
  · rcases hw with rfl | rfl | rfl | rfl | rfl
    · decide
    · exact .cons (by decide) h.1.solid
    · cases op <;> decide
    · exact (Value.solid_text h.2).append (by decide)
    · decide
  · rcases hw with rfl | rfl | rfl
    · decide
    · cases b <;> decide
    · decide
  · rcases hw with rfl | rfl | rfl <;> decide
  · subst hw
    decide

theorem ofWords_words (x : Line) : ofWords x.words = some x := by
  rcases x with ⟨name, value⟩ | ⟨name, value⟩ | _ | (⟨name, op, value⟩ | b) | _ | _
  · simp [words, ofWords, Value.read_text]
  · simp [words, ofWords, Value.read_text]
  · rfl
  · simp [words, ofWords, Value.read_text, CompareOp.read?_text]
  · cases b <;> rfl
  · rfl
  · rfl

theorem read_text (h : x.Spoken limits) : read x.text.toList = some x := by
  have hsplit := List.splitOn_intercalate ' ' (fun w hw => (solid_words h w hw).not_mem (by decide)) x.words_ne_nil
  rw [read, text_words, hsplit, ofWords_words]

end Line

end RandomPrograms
