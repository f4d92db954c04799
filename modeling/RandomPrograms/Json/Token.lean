import RandomPrograms.Json.Literal

/-! The tokens of a JSON text. What is malformed becomes a token too, the last one: whether it is a fault, and
    which one, depends on what is due where it stands. -/

namespace RandomPrograms.Json

inductive Token
  | openList
  | closeList
  | openObject
  | closeObject
  | comma
  | colon
  | null
  | boolean (b : Bool)
  | number (l : NumberLiteral)
  | text (pieces : List Piece)
  /-- Something malformed. It can begin with a quote. Where its value is wanted, the fault is `wanted`, and
      `skipped` where it is only passed over. -/
  | malformed (quote : Bool) (wanted skipped : Fault)
deriving Repr, DecidableEq, Inhabited

/-! ### Words -/

/-- What follows a word, if the characters begin with it. -/
def afterWord : (word : List Char) → List Char → Except Fault (List Char)
  | [], cs => .ok cs
  | _ :: _, [] => .error .endOfValue
  | w :: word, c :: cs => if w = c then afterWord word cs else .error .misspelt

/-- A token whose word begins with a character that has been read already. -/
def lexWord (token : Token) (word : List Char) (cs : List Char) : Token × List Char :=
  match afterWord word cs with
  | .ok rest => (token, rest)
  | .error fault => (.malformed false fault fault, [])

/-! ### Numbers -/

/-- The token where a digit is missing. -/
def missingDigit (cs : List Char) : Token :=
  .malformed false (if cs.isEmpty then .endOfValue else .invalidNumber) .invalidNumber

/-- A number from its exponent on, given what has been read of it. -/
def lexExponent (l : NumberLiteral) (cs : List Char) : Token × List Char :=
  let (negative, cs) :=
    match cs with
    | '-' :: rest => (true, rest)
    | '+' :: rest => (false, rest)
    | cs => (false, cs)
  match cs.takeWhile Char.isDigit with
  | [] => (missingDigit cs, [])
  | digits => (.number { l with exponentNegative := negative, exponent := digits }, cs.dropWhile Char.isDigit)

/-- A number after its fraction. -/
def lexAfterFraction (l : NumberLiteral) (cs : List Char) : Token × List Char :=
  match cs with
  | 'e' :: rest => lexExponent l rest
  | 'E' :: rest => lexExponent l rest
  | cs => (.number l, cs)

/-- A number after its digits before the point. -/
def lexAfterWhole (l : NumberLiteral) (cs : List Char) : Token × List Char :=
  match cs with
  | '.' :: rest =>
    match rest.takeWhile Char.isDigit with
    | [] => (missingDigit rest, [])
    | digits => lexAfterFraction { l with fraction := digits } (rest.dropWhile Char.isDigit)
  | cs => lexAfterFraction l cs

/-- A number after its sign. No digit comes after a zero at the beginning. -/
def lexNumber (negative : Bool) (cs : List Char) : Token × List Char :=
  match cs.takeWhile Char.isDigit with
  | [] => (missingDigit cs, [])
  | '0' :: _ :: _ => (.malformed false .invalidNumber .invalidNumber, [])
  | digits => lexAfterWhole ⟨negative, digits, [], false, []⟩ (cs.dropWhile Char.isDigit)

/-! ### Texts -/

def hexValue? (c : Char) : Option Nat :=
  if '0' ≤ c && c ≤ '9' then some (c.toNat - '0'.toNat)
  else if 'a' ≤ c && c ≤ 'f' then some (c.toNat - 'a'.toNat + 10)
  else if 'A' ≤ c && c ≤ 'F' then some (c.toNat - 'A'.toNat + 10)
  else none

/-- The unit that four hexadecimal digits stand for. -/
def hexUnit? (a b c d : Char) : Option Nat := do
  let a ← hexValue? a
  let b ← hexValue? b
  let c ← hexValue? c
  let d ← hexValue? d
  return ((a * 16 + b) * 16 + c) * 16 + d

/-- The character of an escape of two characters. -/
def escaped? (c : Char) : Option Char :=
  if c = '"' || c = '\\' || c = '/' then some c
  else if c = 'b' then some '\x08'
  else if c = 'f' then some '\x0c'
  else if c = 'n' then some '\n'
  else if c = 'r' then some '\r'
  else if c = 't' then some '\t'
  else none

/-- How a text goes on after some of its pieces. -/
inductive TextEnd
  /-- It is closed, and the characters after it are left. -/
  | closed (rest : List Char)
  /-- It is malformed. After the first half of a surrogate pair the fault is `unpaired`, else `alone`. -/
  | broken (alone unpaired : Fault)
deriving Repr, DecidableEq, Inhabited

/-- The pieces of a text after its opening quote, and how it ends. -/
def lexPieces : List Char → List Piece × TextEnd
  | [] => ([], .broken .endOfText .endOfText)
  | ['\\'] => ([], .broken .endOfText .endOfText)
  | '\\' :: 'u' :: a :: b :: c :: d :: rest =>
    match hexUnit? a b c d with
    | some n =>
      let (pieces, ending) := lexPieces rest
      (.unit n :: pieces, ending)
    | none => ([], .broken .invalidEscape .invalidEscape)
  | '\\' :: 'u' :: rest =>
    if (String.ofList rest).utf8ByteSize < 4 then ([], .broken .endOfText .endOfText)
    else ([], .broken .invalidEscape .invalidEscape)
  | '\\' :: c :: rest =>
    match escaped? c with
    | some e =>
      let (pieces, ending) := lexPieces rest
      (.char e :: pieces, ending)
    | none => ([], .broken .invalidEscape .openPair)
  | c :: rest =>
    if c = '"' then ([], .closed rest)
    else if c.toNat < 0x20 then ([], .broken .controlCharacter .openPair)
    else
      let (pieces, ending) := lexPieces rest
      (.char c :: pieces, ending)

def lexText (cs : List Char) : Token × List Char :=
  match lexPieces cs with
  | (pieces, .closed rest) => (.text pieces, rest)
  | (pieces, .broken alone unpaired) =>
    match decodePieces unpaired pieces with
    | .ok _ => (.malformed true alone alone, [])
    | .error fault => (.malformed true fault alone, [])

/-! ### All tokens -/

/-- The characters that may stand between tokens. -/
def isSpace (c : Char) : Bool := c = ' ' || c = '\n' || c = '\r' || c = '\t'

/-- The token that begins with a given character, and the characters after it. -/
def lex (c : Char) (rest : List Char) : Token × List Char :=
  match c with
  | '[' => (.openList, rest)
  | ']' => (.closeList, rest)
  | '\x7b' => (.openObject, rest)
  | '\x7d' => (.closeObject, rest)
  | ',' => (.comma, rest)
  | ':' => (.colon, rest)
  | '"' => lexText rest
  | 'n' => lexWord .null ['u', 'l', 'l'] rest
  | 't' => lexWord (.boolean true) ['r', 'u', 'e'] rest
  | 'f' => lexWord (.boolean false) ['a', 'l', 's', 'e'] rest
  | '-' => lexNumber true rest
  | c => if c.isDigit then lexNumber false (c :: rest) else (.malformed false .noValue .noValue, [])

theorem length_dropWhile_le {α : Type} (p : α → Bool) (l : List α) : (l.dropWhile p).length ≤ l.length :=
  (List.dropWhile_suffix p).length_le

theorem length_afterWord_le {word cs rest : List Char} (h : afterWord word cs = .ok rest) :
    rest.length ≤ cs.length := by
  fun_induction afterWord word cs with
  | case1 => simp_all
  | case2 => simp at h
  | case3 w word cs ih => exact Nat.le_succ_of_le (ih h)
  | case4 => simp at h

theorem length_lexWord_le (t : Token) (word cs : List Char) : (lexWord t word cs).2.length ≤ cs.length := by
  unfold lexWord
  split
  · rename_i h
    exact length_afterWord_le h
  · simp

theorem length_lexExponent_le (l : NumberLiteral) (cs : List Char) :
    (lexExponent l cs).2.length ≤ cs.length := by
  unfold lexExponent
  split
  rename_i negative rest h
  have hr : rest.length ≤ cs.length := by
    split at h <;> cases h <;> simp
  split
  · simp
  · exact Nat.le_trans (length_dropWhile_le _ _) hr

theorem length_lexAfterFraction_le (l : NumberLiteral) (cs : List Char) :
    (lexAfterFraction l cs).2.length ≤ cs.length := by
  unfold lexAfterFraction
  split
  · exact Nat.le_succ_of_le (length_lexExponent_le _ _)
  · exact Nat.le_succ_of_le (length_lexExponent_le _ _)
  · simp

theorem length_lexAfterWhole_le (l : NumberLiteral) (cs : List Char) :
    (lexAfterWhole l cs).2.length ≤ cs.length := by
  unfold lexAfterWhole
  split
  · split
    · simp
    · exact Nat.le_trans (length_lexAfterFraction_le _ _) (Nat.le_succ_of_le (length_dropWhile_le _ _))
  · exact length_lexAfterFraction_le _ _

theorem length_dropWhile_lt {p : Char → Bool} {cs : List Char} (h : cs.takeWhile p ≠ []) :
    (cs.dropWhile p).length < cs.length := by
  cases cs with
  | nil => simp at h
  | cons c rest =>
    by_cases hc : p c
    · simpa [hc] using Nat.lt_succ_of_le (length_dropWhile_le p rest)
    · simp [hc] at h

theorem length_lexNumber_lt (negative : Bool) {cs : List Char} (h : cs ≠ []) :
    (lexNumber negative cs).2.length < cs.length := by
  have hp : 0 < cs.length := List.length_pos_iff.mpr h
  unfold lexNumber
  split
  · simpa using hp
  · simpa using hp
  · rename_i hne _
    exact Nat.lt_of_le_of_lt (length_lexAfterWhole_le _ _) (length_dropWhile_lt hne)

theorem length_lexNumber_le (negative : Bool) (cs : List Char) :
    (lexNumber negative cs).2.length ≤ cs.length := by
  by_cases h : cs = []
  · subst h
    simp [lexNumber]
  · exact Nat.le_of_lt (length_lexNumber_lt negative h)

theorem length_lexPieces_lt {cs rest : List Char} {pieces : List Piece}
    (h : lexPieces cs = (pieces, .closed rest)) : rest.length < cs.length := by
  fun_induction lexPieces cs generalizing pieces with
  | case1 => simp at h
  | case2 => simp at h
  | case3 a b c d cs n hn ps e heq ih =>
    simp only [Prod.mk.injEq] at h
    have := ih (heq.trans (by rw [← h.2]))
    simp only [List.length_cons]
    omega
  | case4 => simp at h
  | case5 => simp at h
  | case6 => simp at h
  | case7 c cs h1 h2 e he ps en heq ih =>
    simp only [Prod.mk.injEq] at h
    have := ih (heq.trans (by rw [← h.2]))
    simp only [List.length_cons]
    omega
  | case8 => simp at h
  | case9 => simp_all
  | case10 => simp at h
  | case11 c cs _ _ _ _ _ _ ps e heq ih =>
    simp only [Prod.mk.injEq] at h
    have := ih (heq.trans (by rw [← h.2]))
    simp only [List.length_cons]
    omega

theorem length_lexText_le (cs : List Char) : (lexText cs).2.length ≤ cs.length := by
  unfold lexText
  split
  · rename_i h
    exact Nat.le_of_lt (length_lexPieces_lt h)
  · split <;> simp

theorem length_lex_le (c : Char) (rest : List Char) : (lex c rest).2.length ≤ rest.length := by
  unfold lex
  split
  iterate 6 exact Nat.le_refl _
  · exact length_lexText_le _
  iterate 3 exact length_lexWord_le _ _ _
  · exact length_lexNumber_le _ _
  · split
    · exact Nat.le_of_lt_succ (length_lexNumber_lt _ (List.cons_ne_nil _ _))
    · exact Nat.zero_le _

/-- The tokens of a text, up to the first malformed one. -/
def tokens : List Char → List Token
  | [] => []
  | c :: rest =>
    if isSpace c then tokens rest
    else
      have := length_lex_le c rest
      (lex c rest).1 :: tokens (lex c rest).2
termination_by cs => cs.length

end RandomPrograms.Json
