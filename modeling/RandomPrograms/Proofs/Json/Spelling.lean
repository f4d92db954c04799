import Mathlib.Data.List.Basic
import RandomPrograms.Json.Token

/-! The texts that tokens are spelled by. Where well-formed tokens follow one another, with any space between
    them, the text is cut into just these tokens. The same token can be spelled in several ways: space is free,
    a character of a text may be escaped or not, and an exponent has two letters and may have a plus. -/

namespace RandomPrograms.Json

/-! ### Spellings -/

/-- What stands between the quotes of a text with some pieces. -/
inductive SpellsPieces : List Char → List Piece → Prop
  | nil : SpellsPieces [] []
  | plain {c : Char} {cs : List Char} {ps : List Piece} (hquote : c ≠ '"') (hescape : c ≠ '\\')
      (hcontrol : ¬c.toNat < 0x20) (h : SpellsPieces cs ps) : SpellsPieces (c :: cs) (.char c :: ps)
  | escape {e c : Char} {cs : List Char} {ps : List Piece} (he : escaped? e = some c) (h : SpellsPieces cs ps) :
      SpellsPieces ('\\' :: e :: cs) (.char c :: ps)
  | unit {a b c d : Char} {n : Nat} {cs : List Char} {ps : List Piece} (hn : hexUnit? a b c d = some n)
      (h : SpellsPieces cs ps) : SpellsPieces ('\\' :: 'u' :: a :: b :: c :: d :: cs) (.unit n :: ps)

/-- The characters of a token that cannot run on into what follows it. -/
inductive SpellsToken : List Char → Token → Prop
  | openList : SpellsToken ['['] .openList
  | closeList : SpellsToken [']'] .closeList
  | openObject : SpellsToken ['\x7b'] .openObject
  | closeObject : SpellsToken ['\x7d'] .closeObject
  | comma : SpellsToken [','] .comma
  | colon : SpellsToken [':'] .colon
  | null : SpellsToken ['n', 'u', 'l', 'l'] .null
  | true : SpellsToken ['t', 'r', 'u', 'e'] (.boolean true)
  | false : SpellsToken ['f', 'a', 'l', 's', 'e'] (.boolean false)
  | text {cs : List Char} {ps : List Piece} (h : SpellsPieces cs ps) :
      SpellsToken ('"' :: (cs ++ ['"'])) (.text ps)

/-- Decimal digits, at least one. -/
def IsDigits (ds : List Char) : Prop := ds ≠ [] ∧ ∀ d ∈ ds, d.isDigit = true

/-- The digits of a number before the point: none follows a zero at the beginning. -/
def IsWhole (ds : List Char) : Prop := IsDigits ds ∧ ∀ rest, ds = '0' :: rest → rest = []

/-- The point of a number and its digits, if it has any. -/
inductive SpellsFraction : List Char → (fraction : List Char) → Prop
  | none : SpellsFraction [] []
  | some {ds : List Char} (h : IsDigits ds) : SpellsFraction ('.' :: ds) ds

/-- The exponent of a number, if it has one, with its sign. -/
inductive SpellsExponent : List Char → (negative : Bool) → (exponent : List Char) → Prop
  | none : SpellsExponent [] false []
  | unsigned {e : Char} {ds : List Char} (he : e = 'e' ∨ e = 'E') (h : IsDigits ds) : SpellsExponent (e :: ds) false ds
  | plus {e : Char} {ds : List Char} (he : e = 'e' ∨ e = 'E') (h : IsDigits ds) :
      SpellsExponent (e :: '+' :: ds) false ds
  | minus {e : Char} {ds : List Char} (he : e = 'e' ∨ e = 'E') (h : IsDigits ds) :
      SpellsExponent (e :: '-' :: ds) true ds

/-- The characters of a number after its sign. -/
inductive SpellsSize : List Char → NumberLiteral → Prop
  | intro {whole ws fraction vs exponent : List Char} {negative exponentNegative : Bool} (hwhole : IsWhole whole)
      (hfraction : SpellsFraction ws fraction) (hexponent : SpellsExponent vs exponentNegative exponent) :
      SpellsSize (whole ++ (ws ++ vs)) ⟨negative, whole, fraction, exponentNegative, exponent⟩

/-- The characters of a number. -/
inductive SpellsNumber : List Char → NumberLiteral → Prop
  | unsigned {w : List Char} {l : NumberLiteral} (hsign : l.negative = false) (h : SpellsSize w l) : SpellsNumber w l
  | minus {w : List Char} {l : NumberLiteral} (hsign : l.negative = true) (h : SpellsSize w l) :
      SpellsNumber ('-' :: w) l

/-- The literal of a natural number in decimal digits. -/
def NumberLiteral.natural (n : Nat) : NumberLiteral := ⟨false, Nat.toDigits 10 n, [], false, []⟩

/-- Does not go on with what could belong to a number. -/
def EndsNumber (cs : List Char) : Prop := ∀ c ∈ cs.head?, c.isDigit = false ∧ c ≠ '.' ∧ c ≠ 'e' ∧ c ≠ 'E'

/-- A text of some tokens. A number ends where nothing follows that could belong to it. In a document it always
    does so, as a comma, space or the end of the list, object or text comes after it. -/
inductive Spells : List Char → List Token → Prop
  | nil : Spells [] []
  | space {c : Char} {cs : List Char} {ts : List Token} (hc : isSpace c = true) (h : Spells cs ts) :
      Spells (c :: cs) ts
  | token {w cs : List Char} {t : Token} {ts : List Token} (hw : SpellsToken w t) (h : Spells cs ts) :
      Spells (w ++ cs) (t :: ts)
  | number {w cs : List Char} {l : NumberLiteral} {ts : List Token} (hw : SpellsNumber w l) (hend : EndsNumber cs)
      (h : Spells cs ts) : Spells (w ++ cs) (.number l :: ts)

/-! ### Texts -/

theorem lexPieces_of_spells {cs : List Char} {ps : List Piece} (h : SpellsPieces cs ps) (rest : List Char) :
    lexPieces (cs ++ '"' :: rest) = (ps, .closed rest) := by
  induction h with
  | nil => simp [lexPieces]
  | plain hquote hescape hcontrol h ih => simp [lexPieces, hquote, hescape, hcontrol, ih]
  | @escape e c cs ps he h ih =>
    have hu : e ≠ 'u' := by
      rintro rfl
      cases he
    simp [lexPieces, hu, he, ih]
  | unit hn h ih => simp [lexPieces, hn, ih]

/-! ### Numbers -/

/-- Does not go on with a digit. -/
def EndsDigits (cs : List Char) : Prop := ∀ c ∈ cs.head?, c.isDigit = false

theorem IsDigits.takeWhile {ds cs : List Char} (h : IsDigits ds) (hend : EndsDigits cs) :
    (ds ++ cs).takeWhile Char.isDigit = ds := by
  have hcs : cs.takeWhile Char.isDigit = [] := by
    cases cs with
    | nil => rfl
    | cons c cs => simp [hend c rfl]
  rw [List.takeWhile_append_of_pos h.2, hcs, List.append_nil]

theorem IsDigits.dropWhile {ds cs : List Char} (h : IsDigits ds) (hend : EndsDigits cs) :
    (ds ++ cs).dropWhile Char.isDigit = cs := by
  have hcs : cs.dropWhile Char.isDigit = cs := by
    cases cs with
    | nil => rfl
    | cons c cs => simp [hend c rfl]
  rw [List.dropWhile_append_of_pos h.2, hcs]

theorem EndsNumber.endsDigits {cs : List Char} (h : EndsNumber cs) : EndsDigits cs := fun c hc => (h c hc).1

theorem EndsNumber.endsDigits_of_exponent {vs cs : List Char} {negative : Bool} {exponent : List Char}
    (hend : EndsNumber cs) (h : SpellsExponent vs negative exponent) : EndsDigits (vs ++ cs) := by
  cases h with
  | none => exact hend.endsDigits
  | unsigned he h | plus he h | minus he h => rcases he with rfl | rfl <;> rintro c ⟨⟩ <;> decide

theorem EndsNumber.endsDigits_of_fraction {ws vs cs : List Char} {negative : Bool} {fraction exponent : List Char}
    (hend : EndsNumber cs) (hws : SpellsFraction ws fraction) (hvs : SpellsExponent vs negative exponent) :
    EndsDigits (ws ++ (vs ++ cs)) := by
  cases hws with
  | none => exact hend.endsDigits_of_exponent hvs
  | some h => rintro c ⟨⟩; decide

/-- A digit is not taken for the sign of an exponent. -/
theorem lexExponent_digits {ds cs : List Char} (h : IsDigits ds) (hend : EndsDigits cs) (l : NumberLiteral) :
    lexExponent l (ds ++ cs) = (.number { l with exponentNegative := false, exponent := ds }, cs) := by
  have htake := h.takeWhile hend
  have hdrop := h.dropWhile hend
  rcases ds with _ | ⟨d, ds⟩
  · exact absurd rfl h.1
  · have hd : d.isDigit = true := h.2 d List.mem_cons_self
    have hminus : d ≠ '-' := by rintro rfl; cases hd
    have hplus : d ≠ '+' := by rintro rfl; cases hd
    rw [List.cons_append] at htake hdrop ⊢
    simp [lexExponent, hminus, hplus, htake, hdrop]

theorem lexExponent_plus {ds cs : List Char} (h : IsDigits ds) (hend : EndsDigits cs) (l : NumberLiteral) :
    lexExponent l ('+' :: (ds ++ cs)) = (.number { l with exponentNegative := false, exponent := ds }, cs) := by
  simp [lexExponent, h.takeWhile hend, h.dropWhile hend, h.1]

theorem lexExponent_minus {ds cs : List Char} (h : IsDigits ds) (hend : EndsDigits cs) (l : NumberLiteral) :
    lexExponent l ('-' :: (ds ++ cs)) = (.number { l with exponentNegative := true, exponent := ds }, cs) := by
  simp [lexExponent, h.takeWhile hend, h.dropWhile hend, h.1]

theorem lexAfterFraction_of_spells {vs cs : List Char} {negative : Bool} {exponent : List Char}
    (h : SpellsExponent vs negative exponent) (hend : EndsNumber cs) (whole fraction : List Char) (sign : Bool) :
    lexAfterFraction ⟨sign, whole, fraction, false, []⟩ (vs ++ cs) =
      (.number ⟨sign, whole, fraction, negative, exponent⟩, cs) := by
  cases h with
  | none =>
    cases cs with
    | nil => rfl
    | cons c cs =>
      obtain ⟨-, -, he, hE⟩ := hend c rfl
      simp [lexAfterFraction, he, hE]
  | unsigned he h => rcases he with rfl | rfl <;> exact lexExponent_digits h hend.endsDigits _
  | plus he h => rcases he with rfl | rfl <;> exact lexExponent_plus h hend.endsDigits _
  | minus he h => rcases he with rfl | rfl <;> exact lexExponent_minus h hend.endsDigits _

/-- What an exponent begins with, or what follows a number, is no point. -/
theorem EndsNumber.head_ne_point {vs cs : List Char} {negative : Bool} {exponent : List Char}
    (hend : EndsNumber cs) (h : SpellsExponent vs negative exponent) : ∀ rest, vs ++ cs ≠ '.' :: rest := by
  rintro rest hpoint
  cases h with
  | none => exact (hend '.' (by rw [← List.nil_append cs, hpoint]; rfl)).2.1 rfl
  | unsigned he h | plus he h | minus he h => rcases he with rfl | rfl <;> cases hpoint

theorem lexAfterWhole_of_spells {ws vs cs : List Char} {fraction exponent : List Char} {negative : Bool}
    (hws : SpellsFraction ws fraction) (hvs : SpellsExponent vs negative exponent) (hend : EndsNumber cs)
    (whole : List Char) (sign : Bool) :
    lexAfterWhole ⟨sign, whole, [], false, []⟩ (ws ++ (vs ++ cs)) =
      (.number ⟨sign, whole, fraction, negative, exponent⟩, cs) := by
  have hrest := hend.endsDigits_of_exponent hvs
  cases hws with
  | none =>
    rw [List.nil_append]
    unfold lexAfterWhole
    split
    · rename_i hpoint
      exact absurd hpoint (hend.head_ne_point hvs _)
    · exact lexAfterFraction_of_spells hvs hend _ _ _
  | some h =>
    simp only [List.cons_append, lexAfterWhole, h.takeWhile hrest, h.dropWhile hrest]
    split
    · exact absurd rfl h.1
    · exact lexAfterFraction_of_spells hvs hend _ _ _

theorem lexNumber_of_spells {w cs : List Char} {l : NumberLiteral} (h : SpellsSize w l) (hend : EndsNumber cs) :
    lexNumber l.negative (w ++ cs) = (.number l, cs) := by
  obtain ⟨hwhole, hws, hvs⟩ := h
  have hrest := hend.endsDigits_of_fraction hws hvs
  unfold lexNumber
  rw [List.append_assoc, List.append_assoc, hwhole.1.takeWhile hrest, hwhole.1.dropWhile hrest]
  split
  · exact absurd rfl hwhole.1.1
  · rename_i c rest
    exact absurd (hwhole.2 _ rfl) (List.cons_ne_nil _ _)
  · exact lexAfterWhole_of_spells hws hvs hend _ _

/-! ### Natural numbers -/

theorem isDigit_of_mem_toDigits {n : Nat} : ∀ c ∈ Nat.toDigits 10 n, c.isDigit = true :=
  fun _ hc => Nat.isDigit_of_mem_toDigits (by omega) (by omega) hc

theorem head?_toDigits_ne_zero {n : Nat} (hn : n ≠ 0) : (Nat.toDigits 10 n).head? ≠ some '0' := by
  induction n using Nat.strongRecOn with
  | ind n ih =>
    by_cases h : n < 10
    · have hdigit : ∀ d < 10, d ≠ 0 → d.digitChar ≠ '0' := by decide
      rw [Nat.toDigits_of_lt_base h, List.head?_cons]
      intro heq
      exact hdigit n h hn (Option.some.inj heq)
    · rw [Nat.toDigits_of_base_le (by omega) (by omega), List.head?_append_of_ne_nil _ Nat.toDigits_ne_nil]
      exact ih (n / 10) (by omega) (by omega)

/-- No second digit follows a zero. -/
theorem isWhole_toDigits (n : Nat) : IsWhole (Nat.toDigits 10 n) := by
  refine ⟨⟨Nat.toDigits_ne_nil, isDigit_of_mem_toDigits⟩, fun rest h => ?_⟩
  by_cases hn : n = 0
  · subst hn
    rw [Nat.toDigits_zero] at h
    cases h
    rfl
  · have hhead := head?_toDigits_ne_zero hn
    rw [h, List.head?_cons] at hhead
    exact absurd rfl hhead

theorem spellsNumber_natural (n : Nat) : SpellsNumber (Nat.toDigits 10 n) (.natural n) := by
  have hsize : SpellsSize (Nat.toDigits 10 n ++ ([] ++ [])) (.natural n) := .intro (isWhole_toDigits n) .none .none
  rw [List.append_nil, List.append_nil] at hsize
  exact .unsigned rfl hsize

/-! ### Tokens -/

theorem tokens_cons_of_isSpace {c : Char} (hc : isSpace c = true) (cs : List Char) :
    tokens (c :: cs) = tokens cs := by
  rw [tokens, if_pos hc]

theorem tokens_cons_of_lex {c : Char} {cs rest : List Char} {t : Token} (hc : isSpace c = false)
    (h : lex c cs = (t, rest)) : tokens (c :: cs) = t :: tokens rest := by
  rw [tokens, if_neg (by rw [hc]; decide), h]

theorem lex_of_isDigit {c : Char} (hc : c.isDigit = true) (cs : List Char) :
    lex c cs = lexNumber false (c :: cs) := by
  unfold lex
  split
  case h_12 => rw [if_pos hc]
  all_goals cases hc

theorem isSpace_of_isDigit {c : Char} (hc : c.isDigit = true) : isSpace c = false := by
  apply Bool.eq_false_iff.mpr
  intro hspace
  simp only [isSpace, Bool.or_eq_true, decide_eq_true_eq] at hspace
  rcases hspace with ((rfl | rfl) | rfl) | rfl <;> cases hc

theorem tokens_of_spellsToken {w : List Char} {t : Token} (h : SpellsToken w t) (cs : List Char) :
    tokens (w ++ cs) = t :: tokens cs := by
  cases h with
  | text hps =>
    rw [List.cons_append, List.append_assoc]
    apply tokens_cons_of_lex rfl
    simp only [lex, lexText, List.singleton_append, lexPieces_of_spells hps]
  | _ => exact tokens_cons_of_lex rfl rfl

/-- After its sign a number begins with a digit. -/
theorem SpellsSize.exists_digit {w : List Char} {l : NumberLiteral} (h : SpellsSize w l) :
    ∃ d rest, w = d :: rest ∧ d.isDigit = true := by
  cases h with
  | @intro whole ws fraction vs exponent negative exponentNegative hwhole hws hvs =>
    rcases whole with _ | ⟨d, ds⟩
    · exact absurd rfl hwhole.1.1
    · exact ⟨d, ds ++ (ws ++ vs), rfl, hwhole.1.2 d List.mem_cons_self⟩

theorem tokens_of_spellsNumber {w cs : List Char} {l : NumberLiteral} (h : SpellsNumber w l) (hend : EndsNumber cs) :
    tokens (w ++ cs) = .number l :: tokens cs := by
  cases h with
  | unsigned hsign h =>
    have hlex := lexNumber_of_spells h hend
    obtain ⟨d, rest, rfl, hd⟩ := h.exists_digit
    rw [hsign] at hlex
    exact tokens_cons_of_lex (isSpace_of_isDigit hd) ((lex_of_isDigit hd _).trans hlex)
  | minus hsign h =>
    have hlex := lexNumber_of_spells h hend
    rw [hsign] at hlex
    exact tokens_cons_of_lex rfl hlex

/-- A text is cut into the tokens that it spells. -/
theorem tokens_of_spells {cs : List Char} {ts : List Token} (h : Spells cs ts) : tokens cs = ts := by
  induction h with
  | nil => rw [tokens]
  | space hc h ih => rw [tokens_cons_of_isSpace hc, ih]
  | token hw h ih => rw [tokens_of_spellsToken hw, ih]
  | number hw hend h ih => rw [tokens_of_spellsNumber hw hend, ih]

end RandomPrograms.Json
