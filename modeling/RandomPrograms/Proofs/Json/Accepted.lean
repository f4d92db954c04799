import RandomPrograms.Proofs.Json.Tree

/-! What is read as a tree is a text of this tree. A text whose tokens are all well-formed spells these tokens,
    and tokens that bring the machine that reads trees to its end are those of the tree it ends with. -/

namespace RandomPrograms.Json

/-! ### Tokens -/

def Token.isWellFormed : Token → Bool
  | .malformed _ _ _ => false
  | _ => true

theorem spellsPieces_of_lexPieces {cs rest : List Char} {ps : List Piece} (h : lexPieces cs = (ps, .closed rest)) :
    ∃ w, cs = w ++ '"' :: rest ∧ SpellsPieces w ps := by
  fun_induction lexPieces cs generalizing ps with
  | case1 | case2 | case4 | case5 | case6 | case8 | case10 => cases h
  | case3 a b c d cs n hn qs ending heq ih =>
    cases h
    obtain ⟨w, rfl, hw⟩ := ih heq
    exact ⟨_, rfl, .unit hn hw⟩
  | case7 c cs h1 h2 e he qs ending heq ih =>
    cases h
    obtain ⟨w, rfl, hw⟩ := ih heq
    exact ⟨_, rfl, .escape he hw⟩
  | case9 c cs =>
    cases h
    exact ⟨[], rfl, .nil⟩
  | case11 c cs h1 h2 h3 h4 hquote hcontrol qs ending heq ih =>
    cases h
    obtain ⟨w, rfl, hw⟩ := ih heq
    -- Every backslash is taken by an earlier case, as the closing quote at least comes after it.
    have hescape : c ≠ '\\' := by
      intro hc
      cases w with
      | nil => exact h4 _ _ hc rfl
      | cons d w => exact h4 _ _ hc rfl
    exact ⟨_, rfl, .plain hquote hescape hcontrol hw⟩

theorem append_of_afterWord {word cs rest : List Char} (h : afterWord word cs = .ok rest) : cs = word ++ rest := by
  fun_induction afterWord word cs with
  | case1 =>
    cases h
    rfl
  | case2 | case4 => cases h
  | case3 w word cs ih => rw [ih h, List.cons_append]

theorem spellsToken_of_lexText {cs rest : List Char} {t : Token} (h : lexText cs = (t, rest))
    (ht : t.isWellFormed = true) : ∃ w, '"' :: cs = w ++ rest ∧ SpellsToken w t := by
  unfold lexText at h
  split at h
  · rename_i ps rest' hps
    cases h
    obtain ⟨w, rfl, hw⟩ := spellsPieces_of_lexPieces hps
    exact ⟨'"' :: (w ++ ['"']), by simp, .text hw⟩
  · split at h <;> cases h <;> cases ht

theorem append_of_lexWord {t t' : Token} {word cs rest : List Char} (h : lexWord t word cs = (t', rest))
    (ht : t'.isWellFormed = true) : cs = word ++ rest ∧ t' = t := by
  unfold lexWord at h
  split at h
  · rename_i rest' hrest
    cases h
    exact ⟨append_of_afterWord hrest, rfl⟩
  · cases h
    cases ht

/-! ### Numbers -/

theorem endsDigits_dropWhile (cs : List Char) : EndsDigits (cs.dropWhile Char.isDigit) := by
  intro c hc
  exact Bool.eq_false_iff.mpr fun hdigit => by
    have := List.head?_dropWhile_not Char.isDigit cs
    rw [Option.mem_def.mp hc] at this
    simp [hdigit] at this

theorem isDigits_takeWhile {cs : List Char} (h : cs.takeWhile Char.isDigit ≠ []) :
    IsDigits (cs.takeWhile Char.isDigit) := ⟨h, List.all_eq_true.mp List.all_takeWhile⟩

theorem spellsExponent_of_lexExponent {e : Char} (he : e = 'e' ∨ e = 'E') {l : NumberLiteral} {cs rest : List Char}
    {t : Token} (h : lexExponent l cs = (t, rest)) (ht : t.isWellFormed = true) :
    ∃ vs negative exponent, cs = vs ++ rest ∧ SpellsExponent (e :: vs) negative exponent ∧ EndsDigits rest ∧
      t = .number ⟨l.negative, l.whole, l.fraction, negative, exponent⟩ := by
  unfold lexExponent at h
  split at h
  rename_i negative digits hsign
  split at h
  · cases h
    cases ht
  · rename_i hne
    cases h
    have hdigits := isDigits_takeWhile hne
    have hsplit : digits = digits.takeWhile Char.isDigit ++ digits.dropWhile Char.isDigit :=
      List.takeWhile_append_dropWhile.symm
    split at hsign <;> cases hsign
    · exact ⟨'-' :: _, true, _, congrArg ('-' :: ·) hsplit, .minus he hdigits, endsDigits_dropWhile _, rfl⟩
    · exact ⟨'+' :: _, false, _, congrArg ('+' :: ·) hsplit, .plus he hdigits, endsDigits_dropWhile _, rfl⟩
    · exact ⟨_, false, _, hsplit, .unsigned he hdigits, endsDigits_dropWhile _, rfl⟩

theorem spellsExponent_of_lexAfterFraction {sign : Bool} {whole fraction cs rest : List Char} {t : Token}
    (h : lexAfterFraction ⟨sign, whole, fraction, false, []⟩ cs = (t, rest)) (ht : t.isWellFormed = true)
    (hend : EndsDigits cs) :
    ∃ vs negative exponent, cs = vs ++ rest ∧ SpellsExponent vs negative exponent ∧ EndsDigits rest ∧
      t = .number ⟨sign, whole, fraction, negative, exponent⟩ := by
  unfold lexAfterFraction at h
  split at h
  · obtain ⟨vs, negative, exponent, rfl, hvs, hrest, rfl⟩ := spellsExponent_of_lexExponent (.inl rfl) h ht
    exact ⟨_, negative, exponent, rfl, hvs, hrest, rfl⟩
  · obtain ⟨vs, negative, exponent, rfl, hvs, hrest, rfl⟩ := spellsExponent_of_lexExponent (.inr rfl) h ht
    exact ⟨_, negative, exponent, rfl, hvs, hrest, rfl⟩
  · cases h
    exact ⟨[], false, [], rfl, .none, hend, rfl⟩

theorem spells_of_lexAfterWhole {sign : Bool} {whole cs rest : List Char} {t : Token}
    (h : lexAfterWhole ⟨sign, whole, [], false, []⟩ cs = (t, rest)) (ht : t.isWellFormed = true)
    (hend : EndsDigits cs) :
    ∃ ws vs fraction negative exponent, cs = ws ++ (vs ++ rest) ∧ SpellsFraction ws fraction ∧
      SpellsExponent vs negative exponent ∧ EndsDigits rest ∧
      t = .number ⟨sign, whole, fraction, negative, exponent⟩ := by
  unfold lexAfterWhole at h
  split at h
  · rename_i digits
    split at h
    · cases h
      cases ht
    · rename_i hne
      obtain ⟨vs, negative, exponent, hvs, hexponent, hrest, rfl⟩ :=
        spellsExponent_of_lexAfterFraction h ht (endsDigits_dropWhile _)
      refine ⟨'.' :: _, vs, _, negative, exponent, ?_, .some (isDigits_takeWhile hne), hexponent, hrest, rfl⟩
      rw [List.cons_append, ← hvs, List.takeWhile_append_dropWhile]
  · obtain ⟨vs, negative, exponent, hvs, hexponent, hrest, rfl⟩ := spellsExponent_of_lexAfterFraction h ht hend
    exact ⟨[], vs, [], negative, exponent, hvs, .none, hexponent, hrest, rfl⟩

theorem spellsSize_of_lexNumber {sign : Bool} {cs rest : List Char} {t : Token} (h : lexNumber sign cs = (t, rest))
    (ht : t.isWellFormed = true) :
    ∃ w l, cs = w ++ rest ∧ SpellsSize w l ∧ l.negative = sign ∧ EndsDigits rest ∧ t = .number l := by
  unfold lexNumber at h
  split at h
  · cases h
    cases ht
  · cases h
    cases ht
  · rename_i hne hzero
    obtain ⟨ws, vs, fraction, negative, exponent, hsplit, hws, hvs, hrest, rfl⟩ :=
      spells_of_lexAfterWhole h ht (endsDigits_dropWhile _)
    have hwhole : IsWhole (cs.takeWhile Char.isDigit) := by
      refine ⟨isDigits_takeWhile hne, fun ds hds => ?_⟩
      rcases ds with _ | ⟨d, ds⟩
      · rfl
      · exact absurd hds (hzero d ds)
    refine ⟨_, _, ?_, .intro hwhole hws hvs, rfl, hrest, rfl⟩
    rw [List.append_assoc, List.append_assoc, ← hsplit, List.takeWhile_append_dropWhile]

/-! ### Texts of tokens -/

/-- A token that is well-formed is spelled by the characters that it takes, unless it is a number, which can
    only be followed by no further digit. -/
theorem spells_of_lex {c : Char} {cs rest : List Char} {t : Token} (h : lex c cs = (t, rest))
    (ht : t.isWellFormed = true) :
    (∃ w, c :: cs = w ++ rest ∧ SpellsToken w t) ∨
      ∃ w l, c :: cs = w ++ rest ∧ SpellsNumber w l ∧ EndsDigits rest ∧ t = .number l := by
  unfold lex at h
  split at h
  case h_1 => cases h; exact .inl ⟨_, rfl, .openList⟩
  case h_2 => cases h; exact .inl ⟨_, rfl, .closeList⟩
  case h_3 => cases h; exact .inl ⟨_, rfl, .openObject⟩
  case h_4 => cases h; exact .inl ⟨_, rfl, .closeObject⟩
  case h_5 => cases h; exact .inl ⟨_, rfl, .comma⟩
  case h_6 => cases h; exact .inl ⟨_, rfl, .colon⟩
  case h_7 => exact .inl (spellsToken_of_lexText h ht)
  case h_8 =>
    obtain ⟨rfl, rfl⟩ := append_of_lexWord h ht
    exact .inl ⟨_, rfl, .null⟩
  case h_9 =>
    obtain ⟨rfl, rfl⟩ := append_of_lexWord h ht
    exact .inl ⟨_, rfl, .true⟩
  case h_10 =>
    obtain ⟨rfl, rfl⟩ := append_of_lexWord h ht
    exact .inl ⟨_, rfl, .false⟩
  case h_11 =>
    obtain ⟨w, l, rfl, hw, hsign, hrest, rfl⟩ := spellsSize_of_lexNumber h ht
    exact .inr ⟨_, l, rfl, .minus hsign hw, hrest, rfl⟩
  case h_12 =>
    split_ifs at h
    · obtain ⟨w, l, hsplit, hw, hsign, hrest, rfl⟩ := spellsSize_of_lexNumber h ht
      exact .inr ⟨w, l, hsplit, .unsigned hsign hw, hrest, rfl⟩
    · cases h
      cases ht

/-- Nothing that is well-formed goes on like a number without being part of it. -/
theorem EndsDigits.endsNumber {cs : List Char} (h : EndsDigits cs) (hts : ∀ t ∈ tokens cs, t.isWellFormed = true) :
    EndsNumber cs := by
  rintro c hc
  obtain ⟨rest, rfl⟩ : ∃ rest, cs = c :: rest := by
    cases cs with
    | nil => cases hc
    | cons d rest => cases hc; exact ⟨rest, rfl⟩
  -- A point or an exponent that a number has left over begins no token.
  have hmalformed : c = '.' ∨ c = 'e' ∨ c = 'E' → False := by
    intro hc'
    have hcut : tokens (c :: rest) = .malformed false .noValue .noValue :: tokens [] := by
      rcases hc' with rfl | rfl | rfl <;> exact tokens_cons_of_lex rfl rfl
    cases hts _ (hcut ▸ List.mem_cons_self)
  exact ⟨h c hc, fun hc => hmalformed (.inl hc), fun hc => hmalformed (.inr (.inl hc)),
    fun hc => hmalformed (.inr (.inr hc))⟩

/-- A text spells the tokens that it is cut into, if they are well-formed. -/
theorem spells_tokens (cs : List Char) (h : ∀ t ∈ tokens cs, t.isWellFormed = true) : Spells cs (tokens cs) := by
  fun_induction tokens cs with
  | case1 => exact .nil
  | case2 c cs hspace ih => exact .space hspace (ih h)
  | case3 c cs hspace hlength ih =>
    have ht := h _ List.mem_cons_self
    have hts : ∀ t ∈ tokens (lex c cs).2, t.isWellFormed = true := fun t ht => h t (List.mem_cons_of_mem _ ht)
    rcases @spells_of_lex c cs (lex c cs).2 (lex c cs).1 rfl ht with ⟨w, hsplit, hw⟩ | ⟨w, l, hsplit, hw, hend, hl⟩
    · rw [hsplit]
      exact .token hw (ih hts)
    · rw [hsplit, hl]
      exact .number hw (hend.endsNumber hts) (ih hts)

namespace Node

/-! ### Trees -/

/-- The tokens go on where a tree is complete within some frames, and end as another tree. -/
def GoesOn : List Frame → (t : Node) → List Token → (result : Node) → Prop
  | [], t, ts, result => ts = [] ∧ t = result
  | .list items :: frames, t, ts, result =>
    ∃ more us, ts = itemTokens more ++ us ∧ GoesOn frames (.list (items.reverse ++ t :: more)) us result
  | .object members key :: frames, t, ts, result =>
    ∃ more us, ts = memberTokens more ++ us ∧ GoesOn frames (.object (members.reverse ++ (key, t) :: more)) us result

/-- The tokens go on with a whole tree, which is complete within the frames. -/
def GoesOnWith (frames : List Frame) (ts : List Token) (result : Node) : Prop :=
  ∃ t us, ts = tokens t ++ us ∧ GoesOn frames t us result

namespace State

/-- The tokens go on from a state, and end as a tree. -/
def GoesOn : State → List Token → (result : Node) → Prop
  | .value frames, ts, result => GoesOnWith frames ts result
  | .firstItem frames, ts, result =>
    (∃ us, ts = .closeList :: us ∧ Node.GoesOn frames (.list []) us result) ∨ GoesOnWith (.list [] :: frames) ts result
  | .afterItem items frames, ts, result =>
    ∃ more us, ts = itemTokens more ++ us ∧ Node.GoesOn frames (.list (items.reverse ++ more)) us result
  | .firstKey frames, ts, result =>
    (∃ us, ts = .closeObject :: us ∧ Node.GoesOn frames (.object []) us result) ∨
      ∃ key us, ts = .text key :: .colon :: us ∧ GoesOnWith (.object [] key :: frames) us result
  | .nextKey members frames, ts, result =>
    ∃ key us, ts = .text key :: .colon :: us ∧ GoesOnWith (.object members key :: frames) us result
  | .colon members key frames, ts, result =>
    ∃ us, ts = .colon :: us ∧ GoesOnWith (.object members key :: frames) us result
  | .afterMember members frames, ts, result =>
    ∃ more us, ts = memberTokens more ++ us ∧ Node.GoesOn frames (.object (members.reverse ++ more)) us result
  | .done t, ts, result => ts = [] ∧ t = result

theorem goesOn_complete {t result : Node} {frames : List Frame} {ts : List Token} :
    (complete t frames).GoesOn ts result → Node.GoesOn frames t ts result := by
  cases frames with
  | nil => exact id
  | cons frame frames =>
    cases frame with
    | list items =>
      rintro ⟨more, us, hts, h⟩
      rw [List.reverse_cons, List.append_assoc] at h
      exact ⟨more, us, hts, h⟩
    | object members key =>
      rintro ⟨more, us, hts, h⟩
      rw [List.reverse_cons, List.append_assoc] at h
      exact ⟨more, us, hts, h⟩

theorem goesOn_of_onValue {frames : List Frame} {t : Token} {s : State} {ts : List Token} {result : Node}
    (hstep : onValue frames t = .ok s) (h : s.GoesOn ts result) : GoesOnWith frames (t :: ts) result := by
  cases t <;> cases hstep
  case openList =>
    rcases h with ⟨us, rfl, h⟩ | ⟨t, us, rfl, more, vs, rfl, h⟩
    · exact ⟨.list [], us, rfl, h⟩
    · exact ⟨.list (t :: more), vs, by simp [tokens], h⟩
  case openObject =>
    rcases h with ⟨us, rfl, h⟩ | ⟨key, us, rfl, t, vs, rfl, more, ws, rfl, h⟩
    · exact ⟨.object [], us, rfl, h⟩
    · exact ⟨.object ((key, t) :: more), ws, by simp [tokens], h⟩
  all_goals exact ⟨_, ts, rfl, goesOn_complete h⟩

theorem goesOn_of_onKey {members : List (List Piece × Node)} {frames : List Frame} {t : Token} {s : State}
    {ts : List Token} {result : Node} (hstep : onKey members frames t = .ok s) (h : s.GoesOn ts result) :
    ∃ key us, t :: ts = .text key :: .colon :: us ∧ GoesOnWith (.object members key :: frames) us result := by
  unfold onKey at hstep
  split at hstep <;> cases hstep
  obtain ⟨us, rfl, h⟩ := h
  exact ⟨_, us, rfl, h⟩

/-- What goes on after a token goes on from before it, with this token. -/
theorem goesOn_of_step {s s' : State} {t : Token} {ts : List Token} {result : Node} (hstep : s.step t = .ok s')
    (h : s'.GoesOn ts result) : s.GoesOn (t :: ts) result := by
  cases s with
  | value frames => exact goesOn_of_onValue hstep h
  | firstItem frames =>
    cases t with
    | closeList =>
      cases hstep
      exact .inl ⟨ts, rfl, goesOn_complete h⟩
    | _ => exact .inr (goesOn_of_onValue hstep h)
  | afterItem items frames =>
    cases t with
    | comma =>
      cases hstep
      obtain ⟨t, us, rfl, more, vs, rfl, h⟩ := h
      exact ⟨t :: more, vs, by simp [itemTokens], h⟩
    | closeList =>
      cases hstep
      refine ⟨[], ts, rfl, ?_⟩
      rw [List.append_nil]
      exact goesOn_complete h
    | _ => cases hstep
  | firstKey frames =>
    cases t with
    | closeObject =>
      cases hstep
      exact .inl ⟨ts, rfl, goesOn_complete h⟩
    | _ => exact .inr (goesOn_of_onKey hstep h)
  | nextKey members frames => exact goesOn_of_onKey hstep h
  | colon members key frames =>
    cases t with
    | colon =>
      cases hstep
      exact ⟨ts, rfl, h⟩
    | _ => cases hstep
  | afterMember members frames =>
    cases t with
    | comma =>
      cases hstep
      obtain ⟨key, us, rfl, t, vs, rfl, more, ws, rfl, h⟩ := h
      exact ⟨(key, t) :: more, ws, by simp [memberTokens], h⟩
    | closeObject =>
      cases hstep
      refine ⟨[], ts, rfl, ?_⟩
      rw [List.append_nil]
      exact goesOn_complete h
    | _ => cases hstep
  | done t => cases hstep

/-- Tokens on which the machine ends go on from the state where it starts. -/
theorem goesOn_of_run {s : State} {ts : List Token} {result : Node} (h : machine.run s ts = .ok result) :
    s.GoesOn ts result := by
  induction ts generalizing s with
  | nil =>
    cases s with
    | done t =>
      cases h
      exact ⟨rfl, rfl⟩
    | _ => cases h
  | cons t ts ih =>
    rw [Machine.run] at h
    split at h
    · rename_i s' hstep
      exact goesOn_of_step hstep (ih h)
    · cases h

/-- No state goes on with a malformed token. -/
theorem isWellFormed_of_step {s s' : State} {t : Token} (h : s.step t = .ok s') : t.isWellFormed = true := by
  cases t with
  | malformed quote wanted skipped => cases s <;> cases quote <;> cases h
  | _ => rfl

theorem isWellFormed_of_run {s : State} {ts : List Token} {result : Node} (h : machine.run s ts = .ok result) :
    ∀ t ∈ ts, t.isWellFormed = true := by
  induction ts generalizing s with
  | nil => exact fun t ht => absurd ht List.not_mem_nil
  | cons t ts ih =>
    rw [Machine.run] at h
    split at h
    · rename_i s' hstep
      exact List.forall_mem_cons.mpr ⟨isWellFormed_of_step hstep, ih h⟩
    · cases h

end State

/-- A text is read as a tree just where it is a text of this tree. -/
theorem read_eq_ok_iff {s : String} {t : Node} : read s = .ok t ↔ IsText s t := by
  refine ⟨fun h => ?_, read_of_isText⟩
  obtain ⟨u, us, htokens, rfl, rfl⟩ : GoesOnWith [] (Json.tokens s.toList) t := State.goesOn_of_run h
  rw [List.append_nil] at htokens
  rw [IsText, ← htokens]
  exact spells_tokens _ (State.isWellFormed_of_run h)

/-- Texts of a tree are those that are cut into its tokens. -/
theorem isText_iff_tokens {s : String} {t : Node} : IsText s t ↔ Json.tokens s.toList = t.tokens := by
  refine ⟨tokens_of_spells, fun h => read_eq_ok_iff.mp ?_⟩
  rw [read, h, run_tokens]

instance (s : String) (t : Node) : Decidable (IsText s t) := decidable_of_iff _ isText_iff_tokens.symm

end Node

end RandomPrograms.Json
