import RandomPrograms.Proofs.Grammar.Vocabulary
import RandomPrograms.Proofs.Randomness.Evenness
import RandomPrograms.Proofs.Scope.Bindings

/-! What is picked at random is picked evenly: a number below its bound, the length of a word up to its limit, and a
    variable among those that match in the innermost scope with a match. -/

namespace RandomPrograms

open Grammar Randomness Draw

/-! ### Words -/

/-- A word has one letter more than the number below the limit that is picked for it. -/
theorem Grammar.length_drawWord (longest : Option UInt64) (s : Source) : (drawWord longest s).1.length =
    (below64 (max 1 (longest.getD Defaults.maxIdentifierLength).toNat) s).1 + 1 := by
  rw [drawWord, bind_apply, bind_apply, pure_apply]
  obtain ⟨hlength, -⟩ := drawLetters_gives
    ((below64 (max 1 (longest.getD Defaults.maxIdentifierLength).toNat) s).1 + 1) _
  rw [String.length_ofList, hlength]

theorem Grammar.drawWord_picksEvenly (longest : Option UInt64) :
    PicksEvenly .wide (max 1 (longest.getD Defaults.maxIdentifierLength).toNat) (· + 1)
      (String.length <$> drawWord longest) := by
  have hlongest := (longest.getD Defaults.maxIdentifierLength).toNat_lt
  have hpos : 0 < max 1 (longest.getD Defaults.maxIdentifierLength).toNat := by omega
  have hfits : max 1 (longest.getD Defaults.maxIdentifierLength).toNat < 2 ^ 64 := by omega
  refine .of_pick hpos hfits (fun s => ?_) fun q _ r _ h => Nat.succ.inj h
  simp only [← below64_eq, map_apply, length_drawWord]

/-! ### Variables -/

theorem Scope.nodup_matching (s : Scope) (wanted : Option VarType) : (s.matching wanted).Nodup := by
  have hnodup : s.bindings.Nodup := by
    refine s.sorted.imp ?_
    rintro b _ hlt rfl
    exact String.lt_irrefl _ hlt
  cases wanted with
  | none => exact hnodup
  | some t => exact hnodup.filter _

namespace ScopeStack

variable {wanted : Option VarType} {s : Scope} {inside outside : List Scope}

theorem firstMatch_of_passed (hpassed : ∀ i ∈ inside, i.matching wanted = []) (rest : List Scope) :
    firstMatch wanted (inside ++ rest) = firstMatch wanted rest := by
  induction inside with
  | nil => rfl
  | cons i inside ih =>
    obtain ⟨hi, hinside⟩ := List.forall_mem_cons.mp hpassed
    rw [List.cons_append, firstMatch, hi, choose_nil, pure_bind]
    exact ih hinside

theorem firstMatch_of_match (hs : s.matching wanted ≠ []) (r : Source) :
    firstMatch wanted (s :: outside) r = choose (s.matching wanted) r := by
  obtain ⟨b, -, hb⟩ := choose_mem hs r
  rw [firstMatch, bind_apply, hb]
  exact Prod.ext hb.symm rfl

/-- A scope passes the lookup on or answers it by a choice from its matches. -/
theorem lookup_picksEvenly {st : ScopeStack} (hscopes : st.scopes = inside ++ s :: outside)
    (hpassed : ∀ i ∈ inside, i.matching wanted = []) (hs : s.matching wanted ≠ [])
    (hlength : (s.matching wanted).length < 2 ^ 64) :
    PicksEvenly (.telling (s.matching wanted).length) (s.matching wanted).length (fun i => (s.matching wanted)[i]?)
      (st.lookup wanted) := by
  refine .of_choose hs (s.nodup_matching wanted) hlength fun r => ?_
  rw [lookup, hscopes, firstMatch_of_passed hpassed, firstMatch_of_match hs]

end ScopeStack

/-- Whatever the width of the words and whatever the bound, each number below the bound has equally many words that are
    kept for it, two to the power of the leading zeros of the bound. No word that is kept stands for another number, and
    at least half of all words are kept. So a number is picked evenly below its bound, and the length of a word evenly
    up to its limit. A lookup picks evenly among the matches of the innermost scope that has any, and draws nothing
    where none has. -/
theorem picks_even :
    (∀ width n, 0 < n → n < 2 ^ width →
      (∀ v, accepts width n v = true ↔ v * n % 2 ^ width ≤ (n <<< leadingZeros width n) - 1) ∧
      (∀ v, share width n v = v * n / 2 ^ width) ∧
      (∀ r < n, (Finset.filter (fun v => share width n v = r) (keptWords width n)).card =
        2 ^ leadingZeros width n) ∧
      (∀ v ∈ keptWords width n, share width n v < n) ∧ 2 ^ width ≤ 2 * (keptWords width n).card) ∧
    (∀ bound, PicksEvenly .wide (max 1 (bound.getD Defaults.maxInt).toNat) id (UInt64.toNat <$> number bound)) ∧
    (∀ longest, PicksEvenly .wide (max 1 (longest.getD Defaults.maxIdentifierLength).toNat) (· + 1)
      (String.length <$> drawWord longest)) ∧
    ∀ (st : ScopeStack) wanted,
      ((∀ s ∈ st.scopes, s.matching wanted = []) → ∀ r, st.lookup wanted r = (none, r)) ∧
      ∀ inside s outside, st.scopes = inside ++ s :: outside → (∀ i ∈ inside, i.matching wanted = []) →
        s.matching wanted ≠ [] → (s.matching wanted).length < 2 ^ 64 →
        PicksEvenly (.telling (s.matching wanted).length) (s.matching wanted).length
          (fun i => (s.matching wanted)[i]?) (st.lookup wanted) := by
  refine ⟨?_, number_picksEvenly, drawWord_picksEvenly, ?_⟩
  · intro width n hn hw
    refine ⟨fun v => ?_, fun _ => share_eq, fun r => card_keptWords_of_share hn hw,
      fun v => share_lt_of_mem hn, half_le_card_keptWords hn hw⟩
    have hpos : 0 < n * 2 ^ leadingZeros width n := Nat.mul_pos hn (Nat.two_pow_pos _)
    rw [accepts_iff hn hw, Nat.shiftLeft_eq]
    omega
  · intro st wanted
    refine ⟨fun hnone r => ?_, fun inside s outside => ScopeStack.lookup_picksEvenly⟩
    have hpassed := ScopeStack.firstMatch_of_passed hnone []
    rw [List.append_nil] at hpassed
    rw [ScopeStack.lookup, hpassed]
    rfl

/-- Words of 64 bits for a bound of three, words of 32 bits for the greatest bound, where each number has one word, and
    a lookup of numbers that passes over a scope with a text to two numbers around it. -/
theorem picks_even_two_numbers :
    (0 < 3 ∧ 3 < 2 ^ 64 ∧
      (Finset.filter (fun v => share 64 3 v = 2) (keptWords 64 3)).card = 2 ^ 62) ∧
    (0 < 2 ^ 32 - 1 ∧ 2 ^ 32 - 1 < 2 ^ 32 ∧
      (Finset.filter (fun v => share 32 (2 ^ 32 - 1) v = 7) (keptWords 32 (2 ^ 32 - 1))).card = 1) ∧
    ∃ st : ScopeStack, st.depth = 2 ∧
      (Finset.filter (fun v => [Binding.mk "x" .number, ⟨"y", .number⟩][share 32 2 v]? = some ⟨"y", .number⟩)
        (keptWords 32 2)).card = 2 ^ 30 ∧
      (st.lookup (some .number) (Source.ofSeed 3)).1 = some ⟨"y", .number⟩ ∧
      ∀ r, st.lookup (some .boolean) r = (none, r) := by
  obtain ⟨hwords, -, -, hlookup⟩ := picks_even
  obtain ⟨-, -, hthree, -⟩ := hwords 64 3 (by decide) (by decide)
  obtain ⟨-, -, hmost, -⟩ := hwords 32 (2 ^ 32 - 1) (by decide) (by decide)
  refine ⟨⟨by decide, by decide, hthree 2 (by decide)⟩, ⟨by decide, by decide, hmost 7 (by decide)⟩, ?_⟩
  let inner : Scope := Scope.empty.insert ⟨"s", .string⟩
  let outer : Scope := (Scope.empty.insert ⟨"x", .number⟩).insert ⟨"y", .number⟩
  obtain ⟨hnone, -⟩ := hlookup ⟨inner, [outer]⟩ (some .boolean)
  obtain ⟨-, heven⟩ := hlookup ⟨inner, [outer]⟩ (some .number)
  have hmatches : outer.matching (some .number) = [⟨"x", .number⟩, ⟨"y", .number⟩] := by decide
  have hpick := heven [inner] outer [] rfl (by decide) (by decide) (by decide)
  rw [hmatches] at hpick
  refine ⟨⟨inner, [outer]⟩, rfl, hpick.even 1 (by decide), ?_, hnone (by decide)⟩
  -- of this seed already the first word is kept, and it stands for the second match
  have hfirst : Words.narrow.FirstKept 2 (Source.ofSeed 3) 0 :=
    ⟨fun _ h => absurd h (Nat.not_lt_zero _), Words.next_mem_keptWords.mpr (by decide +kernel)⟩
  have hshare : share 32 2 (Words.narrow.nth 0 (Source.ofSeed 3)).1 = 1 := by decide +kernel
  have htold := hpick.told _ 0 hfirst (Or.inl ⟨3, 0, rfl⟩)
  exact htold.trans (congrArg (fun i => [Binding.mk "x" .number, ⟨"y", .number⟩][i]?) hshare)

end RandomPrograms
