import Mathlib.Logic.Function.Iterate
import RandomPrograms.Proofs.Randomness.Draws
import RandomPrograms.Proofs.Randomness.Shares

/-! Even picks. A pick takes the first of the next words that is kept for its bound, and each number below the bound
    has equally many of the words that are kept. That a pick gives up after very many words never shows: by then the
    words of a seed have come round again. -/

namespace RandomPrograms.Randomness

/-! ### Words that come round -/

namespace Source

def rest (s : Source) : Source := s.next.2

/-- What is left of the words of a seed after some of them were handed out. -/
def FromSeed (s : Source) : Prop := ∃ seed k, s = rest^[k] (ofSeed seed)

theorem rest_block (key : Key) (b : UInt64) : rest^[16] ⟨key, b, []⟩ = ⟨key, b + 1, []⟩ := rfl

theorem rest_blocks (key : Key) (b : UInt64) (n : Nat) :
    rest^[16 * n] ⟨key, b, []⟩ = ⟨key, b + UInt64.ofNat n, []⟩ := by
  induction n generalizing b with
  | zero => rw [Nat.mul_zero, Function.iterate_zero_apply, show UInt64.ofNat 0 = 0 from rfl, UInt64.add_zero]
  | succ n ih =>
    rw [Nat.mul_succ, Function.iterate_add_apply, rest_block, ih, UInt64.ofNat_add, UInt64.add_assoc,
      UInt64.add_comm 1]
    rfl

/-- The numbers of blocks come round, and the words with them. -/
theorem FromSeed.comes_round {s : Source} (h : s.FromSeed) : rest^[2 ^ 68] s = s := by
  obtain ⟨seed, k, rfl⟩ := h
  have hround : rest^[16 * 2 ^ 64] (ofSeed seed) = ofSeed seed := rest_blocks (Key.ofSeed seed) 0 (2 ^ 64)
  have hcount : 2 ^ 68 = 16 * 2 ^ 64 := by decide
  rw [(Function.Commute.iterate_iterate_self rest _ _).eq, hcount, hround]

end Source

/-- Words of one width, as numbers, and how many words of a source each of them takes. -/
structure Words where
  width : Nat
  next : Draw Nat
  taken : Nat
  next_lt : ∀ s, (next s).1 < 2 ^ width
  rest_next : ∀ s, (next s).2 = Source.rest^[taken] s

namespace Words

def narrow : Words where
  width := 32
  next := do let w ← Draw.word32; return w.toNat
  taken := 1
  next_lt s := (Draw.word32 s).1.toNat_lt
  rest_next _ := rfl

def wide : Words where
  width := 64
  next := do let w ← Draw.word64; return w.toNat
  taken := 2
  next_lt s := (Draw.word64 s).1.toNat_lt
  rest_next _ := rfl

/-- The words that a position among `n` is picked with. -/
def telling (n : Nat) : Words := if n < 2 ^ 32 then narrow else wide

/-- Word number `i` of those that come next. -/
def nth (w : Words) (i : Nat) : Draw Nat := fun s => w.next ((fun t => (w.next t).2)^[i] s)

/-- The first of the next words that is kept for the bound `n` is word number `i`. -/
structure FirstKept (w : Words) (n : Nat) (s : Source) (i : Nat) : Prop where
  before : ∀ j < i, (w.nth j s).1 ∉ keptWords w.width n
  kept : (w.nth i s).1 ∈ keptWords w.width n

variable {w : Words} {n i : Nat} {s : Source}

theorem next_mem_keptWords : (w.next s).1 ∈ keptWords w.width n ↔ accepts w.width n (w.next s).1 = true :=
  mem_keptWords.trans (and_iff_right (w.next_lt s))

theorem nth_succ (w : Words) (i : Nat) (s : Source) : w.nth (i + 1) s = w.nth i (w.next s).2 := rfl

theorem FirstKept.later (h : w.FirstKept n s (i + 1)) : w.FirstKept n (w.next s).2 i where
  before j hj := by
    rw [← nth_succ]
    exact h.before (j + 1) (Nat.succ_lt_succ hj)
  kept := h.kept

theorem nth_add_round (h : s.FromSeed) (i : Nat) : w.nth (i + 2 ^ 68) s = w.nth i s := by
  have hround : (fun t => (w.next t).2)^[2 ^ 68] s = s := by
    rw [funext w.rest_next, ← Function.iterate_mul, Nat.mul_comm, Function.iterate_mul]
    exact Function.iterate_fixed h.comes_round w.taken
  rw [nth, Function.iterate_add_apply, hround]
  rfl

/-- Where no word of a round is kept, none is kept at all. -/
theorem FirstKept.le_period (h : w.FirstKept n s i) (hs : s.FromSeed) : i ≤ Draw.period := by
  by_contra hlate
  have hperiod : Draw.period = 2 ^ 68 := by decide
  obtain ⟨j, rfl⟩ := Nat.exists_eq_add_of_le' (show 2 ^ 68 ≤ i by omega)
  have hrejected := h.before j (by omega)
  have hkept := h.kept
  rw [nth_add_round hs] at hkept
  exact hrejected hkept

end Words

/-! ### Picks -/

namespace Draw

variable {α : Type} [DecidableEq α] {w : Words} {n i : Nat} {s : Source} {item : Nat → α} {d : Draw α}

/-- The source and the result of a pick are those after the first kept word. -/
theorem firstKept_eq {more : Nat} (h : w.FirstKept n s i) (hi : i ≤ more) :
    firstKept w.next w.width n more s = (share w.width n (w.nth i s).1, (w.nth i s).2) := by
  induction more generalizing s i with
  | zero =>
    obtain rfl := Nat.le_zero.mp hi
    rfl
  | succ more ih =>
    rw [firstKept, bind_apply]
    cases i with
    | zero =>
      have hkept : (w.next s).1 ∈ keptWords w.width n := h.kept
      rw [if_pos (Words.next_mem_keptWords.mp hkept)]
      rfl
    | succ i =>
      have hrejected : ¬accepts w.width n (w.next s).1 = true :=
        fun hkept => h.before 0 (Nat.succ_pos i) (Words.next_mem_keptWords.mpr hkept)
      rw [if_neg hrejected, ih h.later (Nat.le_of_succ_le_succ hi)]
      rfl

/-- The draw gives one of `n` items with words of one width: the first word kept for `n` tells which item, and there
    are equally many kept words for each of them. -/
structure PicksEvenly (w : Words) (n : Nat) (item : Nat → α) (d : Draw α) : Prop where
  told : ∀ s i, w.FirstKept n s i → s.FromSeed ∨ i ≤ period → (d s).1 = item (share w.width n (w.nth i s).1)
  even : ∀ r < n, (Finset.filter (fun v => item (share w.width n v) = item r) (keptWords w.width n)).card =
    2 ^ leadingZeros w.width n

/-- A draw is even if a pick tells its items apart. -/
theorem PicksEvenly.of_pick (hn : 0 < n) (hw : n < 2 ^ w.width)
    (hd : ∀ s, (d s).1 = item (firstKept w.next w.width n period s).1)
    (hitem : ∀ q < n, ∀ r < n, item q = item r → q = r) : PicksEvenly w n item d where
  told s i h hs := by
    have hi : i ≤ period := hs.elim h.le_period id
    rw [hd, firstKept_eq h hi]
  even r hr := by
    rw [← card_keptWords_of_share hn hw hr]
    refine congrArg Finset.card (Finset.filter_congr fun v hv => ?_)
    exact ⟨hitem _ (share_lt_of_mem hn hv) r hr, congrArg item⟩

theorem below64_eq (n : Nat) : below64 n = firstKept Words.wide.next Words.wide.width n period := rfl

theorem number_picksEvenly (bound : Option UInt64) :
    PicksEvenly .wide (max 1 (bound.getD Defaults.maxInt).toNat) id (UInt64.toNat <$> number bound) := by
  have hbound := (bound.getD Defaults.maxInt).toNat_lt
  have hpos : 0 < max 1 (bound.getD Defaults.maxInt).toNat := by omega
  have hfits : max 1 (bound.getD Defaults.maxInt).toNat < 2 ^ 64 := by omega
  refine .of_pick hpos hfits (fun s => ?_) fun q _ r _ h => h
  have hlt := below64_lt hpos s
  rw [← below64_eq, map_apply, number, bind_apply, pure_apply]
  exact UInt64.toNat_ofNat_of_lt' (Nat.lt_trans hlt hfits)

/-! ### Items of a list -/

theorem choose_apply {β : Type} {items : List β} (h : items ≠ []) (s : Source) :
    choose items s = (items[(position items.length s).1]?, (position items.length s).2) := by
  have hne : ¬items.isEmpty = true := by simpa using h
  rw [choose, if_neg hne, bind_apply, pure_apply]

theorem position_eq (n : Nat) :
    position n = firstKept (Words.telling n).next (Words.telling n).width n period := by
  unfold position Words.telling
  rw [Nat.one_shiftLeft]
  split <;> rfl

theorem lt_two_pow_telling (h : n < 2 ^ 64) : n < 2 ^ (Words.telling n).width := by
  unfold Words.telling
  split
  · assumption
  · exact h

/-- From a list without repetition each item is chosen as easily as any other, whatever else a draw does behind the
    choice. -/
theorem PicksEvenly.of_choose {items : List α} {d : Draw (Option α)} (hne : items ≠ []) (hnodup : items.Nodup)
    (hlength : items.length < 2 ^ 64) (hd : ∀ s, (d s).1 = (choose items s).1) :
    PicksEvenly (.telling items.length) items.length (fun i => items[i]?) d := by
  refine .of_pick (List.length_pos_iff.mpr hne) (lt_two_pow_telling hlength) (fun s => ?_) ?_
  · rw [hd, choose_apply hne, position_eq]
  · intro q hq r _ h
    exact (List.getElem?_inj hq hnodup).mp h

end Draw

end RandomPrograms.Randomness
