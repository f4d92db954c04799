import RandomPrograms.Defaults
import RandomPrograms.Randomness.Source

/-! Uniform picks below a bound, by multiplying a word with the bound and taking the high half. A word is
    thrown away when the low half shows that it stands in the incomplete last share; what is kept falls on
    every number below the bound equally often.

    A keystream repeats after 2^68 words, so a pick looks at no more than 2^68 of them: had it thrown all of
    these away, it would throw away the same words forever. -/

namespace RandomPrograms.Randomness

/-! ### One word -/

/-- The bound `n` moved up as far as it fits into `width` bits, less one: the highest low half that is kept. -/
def zone (width n : Nat) : Nat := (n <<< (width - 1 - n.log2)) - 1

/-- Whether the word `v` is kept for the bound `n`. -/
def accepts (width n v : Nat) : Bool := decide (v * n % (1 <<< width) ≤ zone width n)

/-- The number below `n` that the word `v` stands for. -/
def share (width n v : Nat) : Nat := (v * n) >>> width

theorem share_lt {width n v : Nat} (hv : v < 1 <<< width) (hn : 0 < n) : share width n v < n := by
  rw [Nat.one_shiftLeft] at hv
  unfold share
  rw [Nat.shiftRight_eq_div_pow, Nat.div_lt_iff_lt_mul (Nat.two_pow_pos width), Nat.mul_comm n]
  exact Nat.mul_lt_mul_of_pos_right hv hn

/-! ### Picks -/

namespace Draw

/-- The number that the first kept word stands for, of the next `more + 1` words; the last of them counts
    whether kept or not. -/
def firstKept (word : Draw Nat) (width n : Nat) : (more : Nat) → Draw Nat
  | 0 => do
    let v ← word
    return share width n v
  | more + 1 => do
    let v ← word
    if accepts width n v then return share width n v
    else firstKept word width n more

/-- No pick looks at more words than this. -/
def period : Nat := 1 <<< 68

/-- A number below `n`, picked with words of 64 bits. -/
def below64 (n : Nat) : Draw Nat :=
  firstKept (do let w ← word64; return w.toNat) 64 n period

/-- A number below `n`, picked with words of 32 bits. -/
def below32 (n : Nat) : Draw Nat :=
  firstKept (do let w ← word32; return w.toNat) 32 n period

/-- A fair coin: true for the lower half of the words. -/
def coin : Draw Bool := do
  let w ← word64
  return decide (w.toNat < 1 <<< 63)

/-- A position among `n`, picked with words of 32 bits unless there are as many positions as such words. -/
def position (n : Nat) : Draw Nat := if n < 1 <<< 32 then below32 n else below64 n

/-- One of the items; an empty list has none, and nothing is drawn for it. -/
def choose {α : Type} (items : List α) : Draw (Option α) :=
  if items.isEmpty then return none
  else do
    let i ← position items.length
    return items[i]?

/-- One of the cases of a fixed list, picked with words of 64 bits. -/
def among {α : Type} (cases : List α) (nonempty : cases ≠ []) : Draw α := do
  let i ← below64 cases.length
  return cases.getD i (cases.head nonempty)

/-- A number below the bound; the bound counts as 1 if it is 0. -/
def number (bound : Option UInt64) : Draw UInt64 := do
  let i ← below64 (max 1 (bound.getD Defaults.maxInt).toNat)
  return i.toUInt64

end Draw

end RandomPrograms.Randomness
