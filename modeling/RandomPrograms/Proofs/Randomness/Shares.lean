import Mathlib.Algebra.Order.BigOperators.Group.Finset
import Mathlib.Algebra.Order.Floor.Div
import Mathlib.Order.Interval.Finset.Nat
import RandomPrograms.Randomness.Uniform

/-! How many words stand for each number below a bound. The words kept for a number are those whose product with
    the bound lies in the lower part of this number's share. They follow one another, and their number is a power of
    two whose exponent counts the leading zeros of the bound: the same for every number below the bound. Together
    they are at least half of all words. -/

namespace RandomPrograms.Randomness

variable {width n v r : Nat}

/-! ### The zone -/

/-- The zero bits before the highest one of `n`, where `n` is written with `width` bits. -/
def leadingZeros (width n : Nat) : Nat := (BitVec.ofNat width n).clz.toNat

section
variable (hn : 0 < n) (hw : n < 2 ^ width)
include hn hw

theorem width_pos : 0 < width := by
  rcases Nat.eq_zero_or_pos width with rfl | h
  · omega
  · exact h

theorem leadingZeros_spec : leadingZeros width n < width ∧
    2 ^ (width - 1 - leadingZeros width n) ≤ n ∧ n < 2 ^ (width - leadingZeros width n) := by
  have hvalue : (BitVec.ofNat width n).toNat = n := by
    rw [BitVec.toNat_ofNat, Nat.mod_eq_of_lt hw]
  have hne : BitVec.ofNat width n ≠ BitVec.ofNat width 0 := by
    intro h
    rw [h, BitVec.toNat_ofNat, Nat.zero_mod] at hvalue
    omega
  have hlower := BitVec.two_pow_sub_clz_le_toNat_of_ne_zero (width_pos hn hw) hne
  have hupper := BitVec.toNat_lt_two_pow_sub_clz (x := BitVec.ofNat width n)
  rw [hvalue] at hlower hupper
  refine ⟨?_, hlower, hupper⟩
  by_contra hlong
  have hnone : width - leadingZeros width n = 0 := by omega
  rw [leadingZeros] at hnone
  rw [hnone, Nat.pow_zero] at hupper
  omega

theorem leadingZeros_eq : leadingZeros width n = width - 1 - n.log2 := by
  obtain ⟨hlt, hlower, hupper⟩ := leadingZeros_spec hn hw
  have hlog : n.log2 = width - 1 - leadingZeros width n := by
    rw [Nat.log2_eq_iff (by omega)]
    refine ⟨hlower, ?_⟩
    rwa [show width - 1 - leadingZeros width n + 1 = width - leadingZeros width n by omega]
  omega

theorem shifted_le : n * 2 ^ leadingZeros width n ≤ 2 ^ width := by
  obtain ⟨hlt, -, hupper⟩ := leadingZeros_spec hn hw
  calc n * 2 ^ leadingZeros width n
      ≤ 2 ^ (width - leadingZeros width n) * 2 ^ leadingZeros width n := Nat.mul_le_mul_right _ hupper.le
    _ = 2 ^ width := by rw [← Nat.pow_add, Nat.sub_add_cancel hlt.le]

theorem le_two_mul_shifted : 2 ^ width ≤ 2 * (n * 2 ^ leadingZeros width n) := by
  obtain ⟨hlt, hlower, -⟩ := leadingZeros_spec hn hw
  have hwidth : width - 1 - leadingZeros width n + leadingZeros width n + 1 = width := by omega
  calc 2 ^ width
      = 2 * (2 ^ (width - 1 - leadingZeros width n) * 2 ^ leadingZeros width n) := by
        rw [← Nat.pow_add, ← Nat.pow_succ', Nat.succ_eq_add_one, hwidth]
    _ ≤ 2 * (n * 2 ^ leadingZeros width n) := Nat.mul_le_mul_left 2 (Nat.mul_le_mul_right _ hlower)

theorem zone_eq : zone width n = n * 2 ^ leadingZeros width n - 1 := by
  rw [zone, leadingZeros_eq hn hw, Nat.shiftLeft_eq]

/-! ### Words of one share -/

theorem accepts_iff : accepts width n v = true ↔ v * n % 2 ^ width < n * 2 ^ leadingZeros width n := by
  have hpos : 0 < n * 2 ^ leadingZeros width n := Nat.mul_pos hn (Nat.two_pow_pos _)
  rw [accepts, decide_eq_true_iff, zone_eq hn hw, Nat.one_shiftLeft]
  omega

end

theorem share_eq : share width n v = v * n / 2 ^ width := Nat.shiftRight_eq_div_pow _ _

/-- The words that are kept for the bound `n`. -/
def keptWords (width n : Nat) : Finset Nat := {v ∈ Finset.range (2 ^ width) | accepts width n v = true}

theorem mem_keptWords : v ∈ keptWords width n ↔ v < 2 ^ width ∧ accepts width n v = true := by
  rw [keptWords, Finset.mem_filter, Finset.mem_range]

/-- No word stands for a number that is not below the bound. -/
theorem share_lt_of_mem (hn : 0 < n) (hv : v ∈ keptWords width n) : share width n v < n := by
  rw [mem_keptWords, ← Nat.one_shiftLeft] at hv
  exact share_lt hv.1 hn

/-- The first word whose product with `n` reaches the share of `r`. -/
def firstSharer (width n r : Nat) : Nat := r * 2 ^ width ⌈/⌉ n

section
variable (hn : 0 < n) (hw : n < 2 ^ width)
include hn hw

/-- A word is kept for `r` exactly if its product with `n` lies in the lower part of the share of `r`. -/
theorem kept_iff : accepts width n v = true ∧ share width n v = r ↔
    r * 2 ^ width ≤ v * n ∧ v * n < r * 2 ^ width + n * 2 ^ leadingZeros width n := by
  have hfits := shifted_le hn hw
  rw [accepts_iff hn hw, share_eq]
  have hsplit := Nat.div_add_mod (v * n) (2 ^ width)
  have hmod := Nat.mod_lt (v * n) (Nat.two_pow_pos width)
  constructor
  · rintro ⟨hlow, rfl⟩
    rw [Nat.mul_comm] at hsplit
    omega
  · rintro ⟨hge, hlt⟩
    have hshare : v * n / 2 ^ width = r :=
      Nat.div_eq_of_lt_le hge (by rw [Nat.succ_mul]; omega)
    rw [hshare, Nat.mul_comm] at hsplit
    exact ⟨by omega, hshare⟩

/-- The words kept for `r` follow one another. -/
theorem kept_iff_mem_Ico : accepts width n v = true ∧ share width n v = r ↔
    v ∈ Finset.Ico (firstSharer width n r) (firstSharer width n r + 2 ^ leadingZeros width n) := by
  have hfrom : ∀ u, firstSharer width n r ≤ u ↔ r * 2 ^ width ≤ u * n := fun u => by
    rw [firstSharer, ceilDiv_le_iff_le_mul hn, Nat.mul_comm n]
  rw [kept_iff hn hw, Finset.mem_Ico, hfrom]
  refine and_congr_right fun _ => ?_
  rcases Nat.lt_or_ge v (2 ^ leadingZeros width n) with hsmall | hlarge
  · have hproduct : v * n < n * 2 ^ leadingZeros width n := by
      rw [Nat.mul_comm n]
      exact Nat.mul_lt_mul_of_pos_right hsmall hn
    exact iff_of_true (by omega) (by omega)
  · -- `v` lies too high exactly if the word that many places below it has reached the share
    obtain ⟨u, rfl⟩ := Nat.exists_eq_add_of_le' hlarge
    rw [← not_le, ← not_le, Nat.add_le_add_iff_right, hfrom, Nat.add_mul, Nat.mul_comm n, Nat.add_le_add_iff_right]

theorem lt_of_kept (hr : r < n) (h : accepts width n v = true ∧ share width n v = r) : v < 2 ^ width := by
  have hfits := shifted_le hn hw
  have hproduct := ((kept_iff hn hw).mp h).2
  have hshares : (r + 1) * 2 ^ width ≤ n * 2 ^ width := Nat.mul_le_mul_right _ hr
  rw [Nat.succ_mul] at hshares
  have hbelow : v * n < 2 ^ width * n := by
    rw [Nat.mul_comm (2 ^ width)]
    omega
  exact Nat.lt_of_mul_lt_mul_right hbelow

theorem keptWords_of_share (hr : r < n) : {v ∈ keptWords width n | share width n v = r} =
    Finset.Ico (firstSharer width n r) (firstSharer width n r + 2 ^ leadingZeros width n) := by
  ext v
  rw [Finset.mem_filter, mem_keptWords, and_assoc, ← kept_iff_mem_Ico hn hw]
  exact and_iff_right_of_imp (lt_of_kept hn hw hr)

theorem card_keptWords_of_share (hr : r < n) :
    (Finset.filter (fun v => share width n v = r) (keptWords width n)).card = 2 ^ leadingZeros width n := by
  rw [keptWords_of_share hn hw hr, Nat.card_Ico, Nat.add_sub_cancel_left]

theorem card_keptWords : (keptWords width n).card = n * 2 ^ leadingZeros width n := by
  have hshares : ∀ v ∈ keptWords width n, share width n v ∈ Finset.range n := fun v hv =>
    Finset.mem_range.mpr (share_lt_of_mem hn hv)
  rw [Finset.card_eq_sum_card_fiberwise hshares]
  calc ∑ r ∈ Finset.range n, _
      = (Finset.range n).card * 2 ^ leadingZeros width n := Finset.sum_const_nat fun r hr =>
        card_keptWords_of_share hn hw (Finset.mem_range.mp hr)
    _ = n * 2 ^ leadingZeros width n := by rw [Finset.card_range]

theorem half_le_card_keptWords : 2 ^ width ≤ 2 * (keptWords width n).card := by
  rw [card_keptWords hn hw]
  exact le_two_mul_shifted hn hw

end

end RandomPrograms.Randomness
