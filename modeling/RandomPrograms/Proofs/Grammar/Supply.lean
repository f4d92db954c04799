import Mathlib.Algebra.BigOperators.Group.Finset.Sigma
import Mathlib.Order.Interval.Finset.Nat
import RandomPrograms.Proofs.Grammar.Vocabulary

/-! How many names there are: as many as there are words of at most the allowed number of letters, less those that are
    reserved. The reserved words are all different words of this kind, so that each of them takes one away. -/

namespace RandomPrograms.Grammar

/-! ### Words -/

/-- All sequences of so many letters. -/
def letterings : Nat → Finset (List Char)
  | 0 => {[]}
  | n + 1 => (alphabet.toFinset ×ˢ letterings n).image fun w => w.1 :: w.2

variable {n : Nat} {s : String}

theorem mem_letterings {w : List Char} : w ∈ letterings n ↔ w.length = n ∧ ∀ c ∈ w, c ∈ alphabet := by
  induction n generalizing w with
  | zero =>
    rw [letterings, Finset.mem_singleton, List.length_eq_zero_iff]
    exact ⟨fun h => ⟨h, by rw [h]; exact fun c hc => by cases hc⟩, fun h => h.1⟩
  | succ n ih =>
    simp only [letterings, Finset.mem_image, Finset.mem_product, List.mem_toFinset, Prod.exists]
    constructor
    · rintro ⟨c, v, ⟨hc, hv⟩, rfl⟩
      obtain ⟨hlength, hletters⟩ := ih.mp hv
      exact ⟨by rw [List.length_cons, hlength], List.forall_mem_cons.mpr ⟨hc, hletters⟩⟩
    · rintro ⟨hlength, hletters⟩
      obtain ⟨c, v, rfl⟩ := List.exists_cons_of_length_eq_add_one hlength
      obtain ⟨hc, hv⟩ := List.forall_mem_cons.mp hletters
      exact ⟨c, v, ⟨hc, ih.mpr ⟨Nat.succ.inj hlength, hv⟩⟩, rfl⟩

theorem card_letterings (n : Nat) : (letterings n).card = 52 ^ n := by
  induction n with
  | zero => rfl
  | succ n ih =>
    have hinjective : Function.Injective fun w : Char × List Char => w.1 :: w.2 := by
      intro v w h
      exact Prod.ext (List.cons.inj h).1 (List.cons.inj h).2
    have halphabet : alphabet.toFinset.card = 52 := by decide +kernel
    rw [letterings, Finset.card_image_of_injective _ hinjective, Finset.card_product, ih, halphabet, pow_succ']

/-- All words of at most so many letters. -/
def words (n : Nat) : Finset String := ((Finset.Icc 1 n).biUnion letterings).image String.ofList

theorem mem_words : s ∈ words n ↔ IsWord n s := by
  simp only [words, Finset.mem_image, Finset.mem_biUnion, Finset.mem_Icc, mem_letterings]
  constructor
  · rintro ⟨w, ⟨i, ⟨hpos, hle⟩, hlength, hletters⟩, rfl⟩
    rw [← String.toList_ofList (l := w)] at hlength hletters
    exact ⟨hletters, List.ne_nil_of_length_pos (by omega), by omega⟩
  · intro h
    have hpos := List.length_pos_iff.mpr h.nonempty
    exact ⟨s.toList, ⟨s.toList.length, ⟨hpos, h.short⟩, rfl, h.letters⟩, String.ofList_toList⟩

theorem card_words (n : Nat) : (words n).card = ∑ i ∈ Finset.Icc 1 n, 52 ^ i := by
  have hinjective : Function.Injective String.ofList := fun v w h => by
    rw [← String.toList_ofList (l := v), h, String.toList_ofList]
  have hdisjoint : (Finset.Icc 1 n : Set Nat).PairwiseDisjoint letterings := by
    intro i _ j _ hne
    refine Finset.disjoint_left.mpr fun w hi hj => hne ?_
    rw [← (mem_letterings.mp hi).1, (mem_letterings.mp hj).1]
  rw [words, Finset.card_image_of_injective _ hinjective, Finset.card_biUnion hdisjoint]
  exact Finset.sum_congr rfl fun i _ => card_letterings i

/-! ### Names -/

/-- The reserved words of at most so many letters. -/
def reservedWithin (n : Nat) : List String := reservedWords.filter (·.length ≤ n)

/-- The number of words of at most so many letters that are not reserved. -/
def nameCount (n : Nat) : Nat := ∑ i ∈ Finset.Icc 1 n, 52 ^ i - (reservedWithin n).length

/-- All names of at most so many letters. -/
def names (n : Nat) : Finset String := words n \ (reservedWithin n).toFinset

theorem mem_reservedWithin : s ∈ reservedWithin n ↔ s ∈ reservedWords ∧ s.toList.length ≤ n := by
  rw [reservedWithin, List.mem_filter, decide_eq_true_eq, String.length_toList]

theorem isWord_of_mem_reservedWithin (h : s ∈ reservedWithin n) : IsWord n s := by
  have hall : reservedWords.all (fun w => w.toList.all alphabet.contains && !w.toList.isEmpty) = true := by
    decide +kernel
  obtain ⟨hreserved, hshort⟩ := mem_reservedWithin.mp h
  obtain ⟨hletters, hnonempty⟩ := Bool.and_eq_true_iff.mp (List.all_eq_true.mp hall s hreserved)
  refine ⟨fun c hc => List.contains_iff_mem.mp (List.all_eq_true.mp hletters c hc), ?_, hshort⟩
  simpa using hnonempty

theorem mem_names : s ∈ names n ↔ IsName n s := by
  rw [names, Finset.mem_sdiff, mem_words, List.mem_toFinset, mem_reservedWithin]
  constructor
  · rintro ⟨hword, hfree⟩
    refine ⟨hword, Bool.eq_false_iff.mpr fun hreserved => hfree ⟨List.contains_iff_mem.mp hreserved, hword.short⟩⟩
  · intro hname
    refine ⟨hname.toIsWord, fun hmem => ?_⟩
    have hreserved : isReserved s = true := List.contains_iff_mem.mpr hmem.1
    rw [hname.unreserved] at hreserved
    cases hreserved

/-- The reserved words differ from each other. -/
theorem card_names (n : Nat) : (names n).card = nameCount n := by
  have hnodup : (reservedWithin n).Nodup := List.Nodup.filter _ (by decide +kernel)
  have hsubset : (reservedWithin n).toFinset ⊆ words n := fun s hs =>
    mem_words.mpr (isWord_of_mem_reservedWithin (List.mem_toFinset.mp hs))
  rw [names, Finset.card_sdiff_of_subset hsubset, card_words, List.toFinset_card_of_nodup hnodup, nameCount]

/-- Different names cannot be more than there are. -/
theorem length_le_nameCount {l : List String} (hnodup : l.Nodup) (hnames : ∀ s ∈ l, IsName n s) :
    l.length ≤ nameCount n := by
  have hsubset : l.toFinset ⊆ names n := fun s hs => mem_names.mpr (hnames s (List.mem_toFinset.mp hs))
  calc l.length = l.toFinset.card := (List.toFinset_card_of_nodup hnodup).symm
    _ ≤ (names n).card := Finset.card_le_card hsubset
    _ = nameCount n := card_names n

/-- Of the names of at most two letters, six are reserved. -/
example : nameCount 2 = 52 + 52 ^ 2 - 6 := by decide +kernel

end RandomPrograms.Grammar
