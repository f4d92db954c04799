import RandomPrograms.Randomness.Uniform

/-! What draws can give, whatever the source: a pick below a positive bound is below it, and a choice from
    a list is one of its items, with nothing drawn only where there is no item. -/

namespace RandomPrograms.Randomness.Draw

variable {α β : Type} {P : α → Prop} {Q : β → Prop}

theorem bind_apply (d : Draw α) (f : α → Draw β) (s : Source) : (d >>= f) s = f (d s).1 (d s).2 := rfl

theorem pure_apply (a : α) (s : Source) : (pure a : Draw α) s = (a, s) := rfl

theorem map_apply (f : α → β) (d : Draw α) (s : Source) : (f <$> d) s = (f (d s).1, (d s).2) := rfl

/-- Whatever the source, the draw gives something with the property. -/
def Gives (P : α → Prop) (d : Draw α) : Prop := ∀ s, P (d s).1

namespace Gives

theorem pure {a : α} (h : P a) : Gives P (Pure.pure a) := fun _ => h

theorem bind {d : Draw α} {f : α → Draw β} (hd : Gives P d) (hf : ∀ a, P a → Gives Q (f a)) : Gives Q (d >>= f) :=
  fun s => hf _ (hd s) _

end Gives

/-! ### Numbers -/

theorem firstKept_lt {word : Draw Nat} {width n : Nat} (hw : Gives (· < 1 <<< width) word) (hn : 0 < n) :
    ∀ more, Gives (· < n) (firstKept word width n more)
  | 0 => hw.bind fun _ hv => .pure (share_lt hv hn)
  | more + 1 => hw.bind fun v hv => by
    by_cases ha : accepts width n v = true
    · rw [if_pos ha]
      exact .pure (share_lt hv hn)
    · rw [if_neg ha]
      exact firstKept_lt hw hn more

theorem below64_lt {n : Nat} (hn : 0 < n) : Gives (· < n) (below64 n) :=
  firstKept_lt (fun s => (word64 s).1.toNat_lt) hn period

theorem below32_lt {n : Nat} (hn : 0 < n) : Gives (· < n) (below32 n) :=
  firstKept_lt (fun s => (word32 s).1.toNat_lt) hn period

theorem position_lt {n : Nat} (hn : 0 < n) : Gives (· < n) (position n) := by
  unfold position
  split
  · exact below32_lt hn
  · exact below64_lt hn

/-- A bound of 0 counts as 1. -/
theorem number_lt (bound : UInt64) : Gives (·.toNat < max 1 bound.toNat) (number (some bound)) :=
  (below64_lt (by omega)).bind fun i hi => .pure <| by
    have hb := bound.toNat_lt
    have hi' : i < max 1 bound.toNat := hi
    have hlt : i < 2 ^ 64 := by omega
    have : i.toUInt64.toNat = i := UInt64.toNat_ofNat_of_lt' hlt
    rwa [this]

/-! ### Items -/

theorem choose_nil : choose ([] : List α) = pure none := rfl

/-- A list with items gives one of them. -/
theorem choose_mem {items : List α} (h : items ≠ []) : Gives (fun o => ∃ a ∈ items, o = some a) (choose items) := by
  have hne : ¬items.isEmpty = true := by simpa using h
  have hpos : 0 < items.length := List.length_pos_iff.mpr h
  unfold choose
  rw [if_neg hne]
  refine (position_lt hpos).bind fun i hi => .pure ?_
  exact ⟨items[i], List.getElem_mem hi, List.getElem?_eq_getElem hi⟩

end RandomPrograms.Randomness.Draw
