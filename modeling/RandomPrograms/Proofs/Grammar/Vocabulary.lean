import RandomPrograms.Grammar.Condition
import RandomPrograms.Proofs.Randomness.Draws

/-! The words and literals that draws give: a word is made of letters, has at least one of them and at most
    as many as the limit says, and a literal has the type asked for and keeps to its limit. -/

namespace RandomPrograms.Grammar

open Randomness Draw

/-! ### Words -/

/-- Letters only, at least one and at most `n` of them. -/
structure IsWord (n : Nat) (s : String) : Prop where
  letters : ∀ c ∈ s.toList, c ∈ alphabet
  nonempty : s.toList ≠ []
  short : s.toList.length ≤ n

/-- A word that can name a variable. -/
structure IsName (n : Nat) (s : String) : Prop extends IsWord n s where
  unreserved : isReserved s = false

theorem drawLetters_gives :
    ∀ n, Gives (fun l : List Char => l.length = n ∧ ∀ c ∈ l, c ∈ alphabet) (drawLetters n)
  | 0 => .pure (by simp)
  | n + 1 => (choose_mem (by decide)).bind fun o ho => (drawLetters_gives n).bind fun l hl => .pure <| by
    obtain ⟨c, hc, rfl⟩ := ho
    obtain ⟨hlen, hmem⟩ := hl
    refine ⟨by simp [hlen], fun d hd => ?_⟩
    rcases List.mem_cons.mp hd with rfl | hd
    · exact hc
    · exact hmem d hd

/-- A limit of 0 counts as 1. -/
theorem drawWord_isWord (limit : UInt64) : Gives (IsWord (max 1 limit.toNat)) (drawWord (some limit)) :=
  (below64_lt (by omega)).bind fun less hless => (drawLetters_gives (less + 1)).bind fun l hl => .pure <| by
    obtain ⟨hlen, hmem⟩ := hl
    refine ⟨by simpa using hmem, ?_, ?_⟩
    · rw [String.toList_ofList]
      exact List.ne_nil_of_length_eq_add_one hlen
    · rw [String.toList_ofList, hlen]
      exact hless

/-! ### Literals -/

namespace Value

/-- The most letters a word may have. -/
def Limits.letters (limits : Limits) : Nat := max 1 limits.maxWordLength.toNat

/-- The literal keeps to the limits; a limit of 0 counts as 1. -/
def Fits (limits : Limits) : Value → Prop
  | .number n => n.toNat < max 1 limits.maxInt.toNat
  | .string s => IsWord limits.letters s
  | .boolean _ => True

theorem draw_gives (limits : Limits) (t : VarType) :
    Gives (fun v : Value => v.type = t ∧ v.Fits limits) (draw limits t) := by
  cases t with
  | number => exact (number_lt limits.maxInt).bind fun n hn => .pure ⟨rfl, hn⟩
  | string => exact (drawWord_isWord limits.maxWordLength).bind fun s hs => .pure ⟨rfl, hs⟩
  | boolean => exact fun _ => ⟨rfl, trivial⟩

end Value

end RandomPrograms.Grammar
