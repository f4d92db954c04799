import Mathlib.Logic.Basic
import RandomPrograms.Error

/-! What a configuration gives that is accepted: its limits are positive, and its indentation is one. -/

namespace RandomPrograms.Config

variable {c : Config}

/-- The first limit that is zero is named before the indentation is looked at. -/
theorem validate_of_find_zero {l : Field × UInt64} (h : c.positiveLimits.find? (·.2 == 0) = some l) :
    c.validate = .error (.configuration (.notPositive l.1)) := by
  unfold validate problem?
  rw [h]

theorem validate_of_no_zero (h : c.positiveLimits.find? (·.2 == 0) = none) :
    c.validate = if isIndent c.indent then .ok () else .error (.configuration (.badIndent c.indent)) := by
  unfold validate problem?
  rw [h]
  rcases isIndent c.indent with _ | _ <;> rfl

theorem find_zero_eq_none_iff : c.positiveLimits.find? (·.2 == 0) = none ↔ ∀ l ∈ c.positiveLimits, 0 < l.2.toNat := by
  rw [List.find?_eq_none]
  refine forall₂_congr fun l _ => ?_
  rw [beq_iff_eq, ← UInt64.toNat_inj, Nat.pos_iff_ne_zero]
  rfl

theorem validate_eq_ok_iff :
    c.validate = .ok () ↔ (∀ l ∈ c.positiveLimits, 0 < l.2.toNat) ∧ isIndent c.indent = true := by
  rw [← find_zero_eq_none_iff]
  rcases hfind : c.positiveLimits.find? (·.2 == 0) with _ | l
  · rw [validate_of_no_zero hfind, hfind]
    simp
  · rw [validate_of_find_zero hfind, hfind]
    simp

theorem positive_of_validate (h : c.validate = .ok ()) : ∀ l ∈ c.positiveLimits, 0 < l.2.toNat :=
  (validate_eq_ok_iff.mp h).1

theorem isIndent_of_validate (h : c.validate = .ok ()) : isIndent c.indent = true := (validate_eq_ok_iff.mp h).2

theorem maxIdentifierLength_pos (h : c.validate = .ok ()) : 0 < c.maxIdentifierLength.toNat :=
  positive_of_validate h (.maxIdentifierLength, c.maxIdentifierLength) (by simp [positiveLimits])

theorem maxInt_pos (h : c.validate = .ok ()) : 0 < c.maxInt.toNat :=
  positive_of_validate h (.maxInt, c.maxInt) (by simp [positiveLimits])

theorem maxIndentLevel_pos (h : c.validate = .ok ()) : 0 < c.maxIndentLevel.toNat :=
  positive_of_validate h (.maxIndentLevel, c.maxIndentLevel) (by simp [positiveLimits])

theorem blockSizeBudget_pos (h : c.validate = .ok ()) : 0 < c.blockSizeBudget.toNat :=
  positive_of_validate h (.blockSizeBudget, c.blockSizeBudget) (by simp [positiveLimits])

end RandomPrograms.Config
