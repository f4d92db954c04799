import Mathlib.Tactic.SplitIfs
import RandomPrograms.Proofs.Scope.Bindings

/-! The names in scope. Every name that stands for something is listed once, in the order of the bytes that encode it:
    texts are compared by their characters, and a greater character has a greater encoding, whatever follows. -/

namespace RandomPrograms

/-! ### The order of texts -/

namespace Text

def bytes (s : String) : List UInt8 := s.toUTF8.data.toList

theorem bytes_eq (s : String) : bytes s = s.toList.flatMap String.utf8EncodeChar := by
  have hencode : s.toUTF8 = (s.toList.flatMap String.utf8EncodeChar).toByteArray := by
    rw [← List.utf8Encode, ← String.toByteArray_ofList, String.ofList_toList]
    rfl
  rw [bytes, hencode, List.data_toByteArray]

theorem byte_cons_lt_iff {m n : Nat} (hm : m < 256) (hn : n < 256) {x y : List UInt8} :
    UInt8.ofNat m :: x < UInt8.ofNat n :: y ↔ m < n ∨ m = n ∧ x < y := by
  rw [List.cons_lt_cons_iff, UInt8.ofNat_lt_iff_lt hm hn, ← UInt8.toNat_inj, UInt8.toNat_ofNat_of_lt' hm,
    UInt8.toNat_ofNat_of_lt' hn]

theorem encoded_lt {c d : Char} (h : c < d) (x y : List UInt8) :
    String.utf8EncodeChar c ++ x < String.utf8EncodeChar d ++ y := by
  have hlt : c.val.toNat < d.val.toNat := h
  have hmax : d.val.toNat < 0x110000 := by
    rcases d.valid with hd | hd <;> omega
  -- all digits are taken from one chain of divisions by 64
  have hdigits : ∀ n : Nat, n / 4096 = n / 64 / 64 ∧ n / 262144 = n / 64 / 64 / 64 := by omega
  simp only [String.utf8EncodeChar, hdigits]
  -- more bytes begin with a greater first byte, and as many bytes are compared digit by digit
  split_ifs <;> (simp (disch := omega) only [List.cons_append, List.nil_append, byte_cons_lt_iff]) <;> omega

theorem bytes_lt_bytes {s t : String} (h : s < t) : bytes s < bytes t := by
  have hchars : s.toList < t.toList := h
  rw [bytes_eq, bytes_eq]
  generalize s.toList = cs at hchars
  generalize t.toList = ds at hchars
  induction hchars with
  | @nil d ds =>
    rw [List.flatMap_cons]
    rcases hd : String.utf8EncodeChar d with _ | ⟨b, bs⟩
    · exact absurd hd String.utf8EncodeChar_ne_nil
    · exact List.nil_lt_cons _ _
  | rel hlt => exact encoded_lt hlt _ _
  | cons _ ih => exact List.append_left_lt ih

end Text

/-! ### The names -/

theorem Scope.isSome_type?_iff {s : Scope} {n : String} :
    (s.type? n).isSome = true ↔ ∃ b ∈ s.bindings, b.name = n := by
  simp [type?, List.find?_isSome]

namespace ScopeStack

variable {st : ScopeStack} {n name : String}

theorem mem_placeName : ∀ {names : List String}, n ∈ placeName name names ↔ n = name ∨ n ∈ names
  | [] => by simp [placeName]
  | m :: names => by
    unfold placeName
    split_ifs with hlt heq
    · exact List.mem_cons
    · subst heq
      simp
    · rw [List.mem_cons, mem_placeName, List.mem_cons]
      exact or_left_comm

theorem sorted_placeName : ∀ {names : List String}, names.Pairwise (· < ·) → (placeName name names).Pairwise (· < ·)
  | [], _ => List.pairwise_singleton _ _
  | m :: names, h => by
    obtain ⟨hm, hnames⟩ := List.pairwise_cons.mp h
    unfold placeName
    split_ifs with hlt heq
    · refine List.pairwise_cons.mpr ⟨fun n hn => ?_, h⟩
      rcases List.mem_cons.mp hn with rfl | hn
      · exact hlt
      · exact String.lt_trans hlt (hm n hn)
    · exact h
    · refine List.pairwise_cons.mpr ⟨fun n hn => ?_, sorted_placeName hnames⟩
      rcases mem_placeName.mp hn with rfl | hn
      · exact Scope.lt_of_not_lt_of_ne hlt heq
      · exact hm n hn

section
variable {names : List String} {bs : List Binding} {scopes : List Scope}

theorem mem_foldr_placeName :
    n ∈ bs.foldr (fun b names => placeName b.name names) names ↔ (∃ b ∈ bs, b.name = n) ∨ n ∈ names := by
  induction bs with
  | nil => simp
  | cons b bs ih => rw [List.foldr_cons, mem_placeName, ih, List.exists_mem_cons_iff, or_assoc, eq_comm]

theorem sorted_foldr_placeName (h : names.Pairwise (· < ·)) :
    (bs.foldr (fun b names => placeName b.name names) names).Pairwise (· < ·) := by
  induction bs with
  | nil => exact h
  | cons b bs ih => exact sorted_placeName ih

end

theorem sorted_visibleNames (st : ScopeStack) : st.visibleNames.Pairwise (· < ·) := by
  unfold visibleNames
  induction st.scopes with
  | nil => exact List.Pairwise.nil
  | cons s scopes ih => exact sorted_foldr_placeName ih

/-- The names listed are those that stand for something. -/
theorem mem_visibleNames : name ∈ st.visibleNames ↔ (st.resolve name).isSome = true := by
  unfold visibleNames resolve
  induction st.scopes with
  | nil => simp
  | cons s scopes ih =>
    rw [List.foldr_cons, mem_foldr_placeName, ih, List.findSome?_cons, ← Scope.isSome_type?_iff]
    rcases s.type? name with _ | t <;> simp

end ScopeStack

end RandomPrograms
