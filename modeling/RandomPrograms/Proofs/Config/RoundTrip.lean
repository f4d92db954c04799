import RandomPrograms.Json.Write
import RandomPrograms.Proofs.Config.Overrides

/-! A configuration that has been written is read back as it was. What is written is an object that gives each field its
    value, once and in a spelling of its kind, so that all of the default configuration is replaced. Reading therefore
    ends with the check of the configuration that was written. -/

namespace RandomPrograms.Config

open Json

/-! ### Written values -/

theorem Paired.written (s : String) : Paired (writtenPieces s) := by
  rw [writtenPieces]
  induction s.toList with
  | nil => exact .nil
  | cons c cs ih =>
    rw [List.map_cons, writtenPiece]
    split_ifs with hc
    · refine .unit ?_ ?_ ih
      · simp [isHighHalf]; omega
      · simp [isLowHalf]; omega
    · exact .char ih

theorem plainWord?_natural (x : UInt64) : plainWord? (Document.number x.toNat).node = some x := by
  have hsize : Nat.ofDigitChars 10 (Nat.toDigits 10 x.toNat) 0 = x.toNat := Nat.ofDigitChars_ten_toDigits
  rw [Document.node, NumberLiteral.natural, plainWord?, hsize, if_pos x.toNat_lt_size]
  exact congrArg some UInt64.ofNat_toNat

theorem plainText?_written (s : String) : plainText? (Document.text s).node = some s := by
  rw [Document.node, plainText?, decodeText_written]
  rfl

/-- The value of a field is written as one of the field's kind. -/
theorem Field.accepts_written (c : Config) (f : Field) : f.Accepts (c.fieldDocument f).node := by
  cases f with
  | indent => exact .written c.indent
  | seed =>
    rcases hseed : c.seed with _ | seed
    · simp [fieldDocument, hseed, Document.node, Accepts]
    · simpa only [fieldDocument, hseed] using ⟨seed, plainWord?_natural seed⟩
  | _ => exact ⟨_, plainWord?_natural _⟩

/-! ### Written members -/

theorem Field.ofName?_name (f : Field) : Field.ofName? f.name = some f := by
  cases f <;> rfl

theorem field?_written (f : Field) : field? (writtenPieces f.name) = some f := by
  rw [field?, decodeText_written]
  exact f.ofName?_name

def members (c : Config) : List (List Piece × Node) :=
  Field.all.map fun f => (writtenPieces f.name, (c.fieldDocument f).node)

theorem known_members (c : Config) : known c.members = Field.all.map fun f => (f, (c.fieldDocument f).node) := by
  simp only [known, members, List.filterMap_map, Function.comp_def, field?_written, Option.map_some]
  exact congrFun List.filterMap_eq_map _

theorem regular_members (c : Config) : Regular c.members where
  keys := by
    rw [members, List.forall_mem_map]
    exact fun f _ => .written f.name
  once := by
    have hnodup : Field.all.Nodup := by decide
    rw [known_members, List.map_map]
    exact (List.map_id Field.all).symm ▸ hnodup
  values := by
    rw [known_members, List.forall_mem_map]
    exact fun f _ => f.accepts_written c

theorem overridden_members (c : Config) : overridden (known c.members) = c := by
  have hlookup : ∀ f, (known c.members).lookup f = some (c.fieldDocument f).node := by
    rw [known_members]
    intro f
    cases f <;> rfl
  have hseed : plainWord? (c.fieldDocument .seed).node = c.seed := by
    rcases hseed : c.seed with _ | seed
    · simp only [fieldDocument, hseed]
      rfl
    · simp only [fieldDocument, hseed, plainWord?_natural]
  simp only [overridden, wordOr, hlookup, Option.bind_some, hseed]
  simp only [fieldDocument, plainWord?_natural, plainText?_written, Option.getD_some]

/-- Whether usable or not, a configuration that is written and read gets the answer of its own check: it comes
    back unchanged, or is refused for the problem that it has. -/
theorem written_read_back (c : Config) : Answers c.document.compact c := by
  have hread := read_regular (Document.isText_compact c.document) (regular_members c)
  exact answers_of_read (hread.trans (congrArg Except.ok (overridden_members c)))

end RandomPrograms.Config
