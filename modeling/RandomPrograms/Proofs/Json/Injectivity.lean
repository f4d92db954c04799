import RandomPrograms.Proofs.Json.Written

/-! The tree that a document is written as keeps all that the document holds, so that no two documents are written
    alike. -/

namespace RandomPrograms.Json

theorem writtenPieces_inj {s s' : String} (h : writtenPieces s = writtenPieces s') : s = s' := by
  have hread := decodeText_written s
  rw [h, decodeText_written] at hread
  exact (Except.ok.inj hread).symm

theorem NumberLiteral.natural_inj {m n : Nat} (h : natural m = natural n) : m = n := by
  have hdigits : Nat.toDigits 10 m = Nat.toDigits 10 n := congrArg NumberLiteral.whole h
  rw [← Nat.ofDigitChars_ten_toDigits (n := m), hdigits, Nat.ofDigitChars_ten_toDigits]

namespace Document

mutual

/-- The tree that a document is written as is that of no other document. -/
theorem node_inj : ∀ {d e : Document}, d.node = e.node → d = e
  | .null, e, h => by cases e <;> cases h; rfl
  | .boolean b, e, h => by cases e <;> cases h; rfl
  | .number n, e, h => by
    cases e <;> simp only [node, reduceCtorEq, Node.number.injEq] at h
    rw [NumberLiteral.natural_inj h]
  | .text s, e, h => by
    cases e <;> simp only [node, reduceCtorEq, Node.text.injEq] at h
    rw [writtenPieces_inj h]
  | .list ds, e, h => by
    cases e <;> simp only [node, reduceCtorEq, Node.list.injEq] at h
    rw [itemNodes_inj h]
  | .object ms, e, h => by
    cases e <;> simp only [node, reduceCtorEq, Node.object.injEq] at h
    rw [memberNodes_inj h]

theorem itemNodes_inj : ∀ {ds es : List Document}, itemNodes ds = itemNodes es → ds = es
  | [], [], _ => rfl
  | d :: ds, e :: es, h => by
    obtain ⟨hd, hds⟩ := List.cons.inj h
    rw [node_inj hd, itemNodes_inj hds]

theorem memberNodes_inj : ∀ {ms ns : List (String × Document)}, memberNodes ms = memberNodes ns → ms = ns
  | [], [], _ => rfl
  | (k, d) :: ms, (l, e) :: ns, h => by
    obtain ⟨hm, hms⟩ := List.cons.inj h
    obtain ⟨hk, hd⟩ := Prod.mk.inj hm
    rw [writtenPieces_inj hk, node_inj hd, memberNodes_inj hms]

end

theorem pretty_inj {d e : Document} (h : d.pretty ++ "\n" = e.pretty ++ "\n") : d = e := by
  have hd := isText_pretty d
  rw [h] at hd
  exact node_inj (hd.unique (isText_pretty e))

end Document

end RandomPrograms.Json
