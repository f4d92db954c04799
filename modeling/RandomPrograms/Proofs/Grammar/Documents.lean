import Mathlib.Data.List.Nodup
import RandomPrograms.Json.Write

/-! A value, a condition, a statement and a block can be told from their documents. Each kind of statement and
    each type of value has its own word in the document, and a missing branch is null, which no block is. -/

namespace RandomPrograms.Grammar

open Json

theorem CompareOp.word_inj {a b : CompareOp} (h : a.word = b.word) : a = b :=
  List.inj_on_of_nodup_map (f := word) (l := all) (by decide) (mem_all a) (mem_all b) h

theorem Value.document_inj {v w : Value} (h : v.document = w.document) : v = w := by
  cases v <;> cases w <;> simp only [document, VarType.document, type, VarType.name, Document.object.injEq,
    Document.text.injEq, Document.number.injEq, Document.boolean.injEq, List.cons.injEq, Prod.mk.injEq, String.reduceEq,
    reduceCtorEq, and_true, true_and, and_false] at h
  case number.number m n => rw [UInt64.toNat_inj.mp h]
  all_goals rw [h]

theorem Condition.document_inj {c d : Condition} (h : c.document = d.document) : c = d := by
  cases c <;> cases d <;> simp only [document, CompareOp.document, Document.object.injEq, Document.text.injEq,
    Document.boolean.injEq, List.cons.injEq, Prod.mk.injEq, String.reduceEq, reduceCtorEq, and_true, true_and,
    and_false] at h
  case compare.compare =>
    obtain ⟨hname, hop, hvalue⟩ := h
    rw [hname, CompareOp.word_inj hop, Value.document_inj hvalue]
  case literal.literal => rw [h]

/-- A block can be told from a missing one. -/
theorem Block.document_ne_null (b : Block) : b.document ≠ .null := by
  cases b
  simp [Block.document]

mutual

theorem Statement.document_inj (s t : Statement) (h : s.document = t.document) : s = t := by
  cases s <;> cases t <;> simp only [Statement.document, Document.object.injEq, Document.text.injEq, List.cons.injEq,
    Prod.mk.injEq, String.reduceEq, reduceCtorEq, and_true, true_and, false_and, and_false] at h
  case declaration.declaration => rw [h.1, Value.document_inj h.2]
  case assignment.assignment => rw [h.1, Value.document_inj h.2]
  case ifThen.ifThen => rw [Condition.document_inj h.1, Block.document_inj _ _ h.2]
  case ifThen.ifElse => exact absurd h.2.2.symm (Block.document_ne_null _)
  case ifElse.ifThen => exact absurd h.2.2 (Block.document_ne_null _)
  case ifElse.ifElse =>
    rw [Condition.document_inj h.1, Block.document_inj _ _ h.2.1, Block.document_inj _ _ h.2.2]
  case empty.empty => rfl

theorem Block.document_inj : ∀ (b c : Block), b.document = c.document → b = c
  | ⟨statements, code⟩, ⟨statements', code'⟩, h => by
    simp only [Block.document, Document.object.injEq, List.cons.injEq, Prod.mk.injEq, Document.list.injEq,
      Document.text.injEq, and_true, true_and] at h
    rw [documents_inj _ _ h.1, h.2]

theorem documents_inj : ∀ (ss ts : List Statement), documents ss = documents ts → ss = ts
  | [], [], _ => rfl
  | s :: ss, t :: ts, h => by
    obtain ⟨hs, hss⟩ := List.cons.inj h
    rw [Statement.document_inj _ _ hs, documents_inj _ _ hss]

end

end RandomPrograms.Grammar
