import RandomPrograms.Proofs.CommandLine.Output
import RandomPrograms.Proofs.Grammar.Documents
import RandomPrograms.Proofs.Json.Injectivity

/-! What `generate` writes as JSON is a well-formed document, and no other programs are written so: texts,
    statement trees with the texts kept in their blocks, counters and seeds can all be told from it. -/

namespace RandomPrograms

open Json Grammar

theorem Tally.document_inj {t u : Tally} (h : t.document = u.document) : t = u := by
  cases t
  cases u
  simp only [document, entries, List.map_cons, List.map_nil, Document.object.injEq, List.cons.injEq, Prod.mk.injEq,
    Document.number.injEq, and_true, true_and] at h
  simp only [mk.injEq]
  exact h

theorem Program.document_inj {p q : Program} (h : p.document = q.document) : p = q := by
  cases p
  cases q
  simp only [document, Document.object.injEq, List.cons.injEq, Prod.mk.injEq, Document.text.injEq, Document.list.injEq,
    Document.number.injEq, and_true, true_and] at h
  obtain ⟨hcode, hstatements, htally, hseed⟩ := h
  rw [hcode, documents_inj _ _ hstatements, Tally.document_inj htally, UInt64.toNat_inj.mp hseed]

namespace CommandLine

theorem programsOutput_json {o : Generate} (h : o.output = "json") (programs : List Program) :
    programsOutput o programs = .ok ((Document.list (programs.map Program.document)).pretty ++ "\n") :=
  (programsOutput_eq_ok_iff programs).mpr (write_json programs h)

/-- Whatever programs are written as JSON, the output is a text of the tree of their documents, and lists of
    programs that differ are written differently. -/
theorem json_unambiguous {o o' : Generate} (h : o.output = "json") (h' : o'.output = "json") :
    (∀ programs, ∃ text, programsOutput o programs = .ok text ∧
      Node.IsText text (Document.list (programs.map Program.document)).node) ∧
    ∀ programs programs', programsOutput o programs = programsOutput o' programs' → programs = programs' := by
  refine ⟨fun programs => ⟨_, programsOutput_json h programs, Document.isText_pretty _⟩, fun programs programs' heq => ?_⟩
  rw [programsOutput_json h, programsOutput_json h'] at heq
  have hdocuments := Document.list.inj (Document.pretty_inj (Except.ok.inj heq))
  exact List.map_injective_iff.mpr (fun _ _ => Program.document_inj) hdocuments

theorem json_unambiguous_nested : ({ output := "json" } : Generate).output = "json" ∧
    (∃ text, programsOutput { output := "json" } [⟨"", [.ifThen (.literal true) ⟨[], ""⟩], .zero, 0⟩] = .ok text ∧
      Node.IsText text
        (Document.list [Program.document ⟨"", [.ifThen (.literal true) ⟨[], ""⟩], .zero, 0⟩]).node) ∧
    programsOutput { output := "json" } [⟨"", [.ifThen (.literal true) ⟨[], ""⟩], .zero, 0⟩] ≠
      programsOutput { output := "json", count := 2 } [⟨"", [.ifThen (.literal true) ⟨[], "\n"⟩], .zero, 0⟩] := by
  obtain ⟨htext, heq⟩ := @json_unambiguous { output := "json" } { output := "json", count := 2 } rfl rfl
  refine ⟨rfl, htext _, fun h => ?_⟩
  exact absurd (heq _ _ h) (by decide)

end CommandLine

end RandomPrograms
