import RandomPrograms.Json.Read
import RandomPrograms.Proofs.Generator.Totals
import RandomPrograms.Proofs.Json.Written

/-! What is written is read back. Each reader undoes the document of its type, as long as the document is not nested more
    than the reader may go and its counters have 64 bits: records are read field by field, cases by the name of their
    one member, and statements by induction on the tree. -/

namespace RandomPrograms

open Json Grammar

/-! ### Nesting -/

namespace Json.Document

mutual

def nesting : Document → Nat
  | .null | .boolean _ | .number _ | .text _ => 0
  | .list ds => itemNesting ds + 1
  | .object ms => memberNesting ms + 1

def itemNesting : List Document → Nat
  | [] => 0
  | d :: ds => max d.nesting (itemNesting ds)

def memberNesting : List (String × Document) → Nat
  | [] => 0
  | (_, d) :: ms => max d.nesting (memberNesting ms)

end

theorem itemNesting_le_iff {ds : List Document} {n : Nat} : itemNesting ds ≤ n ↔ ∀ d ∈ ds, d.nesting ≤ n := by
  induction ds with
  | nil => simp [itemNesting]
  | cons d ds ih => rw [itemNesting, Nat.max_le, ih, List.forall_mem_cons]

theorem memberNesting_le_iff {ms : List (String × Document)} {n : Nat} :
    memberNesting ms ≤ n ↔ ∀ m ∈ ms, m.2.nesting ≤ n := by
  induction ms with
  | nil => simp [memberNesting]
  | cons m ms ih => rw [memberNesting, Nat.max_le, ih, List.forall_mem_cons]

/-- A reader that may go into a list may go into its items with one level less. -/
theorem exists_of_nesting_list {ds : List Document} {depth : Nat} (h : (Document.list ds).nesting ≤ depth) :
    ∃ d, depth = d + 1 ∧ ∀ e ∈ ds, e.nesting ≤ d := by
  rw [nesting] at h
  exact ⟨depth - 1, by omega, itemNesting_le_iff.mp (by omega)⟩

theorem exists_of_nesting_object {ms : List (String × Document)} {depth : Nat}
    (h : (Document.object ms).nesting ≤ depth) : ∃ d, depth = d + 1 ∧ ∀ m ∈ ms, m.2.nesting ≤ d := by
  rw [nesting] at h
  exact ⟨depth - 1, by omega, memberNesting_le_iff.mp (by omega)⟩

end Json.Document

/-! ### Literals, records and cases -/

theorem guard_of {p : Prop} [Decidable p] (h : p) : (guard p : Option Unit) = some () := if_pos h

namespace Json.Node

theorem text?_written (s : String) : (Document.text s).node.text? = some s := by
  rw [Document.node, text?, decodeText_written]
  rfl

theorem natural?_written {n : Nat} (h : n < UInt64.size) : (Document.number n).node.natural? = some n := by
  rw [Document.node, natural?, value_natural h]

theorem word?_written (x : UInt64) : (Document.number x.toNat).node.word? = some x := by
  rw [word?, natural?_written x.toNat_lt_size]
  exact congrArg some UInt64.ofNat_toNat

theorem name?_written (depth : Nat) (s : String) : (Document.text s).node.name? depth = some s := by
  rw [Document.node, name?, decodeText_written]
  rfl

theorem mapM_of_forall {α β γ : Type} {f : β → Option γ} {g : α → β} {h : α → γ} {as : List α}
    (hf : ∀ a ∈ as, f (g a) = some (h a)) : (as.map g).mapM f = some (as.map h) := by
  induction as with
  | nil => rfl
  | cons a as ih =>
    obtain ⟨ha, has⟩ := List.forall_mem_cons.mp hf
    rw [List.map_cons, List.mapM_cons, ha, ih has]
    rfl

/-- The one member with a key. -/
theorem filter_key {α : Type} {ms : List (String × α)} (h : (ms.map Prod.fst).Nodup) {m : String × α} (hm : m ∈ ms) :
    ms.filter (·.1 == m.1) = [m] := by
  induction ms with
  | nil => cases hm
  | cons n ms ih =>
    obtain ⟨hn, hms⟩ := List.nodup_cons.mp h
    rcases List.mem_cons.mp hm with rfl | hm
    · have hnone : ms.filter (·.1 == m.1) = [] := by
        refine List.filter_eq_nil_iff.mpr fun a ha heq => hn ?_
        exact beq_iff_eq.mp heq ▸ List.mem_map_of_mem ha
      rw [List.filter_cons, if_pos (beq_self_eq_true m.1), hnone]
    · have hne : ¬(n.1 == m.1) = true := fun heq => hn (beq_iff_eq.mp heq ▸ List.mem_map_of_mem hm)
      rw [List.filter_cons, if_neg hne, ih hms hm]

theorem keys?_memberNodes (ms : List (String × Document)) :
    keys? (Document.memberNodes ms) = some (ms.map fun m => (m.1, m.2.node)) := by
  unfold keys?
  induction ms with
  | nil => rfl
  | cons m ms ih =>
    rw [Document.memberNodes, List.mapM_cons, decodeText_written, ih]
    rfl

/-- The fields of a written record are read in order. -/
theorem fields?_written {ms : List (String × Document)} {names : List String} (hnames : ms.map Prod.fst = names)
    (h : names.Nodup) : (Document.object ms).node.fields? names = some (ms.map fun m => some m.2.node) := by
  subst hnames
  rw [Document.node, fields?, keys?_memberNodes]
  refine mapM_of_forall fun m hm => ?_
  have hkeys : ((ms.map fun m => (m.1, m.2.node)).map Prod.fst).Nodup := by rwa [List.map_map]
  rw [filter_key hkeys (List.mem_map.mpr ⟨m, hm, rfl⟩)]

theorem case?_written (k : String) (d : Document) : (Document.object [(k, d)]).node.case? = some (k, d.node) := by
  rw [Document.node, Document.memberNodes, Document.memberNodes, case?, decodeText_written]
  rfl

/-- A case that holds a record is not taken for one that holds nothing. -/
theorem name?_case (depth : Nat) (k : String) (ms : List (String × Document)) :
    (Document.object [(k, .object ms)]).node.name? depth = none := by
  have hcase := case?_written k (.object ms)
  rw [Document.node] at hcase ⊢
  rw [name?, hcase]
  · cases depth <;> rfl
  · exact fun _ htext => nomatch htext

end Json.Node

/-! ### Values and conditions -/

namespace Grammar

theorem VarType.ofNode?_document (depth : Nat) (t : VarType) : VarType.ofNode? depth t.document.node = some t := by
  rw [VarType.document, VarType.ofNode?, Node.name?_written]
  cases t <;> decide

theorem CompareOp.ofNode?_document (depth : Nat) (op : CompareOp) :
    CompareOp.ofNode? depth op.document.node = some op := by
  rw [CompareOp.document, CompareOp.ofNode?, Node.name?_written]
  cases op <;> decide

variable {depth : Nat}

theorem Value.ofNode?_document (v : Value) (h : v.document.nesting ≤ depth) :
    Value.ofNode? depth v.document.node = some v := by
  obtain ⟨depth, rfl, -⟩ := Document.exists_of_nesting_object h
  have hfields : v.document.node.fields? ["type", "value"] = some [_, _] := Node.fields?_written rfl (by decide)
  have htype : VarType.ofTag? depth v.document.node v.type.document.node = some v.type :=
    VarType.ofNode?_document _ v.type
  rw [Value.ofNode?, guard_of (Nat.succ_pos depth), hfields]
  simp only [Option.bind_eq_bind, Option.bind_some, Nat.add_sub_cancel, htype]
  cases v with
  | number n => simp only [Value.type, Node.word?_written, Option.bind_some, Option.pure_def]
  | string s => simp only [Value.type, Node.text?_written, Option.bind_some, Option.pure_def]
  | boolean b => rfl

theorem Condition.ofNode?_document (c : Condition) (h : c.document.nesting ≤ depth) :
    Condition.ofNode? depth c.document.node = some c := by
  cases c with
  | literal b =>
    obtain ⟨depth, rfl, -⟩ := Document.exists_of_nesting_object h
    rw [Condition.document, Condition.ofNode?, Node.case?_written]
    rfl
  | compare name op value =>
    obtain ⟨depth, rfl, hcase⟩ := Document.exists_of_nesting_object h
    obtain ⟨depth, rfl, hmembers⟩ := Document.exists_of_nesting_object (hcase _ List.mem_cons_self)
    have hvalue := value.ofNode?_document (hmembers ("value", value.document) (by simp))
    have hfields : (Document.object [("name", .text name), ("op", op.document), ("value", value.document)]).node.fields?
        ["name", "op", "value"] = some [_, _, _] := Node.fields?_written rfl (by decide)
    have hleft : depth + 1 + 1 - 2 = depth := rfl
    rw [Condition.document, Condition.ofNode?, guard_of (Nat.succ_pos _), Node.case?_written]
    simp only [Option.bind_eq_bind, Option.bind_some, guard_of (Nat.succ_lt_succ (Nat.succ_pos depth)), hfields,
      Node.text?_written, CompareOp.ofNode?_document, hleft, hvalue, Option.pure_def]

/-! ### Statements -/

theorem binding?_document (name : String) (value : Value)
    (h : (Document.object [("name", .text name), ("value", value.document)]).nesting ≤ depth) :
    binding? depth (Document.object [("name", .text name), ("value", value.document)]).node = some (name, value) := by
  obtain ⟨depth, rfl, hmembers⟩ := Document.exists_of_nesting_object h
  have hvalue := value.ofNode?_document (hmembers ("value", value.document) (by simp))
  have hfields : (Document.object [("name", .text name), ("value", value.document)]).node.fields? ["name", "value"] =
      some [_, _] := Node.fields?_written rfl (by decide)
  rw [binding?, guard_of (Nat.succ_pos depth), hfields]
  simp only [Option.bind_eq_bind, Option.bind_some, Node.text?_written, Nat.add_sub_cancel, hvalue, Option.pure_def]

mutual

theorem Statement.ofNode?_document : ∀ (s : Statement) {depth : Nat}, s.document.nesting ≤ depth →
    Statement.ofNode? depth s.document.node = some s
  | .declaration name value, depth, h | .assignment name value, depth, h => by
    obtain ⟨depth, rfl, hcase⟩ := Document.exists_of_nesting_object h
    have hbinding := binding?_document name value (hcase _ List.mem_cons_self)
    rw [Statement.document, Statement.ofNode?, Node.name?_case, Node.case?_written]
    simp only [Option.bind_eq_bind, Option.bind_some, hbinding, Option.pure_def]
  | .ifThen condition body, depth, h => by
    obtain ⟨depth, rfl, hcase⟩ := Document.exists_of_nesting_object h
    obtain ⟨depth, rfl, hmembers⟩ := Document.exists_of_nesting_object (hcase _ List.mem_cons_self)
    have hcondition := condition.ofNode?_document (hmembers ("condition", condition.document) (by simp))
    have hbody := Block.ofNode?_document body (hmembers ("then_body", body.document) (by simp))
    have hfields : (Document.object [("condition", condition.document), ("then_body", body.document),
        ("else_body", .null)]).node.fields? ["condition", "then_body", "else_body"] = some [_, _, _] :=
      Node.fields?_written rfl (by decide)
    rw [Statement.document, Statement.ofNode?, Node.name?_case, Node.case?_written]
    simp only [Option.bind_eq_bind, Option.bind_some, conditional?, hfields, hcondition, hbody]
    rfl
  | .ifElse condition body otherwise, depth, h => by
    obtain ⟨depth, rfl, hcase⟩ := Document.exists_of_nesting_object h
    obtain ⟨depth, rfl, hmembers⟩ := Document.exists_of_nesting_object (hcase _ List.mem_cons_self)
    have hcondition := condition.ofNode?_document (hmembers ("condition", condition.document) (by simp))
    have hbody := Block.ofNode?_document body (hmembers ("then_body", body.document) (by simp))
    have hother := Block.ofNode?_document otherwise (hmembers ("else_body", otherwise.document) (by simp))
    have hfields : (Document.object [("condition", condition.document), ("then_body", body.document),
        ("else_body", otherwise.document)]).node.fields? ["condition", "then_body", "else_body"] = some [_, _, _] :=
      Node.fields?_written rfl (by decide)
    rw [Statement.document, Statement.ofNode?, Node.name?_case, Node.case?_written]
    simp only [Option.bind_eq_bind, Option.bind_some, conditional?, hfields, hcondition, hbody]
    -- the document of a block is not null
    rcases otherwise with ⟨statements, code⟩
    show (Block.ofNode? depth (Block.document ⟨statements, code⟩).node).bind _ = _
    rw [hother]
    rfl
  | .empty, 0, _ | .empty, _ + 1, _ => by
    rw [Statement.document, Statement.ofNode?, Node.name?_written]
    rfl

theorem Block.ofNode?_document : ∀ (b : Block) {depth : Nat}, b.document.nesting ≤ depth →
    Block.ofNode? depth b.document.node = some b
  | ⟨statements, code⟩, depth, h => by
    obtain ⟨depth, rfl, hmembers⟩ := Document.exists_of_nesting_object h
    have hstatements := statements?_document statements (hmembers ("statements", _) List.mem_cons_self)
    have hfields : (Block.document ⟨statements, code⟩).node.fields? ["statements", "code"] = some [_, _] :=
      Node.fields?_written rfl (by decide)
    rw [Block.ofNode?, hfields]
    simp only [Option.bind_eq_bind, Option.bind_some, hstatements, Node.text?_written, Option.pure_def]

theorem statements?_document : ∀ (ss : List Statement) {depth : Nat}, (Document.list (documents ss)).nesting ≤ depth →
    statements? depth (Document.list (documents ss)).node = some ss
  | ss, depth, h => by
    obtain ⟨depth, rfl, hitems⟩ := Document.exists_of_nesting_list h
    rw [Document.node, statements?]
    exact items_document ss hitems

theorem items_document : ∀ (ss : List Statement) {depth : Nat}, (∀ d ∈ documents ss, d.nesting ≤ depth) →
    (Document.itemNodes (documents ss)).mapM (Statement.ofNode? depth) = some ss
  | [], _, _ => rfl
  | s :: ss, depth, h => by
    obtain ⟨hs, hss⟩ := List.forall_mem_cons.mp h
    rw [documents, Document.itemNodes, List.mapM_cons, Statement.ofNode?_document s hs, items_document ss hss]
    rfl

end

/-! ### Nesting of statements -/

theorem Value.nesting_document (v : Value) : v.document.nesting = 1 := by
  cases v <;> rfl

theorem Condition.nesting_document_le (c : Condition) : c.document.nesting ≤ 3 := by
  cases c with
  | compare name op value =>
    simp only [Condition.document, CompareOp.document, Document.nesting, Document.memberNesting,
      value.nesting_document]
    decide
  | literal b => exact (by decide : 1 ≤ 3)

mutual

/-- Each conditional around a statement adds an object for the case, one for the conditional, one for its body and the
    list of its statements. -/
theorem Statement.nesting_document_le : ∀ s : Statement, s.document.nesting ≤ 4 * s.height + 3
  | .declaration name value | .assignment name value => by
    simp only [Statement.document, Document.nesting, Document.memberNesting, value.nesting_document]
    omega
  | .ifThen condition body => by
    have hcondition := condition.nesting_document_le
    have hbody := Block.nesting_document_le body
    simp only [Statement.document, Document.nesting, Document.memberNesting, Statement.height]
    omega
  | .ifElse condition body otherwise => by
    have hcondition := condition.nesting_document_le
    have hbody := Block.nesting_document_le body
    have hother := Block.nesting_document_le otherwise
    simp only [Statement.document, Document.nesting, Document.memberNesting, Statement.height]
    omega
  | .empty => Nat.zero_le _

theorem Block.nesting_document_le : ∀ b : Block, b.document.nesting ≤ 4 * b.height + 5
  | ⟨statements, code⟩ => by
    have hstatements := nesting_documents_le statements
    simp only [Block.document, Document.nesting, Document.memberNesting, Block.height]
    omega

theorem nesting_documents_le : ∀ ss : List Statement, Document.itemNesting (documents ss) ≤ 4 * heightOf ss + 3
  | [] => Nat.zero_le _
  | s :: ss => by
    have hs := Statement.nesting_document_le s
    have hss := nesting_documents_le ss
    simp only [documents, Document.itemNesting, heightOf]
    omega

end

end Grammar

/-! ### Programs -/

theorem Program.nesting_document_le (p : Program) : p.document.nesting ≤ 4 * heightOf p.statements + 5 := by
  have hstatements := nesting_documents_le p.statements
  have htally : p.tally.document.nesting = 1 := rfl
  simp only [Program.document, Document.nesting, Document.memberNesting, htally]
  omega

variable {depth : Nat}

theorem Tally.ofNode?_document (t : Tally) (hfits : t.Fits) (h : t.document.nesting ≤ depth) :
    Tally.ofNode? depth t.document.node = some t := by
  obtain ⟨depth, rfl, -⟩ := Document.exists_of_nesting_object h
  have hnumbers : ∀ e ∈ t.entries, (Document.number e.2).node.natural? = some e.2 :=
    fun e he => Node.natural?_written (hfits e he)
  have hfields : t.document.node.fields? (Tally.zero.entries.map (·.1)) = some [_, _, _, _, _, _, _, _, _] :=
    Node.fields?_written rfl (by decide)
  simp only [entries, List.forall_mem_cons] at hnumbers
  rw [Tally.ofNode?, guard_of (Nat.succ_pos depth), hfields]
  simp only [Option.bind_eq_bind, Option.bind_some, hnumbers, Option.pure_def]

theorem Program.ofNode?_document (p : Program) (hfits : p.tally.Fits) (h : p.document.nesting ≤ depth) :
    Program.ofNode? depth p.document.node = some p := by
  obtain ⟨depth, rfl, hmembers⟩ := Document.exists_of_nesting_object h
  have hstatements := statements?_document p.statements (hmembers ("statements", _) (by simp))
  have htally := p.tally.ofNode?_document hfits (hmembers ("stats", p.tally.document) (by simp))
  have hfields : p.document.node.fields? ["code", "statements", "stats", "seed"] = some [_, _, _, _] :=
    Node.fields?_written rfl (by decide)
  rw [Program.ofNode?, guard_of (Nat.succ_pos depth), hfields]
  simp only [Option.bind_eq_bind, Option.bind_some, Nat.add_sub_cancel, Node.text?_written, hstatements, htally,
    Node.word?_written, Option.pure_def]

theorem ofText?_of_isText {α : Type} {reader : (depth : Nat) → Node → Option α} {s : String} {t : Node}
    (h : Node.IsText s t) : ofText? reader s = reader Node.maxNesting t := by
  rw [ofText?, Node.read_of_isText h]

/-- A program is read back from either form of its document, if no more than thirty conditionals lie inside each
    other. -/
theorem Program.read_back (p : Program) (hfits : p.tally.Fits) (h : heightOf p.statements ≤ 30) :
    ofText? Program.ofNode? p.document.compact = some p ∧
      ofText? Program.ofNode? (p.document.pretty ++ "\n") = some p := by
  have hnesting : p.document.nesting ≤ Node.maxNesting :=
    p.nesting_document_le.trans (show 4 * heightOf p.statements + 5 ≤ 127 by omega)
  have hread := p.ofNode?_document hfits hnesting
  exact ⟨(ofText?_of_isText p.document.isText_compact).trans hread,
    (ofText?_of_isText p.document.isText_pretty).trans hread⟩

end RandomPrograms
