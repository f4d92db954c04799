import Mathlib.Algebra.GroupWithZero.Nat
import RandomPrograms.Proofs.Generator.Counters
import RandomPrograms.Proofs.Grammar.Decoder

/-! Braces and lines in the text of a program. Braces come in pairs, one for each scope, and the number of those
    open before a line is the number of steps by which the line is indented, or one more where the line closes
    one. Nothing but the structure of the tree brings a brace, an end of line or a blank at the start of a line
    into the text. -/

namespace RandomPrograms

open Grammar Randomness

/-! ### Braces in a line -/

namespace Line

def opens : Line → Nat
  | opening _ => 1
  | turn => 1
  | _ => 0

theorem opens_opening (c : Condition) : (opening c).opens = 1 := rfl

theorem opens_turn : turn.opens = 1 := rfl

theorem opens_closing : closing.opens = 0 := rfl

/-- The braces that a line closes, before it opens any. -/
def closes : Line → Nat
  | turn => 1
  | closing => 1
  | _ => 0

end Line

/-- Neither a letter nor a digit nor a quote. -/
structure Mark (c : Char) : Prop where
  letter : c ∉ alphabet
  digit : c.isDigit = false
  quote : c ≠ '"'

theorem mark_open : Mark '\x7b' := ⟨by decide, rfl, by decide⟩

theorem mark_close : Mark '\x7d' := ⟨by decide, rfl, by decide⟩

theorem Grammar.IsWord.count_mark {n : Nat} {s : String} {c : Char} (h : IsWord n s) (hc : Mark c) :
    s.toList.count c = 0 :=
  List.count_eq_zero.mpr fun hmem => hc.letter (h.letters c hmem)

theorem Grammar.Value.count_mark {limits : Limits} {v : Value} {c : Char} (hv : v.Fits limits) (hc : Mark c) :
    v.text.toList.count c = 0 := by
  cases v with
  | number n =>
    refine List.count_eq_zero.mpr fun hmem => ?_
    have hdigit := isDigit_number hmem
    rw [hc.digit] at hdigit
    cases hdigit
  | string s =>
    have hword : IsWord limits.letters s := hv
    have hquote : ['"'].count c = 0 := List.count_eq_zero.mpr (by simpa using hc.quote)
    rw [toList_string, List.count_cons_of_ne hc.quote.symm, List.count_append, hword.count_mark hc, hquote]
  | boolean b =>
    have hletters : (boolean b).text.toList.all alphabet.contains = true := by cases b <;> decide
    exact List.count_eq_zero.mpr fun hmem =>
      hc.letter (List.contains_iff_mem.mp (List.all_eq_true.mp hletters c hmem))

theorem Line.count_braces {limits : Value.Limits} {x : Line} (h : x.Spoken limits) :
    x.text.toList.count '\x7b' = x.opens ∧ x.text.toList.count '\x7d' = x.closes := by
  rcases x with ⟨name, value⟩ | ⟨name, value⟩ | _ | (⟨name, op, value⟩ | b) | _ | _
  · simp [text, opens, closes, h.1.count_mark mark_open, h.1.count_mark mark_close,
      Value.count_mark h.2 mark_open, Value.count_mark h.2 mark_close]
  · simp [text, opens, closes, h.1.count_mark mark_open, h.1.count_mark mark_close,
      Value.count_mark h.2 mark_open, Value.count_mark h.2 mark_close]
  · exact ⟨rfl, rfl⟩
  · have hop : op.text.toList.count '\x7b' = 0 ∧ op.text.toList.count '\x7d' = 0 := by cases op <;> decide
    simp [text, Condition.text, opens, closes, h.1.count_mark mark_open, h.1.count_mark mark_close, hop,
      Value.count_mark h.2 mark_open, Value.count_mark h.2 mark_close]
  · cases b <;> decide
  · decide
  · decide

/-! ### Lines inside each other -/

/-- From so many open braces to so many: each line stands at the level that is left when it has closed its own. -/
inductive Nested : Nat → List (Nat × Line) → Nat → Prop
  | nil {k : Nat} : Nested k [] k
  | cons {k k' level : Nat} {x : Line} {ls : List (Nat × Line)} (here : level + x.closes = k)
      (rest : Nested (level + x.opens) ls k') : Nested k ((level, x) :: ls) k'

theorem Nested.append {k k₁ k₂ : Nat} {ls ms : List (Nat × Line)} (h₁ : Nested k ls k₁) (h₂ : Nested k₁ ms k₂) :
    Nested k (ls ++ ms) k₂ := by
  induction h₁ with
  | nil => exact h₂
  | cons here rest ih => exact .cons here (ih h₂)

mutual

theorem Grammar.Statement.nested_lines (level : Nat) : ∀ s : Statement, Nested level (s.lines level) level
  | .declaration .. => by
    rw [Statement.lines]
    exact .cons rfl .nil
  | .assignment .. => by
    rw [Statement.lines]
    exact .cons rfl .nil
  | .ifThen _ body => by
    have hend : Nested (level + 1) [(level, .closing)] level := .cons rfl .nil
    rw [Statement.lines]
    exact .cons rfl ((body.nested_lines (level + 1)).append hend)
  | .ifElse _ body otherwise => by
    have hend : Nested (level + 1) [(level, .closing)] level := .cons rfl .nil
    have hsecond := (otherwise.nested_lines (level + 1)).append hend
    rw [Statement.lines]
    exact .cons rfl ((body.nested_lines (level + 1)).append (.cons rfl hsecond))
  | .empty => by
    rw [Statement.lines]
    exact .cons rfl .nil

theorem Grammar.Block.nested_lines (level : Nat) : ∀ b : Block, Nested level (b.lines level) level
  | ⟨ss, _⟩ => by
    rw [Block.lines]
    exact nested_outline level ss

/-- The lines of a tree leave as many braces open as there were before. -/
theorem nested_outline (level : Nat) : ∀ ss : List Statement, Nested level (outline level ss) level
  | [] => by
    rw [outline]
    exact .nil
  | s :: ss => by
    rw [outline]
    exact (s.nested_lines level).append (nested_outline level ss)

end

section
variable {indent : String} {limits : Value.Limits} {k k' : Nat} {x : Line} {ls : List (Nat × Line)}

/-- The first line with its end, and the others. -/
theorem toList_written_cons (level : Nat) (x : Line) (ls : List (Nat × Line)) :
    (written indent ((level, x) :: ls)).toList =
      ((tab indent level).toList ++ x.text.toList ++ ['\n']) ++ (written indent ls).toList := by
  rw [written_cons, String.toList_append, String.toList_append, String.toList_append]
  rfl

theorem count_tab {c : Char} (h : Margin indent) (hc : Text.isBlank c = false) (level : Nat) :
    (tab indent level).toList.count c = 0 :=
  List.count_eq_zero.mpr fun hmem => by
    rw [(h.tab level).isBlank c hmem] at hc
    cases hc

theorem count_braces_line (hindent : Margin indent) (hx : x.Spoken limits) (level : Nat) :
    ((tab indent level).toList ++ x.text.toList).count '\x7b' = x.opens ∧
      ((tab indent level).toList ++ x.text.toList).count '\x7d' = x.closes := by
  obtain ⟨hopen, hclose⟩ := x.count_braces hx
  rw [List.count_append, List.count_append, count_tab hindent (by decide), count_tab hindent (by decide), hopen,
    hclose, Nat.zero_add, Nat.zero_add]
  exact ⟨rfl, rfl⟩

/-- No more braces are closed than are open, wherever the text is broken off. -/
theorem Nested.count_prefix (h : Nested k ls k') (hindent : Margin indent) (hls : ∀ l ∈ ls, l.2.Spoken limits) :
    ∀ pre, pre <+: (written indent ls).toList → pre.count '\x7d' ≤ k + pre.count '\x7b' := by
  induction h with
  | nil =>
    intro pre hpre
    obtain rfl : pre = [] := by simpa [written] using hpre
    exact Nat.zero_le _
  | @cons k k' level x ls here rest ih =>
    obtain ⟨hx, hls⟩ := List.forall_mem_cons.mp hls
    have hx : x.Spoken limits := hx
    obtain ⟨hopen, hclose⟩ := count_braces_line hindent hx level
    have hend : ['\n'].count '\x7b' = 0 ∧ ['\n'].count '\x7d' = 0 := ⟨rfl, rfl⟩
    rintro pre ⟨post, hpost⟩
    rw [toList_written_cons] at hpost
    rcases List.append_eq_append_iff.mp hpost with ⟨m, hline, -⟩ | ⟨m, rfl, hrest⟩
    · -- Within the line no more can be closed than the whole line closes.
      have hle := (List.prefix_append pre m).sublist.count_le '\x7d'
      rw [← hline, List.count_append, hclose, hend.2] at hle
      omega
    · have hm := ih hls m ⟨post, hrest.symm⟩
      rw [List.count_append, List.count_append, hclose, hend.2, List.count_append, List.count_append, hopen, hend.1]
      omega

/-- Each line ends once, and a brace is counted at the line it stands in. -/
theorem count_written (hindent : Margin indent) (hls : ∀ l ∈ ls, l.2.Spoken limits) :
    (written indent ls).toList.count '\n' = ls.length ∧
      (written indent ls).toList.count '\x7b' = (ls.map (·.2.opens)).sum ∧
      (written indent ls).toList.count '\x7d' = (ls.map (·.2.closes)).sum := by
  induction ls with
  | nil => exact ⟨rfl, rfl, rfl⟩
  | cons l ls ih =>
    obtain ⟨level, x⟩ := l
    obtain ⟨hx, hls⟩ := List.forall_mem_cons.mp hls
    have hx : x.Spoken limits := hx
    obtain ⟨hopen, hclose⟩ := count_braces_line hindent hx level
    have hnone : ((tab indent level).toList ++ x.text.toList).count '\n' = 0 := by
      rw [List.count_append, List.count_eq_zero.mpr (hindent.tab level).newline,
        List.count_eq_zero.mpr (Line.newline_not_mem_text hx)]
    have hline : ∀ c, (written indent ((level, x) :: ls)).toList.count c =
        ((tab indent level).toList ++ x.text.toList).count c + ['\n'].count c + (written indent ls).toList.count c :=
      fun c => by rw [toList_written_cons, List.count_append, List.count_append]
    obtain ⟨hends, hopens, hcloses⟩ := ih hls
    refine ⟨?_, ?_, ?_⟩
    · rw [hline, hnone, hends, List.length_cons, Nat.add_comm]
      rfl
    · rw [hline, hopen, hopens]
      rfl
    · rw [hline, hclose, hcloses]
      rfl

theorem Nested.sum_braces (h : Nested k ls k') : k + (ls.map (·.2.opens)).sum = k' + (ls.map (·.2.closes)).sum := by
  induction h with
  | nil => rfl
  | cons here rest ih =>
    simp only [List.map_cons, List.sum_cons]
    omega

theorem getLast?_written : ∀ {ls : List (Nat × Line)}, ls ≠ [] → (written indent ls).toList.getLast? = some '\n'
  | [], h => absurd rfl h
  | [(level, x)], _ => by
    rw [toList_written_cons, written, List.map_nil]
    simp
  | (level, x) :: l :: ls, _ => by
    have hrest := getLast?_written (List.cons_ne_nil l ls)
    rw [toList_written_cons, List.getLast?_append, hrest, Option.some_or]

/-! ### Indentation -/

/-- So many steps of indentation, one less before a closing brace, and then nothing or no blank. -/
def Indented (indent : String) (k : Nat) (l : List Char) : Prop :=
  (∃ rest, l = (tab indent k).toList ++ rest ∧ ∀ c ∈ rest.head?, Text.isBlank c = false ∧ c ≠ '\x7d') ∨
    ∃ level rest, k = level + 1 ∧ l = (tab indent level).toList ++ '\x7d' :: rest

theorem Line.head_text (hx : x.Spoken limits) : ∀ c ∈ x.text.toList.head?, Text.isBlank c = false := by
  intro c hc
  have hhead := List.head?_dropWhile_not Text.isBlank x.text.toList
  rw [x.dropWhile_text hx, hc] at hhead
  exact hhead

/-- A line that closes a brace begins with it. -/
theorem Line.indented (hx : x.Spoken limits) (indent : String) (level : Nat) :
    Indented indent (level + x.closes) ((tab indent level).toList ++ x.text.toList) := by
  by_cases hcloses : x.closes = 0
  · refine Or.inl ⟨x.text.toList, by rw [hcloses, Nat.add_zero], fun c hc => ⟨x.head_text hx c hc, ?_⟩⟩
    rintro rfl
    have hcount := x.count_braces hx |>.2
    rw [hcloses, List.count_eq_zero] at hcount
    exact hcount (List.mem_of_mem_head? hc)
  · cases x with
    | turn => exact Or.inr ⟨level, _, rfl, rfl⟩
    | closing => exact Or.inr ⟨level, _, rfl, rfl⟩
    | declaration => exact absurd rfl hcloses
    | assignment => exact absurd rfl hcloses
    | blank => exact absurd rfl hcloses
    | opening => exact absurd rfl hcloses

/-- Each line, and the empty one after the last end of line, is indented by the braces open before it. -/
theorem Nested.indented {bound : Nat} (h : Nested k ls k') (hend : k' = 0) (hindent : Margin indent)
    (hls : ∀ l ∈ ls, l.2.Spoken limits) (hpos : 0 < bound) (hlow : ∀ l ∈ ls, l.1 + l.2.closes < bound) :
    ∀ before l after, ls.map (fun l => (tab indent l.1).toList ++ l.2.text.toList) ++ [[]] = before ++ l :: after →
      ∃ j, k + before.flatten.count '\x7b' = before.flatten.count '\x7d' + j ∧ j < bound ∧ Indented indent j l := by
  induction h with
  | nil =>
    intro before l after hcut
    subst hend
    cases before with
    | nil =>
      obtain ⟨rfl, -⟩ := List.cons.inj hcut
      exact ⟨0, rfl, hpos, Or.inl ⟨[], rfl, fun c hc => by cases hc⟩⟩
    | cons first before => cases before <;> cases (List.cons.inj hcut).2
  | @cons k k' level x ls here rest ih =>
    obtain ⟨hx, hls⟩ := List.forall_mem_cons.mp hls
    obtain ⟨hlevel, hlow⟩ := List.forall_mem_cons.mp hlow
    have hx : x.Spoken limits := hx
    have hlevel : level + x.closes < bound := hlevel
    intro before l after hcut
    cases before with
    | nil =>
      obtain ⟨rfl, -⟩ := List.cons.inj hcut
      rw [here] at hlevel
      have hindented := x.indented hx indent level
      rw [here] at hindented
      exact ⟨k, Nat.add_comm k 0, hlevel, hindented⟩
    | cons first before =>
      obtain ⟨hfirst, hcut⟩ := List.cons.inj hcut
      have hfirst : (tab indent level).toList ++ x.text.toList = first := hfirst
      obtain ⟨j, hcount, hj, hindented⟩ := ih hend hls hlow before l after hcut
      obtain ⟨hopen, hclose⟩ := count_braces_line hindent hx level
      refine ⟨j, ?_, hj, hindented⟩
      rw [List.flatten_cons, List.count_append, List.count_append, ← hfirst, hopen, hclose]
      omega

end

/-! ### Lines and braces by nodes -/

/-- The lines of a statement, those of its bodies aside. -/
def Shape.lines : Shape → Nat
  | ifThen => 2
  | ifElse => 3
  | _ => 1

def Shape.bodies : Shape → Nat
  | ifThen => 1
  | ifElse => 2
  | _ => 0

mutual

theorem Grammar.Statement.sum_lines (level : Nat) : ∀ s : Statement,
    (s.lines level).length = (s.nodes.map Shape.lines).sum ∧
      ((s.lines level).map (·.2.opens)).sum = (s.nodes.map Shape.bodies).sum
  | .declaration .. => by
    rw [Statement.lines, Statement.nodes]
    exact ⟨rfl, rfl⟩
  | .assignment .. => by
    rw [Statement.lines, Statement.nodes]
    exact ⟨rfl, rfl⟩
  | .ifThen _ body => by
    obtain ⟨hlines, hopens⟩ := body.sum_lines (level + 1)
    rw [Statement.lines, Statement.nodes]
    simp only [List.length_cons, List.length_append, List.length_nil, List.map_cons, List.map_append, List.map_nil,
      List.sum_cons, List.sum_append, List.sum_nil, Line.opens_opening, Line.opens_closing, hlines, hopens,
      Shape.lines, Shape.bodies]
    omega
  | .ifElse _ body otherwise => by
    obtain ⟨hlines, hopens⟩ := body.sum_lines (level + 1)
    obtain ⟨hlines', hopens'⟩ := otherwise.sum_lines (level + 1)
    rw [Statement.lines, Statement.nodes]
    simp only [List.length_cons, List.length_append, List.length_nil, List.map_cons, List.map_append, List.map_nil,
      List.sum_cons, List.sum_append, List.sum_nil, Line.opens_opening, Line.opens_turn, Line.opens_closing, hlines,
      hopens, hlines', hopens', Shape.lines, Shape.bodies]
    omega
  | .empty => by
    rw [Statement.lines, Statement.nodes]
    exact ⟨rfl, rfl⟩

theorem Grammar.Block.sum_lines (level : Nat) : ∀ b : Block,
    (b.lines level).length = (b.nodes.map Shape.lines).sum ∧
      ((b.lines level).map (·.2.opens)).sum = (b.nodes.map Shape.bodies).sum
  | ⟨ss, _⟩ => by
    rw [Block.lines, Block.nodes]
    exact sum_outline level ss

theorem sum_outline (level : Nat) : ∀ ss : List Statement,
    (outline level ss).length = ((nodesOf ss).map Shape.lines).sum ∧
      ((outline level ss).map (·.2.opens)).sum = ((nodesOf ss).map Shape.bodies).sum
  | [] => by
    rw [outline, nodesOf]
    exact ⟨rfl, rfl⟩
  | s :: ss => by
    obtain ⟨hlines, hopens⟩ := s.sum_lines level
    obtain ⟨hlines', hopens'⟩ := sum_outline level ss
    rw [outline, nodesOf]
    simp only [List.length_append, List.map_append, List.sum_append, hlines, hopens, hlines', hopens', and_self]

end

theorem sum_shapes (ns : List Shape) :
    (ns.map Shape.lines).sum = ns.count .declaration + ns.count .assignment + ns.count .empty + 2 * ns.count .ifThen +
        3 * ns.count .ifElse ∧
      (ns.map Shape.bodies).sum = ns.count .ifThen + 2 * ns.count .ifElse := by
  induction ns with
  | nil => exact ⟨rfl, rfl⟩
  | cons n ns ih =>
    obtain ⟨hlines, hbodies⟩ := ih
    cases n <;> simp only [List.map_cons, List.sum_cons, Shape.lines, Shape.bodies, List.count_cons, reduceCtorEq,
      beq_iff_eq, ↓reduceIte] <;> omega

end RandomPrograms
