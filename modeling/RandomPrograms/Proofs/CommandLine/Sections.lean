import Mathlib.Data.List.SplitBy
import RandomPrograms.Proofs.CommandLine.Output
import RandomPrograms.Proofs.Generator.Replay
import RandomPrograms.Proofs.Grammar.Nesting

/-! What `generate` writes as text can be taken apart again. No line of a program looks like a heading, and each
    program ends its last line, so that the text of a batch, cut in front of each line that begins with two
    slashes, falls into the programs with their headings. -/

namespace RandomPrograms.CommandLine

open Grammar Randomness

/-! ### Cutting a text -/

/-- The lines of a text, each with its end. -/
def endedLines (cs : List Char) : List (List Char) := cs.splitBy fun c _ => c != '\n'

def beginsWithSlashes (l : List Char) : Bool := ['/', '/'].isPrefixOf l

/-- A text cut in front of each line that begins with two slashes. -/
def sections (s : String) : List String :=
  ((endedLines s.toList).splitBy fun _ l => !beginsWithSlashes l).map fun ls => String.ofList ls.flatten

def IsEnded (l : List Char) : Prop := ∃ cs, l = cs ++ ['\n'] ∧ '\n' ∉ cs

/-- Whole lines, of which the first one and no other begins with two slashes. -/
def IsSection (s : String) : Prop :=
  ∃ first rest, s.toList = (first :: rest).flatten ∧ (∀ l ∈ first :: rest, IsEnded l) ∧
    beginsWithSlashes first = true ∧ ∀ l ∈ rest, beginsWithSlashes l = false

theorem isChain_of_newline_not_mem : ∀ {cs : List Char}, '\n' ∉ cs →
    (cs ++ ['\n']).IsChain fun c _ => (c != '\n') = true
  | [], _ => .singleton _
  | c :: cs, h => by
    simp only [List.mem_cons, not_or] at h
    refine List.isChain_cons.mpr ⟨fun d _ => ?_, isChain_of_newline_not_mem h.2⟩
    simpa using Ne.symm h.1

theorem endedLines_append {l : List Char} (h : IsEnded l) (rest : List Char) :
    endedLines (l ++ rest) = l :: endedLines rest := by
  obtain ⟨cs, rfl, hcs⟩ := h
  unfold endedLines
  rw [List.splitBy_append, List.splitBy_of_isChain (by simp) (isChain_of_newline_not_mem hcs)]
  · rfl
  · simp

theorem endedLines_flatten_append (rest : List Char) : ∀ {ls : List (List Char)}, (∀ l ∈ ls, IsEnded l) →
    endedLines (ls.flatten ++ rest) = ls ++ endedLines rest
  | [], _ => rfl
  | l :: ls, h => by
    obtain ⟨hl, hls⟩ := List.forall_mem_cons.mp h
    rw [List.flatten_cons, List.append_assoc, endedLines_append hl, endedLines_flatten_append rest hls]
    rfl

namespace IsSection

variable {s : String}

theorem endedLines_append (h : IsSection s) (rest : List Char) :
    endedLines (s.toList ++ rest) = endedLines s.toList ++ endedLines rest := by
  obtain ⟨first, others, hs, hends, -, -⟩ := h
  have hself := endedLines_flatten_append [] hends
  rw [List.append_nil] at hself
  rw [hs, endedLines_flatten_append rest hends, hself]
  simp [endedLines]

theorem exists_lines (h : IsSection s) : ∃ first rest, endedLines s.toList = first :: rest ∧
    beginsWithSlashes first = true ∧ ∀ l ∈ rest, beginsWithSlashes l = false := by
  obtain ⟨first, rest, hs, hends, hfirst, hrest⟩ := h
  have hself := endedLines_flatten_append [] hends
  rw [List.append_nil, ← hs] at hself
  exact ⟨first, rest, by simpa [endedLines] using hself, hfirst, hrest⟩

end IsSection

theorem endedLines_join : ∀ {ss : List String}, (∀ s ∈ ss, IsSection s) →
    endedLines (String.join ss).toList = (ss.map fun s => endedLines s.toList).flatten
  | [], _ => rfl
  | s :: ss, h => by
    obtain ⟨hs, hss⟩ := List.forall_mem_cons.mp h
    rw [String.join_cons, String.toList_append, hs.endedLines_append, endedLines_join hss]
    rfl

theorem sections_join {ss : List String} (h : ∀ s ∈ ss, IsSection s) : sections (String.join ss) = ss := by
  have hmem : ∀ m ∈ ss.map (fun s => endedLines s.toList), ∃ first rest, m = first :: rest ∧
      beginsWithSlashes first = true ∧ ∀ l ∈ rest, beginsWithSlashes l = false := by
    intro m hm
    obtain ⟨s, hs, rfl⟩ := List.mem_map.mp hm
    exact (h s hs).exists_lines
  have hsplit : (ss.map fun s => endedLines s.toList).flatten.splitBy (fun _ l => !beginsWithSlashes l) =
      ss.map fun s => endedLines s.toList := by
    refine List.splitBy_flatten ?_ ?_ ?_
    · intro hnil
      obtain ⟨first, rest, hm, -⟩ := hmem [] hnil
      cases hm
    · intro m hm
      obtain ⟨first, rest, rfl, -, hrest⟩ := hmem m hm
      have hjoined : ∀ l ∈ rest, (!beginsWithSlashes l) = true := fun l hl => by rw [hrest l hl]; rfl
      exact (List.pairwise_cons.mpr ⟨hjoined, List.pairwise_of_forall_mem_list fun _ _ => hjoined⟩).isChain
    · refine (List.pairwise_of_forall_mem_list fun a ha b hb => ?_).isChain
      obtain ⟨first, rest, rfl, -⟩ := hmem a ha
      obtain ⟨next, others, rfl, hnext, -⟩ := hmem b hb
      exact ⟨List.cons_ne_nil _ _, List.cons_ne_nil _ _, by rw [List.head_cons, hnext]; rfl⟩
  rw [sections, endedLines_join h, hsplit, List.map_map]
  refine (List.map_congr_left fun s _ => ?_).trans (List.map_id ss)
  simp [endedLines]

/-! ### Headings and programs -/

theorem newline_not_mem_repr (n : Nat) : '\n' ∉ n.repr.toList := by
  intro h
  rw [Nat.toList_repr] at h
  have hdigit := Nat.isDigit_of_mem_toDigits (by decide) (by decide) h
  cases hdigit

theorem heading_line (number : Nat) (seed : UInt64) : heading number seed ++ "\n" =
    "// --- Program " ++ number.repr ++ " (seed: " ++ seed.toNat.repr ++ ") ---\n" := by
  have hend : ") ---\n" = ") ---" ++ "\n" := rfl
  rw [hend, ← String.append_assoc]
  rfl

theorem isEnded_heading (number : Nat) (seed : UInt64) : IsEnded (heading number seed ++ "\n").toList := by
  refine ⟨(heading number seed).toList, String.toList_append, ?_⟩
  unfold heading
  simp only [String.toList_append, List.mem_append, not_or]
  exact ⟨⟨⟨⟨by decide, newline_not_mem_repr number⟩, by decide⟩, newline_not_mem_repr seed.toNat⟩, by decide⟩

theorem beginsWithSlashes_heading (number : Nat) (seed : UInt64) :
    beginsWithSlashes (heading number seed ++ "\n").toList = true := by
  have hslashes : "// --- Program ".toList = '/' :: '/' :: " --- Program ".toList := rfl
  unfold heading
  simp only [String.toList_append, hslashes, List.cons_append]
  rfl

theorem beginsWithSlashes_eq_false {l : List Char} (h : ∀ c ∈ l.head?, c ≠ '/') : beginsWithSlashes l = false := by
  cases l with
  | nil => rfl
  | cons c l =>
    have hc : ('/' == c) = false := beq_false_of_ne (h c rfl).symm
    rw [beginsWithSlashes, List.isPrefixOf, hc, Bool.false_and]

theorem forall_head?_append {P : Char → Prop} {as bs : List Char} (ha : ∀ c ∈ as.head?, P c)
    (hb : ∀ c ∈ bs.head?, P c) : ∀ c ∈ (as ++ bs).head?, P c := by
  cases as with
  | nil => exact hb
  | cons a as => exact ha

section
variable {limits : Value.Limits} {indent : String} {x : Line}

theorem head_text_ne_slash (h : x.Spoken limits) : ∀ c ∈ x.text.toList.head?, c ≠ '/' := by
  intro c hc
  cases x with
  | declaration name value =>
    obtain rfl : 'l' = c := by simpa [Line.text] using hc
    decide
  | assignment name value =>
    obtain ⟨d, w, hw⟩ := List.exists_cons_of_ne_nil h.1.nonempty
    have hd : d ∈ alphabet := h.1.letters d (by rw [hw]; exact List.mem_cons_self ..)
    obtain rfl : d = c := by simpa [Line.text, hw] using hc
    rintro rfl
    exact absurd hd (by decide)
  | blank => cases hc
  | opening cond =>
    obtain rfl : 'i' = c := by simpa [Line.text] using hc
    decide
  | turn =>
    obtain rfl : '\x7d' = c := by simpa [Line.text] using hc
    decide
  | closing =>
    obtain rfl : '\x7d' = c := by simpa [Line.text] using hc
    decide

/-- A line of a program, indented, looks like no heading. -/
theorem beginsWithSlashes_line (hindent : Margin indent) (hx : x.Spoken limits) (level : Nat) :
    beginsWithSlashes ((tab indent level).toList ++ x.text.toList ++ ['\n']) = false := by
  have hmargin : ∀ c ∈ (tab indent level).toList.head?, c ≠ '/' := by
    rintro c hc rfl
    have hblank := (hindent.tab level).isBlank _ (List.mem_of_mem_head? hc)
    cases hblank
  have hend : ∀ c ∈ ['\n'].head?, c ≠ '/' := by
    intro c hc
    obtain rfl : '\n' = c := Option.some.inj hc
    decide
  have hline := forall_head?_append hmargin (head_text_ne_slash hx)
  exact beginsWithSlashes_eq_false (forall_head?_append hline hend)

theorem isEnded_line (hindent : Margin indent) (hx : x.Spoken limits) (level : Nat) :
    IsEnded ((tab indent level).toList ++ x.text.toList ++ ['\n']) := by
  refine ⟨_, rfl, ?_⟩
  rw [List.mem_append, not_or]
  exact ⟨(hindent.tab level).newline, Line.newline_not_mem_text hx⟩

theorem toList_written (ls : List (Nat × Line)) : (written indent ls).toList =
    (ls.map fun l => (tab indent l.1).toList ++ l.2.text.toList ++ ['\n']).flatten := by
  induction ls with
  | nil => rfl
  | cons l ls ih => rw [toList_written_cons, ih, List.map_cons, List.flatten_cons]

end

theorem isSection_program {budget : Option UInt64} {g g' : Generator} {p : Program}
    (hvalid : g.config.validate = .ok ()) (h : Run.program budget g = (.ok p, g')) (number : Nat) :
    IsSection (heading number p.seed ++ "\n" ++ p.code) := by
  obtain ⟨hcode, hspoken⟩ := Run.program_lines h
  have hmargin := margin_of_isIndent (Config.isIndent_of_validate hvalid)
  refine ⟨(heading number p.seed ++ "\n").toList, _, by rw [String.toList_append, hcode, toList_written]; rfl, ?_,
    beginsWithSlashes_heading number p.seed, ?_⟩
  · refine List.forall_mem_cons.mpr ⟨isEnded_heading number p.seed, ?_⟩
    rw [List.forall_mem_map]
    exact fun l hl => isEnded_line hmargin (hspoken l hl) l.1
  · rw [List.forall_mem_map]
    exact fun l hl => beginsWithSlashes_line hmargin (hspoken l hl) l.1

end RandomPrograms.CommandLine
