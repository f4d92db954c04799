import RandomPrograms.Proofs.Config.Members
import RandomPrograms.Proofs.Json.Accepted
import RandomPrograms.Proofs.Json.Written

/-! An object that gives values to some fields stands for the default configuration with these fields replaced.
    Nothing else counts: neither the order of the members, nor how keys, texts and space are spelled, nor
    members with other names. A field that is given twice is a fault, whatever lies between. -/

namespace RandomPrograms.Config

open Json

/-! ### Values of fields -/

/-- The halves of surrogate pairs stand in pairs. -/
inductive Paired : List Piece → Prop
  | nil : Paired []
  | char {c : Char} {ps : List Piece} (h : Paired ps) : Paired (.char c :: ps)
  | unit {n : Nat} {ps : List Piece} (hhigh : isHighHalf n = false) (hlow : isLowHalf n = false) (h : Paired ps) :
      Paired (.unit n :: ps)
  | pair {m n : Nat} {ps : List Piece} (hhigh : isHighHalf m = true) (hlow : isLowHalf n = true) (h : Paired ps) :
      Paired (.unit m :: .unit n :: ps)

/-- The integer that a value is, if it is written without sign, fraction and exponent and 64 bits hold it. -/
def plainWord? : Node → Option UInt64
  | .number ⟨false, whole, [], _, []⟩ =>
    if Nat.ofDigitChars 10 whole 0 < UInt64.size then some (Nat.ofDigitChars 10 whole 0).toUInt64 else none
  | _ => none

/-- The text that a value is. -/
def plainText? : Node → Option String
  | .text ps => (decodeText ps).toOption
  | _ => none

/-- The value is of the kind of the field: an integer, a text without a lone half of a surrogate pair, or an
    integer or null. -/
def Field.Accepts : Field → Node → Prop
  | .indent, .text ps => Paired ps
  | .indent, _ => False
  | .seed, .null => True
  | _, t => ∃ n, plainWord? t = some n

/-! ### Members -/

/-- The members that name fields, with the fields, in order. -/
def known (ms : List (List Piece × Node)) : List (Field × Node) :=
  ms.filterMap fun m => (field? m.1).map (·, m.2)

/-- The integer that is given to a field, or the default one. -/
def wordOr (given : List (Field × Node)) (f : Field) (default : UInt64) : UInt64 :=
  ((given.lookup f).bind plainWord?).getD default

/-- The default configuration with the given fields replaced by their values; a seed that is null is not
    fixed. -/
def overridden (given : List (Field × Node)) : Config where
  maxIdentifierLength := wordOr given .maxIdentifierLength Defaults.maxIdentifierLength
  maxInt := wordOr given .maxInt Defaults.maxInt
  sizeBudget := wordOr given .sizeBudget Defaults.sizeBudget
  blockSizeBudget := wordOr given .blockSizeBudget Defaults.blockSizeBudget
  maxIndentLevel := wordOr given .maxIndentLevel Defaults.maxIndentLevel
  maxIdentifierAttempts := wordOr given .maxIdentifierAttempts Defaults.maxIdentifierAttempts
  indent := ((given.lookup .indent).bind plainText?).getD Defaults.indent
  seed := (given.lookup .seed).bind plainWord?

/-- Every key is a text, each field is given at most once, and with a value of its kind. -/
structure Regular (ms : List (List Piece × Node)) : Prop where
  keys : ∀ m ∈ ms, Paired m.1
  once : ((known ms).map Prod.fst).Nodup
  values : ∀ g ∈ known ms, g.1.Accepts g.2

/-! ### Reading values -/

theorem Paired.exists_decodePieces {ps : List Piece} (h : Paired ps) (unpaired : Fault) :
    ∃ cs, decodePieces unpaired ps = .ok cs := by
  induction h with
  | nil => exact ⟨[], rfl⟩
  | @char c ps h ih =>
    obtain ⟨cs, hcs⟩ := ih
    exact ⟨c :: cs, by rw [decodePieces, hcs]; rfl⟩
  | @unit n ps hhigh hlow h ih =>
    obtain ⟨cs, hcs⟩ := ih
    refine ⟨Char.ofNat n :: cs, ?_⟩
    rw [decodePieces.eq_def]
    simp only [hhigh, hlow, hcs, Bool.false_eq_true, if_false]
    rfl
  | @pair m n ps hhigh hlow h ih =>
    obtain ⟨cs, hcs⟩ := ih
    have hm : isLowHalf m = false := by
      simp only [isHighHalf, isLowHalf, Bool.and_eq_true, decide_eq_true_eq, Bool.and_eq_false_iff,
        decide_eq_false_iff_not] at hhigh ⊢
      omega
    refine ⟨joinHalves m n :: cs, ?_⟩
    rw [decodePieces.eq_def]
    simp only [hhigh, hlow, hm, hcs, Bool.false_eq_true, if_false, if_true]
    rfl

theorem Paired.exists_decodeText {ps : List Piece} (h : Paired ps) : ∃ s, decodeText ps = .ok s := by
  obtain ⟨cs, hcs⟩ := h.exists_decodePieces .openPair
  exact ⟨String.ofList cs, by rw [decodeText, hcs]; rfl⟩

theorem readWord_plain {t : Node} {n : UInt64} (h : plainWord? t = some n) (f : Field) :
    readWord f t.head = .ok n := by
  unfold plainWord? at h
  split at h
  · rename_i whole exponentNegative
    split_ifs at h with hsize
    cases h
    have hnatural : Token.natural UInt64.size f.wanted (.number ⟨false, whole, [], exponentNegative, []⟩) =
        .ok (Nat.ofDigitChars 10 whole 0) := by
      rw [Token.natural, value_plain hsize]
      exact if_pos hsize
    rw [Node.head, readWord, hnatural]
    rfl
  · cases h

/-- A value of its kind sets a field among those that are given. -/
theorem setField_overridden (given : List (Field × Node)) {f : Field} {t : Node} (h : f.Accepts t) :
    (overridden given).setField f t.head = .ok (overridden ((f, t) :: given)) := by
  cases f with
  | indent =>
    cases t with
    | text ps =>
      obtain ⟨s, hs⟩ := h.exists_decodeText
      have hcontent : Token.content Field.indent.wanted (.text ps) = .ok s := hs
      simp only [setField, Node.head, hcontent, overridden, plainText?, List.lookup_cons_self, Option.bind_some, hs]
      rfl
    | _ => cases h
  | seed =>
    cases t with
    | null => rfl
    | _ =>
      obtain ⟨n, hn⟩ := h
      have hword := readWord_plain hn .seed
      simp only [setField, Node.head, overridden, List.lookup_cons_self, Option.bind_some, hn] at hword ⊢
      rw [hword]
      rfl
  | _ =>
    obtain ⟨n, hn⟩ := h
    simp only [setField, readWord_plain hn, overridden, wordOr, List.lookup_cons_self, Option.bind_some, hn]
    rfl

/-! ### Order -/

theorem lookup_eq_some_iff {given : List (Field × Node)} (hnodup : (given.map Prod.fst).Nodup) {f : Field} {t : Node} :
    given.lookup f = some t ↔ (f, t) ∈ given := by
  induction given with
  | nil => simp
  | cons g given ih =>
    obtain ⟨g, u⟩ := g
    rw [List.map_cons, List.nodup_cons] at hnodup
    by_cases hf : f = g
    · subst hf
      have hnew : (f, t) ∉ given := fun ht => hnodup.1 (List.mem_map.mpr ⟨(f, t), ht, rfl⟩)
      rw [List.lookup_cons_self, List.mem_cons, or_iff_left hnew, Option.some.injEq, Prod.mk.injEq, eq_comm]
      exact (and_iff_right rfl).symm
    · have hne : (f == g) = false := beq_eq_false_iff_ne.mpr hf
      rw [List.lookup_cons, hne, List.mem_cons, or_iff_right fun heq => hf (Prod.mk.inj heq).1]
      exact ih hnodup.2

/-- The order in which fields are given does not matter, as long as none is given twice. -/
theorem overridden_perm {given given' : List (Field × Node)} (h : given.Perm given')
    (hnodup : (given.map Prod.fst).Nodup) : overridden given = overridden given' := by
  have hlookup : ∀ f, given.lookup f = given'.lookup f := by
    intro f
    apply Option.ext
    intro t
    rw [lookup_eq_some_iff hnodup, lookup_eq_some_iff ((h.map Prod.fst).nodup_iff.mp hnodup), h.mem_iff]
  simp only [overridden, wordOr, hlookup]

/-! ### Reading members -/

theorem known_cons_of_none {m : List Piece × Node} (h : field? m.1 = none) (ms : List (List Piece × Node)) :
    known (m :: ms) = known ms := by
  rw [known, List.filterMap_cons, h]
  rfl

theorem known_cons_of_some {m : List Piece × Node} {f : Field} (h : field? m.1 = some f)
    (ms : List (List Piece × Node)) : known (m :: ms) = (f, m.2) :: known ms := by
  rw [known, List.filterMap_cons, h]
  rfl

/-- The configuration and the fields that have been set where some fields have been given, the last first. -/
def Partial.of (given : List (Field × Node)) : Partial := ⟨overridden given, given.map Prod.fst⟩

theorem take_of_none {p : Partial} {m : List Piece × Node} (hkey : Paired m.1) (h : field? m.1 = none) :
    p.take m = .ok p := by
  obtain ⟨name, hname⟩ := hkey.exists_decodeText
  rw [field?, hname] at h
  simp only [Partial.take, hname, bind, Except.bind, h]
  rfl

theorem take_of_some {given : List (Field × Node)} {m : List Piece × Node} {f : Field} (h : field? m.1 = some f)
    (hnew : f ∉ given.map Prod.fst) (hvalue : f.Accepts m.2) :
    (Partial.of given).take m = .ok (.of ((f, m.2) :: given)) := by
  unfold field? at h
  split at h
  · rename_i name hname
    simp only [Partial.take, hname, bind, Except.bind, h, Partial.of, if_neg hnew, setField_overridden given hvalue]
    rfl
  · cases h

/-- Members that are regular beside the fields that have been given are taken without a fault. -/
theorem foldlM_take {ms : List (List Piece × Node)} {given : List (Field × Node)} (h : Regular ms)
    (hnew : ∀ g ∈ known ms, g.1 ∉ given.map Prod.fst) :
    ms.foldlM Partial.take (.of given) = .ok (.of ((known ms).reverse ++ given)) := by
  -- By induction on the members that are left: what they give stays apart from what has been given.
  induction ms generalizing given with
  | nil => rfl
  | cons m ms ih =>
    have hkey := h.keys m List.mem_cons_self
    have hkeys : ∀ m ∈ ms, Paired m.1 := fun n hn => h.keys n (List.mem_cons_of_mem _ hn)
    have honce := h.once
    have hvalues := h.values
    rw [List.foldlM_cons]
    rcases hf : field? m.1 with _ | f
    · rw [known_cons_of_none hf] at honce hvalues hnew ⊢
      rw [take_of_none hkey hf]
      exact ih ⟨hkeys, honce, hvalues⟩ hnew
    · rw [known_cons_of_some hf] at honce hvalues hnew ⊢
      rw [List.map_cons, List.nodup_cons] at honce
      rw [take_of_some hf (hnew _ List.mem_cons_self) (hvalues _ List.mem_cons_self), List.reverse_cons,
        List.append_assoc]
      refine ih ⟨hkeys, honce.2, fun g hg => hvalues g (List.mem_cons_of_mem _ hg)⟩ fun g hg hmem => ?_
      rcases List.mem_cons.mp hmem with heq | hmem
      · exact honce.1 (heq ▸ List.mem_map_of_mem hg)
      · exact hnew g (List.mem_cons_of_mem _ hg) hmem

/-- A regular object sets just the fields that it gives. -/
theorem read_regular {s : String} {ms : List (List Piece × Node)} (htext : Node.IsText s (.object ms))
    (h : Regular ms) : read s = .ok (overridden (known ms)) := by
  have hstart : (⟨.default, []⟩ : Partial) = .of [] := rfl
  -- The fields come out with the last first, which makes no difference.
  have hperm : (known ms).Perm (known ms).reverse := (List.reverse_perm _).symm
  rw [read_object htext, hstart, foldlM_take h fun _ _ => List.not_mem_nil, List.append_nil,
    overridden_perm hperm h.once]
  rfl

/-- Members that are taken without a fault give each field at most once, and none that has been set. -/
theorem nodup_of_foldlM_take {ms : List (List Piece × Node)} {p q : Partial} (h : ms.foldlM Partial.take p = .ok q) :
    ((known ms).map Prod.fst).Nodup ∧ ∀ g ∈ known ms, g.1 ∉ p.set := by
  induction ms generalizing p with
  | nil => exact ⟨List.nodup_nil, fun g hg => absurd hg List.not_mem_nil⟩
  | cons m ms ih =>
    rw [List.foldlM_cons] at h
    rcases htake : p.take m with fault | r <;> rw [htake] at h
    · cases h
    · obtain ⟨hnodup, hnew⟩ := ih h
      rcases Partial.take_eq_ok htake with ⟨hf, rfl⟩ | ⟨f, c, hf, hset, -, rfl⟩
      · rw [known_cons_of_none hf]
        exact ⟨hnodup, hnew⟩
      · rw [known_cons_of_some hf]
        refine ⟨List.nodup_cons.mpr ⟨fun hmem => ?_, hnodup⟩, fun g hg => ?_⟩
        · obtain ⟨g, hg, rfl⟩ := List.mem_map.mp hmem
          exact hnew g hg List.mem_cons_self
        · rcases List.mem_cons.mp hg with rfl | hg
          · exact hset
          · exact fun hmem => hnew g hg (List.mem_cons_of_mem _ hmem)

/-! ### Texts -/

/-- A text is answered with a configuration, or with the problem that this has. -/
def Answers (s : String) (c : Config) : Prop :=
  (c.validate = .ok () ∧ ofJson s = .ok c) ∨
    ∃ problem, c.validate = .error (.configuration problem) ∧ ofJson s = .error (.configuration problem)

theorem ofJson_of_read {s : String} {c : Config} (h : read s = .ok c) : ofJson s = c.validate >>= fun _ => .ok c := by
  rw [ofJson, h]
  rfl

theorem answers_of_read {s : String} {c : Config} (h : read s = .ok c) : Answers s c := by
  have hread := ofJson_of_read h
  rcases hproblem : c.problem? with _ | problem
  · have hvalid : c.validate = .ok () := by rw [validate, hproblem]
    rw [hvalid] at hread
    exact .inl ⟨hvalid, hread⟩
  · have hrefused : c.validate = .error (.configuration problem) := by rw [validate, hproblem]
    rw [hrefused] at hread
    exact .inr ⟨problem, hrefused, hread⟩

/-- A well-formed object whose fields are given once and with values of their kinds is answered with the default
    configuration with these fields replaced, if that is usable, and with its problem otherwise. Objects that
    give the same values to the same fields are answered alike, in whatever order they do so and whatever other
    members they have. An object that gives a field twice is never accepted. -/
theorem overrides_of_object :
    (∀ s ms, Node.IsText s (.object ms) → Regular ms → Answers s (overridden (known ms))) ∧
    (∀ s s' ms ms', Node.IsText s (.object ms) → Node.IsText s' (.object ms') → Regular ms → Regular ms' →
      (known ms).Perm (known ms') → ofJson s = ofJson s') ∧
    ∀ s ms, Node.IsText s (.object ms) → ¬((known ms).map Prod.fst).Nodup → ∃ fault, ofJson s = .error (.json fault) := by
  refine ⟨fun s ms htext h => answers_of_read (read_regular htext h), ?_, ?_⟩
  · intro s s' ms ms' htext htext' h h' hperm
    rw [ofJson_of_read (read_regular htext h), ofJson_of_read (read_regular htext' h'), overridden_perm hperm h.once]
  · intro s ms htext htwice
    have hread := read_object htext
    rcases hms : ms.foldlM Partial.take ⟨.default, []⟩ with fault | p <;> rw [hms] at hread
    · refine ⟨fault, ?_⟩
      rw [ofJson, hread]
      rfl
    · exact absurd (nodup_of_foldlM_take hms).1 htwice

theorem overrides_of_object_seed :
    Answers "\x7b \"x\": [1], \"see\\u0064\": 7 \x7d" { Config.default with seed := some 7 } ∧
    ofJson "\x7b \"x\": [1], \"see\\u0064\": 7 \x7d" = ofJson "\x7b\"seed\":7\x7d" ∧
    ∃ fault, ofJson "\x7b\"seed\":7,\"x\":[1],\"see\\u0064\":null\x7d" = .error (.json fault) := by
  have hother : Paired [.char 'x'] := by repeat constructor
  have hplain : Paired [.char 's', .char 'e', .char 'e', .char 'd'] := by repeat constructor
  have hescaped : Paired [.char 's', .char 'e', .char 'e', .unit 0x64] := by repeat constructor
  have hseed : Field.Accepts .seed (.number (.natural 7)) := ⟨7, by decide +kernel⟩
  have hregular : Regular [([.char 'x'], .list [.number (.natural 1)]),
      ([.char 's', .char 'e', .char 'e', .unit 0x64], .number (.natural 7))] := by
    refine ⟨by simp [hother, hescaped], by decide +kernel, fun g hg => ?_⟩
    obtain rfl : g = (.seed, .number (.natural 7)) := List.mem_singleton.mp hg
    exact hseed
  have hregular' : Regular [([.char 's', .char 'e', .char 'e', .char 'd'], .number (.natural 7))] := by
    refine ⟨by simp [hplain], by decide +kernel, fun g hg => ?_⟩
    obtain rfl : g = (.seed, .number (.natural 7)) := List.mem_singleton.mp hg
    exact hseed
  obtain ⟨hanswers, hother, htwice⟩ := overrides_of_object
  exact ⟨hanswers _ _ (by decide +kernel) hregular,
    hother _ _ _ _ (by decide +kernel) (by decide +kernel) hregular hregular' (.refl _),
    htwice _ [([.char 's', .char 'e', .char 'e', .char 'd'], .number (.natural 7)),
      ([.char 'x'], .list [.number (.natural 1)]), ([.char 's', .char 'e', .char 'e', .unit 0x64], .null)]
      (by decide +kernel) (by decide +kernel)⟩

end RandomPrograms.Config
