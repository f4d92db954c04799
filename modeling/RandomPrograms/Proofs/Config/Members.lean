import RandomPrograms.Config.Reader
import RandomPrograms.Proofs.Json.Tree

/-! A configuration is read from a well-formed object member by member. A member that names a field sets it by
    the first token of its value, and is refused otherwise if it has more tokens; a member that names no field
    is passed over up to its last token, whatever its value holds. -/

namespace RandomPrograms.Config

open Json

/-! ### One member -/

/-- What a member makes of the fields that have been set. -/
def Partial.take (p : Partial) (m : List Piece × Node) : Except Fault Partial := do
  let name ← decodeText m.1
  match Field.ofName? name with
  | none => return p
  | some f =>
    if f ∈ p.set then .error (.repeatedField name)
    else
      let c ← p.config.setField f m.2.head
      return ⟨c, f :: p.set⟩

def field? (key : List Piece) : Option Field :=
  match decodeText key with
  | .ok name => Field.ofName? name
  | .error _ => none

/-- A member that is taken names no field and changes nothing, or it sets a field that has not been set. -/
theorem Partial.take_eq_ok {p q : Partial} {m : List Piece × Node} (h : p.take m = .ok q) :
    (field? m.1 = none ∧ q = p) ∨
      ∃ f c, field? m.1 = some f ∧ f ∉ p.set ∧ p.config.setField f m.2.head = .ok c ∧ q = ⟨c, f :: p.set⟩ := by
  unfold take at h
  unfold field?
  rcases hname : decodeText m.1 with fault | name <;> rw [hname] at h
  · cases h
  · simp only [bind, Except.bind] at h
    rcases hf : Field.ofName? name with _ | f <;> simp only [hf] at h
    · cases h
      exact .inl ⟨hf, rfl⟩
    · split_ifs at h with hset
      rcases hc : p.config.setField f m.2.head with fault | c <;> rw [hc] at h
      · cases h
      · cases h
        exact .inr ⟨f, c, hf, hset, hc, rfl⟩

/-! ### Values -/

/-- No field is set by the beginning of a list or an object. -/
theorem setField_of_open {c : Config} {f : Field} {t : Token} (ht : t = .openList ∨ t = .openObject) :
    ∃ fault, c.setField f t = .error fault := by
  rcases ht with rfl | rfl <;> cases f <;> exact ⟨_, rfl⟩

/-- What sets a field is one token. -/
theorem tokens_of_setField {c c' : Config} {f : Field} {t : Node} (h : c.setField f t.head = .ok c') :
    t.tokens = [t.head] := by
  cases t with
  | list ts =>
    obtain ⟨fault, hfault⟩ := @setField_of_open c f .openList (.inl rfl)
    cases hfault.symm.trans h
  | object ms =>
    obtain ⟨fault, hfault⟩ := @setField_of_open c f .openObject (.inr rfl)
    cases hfault.symm.trans h
  | _ => rfl

/-- Where a value that is passed over stands, and where it has ended. -/
def skipped (p : Partial) : Node.State → Place
  | .done _ => .afterMember p
  | inner => .skipping p inner

theorem keeps_skipped (p : Partial) : Node.Keeps machine (skipped p) := by
  intro s s' t h
  have hstep : machine.step (.skipping p s) t = .ok (skipped p s') := by
    simp only [machine, Place.step, Place.onSkipped, h]
    cases s' <;> rfl
  cases s with
  | done _ => cases h
  | _ => exact hstep

/-! ### Reading -/

/-- From where its key is due, a member is taken as a whole. -/
theorem run_take {place : Place} {p : Partial} (hplace : ∀ ps, place.step (.text ps) = Place.onKey p (.text ps))
    (key : List Piece) (t : Node) (us : List Token) :
    machine.run place (.text key :: .colon :: (t.tokens ++ us)) =
      p.take (key, t) >>= fun p => machine.run (.afterMember p) us := by
  have hkey : machine.step place (.text key) = Place.onKey p (.text key) := hplace key
  rw [Machine.run, hkey, Partial.take, Place.onKey]
  -- The key is no text, or names no field, or one that has been set, or a new one.
  rcases decodeText key with fault | name
  · rfl
  · simp only [bind, Except.bind]
    rcases Field.ofName? name with _ | f
    · have hcolon : machine.step (.colon p none) .colon = .ok (skipped p (.value [])) := rfl
      exact (Machine.run_of_step hcolon).trans ((keeps_skipped p).run_tokens t [] us)
    · by_cases hset : f ∈ p.set
      · simp only [if_pos hset]
      · have hcolon : machine.step (.colon p (some f)) .colon = .ok (.value p f) := rfl
        obtain ⟨ts, hts⟩ := t.exists_tokens
        simp only [if_neg hset, pure, Except.pure]
        rw [Machine.run_of_step hcolon]
        rcases hc : p.config.setField f t.head with fault | c
        · have hvalue : machine.step (.value p f) t.head = .error fault := by
            simp only [machine, Place.step, hc]
            rfl
          rw [hts, List.cons_append, Machine.run, hvalue]
        · have hvalue : machine.step (.value p f) t.head = .ok (.afterMember ⟨c, f :: p.set⟩) := by
            simp only [machine, Place.step, hc]
            rfl
          rw [tokens_of_setField hc, List.singleton_append, Machine.run_of_step hvalue]

/-- The members that are left to read are taken one after the other. -/
theorem run_takes (ms : List (List Piece × Node)) (p : Partial) :
    machine.run (.afterMember p) (Node.memberTokens ms) = (ms.foldlM Partial.take p).map (·.config) := by
  induction ms generalizing p with
  | nil => rfl
  | cons m ms ih =>
    obtain ⟨key, t⟩ := m
    have hcomma : machine.step (.afterMember p) .comma = .ok (.nextKey p) := rfl
    rw [Node.memberTokens, Machine.run_of_step hcomma, run_take fun _ => rfl, List.foldlM_cons]
    rcases p.take (key, t) with fault | q
    · rfl
    · exact ih q

/-- What a well-formed object sets is what its members make of the default configuration, one after the other. -/
theorem read_object {s : String} {ms : List (List Piece × Node)} (h : Node.IsText s (.object ms)) :
    read s = (ms.foldlM Partial.take ⟨.default, []⟩).map (·.config) := by
  have hopen : machine.step .start .openObject = .ok .firstKey := rfl
  rw [read, tokens_of_spells h]
  rcases ms with _ | ⟨⟨key, t⟩, ms⟩
  · rfl
  · rw [Node.tokens, Machine.run_of_step hopen, @run_take .firstKey ⟨.default, []⟩ fun _ => rfl, List.foldlM_cons]
    rcases Partial.take ⟨.default, []⟩ (key, t) with fault | q
    · rfl
    · exact run_takes ms q

end RandomPrograms.Config
