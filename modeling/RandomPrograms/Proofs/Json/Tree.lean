import RandomPrograms.Json.Node
import RandomPrograms.Proofs.Json.Spelling

/-! The tokens of a tree, and what reads them. A well-formed text spells the tokens of one tree, however deeply
    this is nested: where a value is due, the machine that reads trees takes just these tokens, and another
    machine that keeps its states among its own ones does so too. -/

namespace RandomPrograms.Json.Node

/-! ### Tokens -/

mutual

def tokens : Node → List Token
  | .null => [.null]
  | .boolean b => [.boolean b]
  | .number l => [.number l]
  | .text ps => [.text ps]
  | .list [] => [.openList, .closeList]
  | .list (t :: ts) => .openList :: (tokens t ++ itemTokens ts)
  | .object [] => [.openObject, .closeObject]
  | .object ((k, t) :: ms) => .openObject :: .text k :: .colon :: (tokens t ++ memberTokens ms)

/-- The tokens of the items after the first one of a list, and of its end. -/
def itemTokens : List Node → List Token
  | [] => [.closeList]
  | t :: ts => .comma :: (tokens t ++ itemTokens ts)

/-- The tokens of the members after the first one of an object, and of its end. -/
def memberTokens : List (List Piece × Node) → List Token
  | [] => [.closeObject]
  | (k, t) :: ms => .comma :: .text k :: .colon :: (tokens t ++ memberTokens ms)

end

def head : Node → Token
  | .null => .null
  | .boolean b => .boolean b
  | .number l => .number l
  | .text ps => .text ps
  | .list _ => .openList
  | .object _ => .openObject

/-- A text that is the tree, with space wherever it may be. -/
def IsText (s : String) (t : Node) : Prop := Spells s.toList t.tokens

theorem exists_tokens (t : Node) : ∃ ts, t.tokens = t.head :: ts := by
  cases t with
  | list ts => cases ts <;> exact ⟨_, rfl⟩
  | object ms => cases ms <;> exact ⟨_, rfl⟩
  | _ => exact ⟨_, rfl⟩

/-! ### Reading -/

namespace State

/-- The state after some tokens, if none of them is a fault. -/
def after (s : State) (ts : List Token) : Except Fault State := ts.foldlM State.step s

theorem after_cons {s s' : State} {t : Token} (h : s.step t = .ok s') (ts : List Token) :
    s.after (t :: ts) = s'.after ts := by
  rw [after, List.foldlM_cons, h]
  rfl

/-- The first item of a list is read like any later one: it does not begin with the end of the list. -/
theorem after_firstItem (frames : List Frame) (t : Node) (us : List Token) :
    (State.firstItem frames).after (t.tokens ++ us) = (State.value (.list [] :: frames)).after (t.tokens ++ us) := by
  obtain ⟨ts, hts⟩ := t.exists_tokens
  have hstep : (State.firstItem frames).step t.head = (State.value (.list [] :: frames)).step t.head := by
    cases t <;> rfl
  rw [hts, List.cons_append, after, after, List.foldlM_cons, List.foldlM_cons, hstep]

mutual

/-- Where a value is due, the tokens of a tree are read as this tree. -/
theorem after_tokens : ∀ (t : Node) (frames : List Frame) (us : List Token),
    (State.value frames).after (t.tokens ++ us) = (complete t frames).after us
  | .null, frames, us => after_cons rfl us
  | .boolean b, frames, us => after_cons rfl us
  | .number l, frames, us => after_cons rfl us
  | .text ps, frames, us => after_cons rfl us
  | .list [], frames, us => (after_cons rfl _).trans (after_cons rfl us)
  -- The first item is complete in the frame of its list, where the later ones join it, the last first.
  | .list (t :: ts), frames, us => by
    rw [tokens, List.cons_append, List.append_assoc, @after_cons _ (.firstItem frames) _ rfl, after_firstItem,
      after_tokens t, complete, after_itemTokens ts]
    rfl
  | .object [], frames, us => (after_cons rfl _).trans (after_cons rfl us)
  | .object ((k, t) :: ms), frames, us => by
    rw [tokens, List.cons_append, List.cons_append, List.cons_append, List.append_assoc,
      @after_cons _ (.firstKey frames) _ rfl, @after_cons _ (.colon [] k frames) _ rfl,
      @after_cons _ (.value (.object [] k :: frames)) _ rfl, after_tokens t, complete, after_memberTokens ms]
    rfl

theorem after_itemTokens : ∀ (ts items : List Node) (frames : List Frame) (us : List Token),
    (State.afterItem items frames).after (itemTokens ts ++ us) =
      (complete (.list (items.reverse ++ ts)) frames).after us
  | [], items, frames, us => by
    rw [List.append_nil]
    exact after_cons rfl us
  | t :: ts, items, frames, us => by
    rw [itemTokens, List.cons_append, List.append_assoc, @after_cons _ (.value (.list items :: frames)) _ rfl,
      after_tokens t, complete, after_itemTokens ts, List.reverse_cons, List.append_assoc]
    rfl

theorem after_memberTokens : ∀ (ms members : List (List Piece × Node)) (frames : List Frame) (us : List Token),
    (State.afterMember members frames).after (memberTokens ms ++ us) =
      (complete (.object (members.reverse ++ ms)) frames).after us
  | [], members, frames, us => by
    rw [List.append_nil]
    exact after_cons rfl us
  | (k, t) :: ms, members, frames, us => by
    rw [memberTokens, List.cons_append, List.cons_append, List.cons_append, List.append_assoc,
      @after_cons _ (.nextKey members frames) _ rfl, @after_cons _ (.colon members k frames) _ rfl,
      @after_cons _ (.value (.object members k :: frames)) _ rfl, after_tokens t, complete, after_memberTokens ms,
      List.reverse_cons, List.append_assoc]
    rfl

end

end State

/-! ### Machines -/

/-- A machine keeps the states of reading a tree among its own: it goes on as these do. -/
def Keeps {σ α : Type} (m : Machine σ α) (embed : State → σ) : Prop :=
  ∀ (s s' : State) (t : Token), s.step t = .ok s' → m.step (embed s) t = .ok (embed s')

/-- What a machine makes of tokens that a tree goes on with is what it makes of the state after them. -/
theorem Keeps.run {σ α : Type} {m : Machine σ α} {embed : State → σ} (h : Keeps m embed) {s s' : State}
    {ts : List Token} (hts : s.after ts = .ok s') (us : List Token) :
    m.run (embed s) (ts ++ us) = m.run (embed s') us := by
  induction ts generalizing s with
  | nil =>
    cases hts
    rfl
  | cons t ts ih =>
    rcases hstep : s.step t with fault | next
    · rw [State.after, List.foldlM_cons, hstep] at hts
      cases hts
    · rw [State.after_cons hstep] at hts
      rw [List.cons_append, Machine.run_of_step (h _ _ _ hstep), ih hts]

/-- A machine that keeps these states reads over the tokens of a tree, and no further. -/
theorem Keeps.run_tokens {σ α : Type} {m : Machine σ α} {embed : State → σ} (h : Keeps m embed) (t : Node)
    (frames : List Frame) (us : List Token) :
    m.run (embed (.value frames)) (t.tokens ++ us) = m.run (embed (State.complete t frames)) us := by
  have hafter := State.after_tokens t frames []
  rw [List.append_nil] at hafter
  exact h.run hafter us

theorem keeps_machine : Keeps machine id := fun _ _ _ h => h

theorem run_tokens (t : Node) : machine.run (.value []) t.tokens = .ok t := by
  have hrun := keeps_machine.run_tokens t [] []
  rw [List.append_nil] at hrun
  exact hrun

theorem read_of_isText {s : String} {t : Node} (h : IsText s t) : read s = .ok t := by
  rw [read, tokens_of_spells h, run_tokens]

theorem IsText.unique {s : String} {t u : Node} (ht : IsText s t) (hu : IsText s u) : t = u :=
  Except.ok.inj ((read_of_isText ht).symm.trans (read_of_isText hu))

end RandomPrograms.Json.Node
