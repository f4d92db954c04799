import RandomPrograms.Json.Token

/-! Documents as they are written: trees of literals. They are read token by token, with a stack of the
    lists and objects that are open, so that no nesting is too deep. Literals keep what they are written as:
    a text may hold half of a surrogate pair, a number may be of any size. -/

namespace RandomPrograms.Json

/-- A document as it is written. -/
inductive Node where
  | null
  | boolean (b : Bool)
  | number (l : NumberLiteral)
  | text (pieces : List Piece)
  | list (items : List Node)
  | object (members : List (List Piece × Node))
deriving Repr, Inhabited

/-- A reading machine: it takes one token after the other and is stopped by the first fault. -/
structure Machine (σ α : Type) where
  step : σ → Token → Except Fault σ
  /-- What it makes of the end of the text. -/
  finish : σ → Except Fault α

def Machine.run {σ α : Type} (m : Machine σ α) : σ → List Token → Except Fault α
  | s, [] => m.finish s
  | s, t :: ts =>
    match m.step s t with
    | .ok s => m.run s ts
    | .error fault => .error fault

theorem Machine.run_of_step {σ α : Type} {m : Machine σ α} {s s' : σ} {t : Token} {ts : List Token}
    (h : m.step s t = .ok s') : m.run s (t :: ts) = m.run s' ts := by
  rw [run, h]

namespace Node

/-- A list or object that is open, with what it holds so far, the last first. -/
inductive Frame
  | list (items : List Node)
  | object (members : List (List Piece × Node)) (key : List Piece)
deriving Inhabited

/-- Where the reading of a tree stands; the frames are those around this place, the innermost first. -/
inductive State
  /-- A value is due. -/
  | value (frames : List Frame)
  /-- A list has been opened. -/
  | firstItem (frames : List Frame)
  | afterItem (items : List Node) (frames : List Frame)
  /-- An object has been opened. -/
  | firstKey (frames : List Frame)
  | nextKey (members : List (List Piece × Node)) (frames : List Frame)
  | colon (members : List (List Piece × Node)) (key : List Piece) (frames : List Frame)
  | afterMember (members : List (List Piece × Node)) (frames : List Frame)
  | done (t : Node)
deriving Inhabited

namespace State

/-- A value is complete, and goes into the innermost frame. -/
def complete (t : Node) : List Frame → State
  | [] => .done t
  | .list items :: frames => .afterItem (t :: items) frames
  | .object members key :: frames => .afterMember ((key, t) :: members) frames

/-- The token where a value is due. -/
def onValue (frames : List Frame) : Token → Except Fault State
  | .openList => .ok (.firstItem frames)
  | .openObject => .ok (.firstKey frames)
  | .null => .ok (complete .null frames)
  | .boolean b => .ok (complete (.boolean b) frames)
  | .number l => .ok (complete (.number l) frames)
  | .text pieces => .ok (complete (.text pieces) frames)
  | .malformed _ _ skipped => .error skipped
  | .closeList | .closeObject | .comma | .colon => .error .noValue

/-- The token where a key is due. -/
def onKey (members : List (List Piece × Node)) (frames : List Frame) : Token → Except Fault State
  | .text pieces => .ok (.colon members pieces frames)
  | .malformed true _ skipped => .error skipped
  | _ => .error .keyNotText

def step : State → Token → Except Fault State
  | .value frames, t => onValue frames t
  | .firstItem frames, .closeList => .ok (complete (.list []) frames)
  | .firstItem frames, t => onValue (.list [] :: frames) t
  | .afterItem items frames, .comma => .ok (.value (.list items :: frames))
  | .afterItem items frames, .closeList => .ok (complete (.list items.reverse) frames)
  | .afterItem _ _, _ => .error .noListComma
  | .firstKey frames, .closeObject => .ok (complete (.object []) frames)
  | .firstKey frames, t => onKey [] frames t
  | .nextKey members frames, t => onKey members frames t
  | .colon members key frames, .colon => .ok (.value (.object members key :: frames))
  | .colon _ _ _, _ => .error .noColon
  | .afterMember members frames, .comma => .ok (.nextKey members frames)
  | .afterMember members frames, .closeObject => .ok (complete (.object members.reverse) frames)
  | .afterMember _ _, _ => .error .noObjectComma
  | .done _, _ => .error .trailingCharacters

/-- What is wrong where the text ends, unless the tree is complete. -/
def finish : State → Except Fault Node
  | .value _ => .error .endOfValue
  | .firstItem _ | .afterItem _ _ => .error .endOfList
  | .firstKey _ | .nextKey _ _ | .colon _ _ _ | .afterMember _ _ => .error .endOfObject
  | .done t => .ok t

end State

def machine : Machine State Node := ⟨State.step, State.finish⟩

/-- The tree that a text is. -/
def read (s : String) : Except Fault Node := machine.run (.value []) (tokens s.toList)

end Node

end RandomPrograms.Json
