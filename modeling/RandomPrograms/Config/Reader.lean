import RandomPrograms.Error
import RandomPrograms.Json.Scalar

/-! Reading a configuration from a JSON document. An object sets the fields that it names, each at most once;
    members with other names are passed over. A list sets the fields in their order, from the first on. What
    is not set keeps its default. The document is read from left to right, and the first fault met is the
    error. -/

namespace RandomPrograms

open Json

namespace Config

namespace Field

def ofName? (name : String) : Option Field := all.find? (·.name == name)

/-- What a document must hold for the field, as faults say it. -/
def wanted : Field → String
  | .indent => "a string"
  | .maxInt | .seed => "u64"
  | _ => "usize"

end Field

/-- An integer of 64 bits for a field. -/
def readWord (f : Field) (t : Token) : Except Fault UInt64 := do
  let n ← t.natural UInt64.size f.wanted
  return n.toUInt64

def setField (c : Config) (f : Field) (t : Token) : Except Fault Config :=
  match f with
  | .maxIdentifierLength => return { c with maxIdentifierLength := ← readWord f t }
  | .maxInt => return { c with maxInt := ← readWord f t }
  | .sizeBudget => return { c with sizeBudget := ← readWord f t }
  | .blockSizeBudget => return { c with blockSizeBudget := ← readWord f t }
  | .maxIndentLevel => return { c with maxIndentLevel := ← readWord f t }
  | .maxIdentifierAttempts => return { c with maxIdentifierAttempts := ← readWord f t }
  | .indent => return { c with indent := ← t.content f.wanted }
  | .seed =>
    match t with
    | .null => return { c with seed := none }
    | t => return { c with seed := some (← readWord f t) }

/-- A configuration of which some fields have been set. -/
structure Partial where
  config : Config
  set : List Field
deriving Repr, DecidableEq, Inhabited

/-- Where the reading of a configuration stands. -/
inductive Place
  | start
  /-- An object has been opened. -/
  | firstKey
  | nextKey (p : Partial)
  /-- A key has been read; it names no field if there is none. -/
  | colon (p : Partial) (f : Option Field)
  | value (p : Partial) (f : Field)
  /-- The value of a key that names no field is passed over. -/
  | skipping (p : Partial) (inner : Node.State)
  | afterMember (p : Partial)
  /-- A list has been opened. -/
  | firstItem
  | nextItem (c : Config) (f : Field) (later : List Field)
  | afterItem (c : Config) (later : List Field)
  /-- After the comma that follows the last field. -/
  | surplus
  | done (c : Config)
deriving Inhabited

namespace Place

/-- The token where a key is due. -/
def onKey (p : Partial) : Token → Except Fault Place
  | .text pieces => do
    let name ← decodeText pieces
    match Field.ofName? name with
    | none => return .colon p none
    | some f => if f ∈ p.set then .error (.repeatedField name) else return .colon p (some f)
  | .malformed true wanted _ => .error wanted
  | _ => .error .keyNotText

/-- The token where the value of a list's field is due. -/
def onItem (c : Config) (f : Field) (later : List Field) (t : Token) : Except Fault Place := do
  let c ← c.setField f t
  return .afterItem c later

/-- A step within a value that is passed over. -/
def onSkipped (p : Partial) (inner : Node.State) (t : Token) : Except Fault Place := do
  match ← inner.step t with
  | .done _ => return .afterMember p
  | inner => return .skipping p inner

def step : Place → Token → Except Fault Place
  | .start, .openObject => .ok .firstKey
  | .start, .openList => .ok .firstItem
  | .start, t => .error (t.unwanted "struct GeneratorConfig")
  | .firstKey, .closeObject => .ok (.done .default)
  | .firstKey, t => onKey ⟨.default, []⟩ t
  | .nextKey _, .closeObject => .error .trailingComma
  | .nextKey p, t => onKey p t
  | .colon p (some f), .colon => .ok (.value p f)
  | .colon p none, .colon => .ok (.skipping p (.value []))
  | .colon _ _, _ => .error .noColon
  | .value p f, t => do
    let c ← p.config.setField f t
    return .afterMember ⟨c, f :: p.set⟩
  | .skipping p inner, t => onSkipped p inner t
  | .afterMember p, .comma => .ok (.nextKey p)
  | .afterMember p, .closeObject => .ok (.done p.config)
  | .afterMember _, _ => .error .noObjectComma
  | .firstItem, .closeList => .ok (.done .default)
  | .firstItem, t => onItem .default .maxIdentifierLength Field.all.tail t
  | .nextItem _ _ _, .closeList => .error .trailingComma
  | .nextItem c f later, t => onItem c f later t
  | .afterItem c _, .closeList => .ok (.done c)
  | .afterItem c (f :: later), .comma => .ok (.nextItem c f later)
  | .afterItem _ (_ :: _), _ => .error .noListComma
  | .afterItem _ [], .comma => .ok .surplus
  | .afterItem _ [], _ => .error .trailingCharacters
  | .surplus, .closeList => .error .trailingComma
  | .surplus, _ => .error .trailingCharacters
  | .done _, _ => .error .trailingCharacters

def finish : Place → Except Fault Config
  | .start | .value _ _ | .nextKey _ | .nextItem _ _ _ => .error .endOfValue
  | .firstKey | .colon _ _ | .afterMember _ => .error .endOfObject
  | .skipping p inner => inner.finish.map fun _ => p.config
  | .firstItem | .afterItem _ _ => .error .endOfList
  | .surplus => .error .trailingCharacters
  | .done c => .ok c

end Place

def machine : Machine Place Config := ⟨Place.step, Place.finish⟩

/-- The configuration that a text sets, whether usable or not. -/
def read (s : String) : Except Fault Config := machine.run .start (tokens s.toList)

/-- The usable configuration that a text sets. -/
def ofJson (s : String) : Except Error Config :=
  match read s with
  | .error fault => .error (.json fault)
  | .ok c => do
    c.validate
    return c

/-- The usable configuration that a file sets, given what is under its path. -/
def ofFile (contents : Except FileProblem ByteArray) : Except Error Config :=
  match contents with
  | .error problem => .error (.file problem)
  | .ok bytes =>
    match String.fromUTF8? bytes with
    | none => .error (.file .notText)
    | some s => ofJson s

end Config

end RandomPrograms
