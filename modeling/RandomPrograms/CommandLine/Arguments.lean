/-! The arguments of the command line: one subcommand, then its options in any order, each at most once.
    An option is written long or short, its value in the same argument or in the next one. -/

namespace RandomPrograms.CommandLine

/-! ### Options -/

/-- The options of the subcommands. -/
inductive Flag
  | size
  | count
  | seed
  | maxDepth
  | blockSize
  | config
  | output
deriving Repr, DecidableEq, Inhabited

namespace Flag

/-- The long form, without its dashes. -/
def long : Flag → String
  | .size => "size"
  | .count => "count"
  | .seed => "seed"
  | .maxDepth => "max-depth"
  | .blockSize => "block-size"
  | .config => "config"
  | .output => "output"

/-- The letter of the short form. -/
def short? : Flag → Option Char
  | .size => some 's'
  | .count => some 'c'
  | .maxDepth => some 'd'
  | .blockSize => some 'b'
  | .output => some 'o'
  | .seed | .config => none

end Flag

def generateFlags : List Flag := [.size, .count, .seed, .maxDepth, .blockSize, .config, .output]

def statsFlags : List Flag := [.count, .size, .seed]

/-- An option that an argument names, with the value if the argument holds it too. -/
structure Named where
  flag : Flag
  value : Option String
deriving Repr, DecidableEq, Inhabited

/-- The option that an argument names: two dashes with a long form, and `=` before the value, or one dash with
    a letter, and `=` or nothing before the value. -/
def named? (flags : List Flag) (arg : List Char) : Option Named :=
  match arg with
  | '-' :: '-' :: cs => do
    let name := String.ofList (cs.takeWhile (· != '='))
    let flag ← flags.find? (·.long == name)
    match cs.dropWhile (· != '=') with
    | [] => return ⟨flag, none⟩
    | _ :: value => return ⟨flag, some (String.ofList value)⟩
  | '-' :: c :: cs => do
    let flag ← flags.find? (·.short? == some c)
    match cs with
    | [] => return ⟨flag, none⟩
    | '=' :: value => return ⟨flag, some (String.ofList value)⟩
    | value => return ⟨flag, some (String.ofList value)⟩
  | _ => none

/-- Whether an argument can be the value of the option before it: it begins with no dash, or is a dash. -/
def isValue (arg : String) : Bool :=
  match arg.toList with
  | '-' :: _ :: _ => false
  | _ => true

/-- The options that the arguments set, in order. Two dashes end the options, and nothing comes after them. -/
def settings? (flags : List Flag) : List String → Option (List (Flag × String))
  | [] => some []
  | ["--"] => some []
  | arg :: rest => do
    let n ← named? flags arg.toList
    match n.value, rest with
    | some value, rest =>
      let more ← settings? flags rest
      return (n.flag, value) :: more
    | none, value :: rest =>
      guard (isValue value)
      let more ← settings? flags rest
      return (n.flag, value) :: more
    | none, [] => none

/-! ### Values -/

/-- An integer of 64 bits: decimal digits, with a plus sign before them or not. -/
def word? (s : String) : Option UInt64 :=
  let digits : List Char :=
    match s.toList with
    | '+' :: cs => cs
    | cs => cs
  if digits.isEmpty || !digits.all Char.isDigit then none
  else
    let n : Nat := digits.foldl (fun (n : Nat) c => n * 10 + (c.toNat - '0'.toNat)) 0
    if n < UInt64.size then some n.toUInt64 else none

/-- The value of an option that is set, if `read` takes it; none inside if the option is not set. -/
def setting? {α : Type} (settings : List (Flag × String)) (flag : Flag) (read : String → Option α) :
    Option (Option α) :=
  match settings.lookup flag with
  | none => some none
  | some s => (read s).map some

/-! ### Commands -/

structure Generate where
  size : Option UInt64 := none
  count : UInt64 := 1
  seed : Option UInt64 := none
  maxDepth : Option UInt64 := none
  blockSize : Option UInt64 := none
  /-- The path of a configuration. -/
  config : Option String := none
  output : String := "text"
deriving Repr, DecidableEq, Inhabited

structure Stats where
  count : UInt64 := 100
  size : Option UInt64 := none
  seed : UInt64 := 42
deriving Repr, DecidableEq, Inhabited

/-- What the program is asked for. -/
inductive Command
  | version
  | generate (options : Generate)
  | stats (options : Stats)
deriving Repr, DecidableEq, Inhabited

/-- The command of a subcommand's settings. -/
def Generate.ofSettings? (settings : List (Flag × String)) : Option Generate := do
  return {
    size := ← setting? settings .size word?
    count := (← setting? settings .count word?).getD 1
    seed := ← setting? settings .seed word?
    maxDepth := ← setting? settings .maxDepth word?
    blockSize := ← setting? settings .blockSize word?
    config := ← setting? settings .config fun s => if s.isEmpty then none else some s
    output := (← setting? settings .output some).getD "text" }

def Stats.ofSettings? (settings : List (Flag × String)) : Option Stats := do
  return {
    count := (← setting? settings .count word?).getD 100
    size := ← setting? settings .size word?
    seed := (← setting? settings .seed word?).getD 42 }

/-- The settings of a subcommand, no option set twice. -/
def distinctSettings? (flags : List Flag) (args : List String) : Option (List (Flag × String)) := do
  let settings ← settings? flags args
  guard (settings.map (·.1)).Nodup
  return settings

/-- Whether an argument in the place of the subcommand asks for the version. -/
def asksVersion (arg : String) : Bool :=
  arg == "--version" || ['-', 'V'].isPrefixOf arg.toList

/-- The command that arguments give; none if they are refused. -/
def Command.ofArguments? : List String → Option Command
  | [] => none
  | "generate" :: args => do
    let settings ← distinctSettings? generateFlags args
    return .generate (← Generate.ofSettings? settings)
  | "stats" :: args => do
    let settings ← distinctSettings? statsFlags args
    return .stats (← Stats.ofSettings? settings)
  | arg :: _ => if asksVersion arg then some .version else none

end RandomPrograms.CommandLine
