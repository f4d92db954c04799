import RandomPrograms.Randomness.Keystream

/-! A random source: the words of one key's keystream from some position on. It hands out words of 32 and
    64 bits and runs of bytes; a draw is a computation that uses up words of a source. -/

namespace RandomPrograms.Randomness

/-- The words of a keystream that have not been handed out yet: those left of the current block, then all
    blocks from number `nextBlock` on. -/
structure Source where
  key : Key
  nextBlock : UInt64
  pending : List UInt32
deriving Repr, DecidableEq, Inhabited

/-- A computation that draws on a random source. -/
abbrev Draw := StateM Source

namespace Source

/-- The source of a seed, at the start of its keystream. -/
def ofSeed (seed : UInt64) : Source := ⟨Key.ofSeed seed, 0, []⟩

def next (s : Source) : UInt32 × Source :=
  match s.pending with
  | w :: rest => (w, { s with pending := rest })
  | [] =>
    let g := s.key.block s.nextBlock
    (g.first.a, { s with nextBlock := s.nextBlock + 1, pending := g.later })

end Source

namespace Draw

def word32 : Draw UInt32 := Source.next

/-- Two words as one of 64 bits, the low half first. -/
def word64 : Draw UInt64 := do
  let low ← word32
  let high ← word32
  return high.toUInt64 <<< 32 ||| low.toUInt64

/-- The four bytes of a word, the low one first. -/
def bytesOfWord (w : UInt32) : List UInt8 :=
  [w.toUInt8, (w >>> 8).toUInt8, (w >>> 16).toUInt8, (w >>> 24).toUInt8]

/-- Bytes, four from each word; a last word of which only a part is needed is used up. -/
def bytes (n : Nat) : Draw (List UInt8) :=
  if n = 0 then return []
  else do
    let w ← word32
    let rest ← bytes (n - 4)
    return (bytesOfWord w).take n ++ rest

def skip : Nat → Draw Unit
  | 0 => return ()
  | n + 1 => do
    let _ ← word32
    skip n

end Draw

end RandomPrograms.Randomness
