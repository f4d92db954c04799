/-! The keystream that all random words come from: the ChaCha block function with twelve rounds.
    A block is computed from a key of eight words and a 64-bit block number, without a nonce, so that
    one key has 2^64 blocks of sixteen words each. -/

namespace RandomPrograms.Randomness

/-! ### Rows of four words -/

/-- Four words side by side: one row of a block. -/
structure Row where
  a : UInt32
  b : UInt32
  c : UInt32
  d : UInt32
deriving Repr, DecidableEq, Inhabited

/-- The word `x` turned left by `k` bits, for `0 < k < 32`. -/
def turnLeft (x k : UInt32) : UInt32 := (x <<< k) ||| (x >>> (32 - k))

namespace Row

def add (x y : Row) : Row := ⟨x.a + y.a, x.b + y.b, x.c + y.c, x.d + y.d⟩

/-- Exclusive or, word by word, each word then turned left by `k` bits. -/
def xorTurn (x y : Row) (k : UInt32) : Row :=
  ⟨turnLeft (x.a ^^^ y.a) k, turnLeft (x.b ^^^ y.b) k, turnLeft (x.c ^^^ y.c) k, turnLeft (x.d ^^^ y.d) k⟩

/-- The row moved one place to the left, its first word coming last. -/
def shift (x : Row) : Row := ⟨x.b, x.c, x.d, x.a⟩

def toList (x : Row) : List UInt32 := [x.a, x.b, x.c, x.d]

end Row

/-! ### Blocks -/

/-- Sixteen words in four rows. -/
structure Grid where
  first : Row
  second : Row
  third : Row
  fourth : Row
deriving Repr, DecidableEq, Inhabited

namespace Grid

/-- The quarter round on all four columns at once. -/
def columns (g : Grid) : Grid :=
  let a := g.first.add g.second
  let d := g.fourth.xorTurn a 16
  let c := g.third.add d
  let b := g.second.xorTurn c 12
  let a := a.add b
  let d := d.xorTurn a 8
  let c := c.add d
  let b := b.xorTurn c 7
  ⟨a, b, c, d⟩

/-- The diagonals become columns. -/
def tilt (g : Grid) : Grid :=
  ⟨g.first, g.second.shift, g.third.shift.shift, g.fourth.shift.shift.shift⟩

/-- The columns become diagonals again. -/
def untilt (g : Grid) : Grid :=
  ⟨g.first, g.second.shift.shift.shift, g.third.shift.shift, g.fourth.shift⟩

/-- Two rounds: the quarter round on the columns, then on the diagonals. -/
def doubleRound (g : Grid) : Grid := g.columns.tilt.columns.untilt

def doubleRounds : Nat → Grid → Grid
  | 0, g => g
  | n + 1, g => doubleRounds n g.doubleRound

def add (g h : Grid) : Grid :=
  ⟨g.first.add h.first, g.second.add h.second, g.third.add h.third, g.fourth.add h.fourth⟩

/-- All words but the first, in order. -/
def later (g : Grid) : List UInt32 :=
  g.first.b :: g.first.c :: g.first.d :: (g.second.toList ++ g.third.toList ++ g.fourth.toList)

end Grid

/-- A key: two rows of words. -/
structure Key where
  low : Row
  high : Row
deriving Repr, DecidableEq, Inhabited

/-- The first row of every block's start. -/
def constants : Row := ⟨0x61707865, 0x3320646e, 0x79622d32, 0x6b206574⟩

/-- Block `n` of the keystream of a key: the start is run through twelve rounds and added to itself. -/
def Key.block (key : Key) (n : UInt64) : Grid :=
  let start : Grid := ⟨constants, key.low, key.high, ⟨n.toUInt32, (n >>> 32).toUInt32, 0, 0⟩⟩
  (start.doubleRounds 6).add start

/-! ### Keys from seeds -/

/-- The next state of the seed expansion. -/
def expand (s : UInt64) : UInt64 := s * 6364136223846793005 + 11634580027462260723

/-- The word that a state of the seed expansion puts out: its high bits folded, turned right by its five
    highest bits. -/
def expandedWord (s : UInt64) : UInt32 :=
  let x := (((s >>> 18) ^^^ s) >>> 27).toUInt32
  let k := (s >>> 59).toUInt32
  if k = 0 then x else turnLeft x (32 - k)

/-- The key of a seed: the words put out by the next eight states. -/
def Key.ofSeed (seed : UInt64) : Key :=
  let s1 := expand seed
  let s2 := expand s1
  let s3 := expand s2
  let s4 := expand s3
  let s5 := expand s4
  let s6 := expand s5
  let s7 := expand s6
  let s8 := expand s7
  ⟨⟨expandedWord s1, expandedWord s2, expandedWord s3, expandedWord s4⟩,
   ⟨expandedWord s5, expandedWord s6, expandedWord s7, expandedWord s8⟩⟩

end RandomPrograms.Randomness
