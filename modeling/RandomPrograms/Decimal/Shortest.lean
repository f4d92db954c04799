/-! Decimal texts of binary floating point numbers: the fewest digits that read back as the same number,
    and of those the nearest. A number is taken as an integer times a power of two; the reals that round to
    it lie between the midpoints to its neighbours, and the midpoints belong to it if the integer is even. -/

namespace RandomPrograms.Decimal

/-- A positive number `mantissa * 2 ^ exponent`; `lowest` if its lower neighbour is half as far as the upper. -/
structure Binary where
  mantissa : Nat
  exponent : Int
  lowest : Bool
deriving Repr, DecidableEq, Inhabited

/-- The number that the bits of a positive finite double stand for. -/
def Binary.ofBits (bits : UInt64) : Binary :=
  let field := ((bits >>> 52) &&& 0x7ff).toNat
  let fraction := (bits &&& 0xfffffffffffff).toNat
  if field = 0 then ⟨fraction, -1074, false⟩
  else ⟨(1 <<< 52) + fraction, (field : Int) - 1075, fraction == 0 && field > 1⟩

/-- How `a * 10 ^ i` compares with `b * 2 ^ j`. -/
def compareScaled (a : Nat) (i : Int) (b : Nat) (j : Int) : Ordering :=
  compare ((a * Nat.pow 10 i.toNat) <<< (-j).toNat) ((b * Nat.pow 10 (-i).toNat) <<< j.toNat)

namespace Binary

/-- Whether `n * 10 ^ i` rounds to the number. -/
def reads (x : Binary) (n : Nat) (i : Int) : Bool :=
  let even := x.mantissa % 2 == 0
  let low := compareScaled n i (4 * x.mantissa - (if x.lowest then 1 else 2)) (x.exponent - 2)
  let high := compareScaled n i (4 * x.mantissa + 2) (x.exponent - 2)
  (low == .gt || low == .eq && even) && (high == .lt || high == .eq && even)

/-- The greatest `n` for which `n * 10 ^ i` is not above the number. -/
def floorAt (x : Binary) (i : Int) : Nat :=
  ((x.mantissa * Nat.pow 10 (-i).toNat) <<< x.exponent.toNat) / (Nat.pow 10 i.toNat <<< (-x.exponent).toNat)

/-- Of the two points of the grid of step `10 ^ i` around the number, those that read back; of both, the
    nearer, and the even one if they are equally near. -/
def onGrid (x : Binary) (i : Int) : Option Nat :=
  let n := x.floorAt i
  match x.reads n i && n ≠ 0, x.reads (n + 1) i with
  | true, false => some n
  | false, true => some (n + 1)
  | false, false => none
  | true, true =>
    match compareScaled (2 * n + 1) i (2 * x.mantissa) x.exponent with
    | .gt => some n
    | .lt => some (n + 1)
    | .eq => some (if n % 2 = 0 then n else n + 1)

/-- The first of `grids` finer and finer grids, from step `10 ^ i` on, with a point that reads back. -/
def search (x : Binary) : (grids : Nat) → (i : Int) → Nat × Int
  | 0, i => (x.floorAt i, i)
  | grids + 1, i =>
    match x.onGrid i with
    | some n => (n, i)
    | none => search x grids (i - 1)

/-- The shortest decimal `n * 10 ^ i` that reads back. The coarsest grid has a step above every double. -/
def shortest (x : Binary) : Nat × Int := x.search 640 309

end Binary

/-! ### Texts -/

/-- Digits with a point: the number `digits * 10 ^ (exponent - digits + 1)`, read as one digit before the
    point, for exponents from -5 to 15. -/
def positional (digits : List Char) (exponent : Int) : List Char :=
  if exponent < 0 then '0' :: '.' :: (List.replicate (-exponent - 1).toNat '0' ++ digits)
  else
    let whole := exponent.toNat + 1
    if digits.length ≤ whole then digits ++ List.replicate (whole - digits.length) '0' ++ ['.', '0']
    else digits.take whole ++ '.' :: digits.drop whole

/-- One digit, a point if more follow, and the exponent with its sign. -/
def scientific (digits : List Char) (exponent : Int) : List Char :=
  digits.take 1 ++ (if digits.length > 1 then '.' :: digits.drop 1 else []) ++
    ['e', if exponent < 0 then '-' else '+'] ++ Nat.toDigits 10 exponent.natAbs

/-- The decimal `n * 10 ^ i`, without zeros at its end but one after a point. -/
def text (n : Nat) (i : Int) : List Char :=
  let all := Nat.toDigits 10 n
  let exponent := (all.length : Int) - 1 + i
  let digits := (all.reverse.dropWhile (· == '0')).reverse
  if -5 ≤ exponent ∧ exponent ≤ 15 then positional digits exponent else scientific digits exponent

def ofFloat (x : Float) : String :=
  let bits := x.toBits
  let sign := if bits >>> 63 = 1 then ['-'] else []
  let size := bits &&& 0x7fffffffffffffff
  String.ofList (sign ++
    if size = 0 then ['0', '.', '0']
    else
      let (n, i) := (Binary.ofBits size).shortest
      text n i)

end RandomPrograms.Decimal
