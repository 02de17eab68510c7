/-!
Shortest decimals: the decimal with the fewest digits that still rounds to a given binary64, and of
several such decimals the nearest one. All arithmetic is on natural numbers and exact.
-/

namespace DiagnosticSieve

structure Binary64 where
  mantissa : Nat
  exponent : Int
  /-- Whether the neighbour below is half as far away as the one above. -/
  narrowBelow : Bool
  deriving DecidableEq, Repr

structure Decimal where
  digits : Nat
  exponent : Int
  deriving DecidableEq, Repr

namespace Binary64

def leadingBit : Nat := 0x10000000000000

def ofBits (bits : UInt64) : Binary64 :=
  let fraction : Nat := bits.toNat % leadingBit
  let biased : Nat := bits.toNat / leadingBit % 0x800
  if biased = 0 then ⟨fraction, -1074, false⟩
  else ⟨leadingBit + fraction, Int.ofNat biased - 1075, fraction = 0 && 1 < biased⟩

/-- The units of the grid of multiples of ten to the power `place`, and of a quarter of the gap between
two neighbouring binary numbers, both in one common unit. -/
def units (b : Binary64) (place : Int) : Nat × Nat :=
  let quarter := b.exponent - 2
  (Nat.pow 10 place.toNat * Nat.pow 2 (-quarter).toNat,
    Nat.pow 10 (-place).toNat * Nat.pow 2 quarter.toNat)

def lowest (b : Binary64) : Nat := if b.narrowBelow then 4 * b.mantissa - 1 else 4 * b.mantissa - 2

def highest (b : Binary64) : Nat := 4 * b.mantissa + 2

def attracts (b : Binary64) (quarter number : Nat) : Bool :=
  if b.mantissa % 2 = 0 then b.lowest * quarter ≤ number && number ≤ b.highest * quarter
  else b.lowest * quarter < number && number < b.highest * quarter

def onGrid? (b : Binary64) (place : Int) : Option Decimal :=
  let (grid, quarter) := b.units place
  let number := 4 * b.mantissa * quarter
  let below := number / grid
  let above := below + 1
  let upper := above * grid - number
  let lower := number - below * grid
  let nearer := if lower < upper || (lower = upper && below % 2 = 0) then below else above
  let farther := if nearer = below then above else below
  if b.attracts quarter (nearer * grid) then some ⟨nearer, place⟩
  else if b.attracts quarter (farther * grid) then some ⟨farther, place⟩
  else none

def highestPlace : Int := 309

def lowestPlace : Int := -1074

/-- The shortest decimal of a number other than zero: the coarsest grid with a point that rounds to
the number. -/
def shortest (b : Binary64) : Decimal :=
  ((List.range (highestPlace - lowestPlace + 1).toNat).findSome? fun (n : Nat) =>
    b.onGrid? (highestPlace - n)).getD ⟨0, 0⟩

end Binary64

end DiagnosticSieve
