/-! The shortest decimal that reads back as a binary floating-point number: of the decimals
inside the interval that rounds to the number, one with the fewest digits, and of those the
nearest. All arithmetic is on natural numbers. -/

namespace BackendRegistrar.Decimal

/-- A positive decimal `digits · 10 ^ exponent`. -/
structure Scaled where
  digits : Nat
  exponent : Int
deriving DecidableEq, Repr

/-- A positive rational with the ends of an interval around it, all over one denominator. -/
structure Enclosure where
  low : Nat
  value : Nat
  high : Nat
  denominator : Nat
  closed : Bool
deriving DecidableEq, Repr

namespace Enclosure

/-- The reals that round to `m · 2 ^ q`. Below a power of two the gap is half as wide. -/
def ofBinary (m : Nat) (q : Int) (narrowBelow : Bool) : Enclosure :=
  let up := 1 <<< (q - 2).toNat
  let below := if narrowBelow then 1 else 2
  { low := (4 * m - below) * up
    value := 4 * m * up
    high := (4 * m + 2) * up
    denominator := 1 <<< (2 - q).toNat
    closed := decide (m % 2 = 0) }

def overGrid (n : Nat) (denominator : Nat) (e : Int) : Nat × Nat :=
  (n * Nat.pow 10 (-e).toNat, denominator * Nat.pow 10 e.toNat)

def contains (x : Enclosure) (c : Nat) (e : Int) : Bool :=
  let (low, d) := overGrid x.low x.denominator e
  let (high, _) := overGrid x.high x.denominator e
  if x.closed then decide (low ≤ c * d ∧ c * d ≤ high) else decide (low < c * d ∧ c * d < high)

/-- The better of the two neighbours of the value on the grid `10 ^ e`, if one is inside. -/
def onGrid? (x : Enclosure) (e : Int) : Option Scaled :=
  let (n, d) := overGrid x.value x.denominator e
  let below := n / d
  let upperNearer := decide (d < 2 * (n % d) ∨ (d = 2 * (n % d) ∧ below % 2 = 1))
  let candidate (c : Nat) : Option Scaled :=
    if 0 < c && x.contains c e then some ⟨c, e⟩ else none
  if upperNearer then (candidate (below + 1)).or (candidate below)
  else (candidate below).or (candidate (below + 1))

/-- How many digits stand before the point; not positive when the value is below one. -/
def pointPosition (x : Enclosure) : Int :=
  let whole := x.value / x.denominator
  if whole = 0 then
    let zeros := (List.range 400).takeWhile fun j =>
      decide (x.value * Nat.pow 10 (j + 1) < x.denominator)
    (0 : Int) - zeros.length
  else ((Nat.toDigits 10 whole).length : Int)

/-- The first grid with a decimal inside the interval, from one digit on. -/
def shortest (x : Enclosure) : Scaled :=
  let point := x.pointPosition
  let grids := (List.range 17).map fun (n : Nat) => point - (n + 1 : Int)
  (grids.findSome? x.onGrid?).getD ⟨x.value / x.denominator, 0⟩

end Enclosure

inductive Reading
  | nan
  | infinite (negative : Bool)
  | zero (negative : Bool)
  | finite (negative : Bool) (value : Scaled)
deriving DecidableEq, Repr

/-- The shortest decimal that reads back as `m · 2 ^ q`. -/
def shortest (m : Nat) (q : Int) : Scaled :=
  (Enclosure.ofBinary m q (m == 0x10000000000000 && decide (-1074 < q))).shortest

def Reading.ofBits (decimal : Nat → Int → Scaled) (bits : UInt64) : Reading :=
  let negative := bits >>> 63 == 1
  let exponent : Nat := (bits >>> 52 &&& 0x7ff).toNat
  let fraction : Nat := (bits &&& 0xfffffffffffff).toNat
  if exponent = 2047 then (if fraction = 0 then .infinite negative else .nan)
  else if exponent = 0 then
    if fraction = 0 then .zero negative else .finite negative (decimal fraction (-1074))
  else .finite negative (decimal (0x10000000000000 + fraction) ((exponent : Int) - 1075))

end BackendRegistrar.Decimal
