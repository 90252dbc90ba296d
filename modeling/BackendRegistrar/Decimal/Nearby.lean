import BackendRegistrar.Decimal.Shortest

/-! A decimal that reads back as a binary floating-point number, found with 64 bits of precision.
The interval around the number is brought into range by a power of ten; the digits are those of
its upper end, up to the first place from which on the rest may be dropped. The last digit is then
lowered towards the number, which is not done beyond the eighth place after the point: there the
decimal may be one of several as short. -/

namespace BackendRegistrar.Decimal

/-- A number `significand · 2 ^ exponent` with a significand of at most 64 bits. -/
structure Extended where
  significand : Nat
  exponent : Int
deriving DecidableEq, Repr

namespace Extended

/-- The number with the highest of the 64 bits set. -/
def normalized (x : Extended) : Extended :=
  let shift := 63 - Nat.log2 x.significand
  ⟨x.significand <<< shift, x.exponent - shift⟩

def times (x y : Extended) : Extended :=
  ⟨(x.significand * y.significand + (1 <<< 63)) >>> 64, x.exponent + y.exponent + 64⟩

def ofQuotient (n d : Nat) : Extended :=
  let scale := (Nat.log2 n : Int) - Nat.log2 d
  let scale := if n <<< (-scale).toNat < d <<< scale.toNat then scale - 1 else scale
  let exponent := scale - 63
  let top := n <<< (-exponent).toNat
  let bottom := d <<< exponent.toNat
  ⟨(2 * top + bottom) / (2 * bottom), exponent⟩

def powerOfTen (p : Int) : Extended := ofQuotient (Nat.pow 10 p.toNat) (Nat.pow 10 (-p).toNat)

/-- The power of ten that brings a number of this exponent into range: its product has an exponent
between -60 and -32. Every eighth power from the 348th negative one on is used. -/
def scalingPower (exponent : Int) : Int :=
  let place := 347 - Int.fdiv ((exponent + 61) * 30102999566398114) 100000000000000000
  8 * (Int.fdiv place 8 + 1) - 348

end Extended

/-- Lowers the last digit, worth `step`, while that brings the rest below the upper end nearer to
`gap` and keeps it within `width`. -/
def lowerDigits (width step gap : Nat) (digits rest : Nat) : Nat :=
  if _h : 0 < step ∧ rest < gap ∧ step ≤ width - rest ∧
      (rest + step < gap ∨ rest + step - gap < gap - rest) then
    lowerDigits width step gap (digits - 1) (rest + step)
  else digits
termination_by gap - rest
decreasing_by omega

/-- The digits of `upper / 2 ^ bits` down to the first place at which the rest is within `width`;
the number itself is `gap` below. -/
def cutDigits (bits upper width gap : Nat) : Scaled :=
  let wholeDigits := (Nat.toDigits 10 (upper >>> bits)).length
  let places := (List.range wholeDigits).reverse
  match places.find? fun j => decide (upper % (Nat.pow 10 j <<< bits) ≤ width) with
  | some j =>
    let step := Nat.pow 10 j <<< bits
    ⟨lowerDigits width step gap (upper / step) (upper % step), j⟩
  | none =>
    let rest (j : Nat) : Nat := Nat.pow 10 j * upper % (1 <<< bits)
    let j := ((List.range 20).find? fun j =>
      decide (rest (j + 1) < Nat.pow 10 (j + 1) * width)).getD 19 + 1
    let digits := (Nat.pow 10 j * upper) >>> bits
    let gap := if j < 9 then Nat.pow 10 j * gap else 0
    ⟨lowerDigits (Nat.pow 10 j * width) (1 <<< bits) gap digits (rest j), -(j : Int)⟩

/-- A short decimal that reads back as `m · 2 ^ q`. -/
def nearby (m : Nat) (q : Int) : Scaled :=
  let upper := (⟨2 * m + 1, q - 1⟩ : Extended).normalized
  let isPower := m == 0x10000000000000
  let below := if isPower then 4 * m - 1 else 2 * m - 1
  let belowExponent := if isPower then q - 2 else q - 1
  let lower : Extended :=
    ⟨below <<< (belowExponent - upper.exponent).toNat, upper.exponent⟩
  let p := Extended.scalingPower upper.exponent
  let power := Extended.powerOfTen p
  let value := (⟨m, q⟩ : Extended).normalized.times power
  let top := upper.times power
  let bottom := lower.times power
  let cut := cutDigits (-top.exponent).toNat (top.significand - 1)
    (top.significand - 1 - (bottom.significand + 1)) (top.significand - 1 - value.significand)
  ⟨cut.digits, cut.exponent - p⟩

end BackendRegistrar.Decimal
