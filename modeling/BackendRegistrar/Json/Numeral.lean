import BackendRegistrar.Json.Basic
import BackendRegistrar.Text.Characters

/-! Numerals of JSON texts. An integer that fits 64 bits is kept as it is. Any other numeral
becomes a binary64 number: its leading digits as one 64-bit integer, multiplied or divided by
a power of ten. -/

namespace BackendRegistrar.Json

/-- A numeral taken apart: digits before and after the point, and the power of ten. -/
structure Numeral where
  negative : Bool
  whole : List Nat
  fraction : Option (List Nat)
  power : Option (Bool × List Nat)
deriving DecidableEq, Repr

namespace Numeral

def spanDigits : List Char → List Nat × List Char
  | [] => ([], [])
  | c :: rest => match Text.digit? c with
    | some d => let (ds, after) := spanDigits rest; (d :: ds, after)
    | none => ([], c :: rest)

/-- The whole part: one digit, or several of which the first is not zero. -/
def wholeAllowed : List Nat → Bool
  | [] => false
  | [_] => true
  | d :: _ => d ≠ 0

def power? (cs : List Char) : Option (Bool × List Nat) :=
  let (negative, digits) := match cs with
    | '-' :: rest => (true, rest)
    | '+' :: rest => (false, rest)
    | rest => (false, rest)
  match spanDigits digits with
  | (d :: ds, []) => some (negative, d :: ds)
  | _ => none

def ofChars? (cs : List Char) : Option Numeral := do
  let (negative, cs) := match cs with
    | '-' :: rest => (true, rest)
    | rest => (false, rest)
  let (whole, cs) := spanDigits cs
  guard (wholeAllowed whole)
  let (fraction, cs) ← match cs with
    | '.' :: rest => match spanDigits rest with
      | ([], _) => none
      | (ds, after) => some (some ds, after)
    | rest => some (none, rest)
  match cs with
  | [] => some ⟨negative, whole, fraction, none⟩
  | 'e' :: rest | 'E' :: rest => return ⟨negative, whole, fraction, some (← power? rest)⟩
  | _ => none

def wordMax : Nat := UInt64.size - 1

/-- Appends digits to an integer while it fits `bound`; answers it and how many were left. -/
def takeDigits (bound : Nat) (value : Nat) : List Nat → Nat × Nat
  | [] => (value, 0)
  | d :: rest =>
    if 10 * value + d ≤ bound then takeDigits bound (10 * value + d) rest
    else (value, rest.length + 1)

/-- Multiplies or divides by a power of ten, which is given by at most 308 at a time;
overflow is refused. -/
def scale? (value : Float) (power : Int) : Nat → Option Float
  | 0 => some value
  | steps + 1 =>
    if power.natAbs ≤ 308 then
      let ten := Float.ofScientific 1 false power.natAbs
      if 0 ≤ power then
        let scaled := value * ten
        if scaled.isInf then none else some scaled
      else some (value / ten)
    else if value == 0 then some value
    else if 0 ≤ power then none
    else scale? (value / Float.ofScientific 1 false 308) (power + 308) steps

def realOf (negative : Bool) (value : Float) : Number :=
  .real (if negative then -value else value).toBits

/-- The number that a numeral stands for, unless it is too large. -/
def value? (n : Numeral) : Option Number :=
  let (whole, left) := takeDigits wordMax 0 n.whole
  match n.fraction, n.power with
  | none, none =>
    if left = 0 then
      if n.negative then
        if whole = 0 ∨ Int64.minValue.toInt.natAbs < whole then
          some (realOf true (UInt64.ofNat whole).toFloat)
        else some (.integer (-whole))
      else some (.integer whole)
    else (scale? (UInt64.ofNat whole).toFloat left 4).map (realOf n.negative)
  | fraction, power =>
    let digits := fraction.getD []
    let (significand, unread) := takeDigits wordMax whole digits
    let shift : Int := (left : Int) - ((digits.length - unread : Nat) : Int)
    let start := (UInt64.ofNat significand).toFloat
    match power with
    | none => (scale? start shift 4).map (realOf n.negative)
    | some (negativePower, ds) =>
      let (size, beyond) := takeDigits Int32.maxValue.toInt.toNat 0 ds
      if beyond ≠ 0 then
        if significand ≠ 0 ∧ negativePower = false then none else some (realOf n.negative 0)
      else
        (scale? start (if negativePower then shift - size else shift + size) 4).map
          (realOf n.negative)

end Numeral

def Number.ofChars? (cs : List Char) : Option Number := (Numeral.ofChars? cs).bind Numeral.value?

end BackendRegistrar.Json
