import BackendRegistrar.Decimal.Shortest

/-! How a floating-point number is written: with its point in place while that stays short,
else with a power of ten. -/

namespace BackendRegistrar.Decimal

/-- Where positional writing ends: numbers whose point stands after at most `whole` digits and
with fewer than `zeros` zeros between point and first digit are positional. -/
structure Layout where
  whole : Nat
  zeros : Nat
deriving DecidableEq, Repr

namespace Layout

/-- Digits and the position of the point among them, trailing zeros dropped. -/
def significant (value : Scaled) : List Char × Int :=
  let all := Nat.toDigits 10 value.digits
  let kept := (all.reverse.dropWhile (· == '0')).reverse
  (kept, all.length + value.exponent)

def digits (layout : Layout) (value : Scaled) : List Char :=
  let (ds, point) := significant value
  let n : Int := ds.length
  if n ≤ point ∧ point ≤ layout.whole then
    ds ++ List.replicate (point - n).toNat '0' ++ ['.', '0']
  else if 0 < point ∧ point ≤ layout.whole then
    ds.take point.toNat ++ '.' :: ds.drop point.toNat
  else if -(layout.zeros : Int) < point ∧ point ≤ 0 then
    '0' :: '.' :: (List.replicate (-point).toNat '0' ++ ds)
  else
    let power := 'e' :: (toString (point - 1)).toList
    match ds with
    | [] => power
    | [d] => d :: power
    | d :: rest => d :: '.' :: (rest ++ power)

def text (layout : Layout) (decimal : Nat → Int → Scaled) (bits : UInt64) : String :=
  match Reading.ofBits decimal bits with
  | .nan => "NaN"
  | .infinite negative => if negative then "-inf" else "inf"
  | .zero negative => if negative then "-0.0" else "0.0"
  | .finite negative value =>
    String.ofList ((if negative then ['-'] else []) ++ layout.digits value)

end Layout

end BackendRegistrar.Decimal
