import BackendRegistrar.Crypto.Der
import BackendRegistrar.Crypto.Pem
import BackendRegistrar.Crypto.Sha256

/-! Keys for RSA signatures, and signing texts with them: a digest, padded to the size of the
modulus, is raised to the private exponent. -/

namespace BackendRegistrar.Crypto

structure RsaKey where
  modulus : Nat
  publicExponent : Nat
  privateExponent : Nat
  prime1 : Nat
  prime2 : Nat
deriving DecidableEq, Repr

/-- Divides `r` and `s` by turns until nothing is left: the greatest common divisor, and what a
number is multiplied by to leave it, where `x` and `y` belong to `r` and `s`. -/
def commonDivisor (r s : Nat) (x y : Int) : Nat × Int :=
  if h : s = 0 then (r, x)
  else
    have : r % s < s := Nat.mod_lt r (Nat.pos_of_ne_zero h)
    commonDivisor s (r % s) y (x - r / s * y)
termination_by s

def inverse? (n modulus : Nat) : Option Nat :=
  let (divisor, x) := commonDivisor modulus (n % modulus) 0 1
  if divisor = 1 then some (x % modulus).toNat else none

/-- `base ^ exponent % modulus`, by squaring. -/
def powMod (base exponent modulus : Nat) : Nat :=
  if exponent = 0 then 1 % modulus
  else
    let half := powMod (base * base % modulus) (exponent / 2) modulus
    if exponent % 2 = 0 then half else base * half % modulus
termination_by exponent
decreasing_by omega

namespace RsaKey

def bitLength (n : Nat) : Nat := if n = 0 then 0 else n.log2 + 1

def size (k : RsaKey) : Nat := (bitLength k.modulus + 7) / 8

/-- Whether the exponents undo one another, and the numbers are in the ranges that are used. -/
def valid (k : RsaKey) : Bool :=
  let product := k.publicExponent * k.privateExponent
  k.publicExponent % 2 == 1 &&
    decide (2 ≤ k.publicExponent ∧ bitLength k.publicExponent ≤ 33) &&
    decide (k.publicExponent < k.modulus) && k.modulus % 2 == 1 &&
    k.prime1 * k.prime2 == k.modulus && decide (2 ≤ k.prime1 ∧ 2 ≤ k.prime2) &&
    product % (k.prime1 - 1) == 1 && product % (k.prime2 - 1) == 1

/-- Reads the numbers of a key; the last three, which follow from the others, are not looked at. -/
def ofNumbers? (octets : List UInt8) : Option RsaKey := do
  let body ← Der.only? 0x30 octets
  match ← Der.nats? 9 body with
  | ([version, n, e, d, p, q, _, _, _], rest) =>
    guard (version = 0 ∧ rest = [])
    let key : RsaKey := ⟨n, e, d, p, q⟩
    guard key.valid
    return key
  | _ => none

def algorithm : List UInt8 :=
  [0x06, 0x09, 0x2a, 0x86, 0x48, 0x86, 0xf7, 0x0d, 0x01, 0x01, 0x01, 0x05, 0x00]

/-- Whether an element that nothing is known of may follow a wrapped key: one element, tagged for
its context. -/
def isExtension (e : Der.Element) : Bool :=
  e.contextNumber?.any (· < 31) && e.isConstructed && Der.isElement e.contents

def isPublicKey (e : Der.Element) : Bool := !e.isConstructed && e.contents.head? == some 0

/-- Whether what follows a wrapped key is allowed: attributes, then the public key exactly in
version one, then extensions. -/
def trailerAllowed (version : Nat) (trailer : List Der.Element) : Bool :=
  match trailer.dropWhile (·.contextNumber? == some 0) with
  | [] => version == 0
  | e :: more =>
    if e.contextNumber? = some 1 then version == 1 && isPublicKey e && more.all isExtension
    else version == 0 && (e :: more).all isExtension

def ofWrapped? (octets : List UInt8) : Option RsaKey := do
  let body ← Der.only? 0x30 octets
  let (version, rest) ← Der.nat? body
  guard (version ≤ 1)
  let (found, rest) ← Der.contents? 0x30 rest
  guard (found = algorithm)
  let (key, rest) ← Der.contents? 0x04 rest
  let trailer ← Der.elements? rest.length rest
  guard (trailerAllowed version trailer)
  ofNumbers? key

def ofPem? (text : List Char) : Option RsaKey := do
  let block ← Pem.read? text
  if block.label = "PRIVATE KEY" then ofWrapped? block.octets
  else if block.label = "RSA PRIVATE KEY" then ofNumbers? block.octets
  else none

def digestPrefix : List UInt8 :=
  [0x30, 0x31, 0x30, 0x0d, 0x06, 0x09, 0x60, 0x86, 0x48, 0x01, 0x65, 0x03, 0x04, 0x02, 0x01, 0x05,
    0x00, 0x04, 0x20]

inductive SigningError
  | tooLong
  | unsound
deriving DecidableEq, Repr

def paddedDigest (k : RsaKey) (message : List UInt8) : Except SigningError (List UInt8) :=
  let info := digestPrefix ++ Sha256.digest message
  if k.size < info.length + 11 then .error .tooLong
  else .ok (0x00 :: 0x01 :: List.replicate (k.size - info.length - 3) 0xff ++ 0x00 :: info)

/-- Raises a number to the private exponent: up to multiples of either prime, which takes less
work, and then together, if the second prime can be divided by. -/
def decrypt (k : RsaKey) (c : Nat) : Nat :=
  match inverse? k.prime2 k.prime1 with
  | none => powMod c k.privateExponent k.modulus
  | some factor =>
    let first := powMod c (k.privateExponent % (k.prime1 - 1)) k.prime1
    let second := powMod c (k.privateExponent % (k.prime2 - 1)) k.prime2
    let difference := (((first : Int) - second) % k.prime1).toNat
    difference * factor % k.prime1 * k.prime2 + second

/-- Signs a text. A signature that the public exponent does not undo is not given out. -/
def sign (k : RsaKey) (message : List UInt8) : Except SigningError (List UInt8) := do
  let padded ← k.paddedDigest message
  let c := Octets.toNat padded
  let s := k.decrypt c
  if powMod s k.publicExponent k.modulus = c then return Octets.ofNat k.size s else throw .unsound

end RsaKey

end BackendRegistrar.Crypto
