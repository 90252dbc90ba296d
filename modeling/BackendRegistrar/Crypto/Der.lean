import BackendRegistrar.Octets

/-! Elements of the distinguished encoding: a tag, a length in as few octets as will do, and
the contents. -/

namespace BackendRegistrar.Crypto.Der

structure Element where
  tag : UInt8
  contents : List UInt8
deriving DecidableEq, Repr

namespace Element

/-- The number of an element that its context gives a meaning. -/
def contextNumber? (e : Element) : Option Nat :=
  if 0x80 ≤ e.tag ∧ e.tag < 0xC0 then some (e.tag.toNat % 32) else none

def isConstructed (e : Element) : Bool := e.tag.toNat / 32 % 2 == 1

end Element

/-- The tags that have the same meaning everywhere. -/
def universalTags : List UInt8 :=
  [0x01, 0x02, 0x03, 0x04, 0x05, 0x06, 0x09, 0x0A, 0x0C, 0x12, 0x13, 0x14, 0x15, 0x16, 0x17, 0x18,
    0x1A, 0x1E, 0x30, 0x31]

/-- Whether an octet is a tag; a number above thirty takes more octets and is not read. -/
def isTag (tag : UInt8) : Bool :=
  if tag < 0x40 then universalTags.contains tag else tag.toNat % 32 < 31

def length? : List UInt8 → Option (Nat × List UInt8)
  | [] => none
  | first :: rest =>
    if first < 0x80 then some (first.toNat, rest)
    else
      let count := first.toNat - 0x80
      let octets := rest.take count
      let n := Octets.toNat octets
      if 1 ≤ count ∧ count ≤ 4 ∧ octets.length = count ∧ 0x80 ≤ n ∧ octets.head? ≠ some 0 then
        some (n, rest.drop count)
      else none

def element? : List UInt8 → Option (Element × List UInt8)
  | [] => none
  | tag :: rest => do
    let (n, rest) ← length? rest
    guard (n ≤ rest.length)
    return (⟨tag, rest.take n⟩, rest.drop n)

def contents? (tag : UInt8) (bs : List UInt8) : Option (List UInt8 × List UInt8) := do
  let (e, rest) ← element? bs
  guard (e.tag = tag)
  return (e.contents, rest)

def only? (tag : UInt8) (bs : List UInt8) : Option (List UInt8) := do
  let (contents, rest) ← contents? tag bs
  guard rest.isEmpty
  return contents

/-- Reads a natural number: no sign, and no zero in front but for one that keeps it so. -/
def nat? (bs : List UInt8) : Option (Nat × List UInt8) := do
  let (contents, rest) ← contents? 0x02 bs
  match contents with
  | [] => none
  | first :: more =>
    guard (first < 0x80)
    guard (first ≠ 0 ∨ more = [] ∨ (more.head?.any (0x80 ≤ ·)) = true)
    return (Octets.toNat contents, rest)

/-- Reads elements to the end; `fuel` bounds their number. -/
def elements? : Nat → List UInt8 → Option (List Element)
  | _, [] => some []
  | 0, _ => none
  | fuel + 1, bs => do
    let (e, rest) ← element? bs
    let more ← elements? fuel rest
    return e :: more

def isElement (bs : List UInt8) : Bool :=
  match element? bs with
  | some (e, rest) => isTag e.tag && rest.isEmpty
  | none => false

def nats? : Nat → List UInt8 → Option (List Nat × List UInt8)
  | 0, bs => some ([], bs)
  | count + 1, bs => do
    let (n, rest) ← nat? bs
    let (ns, rest) ← nats? count rest
    return (n :: ns, rest)

end BackendRegistrar.Crypto.Der
