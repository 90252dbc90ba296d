import BackendRegistrar.Octets
import BackendRegistrar.Text.Characters
import BackendRegistrar.Text.Pieces
import BackendRegistrar.Text.Utf8
import BackendRegistrar.Url.International
import BackendRegistrar.Url.Percent

/-! Hosts of addresses: domain names in lower case, numeric addresses in their one written
form. -/

namespace BackendRegistrar.Url

inductive ParseError
  | noScheme
  | emptyHost
  | invalidPort
  | invalidIpv4
  | invalidIpv6
  | invalidDomainCharacter
  | invalidDomain
deriving DecidableEq, Repr

namespace ParseError

def message : ParseError → String
  | noScheme => "relative URL without a base"
  | emptyHost => "empty host"
  | invalidPort => "invalid port number"
  | invalidIpv4 => "invalid IPv4 address"
  | invalidIpv6 => "invalid IPv6 address"
  | invalidDomainCharacter => "invalid domain character"
  | invalidDomain => "invalid international domain name"

end ParseError

namespace Host

def digitsIn (base : Nat) (cs : List Char) : Option Nat :=
  cs.foldlM (fun n c => (Text.hexValue? c).bind fun d => if d < base then some (n * base + d) else none) 0

/-- Reads a part of an IPv4 address: decimal, octal after a zero, hexadecimal after `0x`. -/
def ipv4Number? (cs : List Char) : Option Nat :=
  match cs with
  | [] => none
  | '0' :: 'x' :: rest | '0' :: 'X' :: rest => digitsIn 16 rest
  | '0' :: d :: rest => digitsIn 8 (d :: rest)
  | cs => digitsIn 10 cs

/-- The parts of a dotted text, but for one empty last part. -/
def dotParts (cs : List Char) : List (List Char) :=
  let parts := Text.pieces (· == '.') cs
  if parts.getLast? = some [] ∧ 1 < parts.length then parts.dropLast else parts

/-- Whether a domain ends in a number, and is therefore an IPv4 address. -/
def endsInNumber (cs : List Char) : Bool :=
  match (dotParts cs).getLast? with
  | none | some [] => false
  | some part => part.all Char.isDigit || (ipv4Number? part).isSome

/-- Reads an IPv4 address; its last part stands for all octets left. -/
def ipv4? (cs : List Char) : Option Nat := do
  let numbers ← (dotParts cs).mapM ipv4Number?
  guard (numbers.length ≤ 4)
  let last ← numbers.getLast?
  let leading := numbers.dropLast
  guard (leading.all (· ≤ 255))
  let left := 8 * (4 - leading.length)
  guard (last >>> left = 0)
  return leading.foldl (fun n part => n * 256 + part) 0 <<< left + last

def ipv4Text (n : Nat) : List Char :=
  ".".toList.intercalate ((Octets.ofNat 4 n).map fun b => Nat.toDigits 10 b.toNat)

def ipv6Group? (cs : List Char) : Option Nat :=
  if cs.isEmpty || 4 < cs.length then none else digitsIn 16 cs

/-- Reads the four decimal octets that may end an IPv6 address, as two groups. -/
def ipv6Tail? (cs : List Char) : Option (List Nat) := do
  let parts := Text.pieces (· == '.') cs
  guard (parts.length = 4)
  let octets ← parts.mapM fun p =>
    if p.isEmpty || 3 < p.length || (p.head? = some '0' && 1 < p.length) then none
    else (Text.unsigned? p).filter (· ≤ 255)
  return [octets.getD 0 0 * 256 + octets.getD 1 0, octets.getD 2 0 * 256 + octets.getD 3 0]

def ipv6Groups? (mayEndDotted : Bool) (cs : List Char) : Option (List Nat) :=
  if cs.isEmpty then some []
  else
    let parts := Text.pieces (· == ':') cs
    match parts.getLast? with
    | some last =>
      if mayEndDotted && last.contains '.' then do
        return (← parts.dropLast.mapM ipv6Group?) ++ (← ipv6Tail? last)
      else parts.mapM ipv6Group?
    | none => none

def splitDouble : List Char → Option (List Char × List Char)
  | ':' :: ':' :: rest => some ([], rest)
  | c :: rest => (splitDouble rest).map fun (before, after) => (c :: before, after)
  | [] => none

/-- Reads the eight groups of an IPv6 address; a double colon stands for one or more zeros. -/
def ipv6? (cs : List Char) : Option (List Nat) :=
  match splitDouble cs with
  | none => do
    let groups ← ipv6Groups? true cs
    guard (groups.length = 8)
    return groups
  | some (before, after) => do
    let left ← ipv6Groups? false before
    let right ← ipv6Groups? true after
    guard (left.length + right.length < 8)
    return left ++ List.replicate (8 - left.length - right.length) 0 ++ right

def zeroRun (groups : List Nat) : Nat := (groups.takeWhile (· == 0)).length

def longestZeros (groups : List Nat) : Option (Nat × Nat) :=
  (List.range groups.length).foldl (fun best i =>
    let run := zeroRun (groups.drop i)
    if 1 < run && (best.map Prod.snd).getD 1 < run then some (i, run) else best) none

def ipv6Text (groups : List Nat) : List Char :=
  let hex (gs : List Nat) := ":".toList.intercalate (gs.map (Nat.toDigits 16))
  match longestZeros groups with
  | none => hex groups
  | some (i, run) => hex (groups.take i) ++ "::".toList ++ hex (groups.drop (i + run))

def isForbidden (c : Char) : Bool :=
  ['\x00', '\t', '\n', '\r', ' ', '#', '/', ':', '<', '>', '?', '@', '[', '\\', ']', '^', '|'].contains c

def isForbiddenInDomain (c : Char) : Bool :=
  isForbidden c || c.toNat < 0x20 || c == '%' || c.toNat == 0x7f

def bracketed (cs : List Char) : Except ParseError (List Char) :=
  match cs with
  | '[' :: rest =>
    if rest.getLast? = some ']' then
      match ipv6? rest.dropLast with
      | some groups => .ok ('[' :: ipv6Text groups ++ [']'])
      | none => .error .invalidIpv6
    else .error .invalidIpv6
  | _ => .error .invalidIpv6

def domain (cs : List Char) : Except ParseError (List Char) :=
  match cs with
  | '[' :: _ => bracketed cs
  | _ => do
    let some name := International.asciiName? (Text.decodeReplacing (percentDecode cs)) | throw .invalidDomain
    if name.any isForbiddenInDomain then .error .invalidDomain
    else if name.isEmpty then .error .emptyHost
    else if endsInNumber name then
      match ipv4? name with
      | some n => .ok (ipv4Text n)
      | none => .error .invalidIpv4
    else .ok name

def other (cs : List Char) : Except ParseError (List Char) :=
  match cs with
  | '[' :: _ => bracketed cs
  | _ =>
    if cs.any isForbidden then .error .invalidDomainCharacter
    else .ok (percentEncode isControl cs)

end Host

end BackendRegistrar.Url
