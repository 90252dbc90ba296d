import BackendRegistrar.Text.Pieces

/-! What requests are for: a path and perhaps a query, alone or after a scheme and an authority. -/

namespace BackendRegistrar.Http

/-- The path is empty if there is an authority alone. -/
structure Target where
  path : String
  query : Option String
deriving DecidableEq, Repr

inductive TargetError
  | empty
  | tooLong
  | schemeTooLong
  | invalidCharacter
  | invalidAuthority
  | invalidFormat
deriving DecidableEq, Repr

namespace TargetError

def message : TargetError → String
  | empty => "empty string"
  | tooLong => "uri too long"
  | schemeTooLong => "scheme too long"
  | invalidCharacter => "invalid uri character"
  | invalidAuthority => "invalid authority"
  | invalidFormat => "invalid format"

end TargetError

namespace Target

def isPathChar (c : Char) : Bool := 0x20 < c.toNat && !(['<', '>', '\x60'].contains c)

def isQueryChar (c : Char) : Bool := 0x20 < c.toNat && !(['"', '<', '>'].contains c)

def endsPath (c : Char) : Bool := c == '?' || c == '#'

/-- Reads a path and a query; a fragment after them is dropped. -/
def ofPath (cs : List Char) : Except TargetError Target :=
  let path := cs.takeWhile (!endsPath ·)
  let query := match cs.dropWhile (!endsPath ·) with
    | '?' :: rest => some (rest.takeWhile (· != '#'))
    | _ => none
  if path.all isPathChar && (query.getD []).all isQueryChar then
    .ok ⟨if path.isEmpty then "/" else String.ofList path, query.map String.ofList⟩
  else .error .invalidCharacter

def isAuthorityChar (c : Char) : Bool :=
  c.isAlphanum ||
    ['!', '$', '&', '\'', '(', ')', '*', '+', ',', '-', '.', ':', ';', '=', '@', '[', ']', '_', '~'].contains
      c

/-- What has been seen of an authority: colons and percent signs since the last at sign, brackets,
and whether it ends in an at sign. -/
structure Seen where
  colons : Nat
  percent : Bool
  opened : Bool
  closed : Bool
  endsAt : Bool

def Seen.next (s : Seen) (c : Char) : Except TargetError Seen :=
  let s := { s with endsAt := c == '@' }
  if c = ':' then
    if 8 ≤ s.colons then .error .invalidAuthority else .ok { s with colons := s.colons + 1 }
  else if c = '[' then
    if s.percent || s.opened then .error .invalidAuthority else .ok { s with opened := true }
  else if c = ']' then
    if !s.opened || s.closed then .error .invalidAuthority
    else .ok { s with closed := true, colons := 0, percent := false }
  else if c = '@' then .ok { s with colons := 0, percent := false }
  else if c = '%' then .ok { s with percent := true }
  else if isAuthorityChar c then .ok s
  else .error .invalidCharacter

/-- Whether a text is an authority. User information may hold anything encoded; a host may not. -/
def checkAuthority (cs : List Char) : Except TargetError Unit := do
  let seen ← cs.foldlM Seen.next ⟨0, false, false, false, false⟩
  if seen.opened ≠ seen.closed ∨ 1 < seen.colons ∨ seen.endsAt ∨ seen.percent then
    throw .invalidAuthority

def isSchemeChar (c : Char) : Bool := c.isAlphanum || c == '+' || c == '-' || c == '.'

def afterScheme? (cs : List Char) : Except TargetError (Option (List Char)) :=
  let scheme := cs.takeWhile isSchemeChar
  match cs.drop scheme.length with
  | ':' :: '/' :: '/' :: rest =>
    if cs.length ≤ 3 then .ok none
    else if 64 < scheme.length then .error .schemeTooLong
    else .ok (some rest)
  | _ => .ok none

def endsAuthority (c : Char) : Bool := c == '/' || endsPath c

def ofAuthority (cs : List Char) : Except TargetError Target := do
  let after ← afterScheme? cs
  let rest := after.getD cs
  let authority := rest.takeWhile (!endsAuthority ·)
  checkAuthority authority
  match after with
  | none => if authority.length = cs.length then return ⟨"", none⟩ else throw .invalidFormat
  | some rest =>
    if authority.isEmpty then throw .invalidFormat else ofPath (rest.drop authority.length)

def longest : Nat := 65534

def parse (s : String) : Except TargetError Target :=
  if longest < s.utf8ByteSize then .error .tooLong
  else match s.toList with
    | [] => .error .empty
    | ['*'] => .ok ⟨"*", none⟩
    | '/' :: rest => ofPath ('/' :: rest)
    | cs => ofAuthority cs

end Target

end BackendRegistrar.Http
