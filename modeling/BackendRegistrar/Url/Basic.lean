import BackendRegistrar.Url.Host

/-! Addresses of resources, taken apart. -/

namespace BackendRegistrar

/-- Who and where: user information, host and port, the last only if it is not the usual one of
the scheme. An empty host is none. -/
structure Url.Authority where
  userInfo : Option (List Char)
  host : Option (List Char)
  port : Option Nat
deriving DecidableEq, Repr

structure Url where
  scheme : List Char
  authority : Option Url.Authority
  path : List Char
  query : Option (List Char)
  fragment : Option (List Char)
deriving DecidableEq, Repr

namespace Url

def host? (u : Url) : Option (List Char) := u.authority.bind Authority.host

def port? (u : Url) : Option Nat := u.authority.bind Authority.port

def marked (mark : Char) : Option (List Char) → List Char
  | some part => mark :: part
  | none => []

def target (u : Url) : List Char := u.path ++ marked '?' u.query

def Authority.text (a : Authority) : List Char :=
  (match a.userInfo with
    | some user => user ++ ['@']
    | none => []) ++
    a.host.getD [] ++ marked ':' (a.port.map (Nat.toDigits 10))

def text (u : Url) : String :=
  let authority := match u.authority with
    | some a => ['/', '/'] ++ a.text
    | none => if ['/', '/'].isPrefixOf u.path then ['/', '.'] else []
  String.ofList (u.scheme ++ ':' :: authority ++ u.target ++ marked '#' u.fragment)

end Url

end BackendRegistrar
