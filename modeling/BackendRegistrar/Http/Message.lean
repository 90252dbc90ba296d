import BackendRegistrar.Program
import BackendRegistrar.Url.Basic

/-! Requests and responses, and what a client asks of the network. -/

namespace BackendRegistrar.Http

/-- Names in lower case, with their values. -/
abbrev Headers := List (String × String)

structure Request where
  method : String
  url : Url
  headers : Headers
  body : Option (List UInt8)

/-- A response; its body may break off. -/
structure Response where
  status : Nat
  headers : List (String × List UInt8)
  body : Except String (List UInt8)

namespace Response

def succeeded (r : Response) : Bool := 200 ≤ r.status && r.status ≤ 299

def isPlain (b : UInt8) : Bool := (0x20 ≤ b && b ≤ 0x7e) || b == 0x09

/-- The first header of a name, if its value is plain. -/
def header? (r : Response) (name : String) : Option String :=
  match r.headers.find? fun h => h.1 = name with
  | some (_, value) =>
    if value.all isPlain then some (String.ofList (value.map fun b => Char.ofNat b.toNat)) else none
  | none => none

end Response

def isTokenChar (c : Char) : Bool :=
  c.isAlphanum ||
    ['!', '#', '$', '%', '&', '\'', '*', '+', '-', '.', '^', '_', '\x60', '|', '~'].contains c

def isToken (s : String) : Bool := !s.isEmpty && s.toList.all isTokenChar

inductive Op
  | send (r : Request)
  | now
  | pause (milliseconds : Nat)

/-- Sending fails with a text when there is no response. -/
@[reducible] def Op.Answer : Op → Type
  | send _ => Except String Response
  | now => Int
  | pause _ => Bool

abbrev network : Interface := ⟨Op, Op.Answer⟩

end BackendRegistrar.Http
