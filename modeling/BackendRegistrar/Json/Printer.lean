import BackendRegistrar.Decimal.Layout
import BackendRegistrar.Json.Basic

/-! Writing a JSON text without white space. -/

namespace BackendRegistrar.Json

/-- Real numbers are positional with a point after at most sixteen digits and fewer than
five zeros before the first digit. -/
def realLayout : Decimal.Layout := ⟨16, 5⟩

def Number.text : Number → String
  | .integer value => toString value
  | .real bits => realLayout.text Decimal.shortest bits

def hexDigit (n : Nat) : Char := if n < 10 then Char.ofNat (n + 48) else Char.ofNat (n + 87)

/-- How a character stands in a text: quote, backslash and control characters are escaped. -/
def escaped (c : Char) : List Char :=
  match c with
  | '"' => ['\\', '"']
  | '\\' => ['\\', '\\']
  | '\x08' => ['\\', 'b']
  | '\x0c' => ['\\', 'f']
  | '\n' => ['\\', 'n']
  | '\r' => ['\\', 'r']
  | '\t' => ['\\', 't']
  | c =>
    if c.toNat < 0x20 then ['\\', 'u', '0', '0', hexDigit (c.toNat / 16), hexDigit (c.toNat % 16)]
    else [c]

def quoted (s : String) : String := String.ofList ('"' :: s.toList.flatMap escaped ++ ['"'])

mutual

def text : Json → String
  | .null => "null"
  | .bool value => if value then "true" else "false"
  | .number value => value.text
  | .string value => quoted value
  | .array items => "[" ++ String.intercalate "," (textItems items) ++ "]"
  | .object ms => "\x7b" ++ String.intercalate "," (textMembers ms) ++ "\x7d"

def textItems : List Json → List String
  | [] => []
  | j :: rest => text j :: textItems rest

def textMembers : Members → List String
  | [] => []
  | (name, value) :: rest => (quoted name ++ ":" ++ text value) :: textMembers rest

end

end BackendRegistrar.Json
