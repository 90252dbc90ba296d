import BackendRegistrar.Json.Numeral
import BackendRegistrar.Text.Characters

/-! Reading a JSON text, one character at a time. A reader holds the arrays and objects that
are open and what it is in the middle of; nothing but white space may follow the value, and
at most 127 arrays and objects may be open at once. -/

namespace BackendRegistrar.Json.Reader

/-- An array or object that is open, its parts in reverse. -/
inductive Frame
  | array (items : List Json)
  | object (members : Members) (name : String)

/-- What the reader is in the middle of. A text is the name of a member or a value. -/
inductive Mode
  | value
  | firstItem
  | firstName
  | name
  | colon
  | after
  | finished (value : Json)
  | text (isName : Bool) (read : List Char)
  | escape (isName : Bool) (read : List Char)
  | code (isName : Bool) (read : List Char) (lead : Option Nat) (digits : Nat) (value : Nat)
  | lowEscape (isName : Bool) (read : List Char) (lead : Nat)
  | lowLetter (isName : Bool) (read : List Char) (lead : Nat)
  | numeral (read : List Char)
  | word (rest : List Char) (value : Json)

structure State where
  stack : List Frame
  mode : Mode

def start : State := ⟨[], .value⟩

def depthLimit : Nat := 127

def isSpace (c : Char) : Bool := c == ' ' || c == '\t' || c == '\n' || c == '\r'

/-- A value is complete: it goes to the innermost open array or object. -/
def complete (value : Json) : List Frame → State
  | [] => ⟨[], .finished value⟩
  | .array items :: outer => ⟨.array (value :: items) :: outer, .after⟩
  | .object members name :: outer => ⟨.object ((name, value) :: members) name :: outer, .after⟩

def completeText (stack : List Frame) (isName : Bool) (read : List Char) : Option State :=
  let text := String.ofList read.reverse
  if isName then match stack with
    | .object members _ :: outer => some ⟨.object members text :: outer, .colon⟩
    | _ => none
  else some (complete (.string text) stack)

def openFrame (stack : List Frame) (frame : Frame) (mode : Mode) : Option State :=
  if stack.length < depthLimit then some ⟨frame :: stack, mode⟩ else none

def beginValue (stack : List Frame) (c : Char) : Option State :=
  if c = '"' then some ⟨stack, .text false []⟩
  else if c = '[' then openFrame stack (.array []) .firstItem
  else if c = '\x7b' then openFrame stack (.object [] "") .firstName
  else if c = 't' then some ⟨stack, .word ['r', 'u', 'e'] (.bool true)⟩
  else if c = 'f' then some ⟨stack, .word ['a', 'l', 's', 'e'] (.bool false)⟩
  else if c = 'n' then some ⟨stack, .word ['u', 'l', 'l'] .null⟩
  else if c = '-' || c.isDigit then some ⟨stack, .numeral [c]⟩
  else none

/-- The character after a value: a comma, or the end of the innermost array or object. -/
def afterValue (stack : List Frame) (c : Char) : Option State :=
  match stack with
  | .array items :: outer =>
    if c = ',' then some ⟨stack, .value⟩
    else if c = ']' then some (complete (.array items.reverse) outer)
    else none
  | .object members _ :: outer =>
    if c = ',' then some ⟨stack, .name⟩
    else if c = '\x7d' then some (complete (.object members.reverse) outer)
    else none
  | [] => none

def shortEscape? (c : Char) : Option Char :=
  match c with
  | '"' => some '"'
  | '\\' => some '\\'
  | '/' => some '/'
  | 'b' => some '\x08'
  | 'f' => some '\x0c'
  | 'n' => some '\n'
  | 'r' => some '\r'
  | 't' => some '\t'
  | _ => none

/-- Four digits of an escape are read. The two halves of a pair must stand together. -/
def completeCode (stack : List Frame) (isName : Bool) (read : List Char) (lead : Option Nat)
    (value : Nat) : Option State :=
  let low := 0xDC00 ≤ value && value ≤ 0xDFFF
  let high := 0xD800 ≤ value && value ≤ 0xDBFF
  match lead with
  | some first =>
    if low then
      let c := Char.ofNat (0x10000 + (first - 0xD800) * 0x400 + (value - 0xDC00))
      some ⟨stack, .text isName (c :: read)⟩
    else none
  | none =>
    if low then none
    else if high then some ⟨stack, .lowEscape isName read value⟩
    else some ⟨stack, .text isName (Char.ofNat value :: read)⟩

def stepBetween (s : State) (c : Char) : Option State :=
  if isSpace c then some s else
  match s.mode with
  | .value => beginValue s.stack c
  | .firstItem => if c = ']' then afterValue s.stack c else beginValue s.stack c
  | .firstName =>
    if c = '\x7d' then afterValue s.stack c
    else if c = '"' then some ⟨s.stack, .text true []⟩ else none
  | .name => if c = '"' then some ⟨s.stack, .text true []⟩ else none
  | .colon => if c = ':' then some ⟨s.stack, .value⟩ else none
  | .after => afterValue s.stack c
  | _ => none

def completeNumeral (stack : List Frame) (read : List Char) : Option State :=
  (Number.ofChars? read.reverse).map fun n => complete (.number n) stack

def isNumeralChar (c : Char) : Bool :=
  c.isDigit || c == '+' || c == '-' || c == '.' || c == 'e' || c == 'E'

def step (s : State) (c : Char) : Option State :=
  match s.mode with
  | .text isName read =>
    if c = '"' then completeText s.stack isName read
    else if c = '\\' then some ⟨s.stack, .escape isName read⟩
    else if c.toNat < 0x20 then none
    else some ⟨s.stack, .text isName (c :: read)⟩
  | .escape isName read =>
    if c = 'u' then some ⟨s.stack, .code isName read none 0 0⟩
    else (shortEscape? c).map fun e => ⟨s.stack, .text isName (e :: read)⟩
  | .code isName read lead digits value =>
    (Text.hexValue? c).bind fun h =>
      if digits = 3 then completeCode s.stack isName read lead (16 * value + h)
      else some ⟨s.stack, .code isName read lead (digits + 1) (16 * value + h)⟩
  | .lowEscape isName read lead =>
    if c = '\\' then some ⟨s.stack, .lowLetter isName read lead⟩ else none
  | .lowLetter isName read lead =>
    if c = 'u' then some ⟨s.stack, .code isName read (some lead) 0 0⟩ else none
  | .numeral read =>
    if isNumeralChar c then some ⟨s.stack, .numeral (c :: read)⟩
    else (completeNumeral s.stack read).bind (stepBetween · c)
  | .word (expected :: rest) value =>
    if c = expected then
      if rest.isEmpty then some (complete value s.stack) else some ⟨s.stack, .word rest value⟩
    else none
  | .word [] _ => none
  | _ => stepBetween s c

def finish (s : State) : Option Json :=
  match s.mode with
  | .finished value => some value
  | .numeral read => match completeNumeral s.stack read with
    | some ⟨_, .finished value⟩ => some value
    | _ => none
  | _ => none

end Reader

/-- Reads a JSON text, members as written. -/
def read? (text : String) : Option Json :=
  (text.toList.foldlM Reader.step Reader.start).bind Reader.finish

end BackendRegistrar.Json
