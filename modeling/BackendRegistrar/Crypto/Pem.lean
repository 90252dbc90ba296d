import BackendRegistrar.Text.Base64

/-! Textual encoding of keys: a labelled block of base64 in lines of sixty-four characters.
Text may stand before the block but not after it. -/

namespace BackendRegistrar.Crypto.Pem

structure Block where
  label : String
  octets : List UInt8
deriving DecidableEq, Repr

def beginMark : List Char := "-----BEGIN ".toList

def endMark : List Char := "-----END ".toList

def dashes : List Char := "-----".toList

def fromBegin? (atLineStart : Bool) : List Char → Option (List Char)
  | [] => none
  | c :: rest =>
    if atLineStart && beginMark.isPrefixOf (c :: rest) then some ((c :: rest).drop beginMark.length)
    else if c = '\x00' then none
    else fromBegin? (c == '\n') rest

def afterEol? : List Char → Option (List Char)
  | '\r' :: '\n' :: rest => some rest
  | '\r' :: rest => some rest
  | '\n' :: rest => some rest
  | _ => none

theorem length_of_afterEol? {cs rest : List Char} (h : afterEol? cs = some rest) :
    rest.length < cs.length := by
  unfold afterEol? at h
  split at h <;> cases h <;> simp only [List.length_cons] <;> omega

theorem length_of_afterEol?_drop {n : Nat} {cs rest : List Char}
    (h : afterEol? (cs.drop n) = some rest) : rest.length < cs.length := by
  have := length_of_afterEol? h
  simp only [List.length_drop] at this
  omega

def beforeEol? (cs : List Char) : Option (List Char) :=
  match cs.reverse with
  | '\n' :: '\r' :: rest => some rest.reverse
  | '\r' :: rest => some rest.reverse
  | '\n' :: rest => some rest.reverse
  | _ => none

def beforeSuffix? (suffix cs : List Char) : Option (List Char) :=
  if suffix.reverse.isPrefixOf cs.reverse then some (cs.take (cs.length - suffix.length)) else none

def lineWidth : Nat := 64

/-- The lines of a body; all are full but the last, which may end in a line end of its own. -/
def lines? (cs : List Char) : Option (List (List Char)) :=
  if cs.length ≤ lineWidth then some [(beforeEol? cs).getD cs]
  else match found : afterEol? (cs.drop lineWidth) with
    | none => none
    | some [] => some [cs.take lineWidth]
    | some rest =>
      have : rest.length < cs.length := length_of_afterEol?_drop found
      (lines? rest).map (cs.take lineWidth :: ·)
termination_by cs.length

/-- The base64 in a body. Padding ends it: no line follows, be it an empty one. -/
def base64? (cs : List Char) : Option (List Char) := do
  let lines ← lines? cs
  guard (lines.getLast? ≠ some [] ∨ lines.all (!·.contains '='))
  return lines.flatten

def read? (text : List Char) : Option Block := do
  let afterBegin ← fromBegin? true text
  let label := afterBegin.takeWhile (· != '-')
  let afterLabel := afterBegin.dropWhile (· != '-')
  guard (dashes.isPrefixOf afterLabel)
  let body ← afterEol? (afterLabel.drop dashes.length)
  let body := (beforeEol? body).getD body
  let body ← beforeSuffix? (endMark ++ label ++ dashes) body
  let encoded ← beforeEol? body
  let octets ← Text.Base64.decodeChars (← base64? encoded)
  return ⟨String.ofList label, octets⟩

end BackendRegistrar.Crypto.Pem
