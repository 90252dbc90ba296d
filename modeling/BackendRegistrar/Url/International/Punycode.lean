import BackendRegistrar.Url.International.Spelling

/-! Labels in ASCII: the plain characters first, then where the others go, as numerals to base
thirty-six whose digits weigh less the more is expected of them. -/

namespace BackendRegistrar.Url.International.Punycode

def digit (n : Nat) : Char := if n < 26 then Char.ofNat (n + 97) else Char.ofNat (n + 22)

/-- The least value of a digit after which more digits follow. -/
def threshold (bias position : Nat) : Nat := min 26 (max 1 (position - bias))

def numeral (bias position n : Nat) : List Char :=
  if n < threshold bias position then [digit n]
  else
    digit (threshold bias position +
        (n - threshold bias position) % (36 - threshold bias position)) ::
      numeral bias (position + 36)
        ((n - threshold bias position) / (36 - threshold bias position))
termination_by n
decreasing_by
  have positive : 1 ≤ threshold bias position := by simp only [threshold]; omega
  exact Nat.lt_of_le_of_lt (Nat.div_le_self _ _) (by omega)

def settle (distance base : Nat) : Nat :=
  if 455 < distance then settle (distance / 35) (base + 36)
  else base + 36 * distance / (distance + 38)

def adapt (distance placed : Nat) (isFirst : Bool) : Nat :=
  let distance := if isFirst then distance / 700 else distance / 2
  settle (distance + distance / placed) 0

/-- What has been written of a label: how far the next character is, and how many are placed. -/
structure Progress where
  written : List Char
  distance : Nat
  bias : Nat
  placed : Nat
deriving DecidableEq, Repr

/-- Passes a character of the label while those with code `code` are placed. -/
def Progress.pass (plain code : Nat) (p : Progress) (c : Char) : Progress :=
  if c.toNat < code then { p with distance := p.distance + 1 }
  else if c.toNat = code then
    ⟨p.written ++ numeral p.bias 36 p.distance, 0,
      adapt p.distance (p.placed + 1) (p.placed == plain), p.placed + 1⟩
  else p

/-- Places the characters of a label, those of each code in turn. -/
def place (label : List Char) (plain : Nat) (next : Nat) : List Nat → Progress → Progress
  | [], p => p
  | code :: codes, p =>
    let reached := { p with distance := p.distance + (code - next) * (p.placed + 1) }
    let passed := label.foldl (Progress.pass plain code) reached
    place label plain (code + 1) codes { passed with distance := passed.distance + 1 }

def encode (label : List Char) : List Char :=
  let plain := label.filter isAscii
  let codes := ((label.filter (!isAscii ·)).map Char.toNat).mergeSort.eraseDups
  let start := if plain.isEmpty then [] else plain ++ ['-']
  (place label plain.length 0x80 codes ⟨start, 0, 72, plain.length⟩).written

def digitValue? (c : Char) : Option Nat :=
  if 'a' ≤ c ∧ c ≤ 'z' then some (c.toNat - 97)
  else if '0' ≤ c ∧ c ≤ '9' then some (c.toNat - 22)
  else none

/-- Reads a numeral onto a value; its next digit counts `weight` times. -/
def readNumeral? (bias position weight value : Nat) : List Char → Option (Nat × List Char)
  | [] => none
  | c :: rest => do
    let d ← digitValue? c
    let value := value + d * weight
    if d < threshold bias position then return (value, rest)
    else
      readNumeral? bias (position + 36) (weight * (36 - threshold bias position)) value rest

theorem length_of_readNumeral? {bias position weight value n : Nat} {cs rest : List Char}
    (h : readNumeral? bias position weight value cs = some (n, rest)) :
    rest.length < cs.length := by
  induction cs generalizing position weight value with
  | nil => cases h
  | cons c cs ih =>
    cases hd : digitValue? c with
    | none => simp [readNumeral?, hd] at h
    | some d =>
      simp only [readNumeral?, hd, Option.bind_eq_bind, Option.bind_some] at h
      split at h
      · cases h
        simp
      · have := ih h
        simp only [List.length_cons]
        omega

/-- Inserts the characters that numerals stand for. The next code point is at least `code`, and one
of that code would stand at `index` or later. -/
def insertAll? (label : List Char) (code index bias : Nat) (numerals : List Char) :
    Option (List Char) :=
  match numerals with
  | [] => some label
  | c :: cs =>
    match found : readNumeral? bias 36 1 0 (c :: cs) with
    | none => none
    | some (distance, rest) =>
      let places := label.length + 1
      let next := code + (index + distance) / places
      let here := (index + distance) % places
      if next.isValidChar then
        insertAll? (label.insertIdx here (Char.ofNat next)) next (here + 1)
          (adapt distance places (index == 0)) rest
      else none
termination_by numerals.length
decreasing_by exact length_of_readNumeral? found

/-- The label that stands in ASCII. A hyphen stands between its parts if the first is not empty. -/
def decode? (cs : List Char) : Option (List Char) :=
  let numerals := (cs.reverse.takeWhile (· != '-')).reverse
  let plain := cs.take (cs.length - numerals.length - 1)
  if cs.all isAscii && (numerals == cs || !plain.isEmpty) then insertAll? plain 0x80 0 72 numerals
  else none

end BackendRegistrar.Url.International.Punycode
