import BackendRegistrar.Text.Characters
import BackendRegistrar.Text.Pieces

/-! Tables of code points, in hexadecimal words. `41-5A` stands for a range, `100-12E/2` for every
second code point of one. What goes with them follows after `=`; several code points are joined
by `+`. -/

namespace BackendRegistrar.Text

/-- A word of a table: code points in equal steps, and what goes with the first of them. -/
structure Codes where
  first : Nat
  last : Nat
  step : Nat
  image : List Nat
deriving DecidableEq, Repr

namespace Codes

/-- The value of a numeral; what is no digit counts as zero. -/
def numeral (cs : List Char) : Nat := cs.foldl (fun n c => n * 16 + (hexValue? c).getD 0) 0

def cut (mark : Char) (cs : List Char) : List Char × List Char :=
  (cs.takeWhile (· != mark), (cs.dropWhile (· != mark)).drop 1)

def ofWord (word : List Char) : Codes :=
  let (codes, image) := cut '=' word
  let (range, step) := cut '/' codes
  let (first, last) := cut '-' range
  ⟨numeral first, numeral (if last.isEmpty then first else last),
    if step.isEmpty then 1 else numeral step,
    if image.isEmpty then [] else (pieces (· == '+') image).map numeral⟩

def table (lines : List String) : List Codes :=
  lines.flatMap fun line => (pieces (· == ' ') line.toList).map ofWord

def has (row : Codes) (code : Nat) : Bool :=
  decide (row.first ≤ code ∧ code ≤ row.last) && (code - row.first) % row.step == 0

/-- What goes with a code point of the row if a single image moves in step. -/
def imageOf (row : Codes) (code : Nat) : List Nat :=
  match row.image with
  | [image] => [image + (code - row.first)]
  | images => images

def find? (rows : List Codes) (code : Nat) : Option (List Nat) :=
  (rows.find? (·.has code)).map (·.imageOf code)

end Codes

end BackendRegistrar.Text
