import BackendRegistrar.Text.Mark
import BackendRegistrar.Text.Normal
import BackendRegistrar.Url.International.Direction
import BackendRegistrar.Url.International.Joining
import BackendRegistrar.Url.International.Punycode
import BackendRegistrar.Url.International.Spelling

/-! Domain names outside ASCII. A name is spelled in one way and put into its normal form; then each
label that holds more than ASCII is written in ASCII behind a mark, and such a label must be one that
could have been given plainly. -/

namespace BackendRegistrar.Url.International

def spell? (cs : List Char) : Option (List Char) := do
  let spelled ← cs.mapM spelling?
  return Text.Normal.normalize spelled.flatten

def encodedMark : List Char := "xn--".toList

def longestLabel : Nat := 1000

def longestEncoded : Nat := 2000

/-- The label that stands in ASCII behind the mark: it needs that, and is spelled as given. -/
def decoded? (cs : List Char) : Option (List Char) := do
  guard (cs.length ≤ longestEncoded)
  let label ← Punycode.decode? cs
  guard (label.any (!isAscii ·) ∧ spell? label = some label)
  return label

/-- Whether a label may stand in a name: unless it is ASCII, it begins with no mark and its joiners
are seen. -/
def isLabel (label : List Char) : Bool :=
  label.all isAscii ||
    (!label.head?.any Text.isMark && joinersFit [] label && decide (label.length ≤ longestLabel))

def label? (cs : List Char) : Option (List Char) := do
  let label ← if encodedMark.isPrefixOf cs then decoded? (cs.drop encodedMark.length) else some cs
  guard (isLabel label)
  return label

def asciiLabel (label : List Char) : List Char :=
  if label.all isAscii then label else encodedMark ++ Punycode.encode label

def asciiName? (cs : List Char) : Option (List Char) := do
  let labels ← (Text.pieces (· == '.') (← spell? cs)).mapM label?
  guard (Direction.fit labels)
  return ".".toList.intercalate (labels.map asciiLabel)

end BackendRegistrar.Url.International
