import BackendRegistrar.Text.Pieces
import BackendRegistrar.Url.Percent

/-! Paths of addresses: segments between slashes. A single dot names the segment it stands in, a
double dot the one before, and neither leaves a drive. -/

namespace BackendRegistrar.Url.Path

def isSlash (special : Bool) (c : Char) : Bool := c == '/' || (special && c == '\\')

def split (special : Bool) (cs : List Char) : List (List Char) := Text.pieces (isSlash special) cs

/-- A segment with its encoded dots written as dots. -/
def undotted : List Char → List Char
  | '%' :: '2' :: 'e' :: rest => '.' :: undotted rest
  | '%' :: '2' :: 'E' :: rest => '.' :: undotted rest
  | c :: rest => c :: undotted rest
  | [] => []

def isSingleDot (segment : List Char) : Bool := undotted segment == ['.']

def isDoubleDot (segment : List Char) : Bool := undotted segment == ['.', '.']

/-- Whether a segment is a drive: a letter with a colon, or with a bar for one. -/
def isDrive : List Char → Bool
  | [letter, mark] => letter.isAlpha && (mark == ':' || mark == '|')
  | _ => false

/-- The segments before the last; a drive stays. -/
def parent (done : List (List Char)) : List (List Char) :=
  if done.getLast?.any isDrive then done else done.dropLast

/-- Appends raw segments to those of a path; a dot or two at the end leave an empty segment. -/
def resolve (done : List (List Char)) : List (List Char) → List (List Char)
  | [] => done
  | segment :: rest =>
    let ending := if rest.isEmpty then [[]] else []
    if isDoubleDot segment then resolve (parent done ++ ending) rest
    else if isSingleDot segment then resolve (done ++ ending) rest
    else resolve (done ++ [percentEncode encodedInPath segment]) rest

def join (segments : List (List Char)) : List Char := segments.flatMap ('/' :: ·)

def withoutSlash (special : Bool) : List Char → List Char
  | [] => []
  | c :: rest => if isSlash special c then rest else c :: rest

def hierarchical (special : Bool) (cs : List Char) : List Char :=
  if cs.isEmpty then (if special then ['/'] else [])
  else join (resolve [] (split special (withoutSlash special cs)))

/-- Segments with a colon after the drive that they begin with. -/
def normalizeDrive : List (List Char) → List (List Char)
  | [letter, mark] :: rest => (if isDrive [letter, mark] then [letter, ':'] else [letter, mark]) :: rest
  | segments => segments

def ofFile (segments : List (List Char)) : List Char :=
  '/' :: (join (resolve [] segments)).dropWhile (· == '/')

end BackendRegistrar.Url.Path
