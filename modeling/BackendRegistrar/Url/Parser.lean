import BackendRegistrar.Url.Basic
import BackendRegistrar.Url.Path

/-! Reading addresses. Blanks at the ends and line breaks inside are skipped. The schemes of the
web take backslashes for slashes and have a host; dots in a path name its own and its parent
segment. What is written relative to an address is read from its path on, or from its host. -/

namespace BackendRegistrar.Url

/-- The schemes with a usual port, or without. -/
def specialPort? (scheme : List Char) : Option (Option Nat) :=
  if scheme = "http".toList ∨ scheme = "ws".toList then some (some 80)
  else if scheme = "https".toList ∨ scheme = "wss".toList then some (some 443)
  else if scheme = "ftp".toList then some (some 21)
  else if scheme = "file".toList then some none
  else none

/-- The port that is used: the usual one unless another is told. -/
def usedPort? (u : Url) : Option Nat := u.port?.or ((specialPort? u.scheme).getD none)

def isSpecial (scheme : List Char) : Bool := (specialPort? scheme).isSome

/-- The characters of an address that count: no blanks or controls at the ends, no tabs or line
breaks anywhere. -/
def relevant (cs : List Char) : List Char :=
  let blank (c : Char) : Bool := c.toNat ≤ 0x20
  let trimmed := ((cs.dropWhile blank).reverse.dropWhile blank).reverse
  trimmed.filter fun c => c ≠ '\t' ∧ c ≠ '\n' ∧ c ≠ '\r'

def isSchemeChar (c : Char) : Bool := c.isAlphanum || c == '+' || c == '-' || c == '.'

def splitScheme? (cs : List Char) : Option (List Char × List Char) :=
  let name := cs.takeWhile isSchemeChar
  match name, cs.drop name.length with
  | first :: _, ':' :: rest => if first.isAlpha then some (name.map Char.toLower, rest) else none
  | _, _ => none

def splitBefore (stop : Char → Bool) (cs : List Char) : List Char × List Char :=
  (cs.takeWhile (!stop ·), cs.dropWhile (!stop ·))

def endsAuthority (special : Bool) (c : Char) : Bool := Path.isSlash special c || c == '?' || c == '#'

/-- Reads a port: empty for none, and none for the usual one. -/
def readPort (usual : Option Nat) (cs : List Char) : Except ParseError (Option Nat) :=
  if cs.isEmpty then .ok none
  else match Text.unsigned? cs with
    | none => .error .invalidPort
    | some n =>
      if 65535 < n then .error .invalidPort
      else .ok (if usual = some n then none else some n)

def splitUser (cs : List Char) : Option (List Char) × List Char :=
  if cs.contains '@' then
    let after := (cs.reverse.takeWhile (· != '@')).reverse
    (some (cs.take (cs.length - after.length - 1)), after)
  else (none, cs)

/-- The host and what follows its colon; colons in brackets belong to the host. -/
def splitPort (bracket : Bool) : List Char → List Char × Option (List Char)
  | [] => ([], none)
  | ':' :: rest =>
    if bracket then
      let (host, port) := splitPort bracket rest
      (':' :: host, port)
    else ([], some rest)
  | c :: rest =>
    let inside := if c = '[' then true else if c = ']' then false else bracket
    let (host, port) := splitPort inside rest
    (c :: host, port)

/-- Reads user information, a name and perhaps a password; if both are empty there is none. -/
def readUser (cs : List Char) : Option (List Char) :=
  let (name, password) := splitBefore (· == ':') cs
  let password := password.drop 1
  let encodedName := percentEncode encodedInUser name
  if password.isEmpty then (if name.isEmpty then none else some encodedName)
  else some (encodedName ++ ':' :: percentEncode encodedInUser password)

/-- Reads an authority, and returns what does not belong to it: a port ends at a backslash. Only
at the end of the address may a user without a name go without a host. -/
def readAuthority (special : Bool) (usual : Option Nat) (cs : List Char) (isEnd : Bool) :
    Except ParseError (Authority × List Char) := do
  let (userText, hostPort) := splitUser cs
  if userText = some [] && hostPort.isEmpty && !isEnd then throw .emptyHost
  let (hostText, portText) := splitPort false hostPort
  if special && hostText.isEmpty then throw .emptyHost
  let host ← if special then Host.domain hostText else Host.other hostText
  let user := userText.bind readUser
  if host.isEmpty && (user.isSome || portText.isSome) then throw .emptyHost
  let (portDigits, left) := splitBefore (· == '\\') (portText.getD [])
  let port ← readPort usual portDigits
  return (⟨user, if host.isEmpty then none else some host, port⟩, left)

/-- Reads the host of a file; its own is none. -/
def readFileHost (cs : List Char) : Except ParseError (Option (List Char)) := do
  if cs.isEmpty then return none
  let host ← Host.domain cs
  return if host = "localhost".toList then none else some host

def splitTail (special : Bool) (cs : List Char) :
    List Char × Option (List Char) × Option (List Char) :=
  let (body, fragment) := splitBefore (· == '#') cs
  let (path, query) := splitBefore (· == '?') body
  (path,
    if query.isEmpty then none
    else some (percentEncode (encodedInQuery special) (query.drop 1)),
    if fragment.isEmpty then none
    else some (percentEncode encodedInFragment (fragment.drop 1)))

/-- The address of a file. A drive that comes right after the scheme or the host is written with a
colon, and has no host. -/
def ofFile (host : Option (List Char)) (isDirect : Bool) (rest : List Char) : Url :=
  let (pathText, query, fragment) := splitTail true rest
  let segments := Path.split true pathText
  let hasDrive := isDirect && segments.head?.any Path.isDrive
  ⟨"file".toList, some ⟨none, if hasDrive then none else host, none⟩,
    Path.ofFile (if isDirect then Path.normalizeDrive segments else segments), query, fragment⟩

/-- Reads what follows the scheme of a file. A drive is no host. -/
def afterFile (rest : List Char) : Except ParseError Url := do
  match rest.takeWhile (Path.isSlash true) with
  | [] => return ofFile none true rest
  | [_] => return ofFile none false (rest.drop 1)
  | _ =>
    let (hostText, tail) := splitBefore (endsAuthority true) (rest.drop 2)
    if Path.isDrive hostText then return ofFile none true (rest.drop 2)
    else
      let host ← readFileHost hostText
      return ofFile host host.isSome (Path.withoutSlash true tail)

def afterScheme (scheme rest : List Char) : Except ParseError Url := do
  let special := isSpecial scheme
  let slashes := (rest.takeWhile (Path.isSlash special)).length
  let (authority, rest) ←
    if special || 2 ≤ slashes then do
      let beforeHost := rest.drop (if special then slashes else 2)
      let (authorityText, rest) := splitBefore (endsAuthority special) beforeHost
      let usual := (specialPort? scheme).getD none
      let (a, left) ← readAuthority special usual authorityText rest.isEmpty
      pure (some a, left ++ rest)
    else pure (none, rest)
  let (pathText, query, fragment) := splitTail special rest
  let path :=
    if authority.isSome || pathText.head? = some '/' then Path.hierarchical special pathText
    else percentEncode isControl pathText
  return ⟨scheme, authority, path, query, fragment⟩

def parse (s : String) : Except ParseError Url :=
  match splitScheme? (relevant s.toList) with
  | none => .error .noScheme
  | some (scheme, rest) =>
    if scheme = "file".toList then afterFile rest else afterScheme scheme rest

/-- Reads what is written relative to an address of the web: from its host on after two slashes, from its
path on after one, and otherwise in the place of its last segment. -/
def ofRelative (base : Url) (cs : List Char) : Except ParseError Url :=
  let (pathText, query, fragment) := splitTail true cs
  match cs.takeWhile (Path.isSlash true) with
  | [] =>
    if pathText.isEmpty then
      .ok { base with query := if query.isSome then query else base.query, fragment := fragment }
    else
      let above := (Path.split true (Path.withoutSlash true base.path)).dropLast
      .ok { base with
        path := Path.join (Path.resolve above (Path.split true pathText)), query := query, fragment := fragment }
  | [_] => .ok { base with path := Path.hierarchical true pathText, query := query, fragment := fragment }
  | _ => afterScheme base.scheme cs

/-- Reads an address that may be written relative to another, which is one of the web. -/
def resolve (base : Url) (s : String) : Except ParseError Url :=
  match splitScheme? (relevant s.toList) with
  | none => ofRelative base (relevant s.toList)
  | some (scheme, rest) => if scheme = base.scheme then ofRelative base rest else parse s

end BackendRegistrar.Url
