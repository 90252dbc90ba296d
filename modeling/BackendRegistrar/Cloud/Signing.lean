import BackendRegistrar.Cloud.Error
import BackendRegistrar.Crypto.Rsa
import BackendRegistrar.Http.Message
import BackendRegistrar.Text.Characters
import BackendRegistrar.Text.Utf8

/-! Signing requests. The date, the target, the host and, with a body, its length, type and
digest are signed together; all of them but the target are sent as headers. -/

namespace BackendRegistrar.Cloud

structure Signer where
  keyId : String
  key : Crypto.RsaKey
deriving DecidableEq, Repr

namespace Signer

/-- A signer with the key in a text; blanks around it do not count. -/
def ofPem (keyId pem : String) : Except CloudError Signer :=
  match Crypto.RsaKey.ofPem? (Text.trimBlank pem).toList with
  | some key => .ok ⟨keyId, key⟩
  | none => .error (.invalidKey "not a private RSA key in a labelled block")

/-- The host of an address, with its port unless that is the usual one. -/
def hostHeader (url : Url) : Except CloudError String :=
  match url.host? with
  | none => .error (.request ("URL has no host: " ++ url.text))
  | some host =>
    .ok (String.ofList (host ++ Url.marked ':' (url.port?.map (Nat.toDigits 10))))

/-- The name under which the target is signed; it is no header. -/
def targetName : String := "(request-target)"

def requestTarget (method : String) (url : Url) : String :=
  String.ofList (method.toList.map Char.toLower ++ ' ' :: url.target)

def bodyParts : Option (List UInt8) → Http.Headers
  | none => []
  | some body =>
    [("content-length", toString body.length), ("content-type", "application/json"),
      ("x-content-sha256", Text.Base64.encode (Crypto.Sha256.digest body))]

def parts (method : String) (url : Url) (host : String) (body : Option (List UInt8))
    (date : String) : Http.Headers :=
  [("date", date), (targetName, requestTarget method url), ("host", host)] ++ bodyParts body

def signingText (parts : Http.Headers) : String :=
  "\n".intercalate (parts.map fun p => p.1 ++ ": " ++ p.2)

def authorization (keyId : String) (names : List String) (signature : String) : String :=
  "Signature version=\"1\",keyId=\"" ++ keyId ++ "\",algorithm=\"rsa-sha256\",headers=\""
    ++ " ".intercalate names ++ "\",signature=\"" ++ signature ++ "\""

/-- Whether a header may have a value: no controls but the tab. -/
def sendable (value : String) : Bool :=
  value.toList.all fun c => (0x20 ≤ c.toNat && c.toNat ≠ 0x7f) || c == '\t'

def signingFailure : Crypto.RsaKey.SigningError → CloudError
  | .tooLong => .signing "signature error: message too long"
  | .unsound => .signing "signature error: internal error"

def sign (signer : Signer) (method : String) (url : Url) (body : Option (List UInt8))
    (date : String) : Except CloudError Http.Headers := do
  let host ← hostHeader url
  let parts := parts method url host body date
  let signature ← (signer.key.sign (Text.octets (signingText parts))).mapError signingFailure
  let headers := parts.filter fun p => p.1 ≠ targetName
  let value := authorization signer.keyId (parts.map Prod.fst) (Text.Base64.encode signature)
  let headers := headers ++ [("authorization", value)]
  if headers.all fun h => sendable h.2 then return headers
  else throw (.signing "failed to parse header value")

end Signer

end BackendRegistrar.Cloud
