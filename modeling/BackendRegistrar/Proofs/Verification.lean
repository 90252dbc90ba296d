import BackendRegistrar.Proofs.Addresses
import BackendRegistrar.Proofs.Protocol

/-! What a verifier makes of a signed request. It reads the parameters of the authorization, takes the listed
headers from the request and rebuilds the signed text from them; the signature is one of this very text. -/

namespace BackendRegistrar.Cloud

namespace Verifier

/-- The name of a parameter: it stands between the comma and the equals sign before its value. -/
def name? : List Char → Option String
  | ',' :: label => if label.getLast? = some '=' then some (String.ofList label.dropLast) else none
  | _ => none

/-- Reads names and values by turns, from the pieces between quotes; nothing stands after the last quote. -/
def parameters? : List (List Char) → Option (List (String × String))
  | [[]] => some []
  | label :: value :: rest => do
    let name ← name? label
    let others ← parameters? rest
    return (name, String.ofList value) :: others
  | _ => none

def isQuote (c : Char) : Bool := c == '"'

def scheme : List Char := "Signature ".toList

/-- The parameters of an authorization: names with values in quotes, parted by commas. -/
def read? (authorization : String) : Option (List (String × String)) :=
  if scheme.isPrefixOf authorization.toList then
    parameters? (Text.pieces isQuote (',' :: authorization.toList.drop scheme.length))
  else none

def listed (names : String) : List String := (Text.pieces (· == ' ') names.toList).map String.ofList

/-- What a request is for, as it is signed. -/
def target (method : String) (url : Url) : String :=
  String.ofList (method.toList.map Char.toLower) ++ " " ++ String.ofList url.path ++
    match url.query with
    | some query => "?" ++ String.ofList query
    | none => ""

/-- The line of a listed name: all but the target are headers of the request. -/
def line? (method : String) (url : Url) (headers : Http.Headers) (name : String) : Option String :=
  (if name = "(request-target)" then some (target method url) else headers.lookup name).map fun value =>
    name ++ ": " ++ value

def rebuild? (method : String) (url : Url) (headers : Http.Headers) (names : List String) : Option String :=
  (names.mapM (line? method url headers)).map "\n".intercalate

section Reading

variable {p : String × String} {ps : List (String × String)}

/-- Parameters as they are written, each after a comma. -/
def written (ps : List (String × String)) : List Char :=
  ps.flatMap fun p => ',' :: p.1.toList ++ '=' :: '"' :: p.2.toList ++ ['"']

theorem written_nil : written [] = [] := rfl

theorem written_cons :
    written (p :: ps) = ',' :: (p.1.toList ++ '=' :: '"' :: p.2.toList ++ '"' :: written ps) := by
  simp [written]

theorem name?_label (name : List Char) : name? (',' :: name ++ ['=']) = some (String.ofList name) := by
  simp [name?]

theorem pieces_written_cons (named : '"' ∉ p.1.toList) (valued : '"' ∉ p.2.toList) :
    Text.pieces isQuote (written (p :: ps)) =
      (',' :: p.1.toList ++ ['=']) :: p.2.toList :: Text.pieces isQuote (written ps) := by
  have label : ∀ c ∈ ',' :: p.1.toList ++ ['='], isQuote c = false := by
    intro c member
    apply beq_eq_false_iff_ne.mpr
    rintro rfl
    simp [named] at member
  have value : ∀ c ∈ p.2.toList, isQuote c = false := by
    intro c member
    apply beq_eq_false_iff_ne.mpr
    rintro rfl
    exact valued member
  have shape : written (p :: ps) = (',' :: p.1.toList ++ ['=']) ++ '"' :: (p.2.toList ++ '"' :: written ps) := by
    simp [written]
  have quoted : isQuote '"' = true := rfl
  rw [shape, Text.pieces_append quoted, Text.pieces_append quoted, Text.pieces_of_unseparated label,
    Text.pieces_of_unseparated value]
  rfl

/-- Parameters without quotes in them are read as they were written. -/
theorem parameters?_written (plain : ∀ p ∈ ps, '"' ∉ p.1.toList ∧ '"' ∉ p.2.toList) :
    parameters? (Text.pieces isQuote (written ps)) = some ps := by
  induction ps with
  | nil => rfl
  | cons p ps ih =>
    obtain ⟨named, valued⟩ := plain p List.mem_cons_self
    rw [pieces_written_cons named valued, parameters?, name?_label, ih fun q member => plain q (List.mem_cons_of_mem _ member)]
    simp

end Reading

section Writing

theorem quote_notMem_base64 (octets : List UInt8) : '"' ∉ (Text.Base64.encode octets).toList := by
  intro member
  rw [Text.Base64.encode, String.toList_ofList] at member
  rcases Text.Base64.mem_encodeChars member with padding | ⟨n, small, letter⟩
  · cases padding
  · exact Text.Base64.letter_ne small rfl letter.symm

/-- The parameters that an authorization is made of. -/
def parametersOf (keyId names signature : String) : List (String × String) :=
  [("version", "1"), ("keyId", keyId), ("algorithm", "rsa-sha256"), ("headers", names), ("signature", signature)]

theorem read?_authorization {keyId signature : String} {names : List String} (plain : '"' ∉ keyId.toList)
    (listed : '"' ∉ (" ".intercalate names).toList) (encoded : '"' ∉ signature.toList) :
    read? (Signer.authorization keyId names signature) = some (parametersOf keyId (" ".intercalate names) signature) := by
  unfold Signer.authorization
  generalize " ".intercalate names = list at listed ⊢
  have unquoted : ∀ p ∈ parametersOf keyId list signature, '"' ∉ p.1.toList ∧ '"' ∉ p.2.toList := by
    simp [parametersOf, plain, listed, encoded]
  have opening : "Signature version=\"1\",keyId=\"".toList =
      scheme ++ ("version".toList ++ '=' :: '"' :: "1".toList ++ '"' :: ',' :: "keyId".toList ++ ['=', '"']) := by decide
  have algorithm : "\",algorithm=\"rsa-sha256\",headers=\"".toList =
      '"' :: ',' :: "algorithm".toList ++ '=' :: '"' :: "rsa-sha256".toList ++ '"' :: ',' :: "headers".toList ++ ['=', '"'] := by
    decide
  have closing : "\",signature=\"".toList = '"' :: ',' :: "signature".toList ++ ['=', '"'] := by decide
  have quote : "\"".toList = ['"'] := by decide
  have shape : ∃ rest, written (parametersOf keyId list signature) = ',' :: rest ∧
      ("Signature version=\"1\",keyId=\"" ++ keyId ++ "\",algorithm=\"rsa-sha256\",headers=\"" ++ list ++
        "\",signature=\"" ++ signature ++ "\"").toList = scheme ++ rest := by
    refine ⟨_, written_cons, ?_⟩
    simp only [String.toList_append, opening, algorithm, closing, quote, written_cons, written_nil]
    -- The names are made opaque: comparing them with lists would take them apart.
    generalize scheme = scheme, "version".toList = version, "1".toList = one, "keyId".toList = label,
      "algorithm".toList = algorithm, "rsa-sha256".toList = rsa, "headers".toList = headers, "signature".toList = signed
    simp only [List.append_assoc, List.cons_append, List.nil_append]
  obtain ⟨rest, comma, shape⟩ := shape
  rw [read?, shape, List.drop_left, ← comma, parameters?_written unquoted, if_pos]
  simp

end Writing

section Sending

variable {signer : Signer} {method date host : String} {url : Url} {body : Option (List UInt8)} {headers : Http.Headers}

def signedNames (body : Option (List UInt8)) : List String :=
  ["date", "(request-target)", "host"] ++
    if body.isSome then ["content-length", "content-type", "x-content-sha256"] else []

theorem signedNames_some (octets : List UInt8) : signedNames (some octets) = signedNames (some []) := rfl

theorem parts_names : (Signer.parts method url host body date).map Prod.fst = signedNames body := by
  cases body <;> rfl

theorem listed_signedNames : listed (" ".intercalate (signedNames body)) = signedNames body := by
  cases body with
  | none => decide
  | some body =>
    rw [signedNames_some]
    decide

theorem quote_notMem_signedNames : '"' ∉ (" ".intercalate (signedNames body)).toList := by
  cases body with
  | none => decide
  | some body =>
    rw [signedNames_some]
    decide

theorem requestTarget_eq : Signer.requestTarget method url = target method url := by
  unfold Signer.requestTarget target Url.target
  cases url.query with
  | none => simp [Url.marked, String.append_assoc]
  | some query => simp [Url.marked, String.append_assoc]

/-- All that is signed is sent, but for the target. -/
theorem sent_eq :
    ((Signer.parts method url host body date).filter fun p => p.1 ≠ Signer.targetName) =
      ("date", date) :: ("host", host) :: Signer.bodyParts body := by
  cases body with
  | none => simp [Signer.parts, Signer.bodyParts, Signer.targetName]
  | some body => simp [Signer.parts, Signer.bodyParts, Signer.targetName]

/-- A request as its signer makes it: headers that are signed, and the authorization. -/
def sent (signer : Signer) (date host : String) (body : Option (List UInt8)) (signature : List UInt8) : Http.Headers :=
  ("date", date) :: ("host", host) :: Signer.bodyParts body ++
    [("authorization", Signer.authorization signer.keyId (signedNames body) (Text.Base64.encode signature))]

theorem sign_sends (signed : signer.sign method url body date = .ok headers) :
    ∃ host signature, Signer.hostHeader url = .ok host ∧
      signer.key.sign (Text.octets (Signer.signingText (Signer.parts method url host body date))) = .ok signature ∧
      headers = sent signer date host body signature := by
  unfold Signer.sign at signed
  obtain ⟨host, found, signed⟩ := bind_eq_ok.mp signed
  obtain ⟨signature, made, signed⟩ := bind_eq_ok.mp signed
  rw [parts_names, sent_eq] at signed
  dsimp only at signed
  split at signed
  · cases signed
    exact ⟨host, signature, found, mapError_eq_ok.mp made, rfl⟩
  · cases signed

/-- The line of a name is the one that was signed. -/
theorem line?_sent {signature : List UInt8} :
    ∀ p ∈ Signer.parts method url host body date,
      line? method url (sent signer date host body signature) p.1 = some (p.1 ++ ": " ++ p.2) := by
  intro p member
  cases body with
  | none =>
    simp only [Signer.parts, Signer.bodyParts, List.append_nil, List.mem_cons, List.not_mem_nil, or_false] at member
    rcases member with rfl | rfl | rfl
    · rfl
    · simp [line?, Signer.targetName, requestTarget_eq]
    · rfl
  | some body =>
    simp only [Signer.parts, Signer.bodyParts, List.cons_append, List.nil_append, List.mem_cons, List.not_mem_nil, or_false] at member
    rcases member with rfl | rfl | rfl | rfl | rfl | rfl
    · rfl
    · simp [line?, Signer.targetName, requestTarget_eq]
    · rfl
    · rfl
    · rfl
    · rfl

theorem mapM_map_of_some {α β γ : Type} {f : β → Option γ} {g : α → β} {h : α → γ} {xs : List α}
    (each : ∀ x ∈ xs, f (g x) = some (h x)) : (xs.map g).mapM f = some (xs.map h) := by
  induction xs with
  | nil => rfl
  | cons x xs ih =>
    rw [List.map_cons, List.mapM_cons, each x List.mem_cons_self, ih fun y member => each y (List.mem_cons_of_mem x member)]
    rfl

/-- What a verifier rebuilds is what was signed. -/
theorem rebuild?_sent {signature : List UInt8} :
    rebuild? method url (sent signer date host body signature) (signedNames body) =
      some (Signer.signingText (Signer.parts method url host body date)) := by
  have lines : ((Signer.parts method url host body date).map Prod.fst).mapM
      (line? method url (sent signer date host body signature)) = some _ := mapM_map_of_some line?_sent
  rw [parts_names] at lines
  rw [rebuild?, lines]
  rfl

/-- A host, and its port if there is one to tell. -/
def hostText (host : List Char) : Option Nat → String
  | none => String.ofList host
  | some port => String.ofList host ++ ":" ++ toString port

/-- What a verifier finds in a signed request: parameters with the listed names and a signature, which is one of the text
that it rebuilds; and, beside the authorization, only the headers that are listed, which describe the request. -/
structure Finds (signer : Signer) (method : String) (url : Url) (body : Option (List UInt8)) (date : String)
    (headers : Http.Headers) : Prop where
  authorized : ∃ value encoded signature text, headers.lookup "authorization" = some value ∧
    read? value = some (parametersOf signer.keyId (" ".intercalate (signedNames body)) encoded) ∧
    Text.Base64.decode? encoded = some signature ∧
    rebuild? method url headers (listed (" ".intercalate (signedNames body))) = some text ∧
    signer.key.sign (Text.octets text) = .ok signature
  names : headers.map Prod.fst = ((signedNames body).filter fun name => name ≠ "(request-target)") ++ ["authorization"]
  dated : headers.lookup "date" = some date
  hosted : ∃ host, url.host? = some host ∧ headers.lookup "host" = some (hostText host url.port?)
  embodied : ∀ octets, body = some octets → headers.lookup "content-length" = some (toString octets.length) ∧
    headers.lookup "content-type" = some "application/json" ∧
    headers.lookup "x-content-sha256" = some (Text.Base64.encode (Crypto.Sha256.digest octets))

theorem hostHeader_ok (found : Signer.hostHeader url = .ok host) :
    ∃ name, url.host? = some name ∧ host = hostText name url.port? := by
  unfold Signer.hostHeader at found
  split at found
  · cases found
  next name named =>
    cases found
    refine ⟨name, named, String.toList_inj.mp ?_⟩
    cases url.port? with
    | none => simp [hostText, Url.marked]
    | some port => simp [hostText, Url.marked]

theorem finds_sent {signature : List UInt8} (plain : '"' ∉ signer.keyId.toList) (found : Signer.hostHeader url = .ok host)
    (made : signer.key.sign (Text.octets (Signer.signingText (Signer.parts method url host body date))) = .ok signature) :
    Finds signer method url body date (sent signer date host body signature) := by
  obtain ⟨name, named, rfl⟩ := hostHeader_ok found
  have read : read? (Signer.authorization signer.keyId (signedNames body) (Text.Base64.encode signature)) = _ :=
    read?_authorization plain quote_notMem_signedNames (quote_notMem_base64 signature)
  constructor
  · refine ⟨_, _, signature, _, ?_, read, Text.Base64.decode?_encode signature, ?_, made⟩
    · cases body <;> rfl
    · rw [listed_signedNames]
      exact rebuild?_sent
  · cases body <;> rfl
  · rfl
  · exact ⟨name, named, rfl⟩
  · rintro octets rfl
    exact ⟨rfl, rfl, rfl⟩

theorem finds_of_sign (plain : '"' ∉ signer.keyId.toList) (signed : signer.sign method url body date = .ok headers) :
    Finds signer method url body date headers := by
  obtain ⟨host, signature, found, made, rfl⟩ := sign_sends signed
  exact finds_sent plain found made

/-- Every request for a question is found to be signed. -/
theorem finds_of_sends {c : Client} {r : Request} {request : Http.Request} (plain : '"' ∉ c.signer.keyId.toList)
    (sends : c.Sends r request) : ∃ date, Finds c.signer request.method request.url request.body date request.headers := by
  obtain ⟨date, signed⟩ := sends.signed
  exact ⟨date, finds_of_sign plain signed⟩

/-- What is signed is what is sent: a verifier finds in the headers the text that the signature is one of. The host is told
with a port only if this is not the usual one. -/
theorem sign_verifies (plain : '"' ∉ signer.keyId.toList) (signed : signer.sign method url body date = .ok headers) :
    Finds signer method url body date headers ∧
      ∀ address, Url.parse address = .ok url → ∀ port, url.port? = some port → Url.specialPort? url.scheme ≠ some (some port) :=
  ⟨finds_of_sign plain signed, fun _ parsed _ numbered => Url.parse_unusual parsed numbered⟩

theorem local_sign_verifies :
    '"' ∉ localClient.signer.keyId.toList ∧ Url.parse localClient.baseUrl = .ok (localUrl "/") ∧
      Url.specialPort? (localUrl "/").scheme ≠ some (some 8080) ∧
      ∃ headers, localClient.signer.sign "PUT" (localUrl "/") (some [1, 2]) "Thu, 01 Jan 1970 00:00:00 GMT" = .ok headers ∧
        Finds localClient.signer "PUT" (localUrl "/") (some [1, 2]) "Thu, 01 Jan 1970 00:00:00 GMT" headers := by
  have plain : '"' ∉ localClient.signer.keyId.toList := by decide
  have parsed : Url.parse localClient.baseUrl = .ok (localUrl "/") := ok_of_toOption (by decide +kernel)
  have found : Signer.hostHeader (localUrl "/") = .ok "[::1]:8080" := rfl
  have named : Signer.sendable localClient.signer.keyId = true := by decide +kernel
  have dated : Signer.sendable "Thu, 01 Jan 1970 00:00:00 GMT" = true := by decide +kernel
  have hosted : Signer.sendable "[::1]:8080" = true := by decide +kernel
  have signs : ∀ text, ∃ signature, localClient.signer.key.sign text = .ok signature := Signer.plainKey_signs
  obtain ⟨headers, signed⟩ := Signer.sign_ok found signs named dated hosted
  obtain ⟨finds, unusual⟩ := sign_verifies plain signed
  exact ⟨plain, parsed, unusual _ parsed 8080 rfl, headers, signed, finds⟩

end Sending

end Verifier

end BackendRegistrar.Cloud
