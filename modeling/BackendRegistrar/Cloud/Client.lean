import BackendRegistrar.Cloud.Service
import BackendRegistrar.Cloud.Signing
import BackendRegistrar.Http.Date
import BackendRegistrar.Http.Redirect
import BackendRegistrar.Json.Printer
import BackendRegistrar.Json.Reader
import BackendRegistrar.Url.Parser

/-! The client of the service of a load balancer: each question becomes a signed request. A response that
points elsewhere may lead to more requests, which carry what was signed for the first. -/

namespace BackendRegistrar.Cloud

structure Client where
  kind : Kind
  baseUrl : String
  signer : Signer
  redirects : Http.Redirects

namespace Client

/-- A client of the service at an address; slashes at its end do not count. -/
def new (kind : Kind) (signer : Signer) (baseUrl : String) : Client :=
  ⟨kind, String.ofList ((baseUrl.toList.reverse.dropWhile (· == '/')).reverse), signer, .standard⟩

def setUrl (c : Client) (loadBalancerId backendSet : String) : String :=
  c.baseUrl ++ "/" ++ c.kind.collection ++ "/" ++ loadBalancerId ++ "/backendSets/" ++ backendSet

def workRequestUrl (c : Client) (id : String) : String := c.baseUrl ++ "/workRequests/" ++ id

def explanation : Record (String × String) :=
  Record.start Prod.mk
    |>.take (.withDefault "code" .string "")
    |>.take (.withDefault "message" .string "")

/-- What a response without success means. A body that explains nothing is the message. -/
def refusal (r : Http.Response) : CloudError :=
  let text := match r.body with
    | .ok octets => Text.ofOctetsReplacing octets
    | .error _ => ""
  let explained := (Json.read? text).bind fun j => (explanation.decode j).toOption
  let (code, message) := explained.getD ("", text)
  .api r.status code message (r.header? "opc-request-id")

abbrev Exchange (α : Type) := ExceptT CloudError (Program Http.network) α

/-- Sends a signed request and goes where the response points; only a response of success is answered. -/
def send (c : Client) (method address : String) (body : Option (List UInt8)) :
    Exchange Http.Response := do
  let url ← match Url.parse address with
    | .ok url => pure url
    | .error e => throw (.request ("invalid URL " ++ address ++ ": " ++ e.message))
  let second : Int ← ExceptT.lift (Program.perform (I := Http.network) .now)
  let date ← match Http.date? second with
    | some date => pure date
    | none => throw (.signing "no date for this time")
  let headers ← ExceptT.mk (pure (c.signer.sign method url body date))
  let answer : Except String Http.Response ←
    ExceptT.lift (c.redirects.fetch Http.Redirects.longestChain ⟨method, url, headers, body⟩)
  match answer with
  | .error detail => throw (.http detail)
  | .ok response => if response.succeeded then return response else throw (refusal response)

def document (decode : Decoder α) (r : Http.Response) : Except CloudError α :=
  match r.body with
  | .error detail => .error (.http detail)
  | .ok octets =>
    let document := (Text.ofOctets? octets).bind Json.read?
    match document.map decode with
    | some (.ok value) => .ok value
    | _ => .error (.http "error decoding response body")

def perform (c : Client) : (r : Request) → Exchange r.Value
  | .getSet loadBalancerId backendSet => do
    let response ← c.send "GET" (c.setUrl loadBalancerId backendSet) none
    ExceptT.mk (pure (document (BackendSet.decode c.kind) response))
  | .updateSet loadBalancerId backendSet update => do
    let body := Text.octets update.encode.text
    let response ← c.send "PUT" (c.setUrl loadBalancerId backendSet) (some body)
    return response.header? "opc-work-request-id"
  | .workRequest id => do
    let response ← c.send "GET" (c.workRequestUrl id) none
    ExceptT.mk (pure (document OperationStatus.ofWorkRequest.decode response))

def overNetwork (c : Client) : (op : Op) → Program Http.network op.Answer
  | .request r => (c.perform r).run
  | .pause milliseconds => Program.perform (I := Http.network) (.pause milliseconds)

end Client

end BackendRegistrar.Cloud
