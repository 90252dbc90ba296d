import BackendRegistrar.Http.Message
import BackendRegistrar.Http.Target
import BackendRegistrar.Text.Utf8
import BackendRegistrar.Url.Parser

/-! Responses that point elsewhere. A client goes on to ask there, as its policy has it, and takes the
response to its last request for the one to its first. -/

namespace BackendRegistrar.Http

/-- What a client makes of a response: it takes it, gives up on it, or goes on to another request. -/
inductive Turn
  | taken
  | refused (detail : String)
  | onward (next : Request)

/-- A policy for responses that point elsewhere. Those of success do not. -/
structure Redirects where
  turn : Request → Response → Turn
  succeeded : ∀ {request response}, response.succeeded = true → turn request response = .taken

namespace Redirects

/-- How often in a row a client goes on. -/
def longestChain : Nat := 10

/-- Sends a request, and goes on so many times at most. -/
def fetch (redirects : Redirects) : Nat → Request → Program network (Except String Response)
  | hops, request => .ask (I := network) (.send request) fun
    | .error detail => .done (.error detail)
    | .ok response =>
      match redirects.turn request response with
      | .taken => .done (.ok response)
      | .refused detail => .done (.error detail)
      | .onward next =>
        match hops with
        | 0 => .done (.error "too many redirects")
        | hops + 1 => fetch redirects hops next

end Redirects

namespace Request

/-- Headers that tell of a body. -/
def bodyHeaders : List String := ["transfer-encoding", "content-encoding", "content-type", "content-length"]

/-- Headers that are meant for one host. -/
def secretHeaders : List String :=
  ["authorization", "cookie", "cookie2", "proxy-authorization", "www-authenticate"]

/-- The request to make elsewhere after a status: one for reading, without a body, or the same again. After
301 and 302 there are clients that make the same again, too. -/
def repeated? (r : Request) (status : Nat) : Option Request :=
  if status = 301 ∨ status = 302 ∨ status = 303 then
    some
      { r with
        method := if r.method = "HEAD" then "HEAD" else "GET"
        headers := r.headers.filter fun h => !bodyHeaders.contains h.1
        body := none }
  else if status = 307 ∨ status = 308 then some r
  else none

/-- Where a request was made, as it is told elsewhere; a place that is secured is not told to one that is not. -/
def referrer? (r : Request) (url : Url) : Option String :=
  if url.scheme = "http".toList ∧ r.url.scheme = "https".toList then none
  else
    let authority := r.url.authority.map fun a => { a with userInfo := none }
    some { r.url with authority := authority, fragment := none }.text

/-- A request at another place. -/
def redirected (r : Request) (url : Url) : Request :=
  let headers := match r.referrer? url with
    | some place => ("referer", place) :: r.headers.filter fun h => h.1 ≠ "referer"
    | none => r.headers
  let sameHost := url.host? = r.url.host? ∧ url.usedPort? = r.url.usedPort?
  { r with
    url := url
    headers := if sameHost then headers else headers.filter fun h => !secretHeaders.contains h.1 }

end Request

/-- The place that a response names, perhaps relative to where it comes from. -/
def Response.place? (r : Response) (url : Url) : Option Url := do
  let (_, value) ← r.headers.find? fun h => h.1 = "location"
  let place ← (url.resolve (← Text.ofOctets? value)).toOption
  guard (Target.parse place.text).toOption.isSome
  return place

/-- Goes on wherever the web is, but to no other scheme. -/
def standardTurn (request : Request) (response : Response) : Turn :=
  match request.repeated? response.status, response.place? request.url with
  | some again, some place =>
    if place.scheme = "http".toList ∨ place.scheme = "https".toList then .onward (again.redirected place)
    else .refused "URL scheme is not allowed"
  | _, _ => .taken

theorem repeated?_of_succeeded {request : Request} {response : Response} (succeeded : response.succeeded = true) :
    request.repeated? response.status = none := by
  simp only [Response.succeeded, Bool.and_eq_true, decide_eq_true_eq] at succeeded
  unfold Request.repeated?
  rw [if_neg (by omega), if_neg (by omega)]

def Redirects.standard : Redirects where
  turn := standardTurn
  succeeded := by
    intro request response succeeded
    rw [standardTurn, repeated?_of_succeeded succeeded]

end BackendRegistrar.Http
