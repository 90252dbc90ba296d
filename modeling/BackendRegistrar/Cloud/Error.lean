/-! Why a request to a load balancer service, or what it asked for, failed. -/

namespace BackendRegistrar

inductive CloudError
  | http (detail : String)
  | api (status : Nat) (code message : String) (requestId : Option String)
  | request (detail : String)
  | invalidKey (detail : String)
  | signing (detail : String)
  | noBackends (backendSet : String)
  | operationFailed (id : String)
  | operationCanceled (id : String)
  | operationTimedOut (id : String) (attempts : Nat)
  | cancelled (id : String)
deriving DecidableEq, Repr

namespace CloudError

def message : CloudError → String
  | http detail => "HTTP error: " ++ detail
  | api status code message _ =>
    "OCI API error (" ++ toString status ++ " " ++ code ++ "): " ++ message
  | request detail => "invalid request: " ++ detail
  | invalidKey detail => "invalid private key: " ++ detail
  | signing detail => "failed to sign request: " ++ detail
  | noBackends backendSet => "no backends found for backend set " ++ backendSet
  | operationFailed id => "work request " ++ id ++ " failed"
  | operationCanceled id => "work request " ++ id ++ " was canceled"
  | operationTimedOut id attempts =>
    "timed out waiting for work request " ++ id ++ " after " ++ toString attempts ++ " attempts"
  | cancelled id => "wait for work request " ++ id ++ " was cancelled"

end CloudError

end BackendRegistrar
