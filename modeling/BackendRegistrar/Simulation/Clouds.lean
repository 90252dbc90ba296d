import BackendRegistrar.Cloud.Service
import BackendRegistrar.Json.Basic

/-! Load balancers given by a document: for each its backend sets, failures of reading and of
updating, and the statuses of its work, one for each time that is asked. -/

namespace BackendRegistrar.Simulation

def cloudErrorOf? (j : Json) : Option CloudError := do
  let text? (name : String) : Option String :=
    match j.get? name with
    | some (.string s) => some s
    | _ => none
  let number? (name : String) : Option Nat :=
    match j.get? name with
    | some (.number (.integer n)) => some n.toNat
    | _ => none
  let variant ← text? "variant"
  if variant = "Api" then
    return .api (← number? "status") (← text? "code") (← text? "message") (text? "opc_request_id")
  else
    let text ← text? "text"
    match variant with
    | "Request" => some (.request text)
    | "InvalidKey" => some (.invalidKey text)
    | "Signing" => some (.signing text)
    | "NoBackends" => some (.noBackends text)
    | "OperationFailed" => some (.operationFailed text)
    | "OperationCanceled" => some (.operationCanceled text)
    | "OperationTimedOut" => return .operationTimedOut text (← number? "attempts")
    | "Cancelled" => some (.cancelled text)
    | _ => none

def noSuchSet : CloudError := .api 404 "NotAuthorizedOrNotFound" "no such backend set" none

def setFailure? (balancer : Json) (name : String) : Option CloudError :=
  (balancer.get? name).bind cloudErrorOf?

def setOf? (balancer : Json) (backendSet : String) : Option Json :=
  (balancer.get? "sets").bind (·.get? backendSet)

def answerGet (balancer : Json) (kind : Cloud.Kind) (backendSet : String) :
    Except CloudError Cloud.BackendSet :=
  match setFailure? balancer "get_error" with
  | some e => .error e
  | none =>
    match (setOf? balancer backendSet).map (Cloud.BackendSet.decode kind) with
    | some (.ok set) => .ok set
    | _ => .error noSuchSet

def put (j : Json) (name : String) (value : Json) : Json :=
  .object (j.members.insert name value)

/-- Answers an update, which replaces the backends of the set. -/
def answerUpdate (balancer : Json) (kind : Cloud.Kind) (backendSet : String)
    (update : Cloud.BackendSetUpdate) : Except CloudError (Option String) × Json :=
  match setFailure? balancer "update_error" with
  | some e => (.error e, balancer)
  | none =>
    let sets := (balancer.get? "sets").getD .null
    let set := put ((sets.get? backendSet).getD .null) "backends" update.encodeBackends
    let work := match kind, balancer.get? "work_request_id" with
      | .network, some (.string id) => some id
      | _, _ => none
    (.ok work, put balancer "sets" (put sets backendSet set))

def answerStatus (balancer : Json) : Except CloudError Cloud.OperationStatus × Json :=
  match balancer.get? "statuses" with
  | some (.array (status :: rest)) =>
    let answer := match status with
      | .string s => .ok (Cloud.OperationStatus.ofWire s)
      | j => match cloudErrorOf? j with
        | some e => .error e
        | none => .ok .succeeded
    (answer, put balancer "statuses" (.array rest))
  | _ => (.ok .succeeded, balancer)

end BackendRegistrar.Simulation
