import BackendRegistrar.Cloud.BackendSet
import BackendRegistrar.Cloud.Error
import BackendRegistrar.Json.Decode
import BackendRegistrar.Program

/-! What programs ask of the service of a load balancer, and the work that an update has begun. -/

namespace BackendRegistrar.Cloud

inductive OperationStatus
  | accepted
  | inProgress
  | succeeded
  | failed
  | canceling
  | canceled
  | unknown (text : String)
deriving DecidableEq, Repr

namespace OperationStatus

def ofWire (s : String) : OperationStatus :=
  if s = "ACCEPTED" then accepted
  else if s = "IN_PROGRESS" then inProgress
  else if s = "SUCCEEDED" then succeeded
  else if s = "FAILED" then failed
  else if s = "CANCELING" then canceling
  else if s = "CANCELED" then canceled
  else unknown s

def text : OperationStatus → String
  | accepted => "ACCEPTED"
  | inProgress => "IN_PROGRESS"
  | succeeded => "SUCCEEDED"
  | failed => "FAILED"
  | canceling => "CANCELING"
  | canceled => "CANCELED"
  | unknown text => text

def decode : Decoder OperationStatus := fun j => (Decoder.string j).map ofWire

def ofWorkRequest : Record OperationStatus := Record.start id |>.take (.required "status" decode)

/-- Whether the work will not change any more, and how it ended. -/
def outcome? (id : String) : OperationStatus → Option (Except CloudError Unit)
  | succeeded => some (.ok ())
  | failed => some (.error (.operationFailed id))
  | canceled => some (.error (.operationCanceled id))
  | accepted | inProgress | canceling | unknown _ => none

end OperationStatus

inductive Request
  | getSet (loadBalancerId backendSet : String)
  | updateSet (loadBalancerId backendSet : String) (update : BackendSetUpdate)
  | workRequest (id : String)

/-- What the service answers to a request that succeeds. An update may be answered by the
identifier of its work. -/
@[reducible] def Request.Value : Request → Type
  | getSet _ _ => BackendSet
  | updateSet _ _ _ => Option String
  | workRequest _ => OperationStatus

/-- Requests, and pauses of some milliseconds that may be interrupted. -/
inductive Op
  | request (r : Request)
  | pause (milliseconds : Nat)

/-- A pause answers whether it was interrupted. -/
@[reducible] def Op.Answer : Op → Type
  | request r => Except CloudError r.Value
  | pause _ => Bool

abbrev service : Interface := ⟨Op, Op.Answer⟩

def ask (r : Request) : ExceptT CloudError (Program service) r.Value :=
  ExceptT.mk (Program.perform (I := service) (.request r))

def pause (milliseconds : Nat) : ExceptT CloudError (Program service) Bool :=
  ExceptT.lift (Program.perform (I := service) (.pause milliseconds))

end BackendRegistrar.Cloud
