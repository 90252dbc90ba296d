import BackendRegistrar.Cluster.Object
import BackendRegistrar.Program
import BackendRegistrar.Text.Printable

/-! What programs read from the cluster, and why a request to it failed. -/

namespace BackendRegistrar.Cluster

/-- The cluster refused, its answer could not be read, or there was no way to ask. -/
inductive Failure
  | refused (code : Nat) (reason message : String)
  | unreadable (detail : String)
  | unsendable (detail : String)
deriving DecidableEq, Repr

namespace Failure

def text : Failure → String
  | refused code reason message =>
    "ApiError: " ++ message ++ ": " ++ reason ++ " (ErrorResponse \x7b status: \"Failure\", message: "
      ++ Text.quoted message ++ ", reason: " ++ Text.quoted reason ++ ", code: " ++ toString code
      ++ " \x7d)"
  | unreadable detail => "Error deserializing response: " ++ detail
  | unsendable detail => "Failed to build request: " ++ detail

def code? : Failure → Option Nat
  | refused code _ _ => some code
  | unreadable _ | unsendable _ => none

def saysNotFound : Failure → Bool
  | refused _ reason _ => reason == "NotFound"
  | unreadable _ | unsendable _ => false

end Failure

inductive Read
  | nodes
  | pods (ns : String)
  | service (ns name : String)
  | endpoints (ns name : String)
  | secret (ns name : String)
deriving DecidableEq, Repr

@[reducible] def Read.Value : Read → Type
  | nodes => List Node
  | pods _ => List Pod
  | service _ _ => Service
  | endpoints _ _ => Endpoints
  | secret _ _ => Secret

abbrev reading : Interface := ⟨Read, fun r => Except Failure r.Value⟩

def read (r : Read) : ExceptT Failure (Program reading) r.Value :=
  ExceptT.mk (Program.perform (I := reading) r)

/-- An answer in which a refusal for want of the object counts as none. -/
def orNone : Except Failure α → Except Failure (Option α)
  | .ok value => .ok (some value)
  | .error f => if f.saysNotFound then .ok none else .error f

def readOrNone (r : Read) : ExceptT Failure (Program reading) (Option r.Value) :=
  ExceptT.mk ((Program.perform (I := reading) r).bind fun answer => .done (orNone answer))

end BackendRegistrar.Cluster
