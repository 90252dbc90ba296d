import BackendRegistrar.Cloud.Sync
import BackendRegistrar.Cloud.Signing
import BackendRegistrar.Cluster.Read
import BackendRegistrar.PhaseUpdate

/-! Everything that passes and triggers ask of their surroundings: the cluster, load balancer
services, the store of registrars, events, measurements and the time. -/

namespace BackendRegistrar

inductive Observation
  | reconciled (name : String) (seconds : Float)
  | failed (name : String)
  | synced (provider : String) (success : Bool)
  | registered (name backendSet : String) (count : Int)
  | reset (trigger : String) (count : Nat)

inductive EventType
  | normal
  | warning
deriving DecidableEq, Repr

structure Event where
  type : EventType
  reason : String
  action : String
  note : Option String
deriving DecidableEq, Repr

/-- A load balancer service that can be reached: its kind, where it is, and how requests to it
are signed. -/
structure Connection where
  kind : Cloud.Kind
  region : String
  signer : Cloud.Signer
deriving DecidableEq, Repr

namespace Environment

inductive Op
  | read (r : Cluster.Read)
  | buildClient
  | cloud (connection : Connection) (op : Cloud.Op)
  | writeStatus (name : String) (update : PhaseUpdate)
  | publish (registrar : String) (event : Event)
  | observe (observation : Observation)
  | clock

/-- Building a client of the network may fail with a text. The clock counts milliseconds. -/
@[reducible] def Op.Answer : Op → Type
  | read r => Except Cluster.Failure r.Value
  | buildClient => Except String Unit
  | cloud _ op => op.Answer
  | writeStatus _ _ => Except Cluster.Failure Unit
  | publish _ _ => Unit
  | observe _ => Unit
  | clock => Nat

end Environment

abbrev environment : Interface := ⟨Environment.Op, Environment.Op.Answer⟩

abbrev Operation (α : Type) := Program environment α

namespace Operation

def publish (registrar : String) (event : Event) : Operation Unit :=
  .perform (I := environment) (.publish registrar event)

def observe (observation : Observation) : Operation Unit :=
  .perform (I := environment) (.observe observation)

def clock : Operation Nat := .perform (I := environment) .clock

def reading (p : Program Cluster.reading α) : Operation α :=
  p.translate (J := environment) fun r => .perform (I := environment) (.read r)

def asking (connection : Connection) (p : Program Cloud.service α) : Operation α :=
  p.translate (J := environment) fun op => .perform (I := environment) (.cloud connection op)

end Operation

end BackendRegistrar
