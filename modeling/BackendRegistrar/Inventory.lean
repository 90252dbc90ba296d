import BackendRegistrar.Cluster.Read
import BackendRegistrar.Spec

/-! Which node port a service has, and which nodes serve it. -/

namespace BackendRegistrar

inductive InventoryError
  | cluster (failure : Cluster.Failure)
  | serviceNotFound (service : String)
  | notNodePort (service : String)
  | nodePortUnallocated (service port : String)
  | noMatchingPort (service port : String)
  | endpointsNotFound (service : String)
  | noServingNodes (service : String)
deriving DecidableEq, Repr

namespace InventoryError

def message : InventoryError → String
  | cluster failure => "Kubernetes API error: " ++ failure.text
  | serviceNotFound service => "service " ++ service ++ " not found"
  | notNodePort service => "service " ++ service ++ " is not of type NodePort"
  | nodePortUnallocated service port =>
    "nodePort is not allocated for port " ++ port ++ " in service " ++ service
  | noMatchingPort service port =>
    "no matching port found for " ++ port ++ " in service " ++ service
  | endpointsNotFound service => "failed to get endpoints " ++ service
  | noServingNodes service => "no nodes are serving endpoints of service " ++ service

end InventoryError

namespace Cluster

namespace Service

def key (s : Service) : String := s.metadata.ns.getD "" ++ "/" ++ s.metadata.name.getD ""

def port? (s : Service) (port : PortRef) : Option ServicePort :=
  s.ports.find? fun p => match port with
    | .number n => p.port = n
    | .name name => p.name = some name

/-- The node port behind a port of a service. It is never zero. -/
def nodePort (s : Service) (port : PortRef) : Except InventoryError Int32 :=
  if s.type ≠ some "NodePort" then .error (.notNodePort s.key)
  else match s.port? port with
    | none => .error (.noMatchingPort s.key port.text)
    | some p => match p.nodePort with
      | some n => if n = 0 then .error (.nodePortUnallocated s.key port.text) else .ok n
      | none => .error (.nodePortUnallocated s.key port.text)

theorem nodePort_ne_zero {s : Service} {port : PortRef} {n : Int32}
    (h : s.nodePort port = .ok n) : n ≠ 0 := by
  simp only [nodePort] at h
  split at h
  · cases h
  · split at h
    · cases h
    · split at h
      · split at h
        · cases h
        · next hn => cases h; exact hn
      · cases h

end Service

def sortedSet (texts : List String) : List String :=
  (texts.mergeSort (fun a b => decide (a ≤ b))).eraseDups

def Endpoints.readyIPs (e : Endpoints) : List String := e.subsets.flatMap EndpointSubset.ready

def Pod.ips (p : Pod) : List String := p.podIP.toList ++ p.podIPs

/-- The names of the nodes of pods with one of the addresses. -/
def servingNodeNames (ips : List String) (pods : List Pod) : List String :=
  (pods.filter fun p => p.ips.any (ips.contains ·)).filterMap Pod.nodeName

/-- The nodes that have the name of a serving node, in order. -/
def nodesServing (ips : List String) (pods : List Pod) (nodes : List Node) : List Node :=
  let names := servingNodeNames ips pods
  nodes.filter fun n => match n.metadata.name with
    | some name => names.contains name
    | none => false

end Cluster

namespace Inventory

open Cluster

abbrev Survey (α : Type) := ExceptT InventoryError (Program reading) α

def survey (p : ExceptT Failure (Program reading) α) : Survey α :=
  ExceptT.adapt InventoryError.cluster p

def resolveNodePort (r : ServiceReference) : Survey Int32 := do
  match ← survey (readOrNone (.service r.ns r.name)) with
  | none => throw (.serviceNotFound r.key)
  | some (service : Service) => ExceptT.mk (pure (service.nodePort r.port))

def allNodes : Survey (List Node) := survey (read .nodes)

/-- The nodes with pods behind the ready endpoints of a service. Without ready endpoints
there is nothing more to read. -/
def nodesForService (r : ServiceReference) : Survey (List Node) := do
  match ← survey (readOrNone (.endpoints r.ns r.name)) with
  | none => throw (.endpointsNotFound r.key)
  | some (endpoints : Endpoints) =>
    let ips := endpoints.readyIPs
    if ips.isEmpty then return []
    else
      let pods : List Pod ← survey (read (.pods r.ns))
      let nodes ← allNodes
      return nodesServing ips pods nodes

end Inventory

end BackendRegistrar
