import BackendRegistrar.Cloud.BackendSet
import BackendRegistrar.Error
import BackendRegistrar.Target
import BackendRegistrar.Validation

/-! Registering backends: for each reference in turn, its node port and nodes are read from the
cluster and the targets are pushed to a backend set. The first failure ends it. -/

namespace BackendRegistrar

namespace Registration

/-- Registration reads from the cluster and pushes targets to backend sets. -/
inductive Op
  | read (r : Cluster.Read)
  | push (backendSet : String) (targets : List Target)

@[reducible] def Op.Answer : Op → Type
  | read r => Except Cluster.Failure r.Value
  | push _ _ => Except CloudError Unit

abbrev interface : Interface := ⟨Op, Op.Answer⟩

abbrev Step (α : Type) := ExceptT Error (Program interface) α

def survey (p : Inventory.Survey α) : Step α :=
  ExceptT.mk <|
    (p.run.translate (J := interface) fun r => .perform (I := interface) (.read r)).bind fun answer =>
      .done (answer.mapError Error.inventory)

def push (backendSet : String) (targets : List Target) : Step Unit :=
  ExceptT.mk <|
    (Program.perform (I := interface) (.push backendSet targets)).bind
      fun (answer : Except CloudError Unit) => .done (answer.mapError Error.cloud)

structure Report where
  backendSet : String
  targets : Nat
deriving DecidableEq, Repr

/-- A port that is set overrides the one found. -/
def determinePort (override resolved : Int32) : Int32 := if override ≠ 0 then override else resolved

end Registration

namespace Spec

def weightFor (s : Spec) (r : ServiceReference) : Int32 :=
  (r.weight.filter fun w => decide (0 < w)).getD s.weight

def backendSetFor (s : Spec) (r : ServiceReference) : String :=
  (r.backendSetName.filter fun name => name ≠ "").getD s.backendSetName

/-- The port to register: a network load balancer may be given one for all services. -/
def portFor (s : Spec) (kind : Cloud.Kind) (resolved : Int32) : Int32 :=
  match kind with
  | .network => Registration.determinePort s.port resolved
  | .classic => resolved

end Spec

namespace Registration

def nodesFor (r : ServiceReference) : Step (List Cluster.Node) :=
  if r.filterByEndpoints then survey (Inventory.nodesForService r) else survey Inventory.allNodes

def pushReported (backendSet : String) (targets : List Target) : Step Report := do
  push backendSet targets
  return ⟨backendSet, targets.length⟩

/-- Registers one reference of the list. Only a reference that follows its endpoints may leave
its set without targets. -/
def registerReference (s : Spec) (kind : Cloud.Kind) (r : ServiceReference) : Step Report := do
  let resolved ← survey (Inventory.resolveNodePort r)
  let nodes ← nodesFor r
  let targets := Cluster.Node.targets nodes (s.portFor kind resolved) (s.weightFor r)
  let backendSet := s.backendSetFor r
  if targets.isEmpty && !r.filterByEndpoints then throw (.cloud (.noBackends backendSet))
  else pushReported backendSet targets

def registerAll (s : Spec) (kind : Cloud.Kind) : List ServiceReference → Step (List Report)
  | [] => pure []
  | r :: rest => do
    let report ← registerReference s kind r
    let reports ← registerAll s kind rest
    return report :: reports

def singlePort (s : Spec) : Step Int32 :=
  match s.service with
  | some r => survey (Inventory.resolveNodePort r)
  | none => pure s.nodePort

def singleNodes (s : Spec) : Step (List Cluster.Node) :=
  match s.service with
  | some r => nodesFor r
  | none => survey Inventory.allNodes

def nothingToRegister (s : Spec) : Error :=
  match s.service with
  | some r =>
    if r.filterByEndpoints then .inventory (.noServingNodes r.key)
    else .cloud (.noBackends s.backendSetName)
  | none => .cloud (.noBackends s.backendSetName)

def registerSingle (s : Spec) : Step Report := do
  let resolved ← singlePort s
  let port := determinePort s.port resolved
  if port = 0 then throw (.validation "no port configured: set nodePort, port or service")
  else
    let nodes ← singleNodes s
    let targets := Cluster.Node.targets nodes port s.weight
    if targets.isEmpty then throw (nothingToRegister s)
    else pushReported s.backendSetName targets

def register (s : Spec) (kind : Cloud.Kind) : Step (List Report) :=
  if s.usesServiceList then registerAll s kind s.services
  else do
    let report ← registerSingle s
    return [report]

end Registration

end BackendRegistrar
