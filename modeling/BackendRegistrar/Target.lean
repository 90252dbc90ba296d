import BackendRegistrar.Cluster.Object

/-! Backends to register: an address with a port and a weight. -/

namespace BackendRegistrar

structure Target where
  address : String
  port : Int32
  weight : Int32
deriving DecidableEq, Repr

namespace Target

def text (t : Target) : String :=
  t.address ++ ":" ++ toString t.port.toInt ++ " (weight " ++ toString t.weight.toInt ++ ")"

def record : Record Target :=
  Record.start Target.mk
    |>.take (.required "address" .string)
    |>.take (.required "port" .int32)
    |>.take (.required "weight" .int32)

def decode : Decoder Target := record.decode

def encode (t : Target) : Json :=
  .ofMembers
    [("address", some (.string t.address)),
      ("port", some (.int t.port.toInt)),
      ("weight", some (.int t.weight.toInt))]

def atMost (a b : Target) : Bool :=
  if a.address = b.address then
    if a.port = b.port then decide (a.weight ≤ b.weight) else decide (a.port < b.port)
  else decide (a.address < b.address)

/-- Targets in order, those that are equal as they came. -/
def sorted (ts : List Target) : List Target := ts.mergeSort atMost

end Target

namespace Cluster.Node

def internal : String := "InternalIP"

def internalIP? (node : Node) : Option String :=
  (node.addresses.find? fun a => a.type = internal).map NodeAddress.address

/-- One target for each node that has an address inside the cluster, in order. -/
def targets (nodes : List Node) (port weight : Int32) : List Target :=
  nodes.filterMap fun node => node.internalIP?.map fun address => ⟨address, port, weight⟩

end Cluster.Node

end BackendRegistrar
