import BackendRegistrar.Cluster.Metadata

/-! The objects of the cluster that registration looks at, as far as it looks at them. In
these objects null stands for absence, and a required text, number or list that is absent is
empty or zero. -/

namespace BackendRegistrar

inductive PortRef
  | number (value : Int32)
  | name (value : String)
deriving DecidableEq, Repr

namespace PortRef

def decode : Decoder PortRef
  | .string s => .ok (.name s)
  | j => (Decoder.int32 j).map .number

def encode : PortRef → Json
  | .number n => .int n.toInt
  | .name s => .string s

def text : PortRef → String
  | .number n => toString n.toInt
  | .name s => s

end PortRef

namespace Cluster

structure NodeAddress where
  type : String
  address : String
deriving DecidableEq, Repr

structure Node where
  metadata : Metadata
  addresses : List NodeAddress
deriving DecidableEq, Repr

structure Pod where
  metadata : Metadata
  nodeName : Option String
  podIP : Option String
  podIPs : List String
deriving DecidableEq, Repr

structure ServicePort where
  name : Option String
  port : Int32
  nodePort : Option Int32
deriving DecidableEq, Repr

structure Service where
  metadata : Metadata
  type : Option String
  ports : List ServicePort
deriving DecidableEq, Repr

/-- Addresses that share their ports: those that are ready and those that are not. -/
structure EndpointSubset where
  ready : List String
  notReady : List String
deriving DecidableEq, Repr

structure Endpoints where
  metadata : Metadata
  subsets : List EndpointSubset
deriving DecidableEq, Repr

structure Secret where
  metadata : Metadata
  data : List (String × List UInt8)
deriving DecidableEq, Repr

end Cluster

end BackendRegistrar
