import BackendRegistrar.Cluster.Object

/-! What a registrar asks for: a load balancer and a backend set, the services or ports to
register, and the key to sign requests with. -/

namespace BackendRegistrar

/-- A service to register, with overrides of what the whole registrar says. -/
structure ServiceReference where
  name : String
  ns : String
  port : PortRef
  filterByEndpoints : Bool
  weight : Option Int32
  backendSetName : Option String
deriving DecidableEq, Repr

namespace ServiceReference

def record : Record ServiceReference :=
  Record.start ServiceReference.mk
    |>.take (.required "name" .string)
    |>.take (.required "namespace" .string)
    |>.take (.required "port" PortRef.decode)
    |>.take (.withDefault "filterByEndpoints" .bool false)
    |>.take (.optional "weight" .int32)
    |>.take (.optional "backendSetName" .string)

def decode : Decoder ServiceReference := record.decode

def encode (r : ServiceReference) : Json :=
  .ofMembers
    [("name", some (.string r.name)),
      ("namespace", some (.string r.ns)),
      ("port", some r.port.encode),
      ("filterByEndpoints", some (.bool r.filterByEndpoints)),
      ("weight", r.weight.map fun w => .int w.toInt),
      ("backendSetName", r.backendSetName.map .string)]

def key (r : ServiceReference) : String := r.ns ++ "/" ++ r.name

def targets (r : ServiceReference) (ns name : String) : Bool := r.ns == ns && r.name == name

end ServiceReference

structure SecretKeyRef where
  name : String
  key : String
deriving DecidableEq, Repr

/-- The secret that holds a private key; an empty namespace stands for the default one. -/
structure PrivateKeyRef where
  ns : String
  secretKeyRef : SecretKeyRef
deriving DecidableEq, Repr

structure ApiKeySpec where
  user : String
  fingerprint : String
  tenancy : String
  region : String
  privateKey : PrivateKeyRef
deriving DecidableEq, Repr

namespace SecretKeyRef

def record : Record SecretKeyRef :=
  Record.start SecretKeyRef.mk
    |>.take (.required "name" .string)
    |>.take (.required "key" .string)

def encode (r : SecretKeyRef) : Json :=
  .ofMembers [("name", some (.string r.name)), ("key", some (.string r.key))]

end SecretKeyRef

namespace PrivateKeyRef

def record : Record PrivateKeyRef :=
  Record.start PrivateKeyRef.mk
    |>.take (.withDefault "namespace" .string "")
    |>.take (.required "secretKeyRef" SecretKeyRef.record.decode)

def encode (r : PrivateKeyRef) : Json :=
  .ofMembers
    [("namespace", if r.ns = "" then none else some (.string r.ns)),
      ("secretKeyRef", some r.secretKeyRef.encode)]

end PrivateKeyRef

namespace ApiKeySpec

def record : Record ApiKeySpec :=
  Record.start ApiKeySpec.mk
    |>.take (.required "user" .string)
    |>.take (.required "fingerprint" .string)
    |>.take (.required "tenancy" .string)
    |>.take (.required "region" .string)
    |>.take (.required "privateKey" PrivateKeyRef.record.decode)

def encode (k : ApiKeySpec) : Json :=
  .ofMembers
    [("user", some (.string k.user)),
      ("fingerprint", some (.string k.fingerprint)),
      ("tenancy", some (.string k.tenancy)),
      ("region", some (.string k.region)),
      ("privateKey", some k.privateKey.encode)]

def keyId (k : ApiKeySpec) : String := k.tenancy ++ "/" ++ k.user ++ "/" ++ k.fingerprint

end ApiKeySpec

structure Spec where
  loadBalancerId : String
  nodePort : Int32
  port : Int32
  service : Option ServiceReference
  services : List ServiceReference
  weight : Int32
  backendSetName : String
  apiKey : ApiKeySpec
deriving DecidableEq, Repr

namespace Spec

def record : Record Spec :=
  Record.start Spec.mk
    |>.take (.required "loadBalancerId" .string)
    |>.take (.withDefault "nodePort" .int32 0)
    |>.take (.withDefault "port" .int32 0)
    |>.take (.optional "service" ServiceReference.decode)
    |>.take (.withDefault "services" (.list ServiceReference.decode) [])
    |>.take (.withDefault "weight" .int32 1)
    |>.take (.required "backendSetName" .string)
    |>.take (.required "apiKey" ApiKeySpec.record.decode)

def decode : Decoder Spec := record.decode

def encode (s : Spec) : Json :=
  .ofMembers
    [("loadBalancerId", some (.string s.loadBalancerId)),
      ("nodePort", some (.int s.nodePort.toInt)),
      ("port", some (.int s.port.toInt)),
      ("service", s.service.map ServiceReference.encode),
      ("services",
        if s.services.isEmpty then none else some (.array (s.services.map ServiceReference.encode))),
      ("weight", some (.int s.weight.toInt)),
      ("backendSetName", some (.string s.backendSetName)),
      ("apiKey", some s.apiKey.encode)]

def usesServiceList (s : Spec) : Bool := !s.services.isEmpty

/-- All services referred to, the single one first. -/
def references (s : Spec) : List ServiceReference := s.service.toList ++ s.services

def filtersOnEndpointsOf (s : Spec) (ns name : String) : Bool :=
  s.references.any fun r => r.filterByEndpoints && r.targets ns name

end Spec

end BackendRegistrar
