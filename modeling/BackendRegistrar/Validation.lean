import BackendRegistrar.Spec
import BackendRegistrar.Text.Characters

/-! What a specification must say before anything is registered. The first fault counts. -/

namespace BackendRegistrar

inductive SpecFault
  | blank (field : String)
  | negativePort
  | noPortSource
deriving DecidableEq, Repr

namespace SpecFault

def message : SpecFault → String
  | blank field => field ++ " must not be empty"
  | negativePort => "nodePort and port must not be negative"
  | noPortSource => "one of nodePort, port, service or services must be set"

end SpecFault

namespace Spec

def requiredTexts (s : Spec) : List (String × String) :=
  [("loadBalancerId", s.loadBalancerId),
    ("backendSetName", s.backendSetName),
    ("apiKey.user", s.apiKey.user),
    ("apiKey.fingerprint", s.apiKey.fingerprint),
    ("apiKey.tenancy", s.apiKey.tenancy),
    ("apiKey.region", s.apiKey.region),
    ("apiKey.privateKey.secretKeyRef.name", s.apiKey.privateKey.secretKeyRef.name),
    ("apiKey.privateKey.secretKeyRef.key", s.apiKey.privateKey.secretKeyRef.key)]

def referenceTexts (field : String) (r : ServiceReference) : List (String × String) :=
  [(field ++ ".name", r.name), (field ++ ".namespace", r.ns)]

def referencesTexts (s : Spec) : List (String × String) :=
  (s.services.zipIdx.flatMap fun (r, i) => referenceTexts ("services[" ++ toString i ++ "]") r) ++
    s.service.toList.flatMap (referenceTexts "service")

def blank? (texts : List (String × String)) : Option SpecFault :=
  (texts.find? fun t => Text.allBlank t.2).map fun t => .blank t.1

/-- Ports are not negative, and some port is given, be it by a service. -/
def portFault? (s : Spec) : Option SpecFault :=
  if s.nodePort < 0 ∨ s.port < 0 then some .negativePort
  else if s.nodePort = 0 ∧ s.port = 0 ∧ s.service = none ∧ s.services = [] then some .noPortSource
  else none

def fault? (s : Spec) : Option SpecFault :=
  ((blank? s.requiredTexts).or s.portFault?).or (blank? s.referencesTexts)

end Spec

end BackendRegistrar
