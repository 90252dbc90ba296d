import BackendRegistrar.Config
import BackendRegistrar.Environment
import BackendRegistrar.Registration

/-! Reaching the load balancer service of a registrar: the key to sign with is read from the
secret that the specification names, and a client of the network is built for it. -/

namespace BackendRegistrar

abbrev Attempt (α : Type) := ExceptT Error (Program environment) α

def Registrar.secretNamespace (r : Registrar) (standard : String) : String :=
  if r.spec.apiKey.privateKey.ns = "" then standard else r.spec.apiKey.privateKey.ns

/-- Reads the key and answers how to reach the service. -/
def connect (config : Config) (r : Registrar) : Attempt Connection := do
  let apiKey := r.spec.apiKey
  let source := apiKey.privateKey.secretKeyRef
  let pem ← ExceptT.mk <|
    (Operation.reading
      (Cluster.Secret.read (r.secretNamespace config.ns) source.name source.key).run).bind
      fun answer => .done (answer.mapError Error.secret)
  let signer ← ExceptT.mk (pure ((Cloud.Signer.ofPem apiKey.keyId pem).mapError Error.credentials))
  ExceptT.mk <| (Program.perform (I := environment) .buildClient).bind fun built =>
    .done (built.mapError fun detail => Error.credentials (.request ("failed to build HTTP client: " ++ detail)))
  return ⟨Cloud.Kind.detect r.spec.loadBalancerId, apiKey.region, signer⟩

def probe (r : Registrar) (connection : Connection) : Operation (Except CloudError (List Target)) :=
  Operation.asking connection (Cloud.currentBackends r.spec.loadBalancerId r.spec.backendSetName).run

/-- What registration asks, asked of the surroundings: a push is a synchronization of the set
with the service. -/
def Registration.inEnvironment (config : Config) (loadBalancerId : String) (connection : Connection) :
    (op : Registration.Op) → Operation op.Answer
  | .read r => .perform (I := environment) (.read r)
  | .push backendSet targets =>
    Operation.asking connection
      (Cloud.syncBackends connection.kind config.tracker loadBalancerId backendSet targets).run

def registerAt (config : Config) (r : Registrar) (connection : Connection) :
    Attempt (List Registration.Report) :=
  ExceptT.mk <|
    (Registration.register r.spec connection.kind).run.translate (J := environment)
      (Registration.inEnvironment config r.spec.loadBalancerId connection)

end BackendRegistrar
