import BackendRegistrar.Cluster.Read
import BackendRegistrar.Text.Utf8

/-! Reading a value out of a secret. -/

namespace BackendRegistrar

inductive SecretError
  | cluster (failure : Cluster.Failure)
  | notFound (ns name : String)
  | missingKey (ns name key : String)
  | notUtf8 (ns name key : String)
deriving DecidableEq, Repr

namespace SecretError

def message : SecretError → String
  | cluster failure => "Kubernetes API error: " ++ failure.text
  | notFound ns name => "secret " ++ ns ++ "/" ++ name ++ " not found"
  | missingKey ns name key => "key " ++ key ++ " not found in secret " ++ ns ++ "/" ++ name
  | notUtf8 ns name key =>
    "key " ++ key ++ " in secret " ++ ns ++ "/" ++ name ++ " is not valid UTF-8"

end SecretError

namespace Cluster.Secret

/-- The text under a key. The names only serve the messages. -/
def value (s : Secret) (ns name key : String) : Except SecretError String :=
  match s.data.find? fun m => m.1 = key with
  | none => .error (.missingKey ns name key)
  | some (_, octets) => match Text.ofOctets? octets with
    | some text => .ok text
    | none => .error (.notUtf8 ns name key)

def read (ns name key : String) : ExceptT SecretError (Program reading) String := do
  match ← ExceptT.adapt SecretError.cluster (readOrNone (.secret ns name)) with
  | none => throw (.notFound ns name)
  | some (secret : Secret) => ExceptT.mk (pure (secret.value ns name key))

end Cluster.Secret

end BackendRegistrar
