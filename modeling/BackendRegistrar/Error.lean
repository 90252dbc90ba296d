import BackendRegistrar.Cloud.Error
import BackendRegistrar.Inventory
import BackendRegistrar.SecretStore

/-! Why a pass over a registrar failed. -/

namespace BackendRegistrar

inductive Error
  | cluster (failure : Cluster.Failure)
  | conflict (name : String)
  | validation (detail : String)
  | secret (error : SecretError)
  | credentials (error : CloudError)
  | inventory (error : InventoryError)
  | cloud (error : CloudError)
  | serialization (detail : String)
deriving DecidableEq, Repr

/-- Whether the configuration of a registrar is at fault, or its registration. -/
inductive ErrorClass
  | configuration
  | registration
deriving DecidableEq, Repr

namespace Error

def message : Error → String
  | cluster failure => "Kubernetes API error: " ++ failure.text
  | conflict name => "Conflicting update of " ++ name
  | validation detail => "Validation error: " ++ detail
  | secret error => "Failed to read API key: " ++ error.message
  | credentials error => "Failed to create provider: " ++ error.message
  | inventory error => error.message
  | cloud error => "Load balancer error: " ++ error.message
  | serialization detail => "Serialization error: " ++ detail

def isNotFound : Error → Bool
  | cluster failure => failure.code? == some 404
  | _ => false

def isConflict : Error → Bool
  | conflict _ => true
  | cluster failure => failure.code? == some 409
  | _ => false

def errorClass : Error → ErrorClass
  | validation _ | secret _ | credentials _ => .configuration
  | cluster _ | conflict _ | inventory _ | cloud _ | serialization _ => .registration

/-- Whether someone has to change a service or the specification first. -/
def needsIntervention : Error → Bool
  | validation _ => true
  | inventory (.notNodePort _) => true
  | inventory (.nodePortUnallocated _ _) => true
  | inventory (.noMatchingPort _ _) => true
  | _ => false

end Error

namespace ErrorClass

def label : ErrorClass → String
  | configuration => "Configuration"
  | registration => "Registration"

end ErrorClass

end BackendRegistrar
