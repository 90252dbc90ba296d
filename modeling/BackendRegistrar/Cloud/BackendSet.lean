import BackendRegistrar.Json.Setting
import BackendRegistrar.Target
import BackendRegistrar.Text.Pieces

/-! The two kinds of load balancer, with the service that each is reached at, and backend sets: what the
service of either kind answers for one, and the update that puts other backends into it and leaves
everything else as it was. -/

namespace BackendRegistrar.Cloud

inductive Kind
  | classic
  | network
deriving DecidableEq, Repr

namespace Kind

def networkMarker : String := ".networkloadbalancer."

def detect (id : String) : Kind :=
  if Text.containsText networkMarker id then network else classic

def label : Kind → String
  | classic => "classic"
  | network => "network"

def endpoint (kind : Kind) (region : String) : String :=
  match kind with
  | classic => "https://iaas." ++ region ++ ".oraclecloud.com/20170115"
  | network =>
    "https://network-load-balancer-api." ++ region ++ ".oci.oraclecloud.com/20200501"

def collection : Kind → String
  | classic => "loadBalancers"
  | network => "networkLoadBalancers"

end Kind

structure HealthChecker where
  protocol : String
  settings : Settings

structure Backend where
  name : String
  ipAddress : String
  port : Int32
  weight : Int32
deriving DecidableEq, Repr

structure BackendSet where
  name : String
  policy : String
  backends : List Backend
  healthChecker : HealthChecker
  options : Settings

structure BackendSetUpdate where
  policy : String
  backends : List Target
  healthChecker : HealthChecker
  options : Settings

namespace Kind

def healthFields : Kind → List SettingField
  | classic => common ++ [⟨"isForcePlainText", .flag⟩]
  | network => common ++ [⟨"requestData", .text⟩, ⟨"responseData", .text⟩]
where
  common : List SettingField :=
    [⟨"port", .number⟩, ⟨"urlPath", .text⟩, ⟨"returnCode", .number⟩, ⟨"retries", .number⟩,
      ⟨"timeoutInMillis", .number⟩, ⟨"intervalInMillis", .number⟩,
      ⟨"responseBodyRegex", .text⟩]

def optionFields : Kind → List SettingField
  | classic =>
    [⟨"sslConfiguration", .document⟩, ⟨"sessionPersistenceConfiguration", .document⟩,
      ⟨"lbCookieSessionPersistenceConfiguration", .document⟩,
      ⟨"backendMaxConnections", .number⟩]
  | network =>
    [⟨"isPreserveSource", .flag⟩, ⟨"isFailOpen", .flag⟩, ⟨"isInstantFailoverEnabled", .flag⟩,
      ⟨"isInstantFailoverTcpResetEnabled", .flag⟩,
      ⟨"areOperationallyActiveBackendsPreferred", .flag⟩, ⟨"ipVersion", .text⟩]

/-- A backend of a network load balancer may be without address. -/
def addressField : Kind → Field String
  | classic => .required "ipAddress" .string
  | network => .withDefault "ipAddress" .string ""

end Kind

namespace HealthChecker

def record (kind : Kind) : Record HealthChecker :=
  (Record.start HealthChecker.mk |>.take (.required "protocol" .string)).withSettings
    kind.healthFields

def encode (h : HealthChecker) : Json :=
  .object (("protocol", .string h.protocol) :: h.settings)

end HealthChecker

namespace Backend

def record (kind : Kind) : Record Backend :=
  Record.start Backend.mk
    |>.take (.withDefault "name" .string "")
    |>.take kind.addressField
    |>.take (.required "port" .int32)
    |>.take (.withDefault "weight" .int32 0)

def encode (b : Backend) : Json :=
  .ofMembers
    [("name", some (.string b.name)),
      ("ipAddress", some (.string b.ipAddress)),
      ("port", some (.int b.port.toInt)),
      ("weight", some (.int b.weight.toInt))]

def target (b : Backend) : Target := ⟨b.ipAddress, b.port, b.weight⟩

end Backend

namespace BackendSet

def record (kind : Kind) : Record (Settings → BackendSet) :=
  Record.start BackendSet.mk
    |>.take (.withDefault "name" .string "")
    |>.take (.required "policy" .string)
    |>.take (.withDefault "backends" (.list (Backend.record kind).decode) [])
    |>.take (.required "healthChecker" (HealthChecker.record kind).decode)

/-- The options, which stand among the members of the set itself. -/
def optionRecord (kind : Kind) : Record Settings :=
  (Record.start id).withSettings kind.optionFields

/-- Reads a backend set from an object: its own members first, then its options. -/
def decode (kind : Kind) : Decoder BackendSet
  | .object ms => do
    let make ← (record kind).ofMembers ms
    let options ← (optionRecord kind).ofMembers ms
    return make options
  | _ => .error .mismatch

def targets (s : BackendSet) : List Target := s.backends.map Backend.target

def replacing (current : BackendSet) (targets : List Target) : BackendSetUpdate :=
  ⟨current.policy, targets, current.healthChecker, current.options⟩

end BackendSet

namespace BackendSetUpdate

def encodeBackend (t : Target) : Json :=
  .ofMembers
    [("ipAddress", some (.string t.address)),
      ("port", some (.int t.port.toInt)),
      ("weight", some (.int t.weight.toInt))]

def encodeBackends (u : BackendSetUpdate) : Json := .array (u.backends.map encodeBackend)

def encode (u : BackendSetUpdate) : Json :=
  .object
    ([("policy", .string u.policy), ("backends", u.encodeBackends),
      ("healthChecker", u.healthChecker.encode)] ++ u.options)

end BackendSetUpdate

end BackendRegistrar.Cloud
