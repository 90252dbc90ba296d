import BackendRegistrar.Cluster.Form.Node
import BackendRegistrar.Cluster.Form.Pod
import BackendRegistrar.Cluster.Form.Service
import BackendRegistrar.Text.Base64

/-! Reading the objects of the cluster. -/

namespace BackendRegistrar.Cluster

def onlyText (text : String) : Decoder Unit := fun j => do
  let s ← Decoder.string j
  if s = text then return () else .error .mismatch

/-- A member that must hold a given text if it is there. -/
def fixed (name text : String) : Field Unit := .withDefault name (onlyText text) ()

def objectOf (kind : String) (make : Metadata → α) : Record α :=
  Record.start (fun _ _ metadata => make metadata)
    |>.take (fixed "apiVersion" "v1")
    |>.take (fixed "kind" kind)
    |>.take (.lenient "metadata" Metadata.decode .empty)

def part (name : String) (record : Record α) (absent : α) : Field α :=
  .lenient name record.decodeObject absent

def texts (name : String) (record : Record α) : Field (List α) :=
  .lenient name (.list record.decodeObject) []

def text (name : String) : Field String := .lenient name .string ""

def NodeAddress.record : Record NodeAddress :=
  Record.start NodeAddress.mk |>.take (text "type") |>.take (text "address")

def Node.decode : Decoder Node :=
  Record.decodeObject <|
    objectOf "Node" Node.mk
      |>.take (part "status"
        (Record.start id
          |>.take (texts "addresses" NodeAddress.record)
          |>.know Form.nodeStatus) [])
      |>.know [("spec", Form.nodeSpec)]

def address : Record String := Record.start id |>.take (text "ip")

def Pod.decode : Decoder Pod :=
  Record.decodeObject <|
    objectOf "Pod" (fun metadata nodeName status => (⟨metadata, nodeName, status.1, status.2⟩ : Pod))
      |>.take (part "spec"
        (Record.start id |>.take (.optional "nodeName" .string) |>.know Form.podSpec) none)
      |>.take (part "status"
        (Record.start Prod.mk
          |>.take (.optional "podIP" .string)
          |>.take (texts "podIPs" address)
          |>.know Form.podStatus) (none, []))

def ServicePort.record : Record ServicePort :=
  Record.start ServicePort.mk
    |>.take (.optional "name" .string)
    |>.take (.lenient "port" .int32 0)
    |>.take (.optional "nodePort" .int32)
    |>.know Form.servicePort

def Service.decode : Decoder Service :=
  Record.decodeObject <|
    objectOf "Service" (fun metadata spec => (⟨metadata, spec.1, spec.2⟩ : Service))
      |>.take (part "spec"
        (Record.start Prod.mk
          |>.take (.optional "type" .string)
          |>.take (texts "ports" ServicePort.record)
          |>.know Form.serviceSpec) (none, []))
      |>.know [("status", Form.serviceStatus)]

def endpointAddress : Record String := address.know Form.endpointAddress

def EndpointSubset.record : Record EndpointSubset :=
  Record.start EndpointSubset.mk
    |>.take (texts "addresses" endpointAddress)
    |>.take (texts "notReadyAddresses" endpointAddress)
    |>.know [("ports", Form.listOf Form.endpointPort)]

def Endpoints.decode : Decoder Endpoints :=
  Record.decodeObject <|
    objectOf "Endpoints" Endpoints.mk |>.take (texts "subsets" EndpointSubset.record)

/-- Octets in base64; null stands for none. -/
def secretValue : Decoder (List UInt8)
  | .null => .ok []
  | .string s => match Text.Base64.decode? s with
    | some bs => .ok bs
    | none => .error .mismatch
  | _ => .error .mismatch

def Secret.decode : Decoder Secret :=
  Record.decodeObject <|
    objectOf "Secret" Secret.mk
      |>.take (.lenient "data" (.table secretValue) [])
      |>.know [("immutable", Form.flag), ("stringData", Form.table), ("type", Form.text)]

end BackendRegistrar.Cluster
