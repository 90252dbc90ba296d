import BackendRegistrar.Registrar

/-! The definition under which a cluster stores registrars: their names, the columns in which
they are listed, and the form of their specification and status. -/

namespace BackendRegistrar.Definition

abbrev Schema := Json.Members

namespace Schema

def text : Schema := [("type", .string "string")]

def flag : Schema := [("type", .string "boolean")]

def integer (format : String) : Schema :=
  [("type", .string "integer"), ("format", .string format)]

def numberOrText : Schema := [("x-kubernetes-int-or-string", .bool true)]

def described (description : String) (s : Schema) : Schema :=
  ("description", .string description) :: s

def nullable (s : Schema) : Schema := ("nullable", .bool true) :: s

def withDefault (value : Json) (s : Schema) : Schema := ("default", value) :: s

def list (items : Schema) : Schema := [("type", .string "array"), ("items", .object items)]

def object (properties : List (String × Schema)) (required : List String) : Schema :=
  [("type", .string "object"),
    ("properties", .object (properties.map fun p => (p.1, .object p.2)))] ++
    (if required.isEmpty then [] else [("required", .array (required.map .string))])

end Schema

open Schema

def secretKeyRef : Schema :=
  described "Key within a Secret." (object [("key", text), ("name", text)] ["key", "name"])

def privateKey : Schema :=
  described "Location of the PEM-encoded private key." <|
    object
      [("namespace", described "Secret namespace. Defaults to the operator namespace." text),
        ("secretKeyRef", secretKeyRef)]
      ["secretKeyRef"]

def apiKey : Schema :=
  described "OCI API signing key reference." <|
    object
      [("fingerprint", text), ("privateKey", privateKey), ("region", text), ("tenancy", text),
        ("user", text)]
      ["fingerprint", "privateKey", "region", "tenancy", "user"]

def serviceReference : Schema :=
  object
    [("backendSetName", described "Overrides the declaration backend set." (nullable text)),
      ("filterByEndpoints",
        described "Register only the nodes hosting ready endpoints of this service."
          (withDefault (.bool false) flag)),
      ("name", text),
      ("namespace", text),
      ("port", described "Service port, by number or by name." numberOrText),
      ("weight", described "Overrides the declaration weight." (nullable (integer "int32")))]
    ["name", "namespace", "port"]

def specDescription : String :=
  "LBRegistrar registers cluster nodes as backends of a load balancer.\n\nExample: ```yaml apiVersion: nodes.peppy-ratio.dev/v1alpha1 kind: LBRegistrar metadata: name: ingress-http spec: loadBalancerId: ocid1.loadbalancer.oc1.ap-tokyo-1.xxxx backendSetName: http weight: 1 services: - name: ingress-nginx namespace: ingress port: http filterByEndpoints: true apiKey: user: ocid1.user.oc1..xxxx fingerprint: \"12:34:...\" tenancy: ocid1.tenancy.oc1..xxxx region: ap-tokyo-1 privateKey: namespace: oci-lb secretKeyRef: name: oci-api-key key: private-key ```"

def spec : Schema :=
  described specDescription <|
    object
      [("apiKey", apiKey),
        ("backendSetName", described "Default backend set name." text),
        ("loadBalancerId", described "OCID of the classic or network load balancer." text),
        ("nodePort",
          described "Explicit node port used when no service is referenced."
            (withDefault (.int 0) (integer "int32"))),
        ("port",
          described
            "Deprecated explicit port. Takes precedence over `nodePort` and the port resolved from the legacy `service`."
            (withDefault (.int 0) (integer "int32"))),
        ("service",
          described "Legacy single service whose node port is registered."
            (nullable serviceReference)),
        ("services",
          described "Services registered independently of each other."
            (list (described "Reference to a NodePort service." serviceReference))),
        ("weight",
          described "Default backend weight (default 1)." (withDefault (.int 1) (integer "int32")))]
      ["apiKey", "backendSetName", "loadBalancerId"]

def status : Schema :=
  described "Observed state of an LBRegistrar." <|
    nullable <|
      object
        [("observedGeneration",
            described "Generation the phase was last derived from." (nullable (integer "int64"))),
          ("phase",
            withDefault Phase.new.encode <|
              ("enum",
                .array ([.new, .pending, .registering, .ready].map Phase.encode)) :: text)]
        []

def registrar : Schema :=
  described "Auto-generated derived type for LBRegistrarSpec via `CustomResource`" <|
    ("title", .string Registrar.kind) :: object [("spec", spec), ("status", status)] ["spec"]

def column (name type path : String) : Json :=
  .object [("name", .string name), ("type", .string type), ("jsonPath", .string path)]

def group : String := "nodes.peppy-ratio.dev"

def version : Json :=
  .object
    [("name", .string "v1alpha1"),
      ("served", .bool true),
      ("storage", .bool true),
      ("subresources", .object [("status", .object [])]),
      ("additionalPrinterColumns",
        .array
          [column "Phase" "string" ".status.phase",
            column "Backend Set" "string" ".spec.backendSetName",
            column "Age" "date" ".metadata.creationTimestamp"]),
      ("schema", .object [("openAPIV3Schema", .object registrar)])]

def document : Json :=
  .object
    [("apiVersion", .string "apiextensions.k8s.io/v1"),
      ("kind", .string "CustomResourceDefinition"),
      ("metadata", .object [("name", .string ("lbregistrars." ++ group))]),
      ("spec",
        .object
          [("group", .string group),
            ("scope", .string "Cluster"),
            ("names",
              .object
                [("kind", .string Registrar.kind),
                  ("plural", .string "lbregistrars"),
                  ("singular", .string "lbregistrar"),
                  ("shortNames", .array [.string "lbr"]),
                  ("categories", .array [])]),
            ("versions", .array [version])])]

end BackendRegistrar.Definition
