import BackendRegistrar.Cluster.Form

/-! The forms of what services and endpoints hold beside their ports and addresses. -/

namespace BackendRegistrar.Cluster.Form

/-- The members of a port of a service, but for its name and numbers. -/
def servicePort : List (String × Form) :=
  ("targetPort", port) :: each text ["appProtocol", "protocol"]

/-- The members of the specification of a service, but for its type and ports. -/
def serviceSpec : List (String × Form) :=
  each flag ["allocateLoadBalancerNodePorts", "publishNotReadyAddresses"] ++
  each texts ["clusterIPs", "externalIPs", "ipFamilies", "loadBalancerSourceRanges"] ++
  each text
    ["clusterIP", "externalName", "externalTrafficPolicy", "internalTrafficPolicy",
      "ipFamilyPolicy", "loadBalancerClass", "loadBalancerIP", "sessionAffinity",
      "trafficDistribution"] ++
  [("healthCheckNodePort", int32), ("selector", table),
    ("sessionAffinityConfig", object [("clientIP", object [("timeoutSeconds", int32)])])]

def portStatus : Form := object (("port", int32) :: each text ["error", "protocol"])

def serviceStatus : Form :=
  object
    [("conditions", listOf condition),
      ("loadBalancer",
        object
          [("ingress", list (("ports", listOf portStatus) :: each text ["hostname", "ip", "ipMode"]))])]

/-- The members of an address of endpoints, but for the address itself. -/
def endpointAddress : List (String × Form) :=
  ("targetRef", reference) :: each text ["hostname", "nodeName"]

def endpointPort : Form := object (("port", int32) :: each text ["appProtocol", "name", "protocol"])

end BackendRegistrar.Cluster.Form
