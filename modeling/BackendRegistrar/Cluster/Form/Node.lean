import BackendRegistrar.Cluster.Form

/-! The forms of what nodes hold beside their addresses. -/

namespace BackendRegistrar.Cluster.Form

def nodeConfigSource : Form :=
  object [("configMap", record ["kubeletConfigKey", "name", "namespace", "resourceVersion", "uid"])]

def taint : Form := object (("timeAdded", time) :: each text ["effect", "key", "value"])

def nodeSpec : Form :=
  object <|
    [("configSource", nodeConfigSource), ("podCIDRs", texts), ("taints", listOf taint),
      ("unschedulable", flag)] ++
    each text ["externalID", "podCIDR", "providerID"]

def nodeCondition : Form :=
  object <|
    each time ["lastHeartbeatTime", "lastTransitionTime"] ++
    each text ["message", "reason", "status", "type"]

def nodeConfigStatus : Form :=
  object (("error", text) :: each nodeConfigSource ["active", "assigned", "lastKnownGood"])

def nodeInfo : Form :=
  record ["architecture", "bootID", "containerRuntimeVersion", "kernelVersion", "kubeProxyVersion",
    "kubeletVersion", "machineID", "operatingSystem", "osImage", "systemUUID"]

def runtimeHandler : Form :=
  object
    [("features", object (each flag ["recursiveReadOnlyMounts", "userNamespaces"])), ("name", text)]

/-- The members of the status of a node, but for its addresses. -/
def nodeStatus : List (String × Form) :=
  [("allocatable", table), ("capacity", table), ("conditions", listOf nodeCondition),
    ("config", nodeConfigStatus),
    ("daemonEndpoints", object [("kubeletEndpoint", object [("Port", int32)])]),
    ("features", object [("supplementalGroupsPolicy", flag)]),
    ("images", list [("names", texts), ("sizeBytes", int64)]), ("nodeInfo", nodeInfo),
    ("phase", text), ("runtimeHandlers", listOf runtimeHandler),
    ("volumesAttached", listOf (record ["devicePath", "name"])), ("volumesInUse", texts)]

end BackendRegistrar.Cluster.Form
