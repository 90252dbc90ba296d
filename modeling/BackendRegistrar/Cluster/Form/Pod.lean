import BackendRegistrar.Cluster.Form.Volume

/-! The forms of what pods hold beside their addresses and their node. -/

namespace BackendRegistrar.Cluster.Form

def podSecurity : Form :=
  object <|
    identity ++
    [("fsGroup", int64), ("supplementalGroups", listOf int64),
      ("sysctls", listOf (record ["name", "value"]))] ++
    each text ["fsGroupChangePolicy", "seLinuxChangePolicy", "supplementalGroupsPolicy"]

def dnsConfig : Form :=
  object
    [("nameservers", texts), ("options", listOf (record ["name", "value"])), ("searches", texts)]

/-- The members of the specification of a pod, but for its node. -/
def podSpec : List (String × Form) :=
  each int64 ["activeDeadlineSeconds", "terminationGracePeriodSeconds"] ++
  each flag
    ["automountServiceAccountToken", "enableServiceLinks", "hostIPC", "hostNetwork", "hostPID",
      "hostUsers", "setHostnameAsFQDN", "shareProcessNamespace"] ++
  each text
    ["dnsPolicy", "hostname", "preemptionPolicy", "priorityClassName", "restartPolicy",
      "runtimeClassName", "schedulerName", "serviceAccount", "serviceAccountName", "subdomain"] ++
  each table ["nodeSelector", "overhead"] ++
  each (listOf container) ["containers", "initContainers"] ++
  [("affinity", affinity), ("dnsConfig", dnsConfig),
    ("ephemeralContainers", listOf ephemeralContainer),
    ("hostAliases", list [("hostnames", texts), ("ip", text)]),
    ("imagePullSecrets", listOf localReference), ("os", record ["name"]), ("priority", int32),
    ("readinessGates", listOf (record ["conditionType"])),
    ("resourceClaims",
      listOf (record ["name", "resourceClaimName", "resourceClaimTemplateName"])),
    ("resources", resources), ("schedulingGates", listOf (record ["name"])),
    ("securityContext", podSecurity), ("tolerations", listOf toleration),
    ("topologySpreadConstraints", listOf topologySpreadConstraint), ("volumes", listOf volume)]

def podCondition : Form :=
  object <|
    each time ["lastProbeTime", "lastTransitionTime"] ++
    each text ["message", "reason", "status", "type"]

/-- The members of the status of a pod, but for its addresses. -/
def podStatus : List (String × Form) :=
  each text ["hostIP", "message", "nominatedNodeName", "phase", "qosClass", "reason", "resize"] ++
  each (listOf containerStatus)
    ["containerStatuses", "ephemeralContainerStatuses", "initContainerStatuses"] ++
  [("conditions", listOf podCondition), ("hostIPs", listOf (record ["ip"])),
    ("resourceClaimStatuses", listOf (record ["name", "resourceClaimName"])), ("startTime", time)]

end BackendRegistrar.Cluster.Form
