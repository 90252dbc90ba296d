import BackendRegistrar.Cluster.Form

/-! The forms of containers: what they run, what they see, and how they fare. -/

namespace BackendRegistrar.Cluster.Form

def optionalKey : Form := object (("optional", flag) :: each text ["key", "name"])

def optionalReference : Form := object [("name", text), ("optional", flag)]

def fieldReference : Form := record ["apiVersion", "fieldPath"]

def resourceReference : Form := record ["containerName", "divisor", "resource"]

def environmentVariable : Form :=
  object
    [("name", text), ("value", text),
      ("valueFrom",
        object
          [("configMapKeyRef", optionalKey), ("fieldRef", fieldReference),
            ("resourceFieldRef", resourceReference), ("secretKeyRef", optionalKey)])]

def environmentSource : Form :=
  object
    [("configMapRef", optionalReference), ("prefix", text), ("secretRef", optionalReference)]

def command : Form := object [("command", texts)]

def httpGet : Form :=
  object <|
    [("httpHeaders", listOf (record ["name", "value"])), ("port", port)] ++
    each text ["host", "path", "scheme"]

def tcpSocket : Form := object [("host", text), ("port", port)]

def lifecycleHandler : Form :=
  object
    [("exec", command), ("httpGet", httpGet), ("sleep", object [("seconds", int64)]),
      ("tcpSocket", tcpSocket)]

def lifecycle : Form := object (each lifecycleHandler ["postStart", "preStop"])

def containerProbe : Form :=
  object <|
    [("exec", command), ("grpc", object [("port", int32), ("service", text)]),
      ("httpGet", httpGet), ("tcpSocket", tcpSocket), ("terminationGracePeriodSeconds", int64)] ++
    each int32
      ["failureThreshold", "initialDelaySeconds", "periodSeconds", "successThreshold",
        "timeoutSeconds"]

def resources : Form := object (("claims", listOf (record ["name", "request"])) :: amounts)

def profile : Form := record ["localhostProfile", "type"]

def windowsOptions : Form :=
  object (("hostProcess", flag) ::
    each text ["gmsaCredentialSpec", "gmsaCredentialSpecName", "runAsUserName"])

def identity : List (String × Form) :=
  [("appArmorProfile", profile), ("runAsNonRoot", flag), ("seccompProfile", profile),
    ("seLinuxOptions", record ["level", "role", "type", "user"]),
    ("windowsOptions", windowsOptions)] ++
  each int64 ["runAsGroup", "runAsUser"]

def containerSecurity : Form :=
  object <|
    identity ++ [("capabilities", object (each texts ["add", "drop"])), ("procMount", text)] ++
    each flag ["allowPrivilegeEscalation", "privileged", "readOnlyRootFilesystem"]

def containerPort : Form :=
  object (each int32 ["containerPort", "hostPort"] ++ each text ["hostIP", "name", "protocol"])

def volumeMount : Form :=
  object (("readOnly", flag) ::
    each text ["mountPath", "mountPropagation", "name", "recursiveReadOnly", "subPath", "subPathExpr"])

def containerMembers : List (String × Form) :=
  each text
    ["image", "imagePullPolicy", "name", "restartPolicy", "terminationMessagePath",
      "terminationMessagePolicy", "workingDir"] ++
  each texts ["args", "command"] ++
  each flag ["stdin", "stdinOnce", "tty"] ++
  each containerProbe ["livenessProbe", "readinessProbe", "startupProbe"] ++
  [("env", listOf environmentVariable), ("envFrom", listOf environmentSource),
    ("lifecycle", lifecycle), ("ports", listOf containerPort),
    ("resizePolicy", listOf (record ["resourceName", "restartPolicy"])), ("resources", resources),
    ("securityContext", containerSecurity),
    ("volumeDevices", listOf (record ["devicePath", "name"])),
    ("volumeMounts", listOf volumeMount)]

def container : Form := object containerMembers

def ephemeralContainer : Form := object (("targetContainerName", text) :: containerMembers)

def containerState : Form :=
  object
    [("running", object [("startedAt", time)]),
      ("terminated",
        object <|
          each int32 ["exitCode", "signal"] ++ each time ["finishedAt", "startedAt"] ++
          each text ["containerID", "message", "reason"]),
      ("waiting", record ["message", "reason"])]

def containerUser : Form :=
  object [("linux", object (("supplementalGroups", listOf int64) :: each int64 ["gid", "uid"]))]

def resourceStatus : Form :=
  object [("name", text), ("resources", listOf (record ["health", "resourceID"]))]

def containerStatus : Form :=
  object <|
    each text ["containerID", "image", "imageID", "name"] ++ each flag ["ready", "started"] ++
    each containerState ["lastState", "state"] ++
    [("allocatedResources", table), ("allocatedResourcesStatus", listOf resourceStatus),
      ("resources", resources), ("restartCount", int32), ("user", containerUser),
      ("volumeMounts",
        list (("readOnly", flag) :: each text ["mountPath", "name", "recursiveReadOnly"]))]

end BackendRegistrar.Cluster.Form
