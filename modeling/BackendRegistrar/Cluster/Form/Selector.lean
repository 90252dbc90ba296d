import BackendRegistrar.Cluster.Form

/-! The forms of selectors, and of where pods are to be placed. -/

namespace BackendRegistrar.Cluster.Form

def requirement : Form := object (("values", texts) :: each text ["key", "operator"])

def labelSelector : Form :=
  object [("matchExpressions", listOf requirement), ("matchLabels", table)]

def nodeSelectorTerm : Form := object (each (listOf requirement) ["matchExpressions", "matchFields"])

def nodeSelector : Form := object [("nodeSelectorTerms", listOf nodeSelectorTerm)]

def placement (preferred required : Form) : Form :=
  object
    [("preferredDuringSchedulingIgnoredDuringExecution", preferred),
      ("requiredDuringSchedulingIgnoredDuringExecution", required)]

def podTerm : Form :=
  object <|
    each labelSelector ["labelSelector", "namespaceSelector"] ++
    each texts ["matchLabelKeys", "mismatchLabelKeys", "namespaces"] ++ [("topologyKey", text)]

def podPlacement : Form :=
  placement (list [("podAffinityTerm", podTerm), ("weight", int32)]) (listOf podTerm)

def affinity : Form :=
  object
    [("nodeAffinity",
        placement (list [("preference", nodeSelectorTerm), ("weight", int32)]) nodeSelector),
      ("podAffinity", podPlacement), ("podAntiAffinity", podPlacement)]

def toleration : Form :=
  object (("tolerationSeconds", int64) :: each text ["effect", "key", "operator", "value"])

def topologySpreadConstraint : Form :=
  object <|
    [("labelSelector", labelSelector), ("matchLabelKeys", texts)] ++
    each int32 ["maxSkew", "minDomains"] ++
    each text ["nodeAffinityPolicy", "nodeTaintsPolicy", "topologyKey", "whenUnsatisfiable"]

end BackendRegistrar.Cluster.Form
