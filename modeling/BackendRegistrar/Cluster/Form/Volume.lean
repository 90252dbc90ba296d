import BackendRegistrar.Cluster.Form.Container
import BackendRegistrar.Cluster.Form.Selector

/-! The forms of volumes, one for each place that they may come from. -/

namespace BackendRegistrar.Cluster.Form

def readable (names : List String) : List (String × Form) := ("readOnly", flag) :: each text names

def guarded (names : List String) : List (String × Form) :=
  ("secretRef", localReference) :: readable names

def keysToPaths : Form := list (("mode", int32) :: each text ["key", "path"])

def projectedReference : List (String × Form) :=
  [("items", keysToPaths), ("name", text), ("optional", flag)]

def podFiles : Form :=
  list
    [("fieldRef", fieldReference), ("mode", int32), ("path", text),
      ("resourceFieldRef", resourceReference)]

def projection : Form :=
  object
    [("clusterTrustBundle",
        object <|
          [("labelSelector", labelSelector), ("optional", flag)] ++
          each text ["name", "path", "signerName"]),
      ("configMap", object projectedReference), ("downwardAPI", object [("items", podFiles)]),
      ("secret", object projectedReference),
      ("serviceAccountToken",
        object (("expirationSeconds", int64) :: each text ["audience", "path"]))]

def claimSpec : Form :=
  object <|
    [("accessModes", texts), ("dataSource", record ["apiGroup", "kind", "name"]),
      ("dataSourceRef", record ["apiGroup", "kind", "name", "namespace"]),
      ("resources", object amounts), ("selector", labelSelector)] ++
    each text ["storageClassName", "volumeAttributesClassName", "volumeMode", "volumeName"]

def claimTemplate : Form :=
  object [("metadata", Decoder.check Metadata.decode), ("spec", claimSpec)]

def clusterVolumes : List (String × Form) :=
  [("configMap", object (("defaultMode", int32) :: projectedReference)),
    ("downwardAPI", object [("defaultMode", int32), ("items", podFiles)]),
    ("emptyDir", record ["medium", "sizeLimit"]),
    ("ephemeral", object [("volumeClaimTemplate", claimTemplate)]),
    ("gitRepo", record ["directory", "repository", "revision"]),
    ("hostPath", record ["path", "type"]), ("image", record ["pullPolicy", "reference"]),
    ("persistentVolumeClaim", object (readable ["claimName"])),
    ("projected", object [("defaultMode", int32), ("sources", listOf projection)]),
    ("secret",
      object
        [("defaultMode", int32), ("items", keysToPaths), ("optional", flag), ("secretName", text)])]

def storedVolumes : List (String × Form) :=
  [("awsElasticBlockStore", object (("partition", int32) :: readable ["fsType", "volumeID"])),
    ("azureDisk", object (readable ["cachingMode", "diskName", "diskURI", "fsType", "kind"])),
    ("azureFile", object (readable ["secretName", "shareName"])),
    ("cephfs", object (("monitors", texts) :: guarded ["path", "secretFile", "user"])),
    ("cinder", object (guarded ["fsType", "volumeID"])),
    ("csi",
      object <|
        [("nodePublishSecretRef", localReference), ("volumeAttributes", table)] ++
        readable ["driver", "fsType"]),
    ("fc",
      object ([("lun", int32), ("targetWWNs", texts), ("wwids", texts)] ++ readable ["fsType"])),
    ("flexVolume", object (("options", table) :: guarded ["driver", "fsType"])),
    ("flocker", record ["datasetName", "datasetUUID"]),
    ("gcePersistentDisk", object (("partition", int32) :: readable ["fsType", "pdName"])),
    ("glusterfs", object (readable ["endpoints", "path"])),
    ("iscsi",
      object <|
        [("lun", int32), ("portals", texts)] ++
        each flag ["chapAuthDiscovery", "chapAuthSession"] ++
        guarded ["fsType", "initiatorName", "iqn", "iscsiInterface", "targetPortal"]),
    ("nfs", object (readable ["path", "server"])),
    ("photonPersistentDisk", record ["fsType", "pdID"]),
    ("portworxVolume", object (readable ["fsType", "volumeID"])),
    ("quobyte", object (readable ["group", "registry", "tenant", "user", "volume"])),
    ("rbd", object (("monitors", texts) :: guarded ["fsType", "image", "keyring", "pool", "user"])),
    ("scaleIO",
      object (("sslEnabled", flag) ::
        guarded ["fsType", "gateway", "protectionDomain", "storageMode", "storagePool", "system",
          "volumeName"])),
    ("storageos", object (guarded ["fsType", "volumeName", "volumeNamespace"])),
    ("vsphereVolume", record ["fsType", "storagePolicyID", "storagePolicyName", "volumePath"])]

def volume : Form := object (("name", text) :: clusterVolumes ++ storedVolumes)

end BackendRegistrar.Cluster.Form
