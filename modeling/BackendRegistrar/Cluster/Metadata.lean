import BackendRegistrar.Calendar.Timestamp
import BackendRegistrar.Json.Decode
import BackendRegistrar.Json.Equality

/-! What every object of the cluster says about itself. -/

namespace BackendRegistrar

def Calendar.Timestamp.decode : Decoder Calendar.Timestamp
  | .string s => match Calendar.Timestamp.parse? s with
    | some t => .ok t
    | none => .error .mismatch
  | _ => .error .mismatch

namespace Cluster

structure OwnerReference where
  apiVersion : String
  kind : String
  name : String
  uid : String
  controller : Option Bool
  blockOwnerDeletion : Option Bool
deriving DecidableEq, Repr

namespace OwnerReference

def record : Record OwnerReference :=
  Record.start OwnerReference.mk
    |>.take (.lenient "apiVersion" .string "")
    |>.take (.lenient "kind" .string "")
    |>.take (.lenient "name" .string "")
    |>.take (.lenient "uid" .string "")
    |>.take (.optional "controller" .bool)
    |>.take (.optional "blockOwnerDeletion" .bool)

def encode (r : OwnerReference) : Json :=
  .ofMembers
    [("apiVersion", some (.string r.apiVersion)),
      ("blockOwnerDeletion", r.blockOwnerDeletion.map .bool),
      ("controller", r.controller.map .bool),
      ("kind", some (.string r.kind)),
      ("name", some (.string r.name)),
      ("uid", some (.string r.uid))]

end OwnerReference

structure ManagedFields where
  apiVersion : Option String
  fieldsType : Option String
  fields : Option Json
  manager : Option String
  operation : Option String
  subresource : Option String
  time : Option Calendar.Timestamp
deriving DecidableEq, Repr

namespace ManagedFields

def record : Record ManagedFields :=
  Record.start ManagedFields.mk
    |>.take (.optional "apiVersion" .string)
    |>.take (.optional "fieldsType" .string)
    |>.take (.optional "fieldsV1" .ok)
    |>.take (.optional "manager" .string)
    |>.take (.optional "operation" .string)
    |>.take (.optional "subresource" .string)
    |>.take (.optional "time" Calendar.Timestamp.decode)

def encode (m : ManagedFields) : Json :=
  .ofMembers
    [("apiVersion", m.apiVersion.map .string),
      ("fieldsType", m.fieldsType.map .string),
      ("fieldsV1", m.fields),
      ("manager", m.manager.map .string),
      ("operation", m.operation.map .string),
      ("subresource", m.subresource.map .string),
      ("time", m.time.map fun t => .string t.text)]

end ManagedFields

/-- Metadata of an object; whatever is absent or null is `none`. -/
structure Metadata where
  name : Option String
  generateName : Option String
  ns : Option String
  resourceVersion : Option String
  generation : Option Int64
  uid : Option String
  selfLink : Option String
  creationTimestamp : Option Calendar.Timestamp
  deletionTimestamp : Option Calendar.Timestamp
  deletionGracePeriodSeconds : Option Int64
  labels : Option (List (String × String))
  annotations : Option (List (String × String))
  finalizers : Option (List String)
  ownerReferences : Option (List OwnerReference)
  managedFields : Option (List ManagedFields)
deriving DecidableEq, Repr

namespace Metadata

def empty : Metadata :=
  ⟨none, none, none, none, none, none, none, none, none, none, none, none, none, none, none⟩

instance : Inhabited Metadata := ⟨empty⟩

/-- The name of an object, or else what its name was to begin with. -/
def nameAny (m : Metadata) : String := (m.name.or m.generateName).getD ""

def record : Record Metadata :=
  Record.start Metadata.mk
    |>.take (.optional "name" .string)
    |>.take (.optional "generateName" .string)
    |>.take (.optional "namespace" .string)
    |>.take (.optional "resourceVersion" .string)
    |>.take (.optional "generation" .int64)
    |>.take (.optional "uid" .string)
    |>.take (.optional "selfLink" .string)
    |>.take (.optional "creationTimestamp" Calendar.Timestamp.decode)
    |>.take (.optional "deletionTimestamp" Calendar.Timestamp.decode)
    |>.take (.optional "deletionGracePeriodSeconds" .int64)
    |>.take (.optional "labels" (.table .string))
    |>.take (.optional "annotations" (.table .string))
    |>.take (.optional "finalizers" (.list .string))
    |>.take (.optional "ownerReferences" (.list OwnerReference.record.decodeObject))
    |>.take (.optional "managedFields" (.list ManagedFields.record.decodeObject))

def decode : Decoder Metadata := record.decodeObject

def encodeTexts (table : List (String × String)) : Json :=
  .object (table.map fun m => (m.1, .string m.2))

def encode (m : Metadata) : Json :=
  .ofMembers
    [("annotations", m.annotations.map encodeTexts),
      ("creationTimestamp", m.creationTimestamp.map fun t => .string t.text),
      ("deletionGracePeriodSeconds", m.deletionGracePeriodSeconds.map fun n => .int n.toInt),
      ("deletionTimestamp", m.deletionTimestamp.map fun t => .string t.text),
      ("finalizers", m.finalizers.map fun fs => .array (fs.map .string)),
      ("generateName", m.generateName.map .string),
      ("generation", m.generation.map fun n => .int n.toInt),
      ("labels", m.labels.map encodeTexts),
      ("managedFields", m.managedFields.map fun ms => .array (ms.map ManagedFields.encode)),
      ("name", m.name.map .string),
      ("namespace", m.ns.map .string),
      ("ownerReferences", m.ownerReferences.map fun rs => .array (rs.map OwnerReference.encode)),
      ("resourceVersion", m.resourceVersion.map .string),
      ("selfLink", m.selfLink.map .string),
      ("uid", m.uid.map .string)]

end Metadata

end Cluster

end BackendRegistrar
