import BackendRegistrar.Cluster.Object

/-! What values in objects of the cluster have to look like. An object is refused when any value
in it that the cluster knows has another form, also where registration does not look at it. -/

namespace BackendRegistrar.Cluster

abbrev Form := Decoder Unit

namespace Form

def text : Form := Decoder.check .string

def flag : Form := Decoder.check .bool

def int32 : Form := Decoder.check .int32

def int64 : Form := Decoder.check .int64

def time : Form := Decoder.check Calendar.Timestamp.decode

def port : Form := Decoder.check PortRef.decode

def listOf (item : Form) : Form := Decoder.check (.list item)

def texts : Form := listOf text

/-- An object with any members, all values of one form. -/
def tableOf (value : Form) : Form := Decoder.check (.table value)

/-- Texts under names: labels, settings, or amounts of resources. -/
def table : Form := tableOf text

/-- An object with members of these forms; each may be absent or null. -/
def object (members : List (String × Form)) : Form := (Record.start () |>.know members).decodeObject

def list (members : List (String × Form)) : Form := listOf (object members)

def each (form : Form) (names : List String) : List (String × Form) := names.map fun n => (n, form)

def record (names : List String) : Form := object (each text names)

def reference : Form :=
  record ["apiVersion", "fieldPath", "kind", "name", "namespace", "resourceVersion", "uid"]

def localReference : Form := record ["name"]

def amounts : List (String × Form) := each table ["limits", "requests"]

def condition : Form :=
  Record.decodeObject <|
    Record.start (fun _ => ())
      |>.take (.required "lastTransitionTime" Calendar.Timestamp.decode)
      |>.know (("observedGeneration", int64) :: each text ["message", "reason", "status", "type"])

end Form

end BackendRegistrar.Cluster
