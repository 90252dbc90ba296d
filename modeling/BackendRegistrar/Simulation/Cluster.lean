import BackendRegistrar.Cluster.Decode
import BackendRegistrar.Cluster.Request

/-! A cluster given by a document: a list of objects for each resource, and failures that every
request for a resource meets. -/

namespace BackendRegistrar.Simulation

def failureOf? (cluster : Json) (resource : String) : Option Cluster.Failure := do
  let errors ← cluster.get? "api_errors"
  let e ← errors.get? resource
  let text (name : String) : String :=
    match e.get? name with
    | some (.string s) => s
    | _ => ""
  match e.get? "code" with
  | some (.number (.integer code)) => some (.refused code.toNat (text "reason") (text "message"))
  | _ => none

def objectsOf (cluster : Json) (resource : String) : List Json :=
  match cluster.get? resource with
  | some (.array objects) => objects
  | _ => []

def hasMetadata (name value : String) (object : Json) : Bool :=
  match (object.get? "metadata").bind (·.get? name) with
  | some (.string s) => s == value
  | _ => false

def notFound (resource name : String) : Cluster.Failure :=
  .refused 404 "NotFound" (resource ++ " \"" ++ name ++ "\" not found")

def decoded (decode : Decoder α) (j : Json) : Except Cluster.Failure α :=
  match decode j with
  | .ok value => .ok value
  | .error _ => .error (.unreadable "invalid type")

/-- Answers a read of one object: the first of that namespace and name. -/
def readOne (cluster : Json) (resource : String) (decode : Decoder α) (ns name : String) :
    Except Cluster.Failure α :=
  match failureOf? cluster resource with
  | some f => .error f
  | none =>
    match (objectsOf cluster resource).find?
        (fun j => hasMetadata "namespace" ns j && hasMetadata "name" name j) with
    | some object => decoded decode object
    | none => .error (notFound resource name)

def readList (cluster : Json) (resource : String) (decode : Decoder α) (included : Json → Bool) :
    Except Cluster.Failure (List α) :=
  match failureOf? cluster resource with
  | some f => .error f
  | none => decoded (Decoder.list decode) (.array ((objectsOf cluster resource).filter included))

open Cluster in
def answerRead (cluster : Json) : (r : Read) → Except Failure r.Value
  | .nodes => readList cluster "nodes" Node.decode fun _ => true
  | .pods ns => readList cluster "pods" Pod.decode (hasMetadata "namespace" ns)
  | .service ns name => readOne cluster "services" Service.decode ns (seenName name)
  | .endpoints ns name => readOne cluster "endpoints" Endpoints.decode ns (seenName name)
  | .secret ns name => readOne cluster "secrets" Secret.decode ns (seenName name)

end BackendRegistrar.Simulation
