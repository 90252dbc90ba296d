import BackendRegistrar.Cluster.Read
import BackendRegistrar.Http.Target
import BackendRegistrar.Registrar

/-! How requests to the cluster name objects: names stand in the path as they are, so there are
names for which no request can be made, and names of which the cluster sees only a part. -/

namespace BackendRegistrar.Cluster

/-- Why no request can be made for a path. -/
def pathFault? (path : String) : Option Failure :=
  match Http.Target.parse path with
  | .ok _ => none
  | .error e => some (.unsendable ("failed to build request: " ++ e.message))

def nameFault? (path name : String) : Option Failure :=
  if name = "" then
    some (.unsendable "failed to validate request: A non-empty name is required")
  else pathFault? (path ++ "/" ++ name)

/-- The part of a name that the cluster sees. -/
def seenName (name : String) : String :=
  String.ofList (name.toList.takeWhile fun c => !(['/', '?', '#'].contains c))

namespace Read

def pathIn (ns resource : String) : String := "/api/v1/namespaces/" ++ ns ++ "/" ++ resource

def fault? : Read → Option Failure
  | nodes => none
  | pods ns => pathFault? (pathIn ns "pods")
  | service ns name => nameFault? (pathIn ns "services") name
  | endpoints ns name => nameFault? (pathIn ns "endpoints") name
  | secret ns name => nameFault? (pathIn ns "secrets") name

def seen : Read → Read
  | nodes => nodes
  | pods ns => pods ns
  | service ns name => service ns (seenName name)
  | endpoints ns name => endpoints ns (seenName name)
  | secret ns name => secret ns (seenName name)

end Read

def registrarsPath : String := "/apis/" ++ Registrar.apiVersion ++ "/lbregistrars"

def statusFault? (name : String) : Option Failure := nameFault? registrarsPath name

end BackendRegistrar.Cluster
