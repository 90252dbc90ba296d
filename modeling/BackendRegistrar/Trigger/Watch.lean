import BackendRegistrar.Cluster.Object
import BackendRegistrar.Trigger.Reset

/-! Watching the cluster: objects are listed first, then each change is told. After a break they
are listed again. What changed is told apart from what was only seen again; at a change the registrars
are reset as they were last seen. -/

namespace BackendRegistrar.Trigger

inductive Notice (α : Type)
  | listing
  | listed (object : α)
  | listingDone
  | applied (object : α)
  | deleted (object : α)
deriving DecidableEq, Repr

inductive NodeChange
  | created (name : String)
  | deleted (name : String)
  | resynced
deriving DecidableEq, Repr

/-- The names of nodes: those known, and those of a listing that is not complete. Both are in
order, each name once. -/
structure NodeTracker where
  known : List String
  relisting : List String
  seeded : Bool
deriving DecidableEq, Repr

namespace NodeTracker

def start : NodeTracker := ⟨[], [], false⟩

def insertName (name : String) : List String → List String
  | [] => [name]
  | n :: rest =>
    if name = n then n :: rest
    else if name < n then name :: n :: rest
    else n :: insertName name rest

/-- Takes a notice in, and answers the change it makes to the nodes. The first listing makes
none. -/
def observe (t : NodeTracker) : Notice Cluster.Node → NodeTracker × Option NodeChange
  | .listing => ({ t with relisting := [] }, none)
  | .listed node => ({ t with relisting := insertName node.metadata.nameAny t.relisting }, none)
  | .listingDone =>
    (⟨t.relisting, [], true⟩,
      if t.seeded ∧ t.relisting ≠ t.known then some .resynced else none)
  | .applied node =>
    let name := node.metadata.nameAny
    ({ t with known := insertName name t.known },
      if name ∈ t.known then none else some (.created name))
  | .deleted node =>
    let name := node.metadata.nameAny
    ({ t with known := t.known.filter (· ≠ name) }, some (.deleted name))

end NodeTracker

def endpointsChange : Notice Cluster.Endpoints → Option (String × String)
  | .applied e | .deleted e => some (e.metadata.ns.getD "", e.metadata.nameAny)
  | .listing | .listed _ | .listingDone => none

def onNodeNotice (seen : List Registrar) (t : NodeTracker) (notice : Notice Cluster.Node) :
    Operation NodeTracker :=
  let (after, change) := t.observe notice
  match change with
  | some _ => (refreshToPending seen).bind fun _ => .done after
  | none => .done after

def onEndpointsNotice (seen : List Registrar) (notice : Notice Cluster.Endpoints) :
    Operation Unit :=
  match endpointsChange notice with
  | some (ns, name) => (refreshForEndpoints seen ns name).bind fun _ => .done ()
  | none => .done ()

end BackendRegistrar.Trigger
