import BackendRegistrar.Cluster.Read
import BackendRegistrar.Json.Basic
import BackendRegistrar.PhaseUpdate
import BackendRegistrar.Text.Characters

/-! The store of registrars. Every change gives a registrar another version, and a write that
names a version fails unless that is the stored one. -/

namespace BackendRegistrar.Simulation

/-- A registrar with the document of its specification as it was written, and whether its status
was written as a list. -/
structure Stored where
  registrar : Registrar
  spec : Json
  hasListedStatus : Bool
deriving DecidableEq, Repr

namespace Stored

def decode : Decoder Stored := fun j => do
  let r ← Registrar.decode j
  let listed := match j.get? "status" with
    | some (.array _) => true
    | _ => false
  return ⟨r, (j.get? "spec").getD r.spec.encode.canonical, listed⟩

/-- The version after a version: one more than the number it is, or than zero. -/
def nextVersion (version : Option String) : String :=
  toString ((version.bind (Text.natUpTo? (UInt64.size - 1))).getD 0 + 1)

def bump (r : Registrar) : Registrar :=
  { r with
    metadata := { r.metadata with resourceVersion := some (nextVersion r.metadata.resourceVersion) } }

/-- The status that a change of the status starts from; there is nothing to keep of a list. -/
def status (s : Stored) : Option Status := if s.hasListedStatus then none else s.registrar.status

def write (s : Stored) (update : PhaseUpdate) : Stored :=
  { s with
    registrar := bump { s.registrar with status := some (update.apply s.status) }
    hasListedStatus := false }

/-- Merges a document into the specification. The generation goes up with it. -/
def edit (s : Stored) (patch : Json) : Except DecodeError Stored := do
  let document := s.spec.mergePatch patch
  let spec ← Spec.decode document
  let r := s.registrar
  let generation := r.metadata.generation.map (· + 1)
  return { s with
    registrar := bump { r with spec := spec, metadata := { r.metadata with generation := generation } }
    spec := document }

end Stored

abbrev Store := List (String × Stored)

namespace Store

def find? (store : Store) (name : String) : Option Stored :=
  (List.find? (fun m => m.1 = name) store).map Prod.snd

def get? (store : Store) (name : String) : Option Registrar :=
  (store.find? name).map Stored.registrar

def registrars (store : Store) : List Registrar := store.map fun m => m.2.registrar

def put (name : String) (s : Stored) : Store → Store
  | [] => [(name, s)]
  | m :: rest =>
    if m.1 = name then (name, s) :: rest
    else if name < m.1 then (name, s) :: m :: rest
    else m :: put name s rest

def add (store : Store) (s : Stored) : Store := store.put s.registrar.ownName s

def remove (store : Store) (name : String) : Store := store.filter fun m => m.1 ≠ name

def write (store : Store) (name : String) (update : PhaseUpdate) :
    Except Cluster.Failure Unit × Store :=
  match store.find? name with
  | none => (.error (.refused 404 "NotFound" ("lbregistrars \"" ++ name ++ "\" not found")), store)
  | some s =>
    if update.resourceVersion.isSome ∧
        update.resourceVersion ≠ s.registrar.metadata.resourceVersion then
      (.error (.refused 409 "Conflict" "the object has been modified"), store)
    else (.ok (), store.put name (s.write update))

end Store

end BackendRegistrar.Simulation
