import BackendRegistrar.Phase
import BackendRegistrar.Spec

/-! A registrar as it is stored: metadata, specification and status. -/

namespace BackendRegistrar

structure Status where
  phase : Phase
  observedGeneration : Option Int64
deriving DecidableEq, Repr

namespace Status

def record : Record Status :=
  Record.start Status.mk
    |>.take (.withDefault "phase" Phase.decode .new)
    |>.take (.optional "observedGeneration" .int64)

def decode : Decoder Status := record.decode

def encode (s : Status) : Json :=
  .ofMembers
    [("phase", some s.phase.encode),
      ("observedGeneration", s.observedGeneration.map fun n => .int n.toInt)]

end Status

structure Registrar where
  metadata : Cluster.Metadata
  spec : Spec
  status : Option Status
deriving DecidableEq, Repr

namespace Registrar

def apiVersion : String := "nodes.peppy-ratio.dev/v1alpha1"

def kind : String := "LBRegistrar"

def record : Record Registrar :=
  Record.start Registrar.mk
    |>.take (.required "metadata" Cluster.Metadata.decode)
    |>.take (.required "spec" Spec.decode)
    |>.take (.optionalMember "status" Status.decode)

def decode : Decoder Registrar := record.decode

def encode (r : Registrar) : Json :=
  .ofMembers
    [("apiVersion", some (.string apiVersion)),
      ("kind", some (.string kind)),
      ("metadata", some r.metadata.encode),
      ("spec", some r.spec.encode),
      ("status", r.status.map Status.encode)]

def name (r : Registrar) : String := r.metadata.nameAny

/-- The name that was given to the registrar, under which it is stored and events refer to it. -/
def ownName (r : Registrar) : String := r.metadata.name.getD ""

/-- A registrar without status is new. -/
def phase (r : Registrar) : Phase := (r.status.map Status.phase).getD .new

def observedGeneration (r : Registrar) : Option Int64 := r.status.bind Status.observedGeneration

/-- Whether the specification is of another generation than the one registered. -/
def specChanged (r : Registrar) : Bool :=
  match r.observedGeneration, r.metadata.generation with
  | some observed, some current => observed ≠ current
  | _, _ => false

end Registrar

end BackendRegistrar
