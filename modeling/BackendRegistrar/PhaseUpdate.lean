import BackendRegistrar.Registrar

/-! Changes of a registrar's stored phase: as documents that are merged into what is stored,
and as changes of a status. -/

namespace BackendRegistrar

/-- A phase to store. The generation is kept if none is given; a version that is given must be
the stored one. -/
structure PhaseUpdate where
  phase : Phase
  observedGeneration : Option Int64
  resourceVersion : Option String
deriving DecidableEq, Repr

namespace PhaseUpdate

/-- Stores a phase for the same generation as before. -/
def reset (phase : Phase) (r : Registrar) : PhaseUpdate := ⟨phase, none, r.metadata.resourceVersion⟩

/-- Stores a phase for the generation of the registrar. -/
def observed (phase : Phase) (r : Registrar) : PhaseUpdate :=
  ⟨phase, r.metadata.generation, r.metadata.resourceVersion⟩

def statusPatch (u : PhaseUpdate) : Json :=
  .ofMembers
    [("phase", some u.phase.encode),
      ("observedGeneration", u.observedGeneration.map fun n => .int n.toInt)]

def toPatch (u : PhaseUpdate) : Json :=
  .ofMembers
    [("metadata", u.resourceVersion.map fun v => .object [("resourceVersion", .string v)]),
      ("status", some u.statusPatch)]

def apply (u : PhaseUpdate) (current : Option Status) : Status :=
  ⟨u.phase, u.observedGeneration.or (current.bind Status.observedGeneration)⟩

end PhaseUpdate

end BackendRegistrar
