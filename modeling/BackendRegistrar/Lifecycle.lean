import BackendRegistrar.Phase

/-! The moves between phases. -/

namespace BackendRegistrar

inductive Occurrence
  | accepted
  | providerVerified
  | providerFailed
  | backendsSynced
  | syncFailed
  | nodeTopologyChanged
  | endpointsChanged
  | specChanged
deriving DecidableEq, Repr

namespace Occurrence

def label : Occurrence → String
  | accepted => "Accepted"
  | providerVerified => "ProviderVerified"
  | providerFailed => "ProviderFailed"
  | backendsSynced => "BackendsSynced"
  | syncFailed => "SyncFailed"
  | nodeTopologyChanged => "NodeTopologyChanged"
  | endpointsChanged => "EndpointsChanged"
  | specChanged => "SpecChanged"

def all : List Occurrence :=
  [accepted, providerVerified, providerFailed, backendsSynced, syncFailed,
    nodeTopologyChanged, endpointsChanged, specChanged]

def ofLabel? (s : String) : Option Occurrence := all.find? fun o => o.label = s

end Occurrence

namespace Lifecycle

structure Move where
  source : Phase
  target : Phase
  occurrence : Occurrence
  description : String
deriving DecidableEq, Repr

def moves : List Move :=
  [⟨.new, .pending, .accepted, "Registrar accepted"⟩,
    ⟨.pending, .registering, .providerVerified, "Provider verified, registering backends"⟩,
    ⟨.pending, .pending, .providerFailed, "Provider unavailable, will retry"⟩,
    ⟨.registering, .ready, .backendsSynced, "Backends registered"⟩,
    ⟨.registering, .pending, .providerFailed,
      "Provider configuration broke during registration"⟩,
    ⟨.registering, .registering, .syncFailed, "Registration failed, will retry"⟩,
    ⟨.registering, .pending, .nodeTopologyChanged,
      "Node topology changed during registration"⟩,
    ⟨.registering, .pending, .endpointsChanged,
      "Service endpoints changed during registration"⟩,
    ⟨.ready, .pending, .nodeTopologyChanged, "Node topology changed"⟩,
    ⟨.ready, .pending, .endpointsChanged, "Service endpoints changed"⟩,
    ⟨.ready, .pending, .specChanged, "Registrar spec changed"⟩]

def move? (phase : Phase) (occurrence : Occurrence) : Option Move :=
  moves.find? fun m => m.source = phase ∧ m.occurrence = occurrence

def allowed (phase : Phase) (occurrence : Occurrence) : Bool :=
  moves.any fun m => m.source = phase ∧ m.occurrence = occurrence

/-- The phase after an occurrence; one that makes no move is ignored. -/
def next (phase : Phase) (occurrence : Occurrence) : Phase :=
  ((move? phase occurrence).map Move.target).getD phase

theorem move?_mem {phase : Phase} {occurrence : Occurrence} {m : Move}
    (h : move? phase occurrence = some m) :
    m ∈ moves ∧ m.source = phase ∧ m.occurrence = occurrence := by
  refine ⟨List.mem_of_find?_eq_some h, ?_⟩
  simpa using List.find?_some h

theorem allowed_eq_isSome (phase : Phase) (occurrence : Occurrence) :
    allowed phase occurrence = (move? phase occurrence).isSome := by
  cases phase <;> cases occurrence <;> decide

end Lifecycle

end BackendRegistrar
