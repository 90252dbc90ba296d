import BackendRegistrar.Json.Decode

/-! The phases of a registrar, and how they are stored. -/

namespace BackendRegistrar

inductive Phase
  | new
  | pending
  | registering
  | ready
deriving DecidableEq, Repr, Inhabited

namespace Phase

/-- The stored text; a new registrar has the empty one. -/
def wire : Phase → String
  | new => ""
  | pending => "PENDING"
  | registering => "REGISTERING"
  | ready => "READY"

/-- Any text that is not stored for another phase stands for a new registrar. -/
def ofWire (s : String) : Phase :=
  if s = "PENDING" then pending
  else if s = "REGISTERING" then registering
  else if s = "READY" then ready
  else new

def label : Phase → String
  | new => "New"
  | pending => "Pending"
  | registering => "Registering"
  | ready => "Ready"

/-- Null stands for a new registrar. -/
def decode : Decoder Phase :=
  Decoder.nullAs new fun j => (Decoder.string j).map ofWire

def encode (phase : Phase) : Json := .string phase.wire

@[simp] theorem ofWire_wire (phase : Phase) : ofWire phase.wire = phase := by
  cases phase <;> simp [wire, ofWire]

@[simp] theorem decode_encode (phase : Phase) : decode phase.encode = .ok phase := by
  simp [decode, encode, Decoder.nullAs, Decoder.string, Except.map]

/-- A change of the cluster concerns only phases that have registered or are registering. -/
def needsReset : Phase → Bool
  | registering | ready => true
  | new | pending => false

end Phase

end BackendRegistrar
