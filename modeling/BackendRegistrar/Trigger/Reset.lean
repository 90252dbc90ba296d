import BackendRegistrar.Environment
import BackendRegistrar.Lifecycle

/-! Changes of the cluster send registrars back to the pending phase. Each registrar is reset as
it was last seen; one that has changed since is left alone. -/

namespace BackendRegistrar.Trigger

/-- Resets one registrar as it was seen, and answers whether it was reset. -/
def resetOne (r : Registrar) (o : Occurrence) : Operation Bool :=
  if r.phase.needsReset then
    (Program.perform (I := environment)
      (.writeStatus r.name (.reset (Lifecycle.next r.phase o) r))).bind
      fun (answer : Except Cluster.Failure Unit) => .done answer.isOk
  else .done false

/-- Resets registrars in turn, with an event for each that was reset; answers how many were. -/
def resetAll (o : Occurrence) (event : Event) : List Registrar → Operation Nat
  | [] => .done 0
  | r :: rest =>
    (resetOne r o).bind fun done =>
      (if done then Operation.publish r.ownName event else .done ()).bind fun _ =>
        (resetAll o event rest).bind fun count => .done (if done then count + 1 else count)

def resetCounted (trigger : String) (o : Occurrence) (event : Event) (rs : List Registrar) :
    Operation Nat :=
  (resetAll o event rs).bind fun count =>
    (Operation.observe (.reset trigger count)).bind fun _ => .done count

def refreshToPending (rs : List Registrar) : Operation Nat :=
  resetCounted "node" .nodeTopologyChanged
    ⟨.normal, "PhaseChange", "Reset", some Phase.pending.wire⟩ rs

def refreshForEndpoints (rs : List Registrar) (ns name : String) : Operation Nat :=
  resetCounted "endpoints" .endpointsChanged
    ⟨.normal, "EndpointsChanged", "Reset",
      some ("Service " ++ ns ++ "/" ++ name ++ " endpoints changed, triggering reconciliation")⟩
    (rs.filter fun r => r.spec.filtersOnEndpointsOf ns name)

end BackendRegistrar.Trigger
