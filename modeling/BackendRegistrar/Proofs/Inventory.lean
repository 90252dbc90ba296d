import BackendRegistrar.Inventory
import BackendRegistrar.Proofs.Trace
import BackendRegistrar.Target

/-! What surveys of the cluster read, and when the nodes found for a service leave nothing to
register: no node that hosts a pod behind a ready address has an address inside the cluster. -/

namespace BackendRegistrar
open Program Cluster

theorem succeeds_adapt {I : Interface} {f : ε → δ} {x : ExceptT ε (Program I) α} {trace : Trace I} {value : α} :
    (ExceptT.adapt f x).run.Completes trace (.ok value) ↔ x.run.Completes trace (.ok value) := by
  change (x.run.bind fun answer => .done (answer.mapError f)).Completes trace (.ok value) ↔ _
  rw [completes_bind]
  constructor
  · rintro ⟨first, second, answer, rfl, completes, later⟩
    obtain ⟨rfl, same⟩ := completes_done.mp later
    cases answer with
    | error e => cases same
    | ok other =>
      cases same
      rw [List.append_nil]
      exact completes
  · exact fun completes => ⟨trace, [], .ok value, by simp, completes, .start _⟩

theorem Program.Times.adapt {I : Interface} {chosen : I.Op → Bool} {f : ε → δ} {x : ExceptT ε (Program I) α}
    (never : x.run.Times chosen 0) : (ExceptT.adapt f x).run.Times chosen 0 :=
  never.bind_never fun _ => .done _

namespace Inventory

variable {trace : Trace reading} {r : ServiceReference}

theorem read_succeeds (asked : Read) {value : asked.Value} :
    (Cluster.read asked).run.Completes trace (.ok value) ↔ trace = [⟨asked, .ok value⟩] :=
  completes_perform (I := reading)

theorem readOrNone_finds {asked : Read} {value : asked.Value} :
    (readOrNone asked).run.Completes trace (.ok (some value)) ↔ trace = [⟨asked, .ok value⟩] := by
  change (ask (I := reading) asked fun answer => .done (orNone answer)).Completes trace _ ↔ _
  rw [completes_ask]
  constructor
  · rintro ⟨answer, later, rfl, completes⟩
    obtain ⟨rfl, found⟩ := completes_done.mp completes
    cases answer with
    | ok other =>
      cases found
      rfl
    | error f =>
      simp only [orNone] at found
      split at found <;> cases found
  · rintro rfl
    exact ⟨.ok value, [], rfl, .start _⟩

theorem allNodes_succeeds {nodes : List Node} :
    allNodes.run.Completes trace (.ok nodes) ↔ trace = [⟨.nodes, .ok nodes⟩] := by
  rw [allNodes, survey, succeeds_adapt]
  exact read_succeeds .nodes

theorem resolveNodePort_succeeds {port : Int32} :
    (resolveNodePort r).run.Completes trace (.ok port) ↔
      ∃ service : Service, trace = [⟨.service r.ns r.name, .ok service⟩] ∧ service.nodePort r.port = .ok port := by
  unfold resolveNodePort
  rw [succeeds_bind]
  constructor
  · rintro ⟨first, second, found, rfl, read, later⟩
    rw [survey, succeeds_adapt] at read
    cases found with
    | none =>
      obtain ⟨_, impossible⟩ := completes_done.mp later
      cases impossible
    | some service =>
      obtain rfl := readOrNone_finds.mp read
      obtain ⟨rfl, same⟩ := completes_done.mp later
      exact ⟨service, rfl, same.symm⟩
  · rintro ⟨service, rfl, same⟩
    refine ⟨_, [], some service, (List.append_nil _).symm, ?_, completes_done.mpr ⟨rfl, same.symm⟩⟩
    rw [survey, succeeds_adapt]
    exact readOrNone_finds.mpr rfl

/-- Pods and nodes are only read when there is an address to look for. -/
theorem nodesForService_succeeds {nodes : List Node} :
    (nodesForService r).run.Completes trace (.ok nodes) ↔
      ∃ endpoints : Endpoints,
        endpoints.readyIPs = [] ∧ nodes = [] ∧ trace = [⟨.endpoints r.ns r.name, .ok endpoints⟩] ∨
        endpoints.readyIPs ≠ [] ∧ ∃ (pods : List Pod) (all : List Node),
          nodes = nodesServing endpoints.readyIPs pods all ∧
            trace = [⟨.endpoints r.ns r.name, .ok endpoints⟩, ⟨.pods r.ns, .ok pods⟩, ⟨.nodes, .ok all⟩] := by
  unfold nodesForService
  rw [succeeds_bind]
  constructor
  · rintro ⟨first, second, found, rfl, read, later⟩
    rw [survey, succeeds_adapt] at read
    cases found with
    | none =>
      obtain ⟨_, impossible⟩ := completes_done.mp later
      cases impossible
    | some endpoints =>
      obtain rfl := readOrNone_finds.mp read
      refine ⟨endpoints, ?_⟩
      by_cases empty : endpoints.readyIPs = []
      · simp only [empty, List.isEmpty_nil, ite_true] at later
        obtain ⟨rfl, same⟩ := completes_done.mp later
        cases same
        exact .inl ⟨empty, rfl, rfl⟩
      · simp only [List.isEmpty_iff, empty, ite_false] at later
        obtain ⟨reading, rest, pods, rfl, podsRead, later⟩ := succeeds_bind.mp later
        obtain ⟨listing, last, all, rfl, nodesRead, later⟩ := succeeds_bind.mp later
        obtain ⟨rfl, same⟩ := completes_done.mp later
        cases same
        rw [survey, succeeds_adapt] at podsRead
        obtain rfl := (read_succeeds _).mp podsRead
        obtain rfl := allNodes_succeeds.mp nodesRead
        exact .inr ⟨empty, pods, all, rfl, rfl⟩
  · rintro ⟨endpoints, ⟨empty, rfl, rfl⟩ | ⟨ready, pods, all, rfl, rfl⟩⟩
    · refine ⟨_, [], some endpoints, (List.append_nil _).symm, ?_, ?_⟩
      · rw [survey, succeeds_adapt]
        exact readOrNone_finds.mpr rfl
      · simp only [empty, List.isEmpty_nil, ite_true]
        exact .start _
    · refine ⟨[⟨.endpoints r.ns r.name, .ok endpoints⟩], _, some endpoints, rfl, ?_, ?_⟩
      · rw [survey, succeeds_adapt]
        exact readOrNone_finds.mpr rfl
      · simp only [List.isEmpty_iff, ready, ite_false]
        refine succeeds_bind.mpr ⟨[⟨.pods r.ns, .ok pods⟩], [⟨.nodes, .ok all⟩], pods, rfl, ?_, ?_⟩
        · rw [survey, succeeds_adapt]
          exact (read_succeeds _).mpr rfl
        · exact succeeds_bind.mpr ⟨_, [], all, rfl, allNodes_succeeds.mpr rfl, .start _⟩

section Readings

variable {chosen : Read → Bool}

theorem read_times {asked : Read} (other : chosen asked = false) :
    (survey (Cluster.read asked)).run.Times (I := reading) chosen 0 :=
  Times.adapt (.passed other fun _ => .done _)

theorem readOrNone_times {asked : Read} (other : chosen asked = false) :
    (survey (readOrNone asked)).run.Times (I := reading) chosen 0 :=
  Times.adapt (.passed other fun _ => .done _)

theorem resolveNodePort_times (service : chosen (.service r.ns r.name) = false) :
    (resolveNodePort r).run.Times (I := reading) chosen 0 := by
  apply Times.attempt_never (readOrNone_times service)
  intro found
  cases found <;> exact .done _

theorem allNodes_times (nodes : chosen .nodes = false) : allNodes.run.Times (I := reading) chosen 0 := read_times nodes

theorem nodesForService_times (endpoints : chosen (.endpoints r.ns r.name) = false)
    (pods : chosen (.pods r.ns) = false) (nodes : chosen .nodes = false) :
    (nodesForService r).run.Times (I := reading) chosen 0 := by
  apply Times.attempt_never (readOrNone_times endpoints)
  intro found
  cases found with
  | none => exact .done _
  | some found =>
    dsimp only
    split
    · exact .done _
    · apply Times.attempt_never (read_times pods)
      intro found
      exact (allNodes_times nodes).attempt_never fun _ => .done _

end Readings

end Inventory

namespace Cluster

/-- The node has a name, and a pod of that node has one of the addresses. -/
def Hosts (ips : List String) (pods : List Pod) (node : Node) : Prop :=
  ∃ name, node.metadata.name = some name ∧ ∃ pod ∈ pods, pod.nodeName = some name ∧ ∃ ip ∈ pod.ips, ip ∈ ips

theorem mem_nodesServing {ips : List String} {pods : List Pod} {nodes : List Node} {node : Node} :
    node ∈ nodesServing ips pods nodes ↔ node ∈ nodes ∧ Hosts ips pods node := by
  simp only [nodesServing, servingNodeNames, List.mem_filter, Hosts]
  apply and_congr_right
  intro member
  cases node.metadata.name with
  | none => simp
  | some name =>
    simp only [List.contains_iff_mem, List.mem_filterMap, List.mem_filter, List.any_eq_true,
      Option.some.injEq, exists_eq_left']
    constructor
    · rintro ⟨pod, ⟨member, ip, inside, ready⟩, hosted⟩
      exact ⟨pod, member, hosted, ip, inside, ready⟩
    · rintro ⟨pod, member, hosted, ip, inside, ready⟩
      exact ⟨pod, ⟨member, ip, inside, ready⟩, hosted⟩

theorem Node.mem_targets {nodes : List Node} {port weight : Int32} {t : Target}
    (member : t ∈ Node.targets nodes port weight) : t.port = port ∧ t.weight = weight := by
  obtain ⟨node, _, found⟩ := List.mem_filterMap.mp member
  obtain ⟨address, _, rfl⟩ := Option.map_eq_some_iff.mp found
  exact ⟨rfl, rfl⟩

theorem Node.targets_eq_nil {nodes : List Node} {port weight : Int32} :
    Node.targets nodes port weight = [] ↔ ∀ node ∈ nodes, node.internalIP? = none := by
  simp [Node.targets, List.filterMap_eq_nil_iff]

end Cluster

end BackendRegistrar
