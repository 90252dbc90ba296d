import BackendRegistrar.Proofs.Inventory
import Mathlib.Data.List.Basic

/-! Which nodes serve endpoints: those that have the name of the node of a pod with a ready address. Nothing else of
the endpoints and the pods counts, neither how they are ordered nor what is repeated. -/

namespace BackendRegistrar.Cluster

/-- The address is ready in some subset. -/
def Endpoints.Ready (e : Endpoints) (ip : String) : Prop := ∃ subset ∈ e.subsets, ip ∈ subset.ready

def Pod.Has (pod : Pod) (ip : String) : Prop := pod.podIP = some ip ∨ ip ∈ pod.podIPs

/-- The node has a name, and that is the node name of a pod that has a ready address. -/
def Serves (e : Endpoints) (pods : List Pod) (node : Node) : Prop :=
  ∃ name, node.metadata.name = some name ∧ ∃ ip, e.Ready ip ∧ ∃ pod ∈ pods, pod.Has ip ∧ pod.nodeName = some name

variable {e other : Endpoints} {pods others : List Pod} {node : Node}

theorem Endpoints.mem_readyIPs {ip : String} : ip ∈ e.readyIPs ↔ e.Ready ip := by
  simp [Endpoints.readyIPs, Endpoints.Ready]

theorem Pod.mem_ips {pod : Pod} {ip : String} : ip ∈ pod.ips ↔ pod.Has ip := by
  simp [Pod.ips, Pod.Has]

theorem mem_sortedSet {texts : List String} {text : String} : text ∈ sortedSet texts ↔ text ∈ texts := by
  simp [sortedSet, List.mem_mergeSort]

/-- The addresses may be listed in any way. -/
theorem hosts_iff_serves {ips : List String} (ready : ∀ ip, ip ∈ ips ↔ e.Ready ip) :
    Hosts ips pods node ↔ Serves e pods node := by
  unfold Hosts Serves
  refine exists_congr fun name => and_congr_right fun _ => ?_
  constructor
  · rintro ⟨pod, member, hosted, ip, inside, listed⟩
    exact ⟨ip, (ready ip).mp listed, pod, member, Pod.mem_ips.mp inside, hosted⟩
  · rintro ⟨ip, isReady, pod, member, has, hosted⟩
    exact ⟨pod, member, hosted, ip, Pod.mem_ips.mpr has, (ready ip).mpr isReady⟩

instance (pod : Pod) (ip : String) : Decidable (pod.Has ip) := inferInstanceAs (Decidable (_ ∨ _))

instance (e : Endpoints) (pods : List Pod) (node : Node) : Decidable (Serves e pods node) :=
  decidable_of_iff
    (∃ name ∈ node.metadata.name.toList, ∃ ip ∈ e.readyIPs, ∃ pod ∈ pods, pod.Has ip ∧ pod.nodeName = some name)
    (by simp only [Serves, Option.mem_toList, Endpoints.mem_readyIPs])

theorem nodesServing_eq_filter {ips : List String} (ready : ∀ ip, ip ∈ ips ↔ e.Ready ip) (nodes : List Node) :
    nodesServing ips pods nodes = nodes.filter fun node => decide (Serves e pods node) := by
  apply List.filter_congr
  intro node _
  have alone : node ∈ nodesServing ips pods [node] ↔ Serves e pods node := by
    rw [mem_nodesServing, hosts_iff_serves ready]
    exact and_iff_right (List.mem_singleton.mpr rfl)
  rw [Bool.eq_iff_iff, decide_eq_true_iff, ← alone]
  simp [nodesServing]

theorem Serves.mono (serves : Serves e pods node) (ready : ∀ ip, e.Ready ip → other.Ready ip) (more : pods ⊆ others) :
    Serves other others node := by
  obtain ⟨name, named, ip, isReady, pod, member, has, hosted⟩ := serves
  exact ⟨name, named, ip, ready ip isReady, pod, more member, has, hosted⟩

theorem serves_congr (ready : ∀ ip, other.Ready ip ↔ e.Ready ip) (same : ∀ pod, pod ∈ others ↔ pod ∈ pods) :
    Serves other others node ↔ Serves e pods node :=
  ⟨fun serves => serves.mono (fun ip => (ready ip).mp) fun pod => (same pod).mp,
    fun serves => serves.mono (fun ip => (ready ip).mpr) fun pod => (same pod).mpr⟩

/-- A pod that is on no node makes none serve. -/
theorem serves_scheduled : Serves e (pods.filter fun pod => pod.nodeName.isSome) node ↔ Serves e pods node := by
  constructor
  · exact fun serves => serves.mono (fun _ => id) (List.filter_subset_self _)
  · rintro ⟨name, named, ip, ready, pod, member, has, hosted⟩
    exact ⟨name, named, ip, ready, pod, List.mem_filter.mpr ⟨member, by simp [hosted]⟩, has, hosted⟩

theorem ready_of_notReady (addresses : EndpointSubset → List String) (ip : String) :
    Endpoints.Ready { e with subsets := e.subsets.map fun s => { s with notReady := addresses s } } ip ↔ e.Ready ip := by
  simp [Endpoints.Ready]

/-- The nodes that serve endpoints are found in the order and as often as they are listed. They depend on which
addresses are ready and which pods there are, and on nothing else; with more of these there are more nodes. -/
theorem nodesServing_exact (e : Endpoints) (pods : List Pod) (nodes : List Node) :
    (nodesServing e.readyIPs pods nodes = nodes.filter fun node => decide (Serves e pods node)) ∧
    nodesServing (sortedSet e.readyIPs) pods nodes = nodesServing e.readyIPs pods nodes ∧
    (∀ (other : Endpoints) (others : List Pod), (∀ ip, other.Ready ip ↔ e.Ready ip) → (∀ pod, pod ∈ others ↔ pod ∈ pods) →
      nodesServing other.readyIPs others nodes = nodesServing e.readyIPs pods nodes) ∧
    (∀ addresses : EndpointSubset → List String,
      nodesServing (Endpoints.readyIPs { e with subsets := e.subsets.map fun s => { s with notReady := addresses s } })
        pods nodes = nodesServing e.readyIPs pods nodes) ∧
    nodesServing e.readyIPs (pods.filter fun pod => pod.nodeName.isSome) nodes = nodesServing e.readyIPs pods nodes ∧
    (∀ (other : Endpoints) (others : List Pod), (∀ ip, e.Ready ip → other.Ready ip) → pods ⊆ others →
      (nodesServing e.readyIPs pods nodes).Sublist (nodesServing other.readyIPs others nodes)) ∧
    ((∀ ip, ¬ e.Ready ip) → nodesServing e.readyIPs pods nodes = []) := by
  have selects (e : Endpoints) (pods : List Pod) :
      nodesServing e.readyIPs pods nodes = nodes.filter fun node => decide (Serves e pods node) :=
    nodesServing_eq_filter (fun _ => Endpoints.mem_readyIPs) nodes
  have congr {e other : Endpoints} {pods others : List Pod} (same : ∀ node, Serves other others node ↔ Serves e pods node) :
      nodesServing other.readyIPs others nodes = nodesServing e.readyIPs pods nodes := by
    rw [selects, selects]
    exact List.filter_congr fun node _ => decide_eq_decide.mpr (same node)
  refine ⟨selects e pods, ?_, ?_, ?_, congr fun _ => serves_scheduled, ?_, ?_⟩
  · rw [nodesServing_eq_filter (fun _ => mem_sortedSet.trans Endpoints.mem_readyIPs) nodes, selects]
  · exact fun other others ready same => congr fun _ => serves_congr ready same
  · exact fun addresses => congr fun _ => serves_congr (ready_of_notReady addresses) fun _ => Iff.rfl
  · intro other others ready more
    rw [selects, selects]
    apply List.monotone_filter_right
    intro node serves
    exact decide_eq_true ((of_decide_eq_true serves).mono ready more)
  · intro none
    rw [selects, List.filter_eq_nil_iff]
    rintro node _ serves
    obtain ⟨_, _, ip, ready, _⟩ := of_decide_eq_true serves
    exact none ip ready

section Mixed

/-! A service with a ready address that is listed twice, one of a second family, and one that is not ready; a pod of
its own on no node; a node without a name and one that is listed twice. -/

def mixedEndpoints : Endpoints :=
  ⟨Metadata.empty, [⟨["10.1.0.7", "10.1.0.7"], ["10.1.0.9"]⟩, ⟨[], []⟩, ⟨["fd00::8"], []⟩]⟩

def mixedPods : List Pod :=
  [⟨Metadata.empty, some "node-a", some "10.1.0.7", []⟩,
    ⟨Metadata.empty, some "node-b", some "10.1.0.8", ["10.1.0.8", "fd00::8"]⟩,
    ⟨Metadata.empty, some "node-c", some "10.1.0.9", []⟩,
    ⟨Metadata.empty, none, some "10.1.0.7", []⟩]

def mixedNode (name : Option String) : Node := ⟨{ Metadata.empty with name }, []⟩

def mixedNodes : List Node := ["node-b", "node-c", "node-a", "node-b"].map fun name => mixedNode (some name)

theorem mixed_nodesServing_exact :
    nodesServing mixedEndpoints.readyIPs mixedPods (mixedNode none :: mixedNodes) =
        [mixedNode (some "node-b"), mixedNode (some "node-a"), mixedNode (some "node-b")] ∧
      nodesServing mixedEndpoints.readyIPs mixedPods.reverse mixedNodes =
        nodesServing mixedEndpoints.readyIPs mixedPods mixedNodes ∧
      (nodesServing mixedEndpoints.readyIPs mixedPods.tail mixedNodes).Sublist
        (nodesServing mixedEndpoints.readyIPs mixedPods mixedNodes) := by
  obtain ⟨selects, _⟩ := nodesServing_exact mixedEndpoints mixedPods (mixedNode none :: mixedNodes)
  obtain ⟨_, _, unordered, _⟩ := nodesServing_exact mixedEndpoints mixedPods mixedNodes
  obtain ⟨_, _, _, _, _, grows, _⟩ := nodesServing_exact mixedEndpoints mixedPods.tail mixedNodes
  refine ⟨selects.trans (by decide), ?_, ?_⟩
  · exact unordered _ _ (fun _ => Iff.rfl) fun _ => List.mem_reverse
  · exact grows _ _ (fun _ => id) fun _ => List.mem_of_mem_tail

end Mixed

end BackendRegistrar.Cluster
