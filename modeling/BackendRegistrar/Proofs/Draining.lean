import BackendRegistrar.Proofs.Registration

/-! When registration empties a backend set. Only a reference of the list that follows its
endpoints is pushed without targets; it is when no address is ready, and also when every node
behind a ready address is missing or has no address inside the cluster. -/

namespace BackendRegistrar.Registration
open Program Cluster

/-- What the cluster answers to every reading. -/
abbrev Content := (r : Read) → Except Failure r.Value

/-- All that was read is the content of one cluster. -/
def Reflects (content : Content) (trace : Trace interface) : Prop :=
  ∀ x ∈ trace, ∀ r answer, x = ⟨.read r, answer⟩ → answer = content r

/-- No subset of the service's endpoints has a ready address. -/
def Idle (content : Content) (r : ServiceReference) : Prop :=
  ∃ endpoints, content (.endpoints r.ns r.name) = .ok endpoints ∧ ∀ subset ∈ endpoints.subsets, subset.ready = []

/-- The service has ready addresses, but no node with an address inside the cluster hosts a pod
behind one of them. -/
def Stranded (content : Content) (r : ServiceReference) : Prop :=
  ∃ endpoints pods nodes, content (.endpoints r.ns r.name) = .ok endpoints ∧ content (.pods r.ns) = .ok pods ∧
    content .nodes = .ok nodes ∧ (∃ subset ∈ endpoints.subsets, subset.ready ≠ []) ∧
    ∀ node ∈ nodes, Hosts endpoints.readyIPs pods node → node.internalIP? = none

variable {content : Content} {s : Spec} {kind : Cloud.Kind} {r : ServiceReference} {trace : Trace interface}

theorem readyIPs_eq_nil {endpoints : Endpoints} :
    endpoints.readyIPs = [] ↔ ∀ subset ∈ endpoints.subsets, subset.ready = [] := by
  simp [Endpoints.readyIPs]

theorem Reflects.append {first second : Trace interface} (reflects : Reflects content (first ++ second)) :
    Reflects content first ∧ Reflects content second :=
  ⟨fun x member => reflects x (List.mem_append_left _ member),
    fun x member => reflects x (List.mem_append_right _ member)⟩

private theorem Reflects.read (reflects : Reflects content trace) (asked : Read) (answer : Except Failure asked.Value)
    (member : (⟨.read asked, answer⟩ : Exchange interface) ∈ trace) :
    content asked = answer :=
  (reflects _ member _ _ rfl).symm

theorem followed_nodes {nodes : List Node} (reflects : Reflects content trace)
    (completes : (nodesFor r).run.Completes trace (.ok nodes)) (follows : r.filterByEndpoints = true) :
    (∀ node ∈ nodes, node.internalIP? = none) ↔ Idle content r ∨ Stranded content r := by
  obtain ⟨short, rfl, ⟨_, inside⟩ | ⟨impossible, _⟩⟩ := nodesFor_succeeds.mp completes
  · obtain ⟨endpoints, ⟨empty, rfl, rfl⟩ | ⟨ready, pods, all, rfl, rfl⟩⟩ :=
      Inventory.nodesForService_succeeds.mp inside
    · have found := reflects.read (.endpoints r.ns r.name) (.ok endpoints) (by simp [ofReading])
      refine iff_of_true (by simp) (.inl ⟨endpoints, found, readyIPs_eq_nil.mp empty⟩)
    · have found := reflects.read (.endpoints r.ns r.name) (.ok endpoints) (by simp [ofReading])
      have podsFound := reflects.read (.pods r.ns) (.ok pods) (by simp [ofReading])
      have nodesFound := reflects.read .nodes (.ok all) (by simp [ofReading])
      have some : ∃ subset ∈ endpoints.subsets, subset.ready ≠ [] := by
        simpa [readyIPs_eq_nil] using ready
      constructor
      · intro none
        refine .inr ⟨endpoints, pods, all, found, podsFound, nodesFound, some, ?_⟩
        intro node member hosts
        exact none node (mem_nodesServing.mpr ⟨member, hosts⟩)
      · rintro (⟨other, same, idle⟩ | ⟨other, otherPods, others, same, samePods, sameNodes, _, none⟩)
        · cases found.symm.trans same
          obtain ⟨subset, member, ready⟩ := some
          exact absurd (idle subset member) ready
        · cases found.symm.trans same
          cases podsFound.symm.trans samePods
          cases nodesFound.symm.trans sameNodes
          intro node member
          obtain ⟨member, hosts⟩ := mem_nodesServing.mp member
          exact none node member hosts
  · rw [follows] at impossible
    cases impossible

theorem followed_targets {targets : List Target} (reflects : Reflects content trace)
    (completes : (targetsFor s kind r).run.Completes trace (.ok targets)) (follows : r.filterByEndpoints = true) :
    targets = [] ↔ Idle content r ∨ Stranded content r := by
  obtain ⟨service, resolved, readings, nodes, rfl, _, listed, rfl⟩ := targetsFor_succeeds.mp completes
  rw [Node.targets_eq_nil]
  exact followed_nodes (fun x member => reflects x (List.mem_cons_of_mem _ member)) listed follows

/-- Every push is for the whole of a specification without a list, and then not without targets,
or for a reference of the list; that is pushed without targets exactly when it follows its
endpoints and these are idle or stranded. -/
theorem pushed_without_targets_iff {backendSet : String} {targets : List Target}
    (reflects : Reflects content trace) (asks : (register s kind).run.Asks trace (.push backendSet targets)) :
    s.services = [] ∧ backendSet = s.backendSetName ∧ targets ≠ [] ∨
      ∃ r ∈ s.services, backendSet = s.backendSetFor r ∧
        (targets = [] ↔ r.filterByEndpoints = true ∧ (Idle content r ∨ Stranded content r)) := by
  unfold register at asks
  split at asks
  next =>
    obtain ⟨before, r, after, earlier, now, reports, same, rfl, _, asking⟩ := registerAll_asks.mp asks
    obtain ⟨completes, rfl, needed⟩ := registerReference_asks_push.mp asking
    refine .inr ⟨r, by simp [same], rfl, ?_⟩
    constructor
    · intro empty
      have follows := needed empty
      exact ⟨follows, (followed_targets reflects.append.2 completes follows).mp empty⟩
    · rintro ⟨follows, bare⟩
      exact (followed_targets reflects.append.2 completes follows).mpr bare
  next single =>
    rcases asks_attempt_bind.mp asks with asks | ⟨_, _, _, _, _, impossible⟩
    · obtain ⟨completes, rfl⟩ := registerSingle_asks_push.mp asks
      exact .inl ⟨by simpa [Spec.usesServiceList] using single, rfl, singleTargets_ne_nil completes⟩
    · exact absurd impossible asks_done

section HostnameOnly

/-! A service with a ready pod, on a node that has a name but no address inside the cluster. -/

def ingress : ServiceReference := ⟨"ingress", "web", .number 80, true, none, none⟩

def ingressSpec : Spec :=
  ⟨"ocid1.loadbalancer.oc1.iad.a", 0, 0, none, [ingress], 1, "bs",
    ⟨"u", "f", "t", "r", ⟨"", ⟨"s", "k"⟩⟩⟩⟩

def named (name : String) : Metadata := { Metadata.empty with name := some name }

def hostnameOnly : Content
  | .nodes => .ok [⟨named "node-a", [⟨"Hostname", "node-a"⟩]⟩]
  | .pods _ => .ok [⟨named "pod-a", some "node-a", some "10.1.0.7", []⟩]
  | .service _ name => .ok ⟨named name, some "NodePort", [⟨none, 80, some 30080⟩]⟩
  | .endpoints _ name => .ok ⟨named name, [⟨["10.1.0.7"], []⟩]⟩
  | .secret _ name => .error (.refused 404 "NotFound" name)

def answered (asked : Read) : Exchange reading := ⟨asked, hostnameOnly asked⟩

def hostnameReadings : Trace interface :=
  [Read.service "web" "ingress", .endpoints "web" "ingress", .pods "web", .nodes].map (ofReading ∘ answered)

private theorem hostname_reflects : Reflects hostnameOnly hostnameReadings := by
  intro x member r answer same
  simp only [hostnameReadings, List.mem_map] at member
  obtain ⟨asked, _, rfl⟩ := member
  cases same
  rfl

private theorem hostname_drained :
    (register ingressSpec .classic).run.Asks hostnameReadings (.push "bs" []) := by
  have listed : (Inventory.nodesForService ingress).run.Completes
      ([.endpoints "web" "ingress", .pods "web", .nodes].map answered)
      (.ok [⟨named "node-a", [⟨"Hostname", "node-a"⟩]⟩]) :=
    Inventory.nodesForService_succeeds.mpr ⟨_, .inr ⟨by decide, _, _, by decide, rfl⟩⟩
  have aimed : (targetsFor ingressSpec .classic ingress).run.Completes hostnameReadings (.ok []) :=
    targetsFor_succeeds.mpr
      ⟨_, 30080, _, _, rfl, rfl, nodesFor_succeeds.mpr ⟨_, rfl, .inl ⟨rfl, listed⟩⟩, by decide⟩
  exact registerAll_asks.mpr ⟨[], ingress, [], [], _, [], rfl, rfl, .start _,
    registerReference_asks_push.mpr ⟨aimed, by decide, fun _ => rfl⟩⟩

theorem hostname_pushed_without_targets :
    Reflects hostnameOnly hostnameReadings ∧
      (register ingressSpec .classic).run.Asks hostnameReadings (.push "bs" []) ∧
      (ingressSpec.services = [] ∧ "bs" = ingressSpec.backendSetName ∧ ([] : List Target) ≠ [] ∨
        ∃ r ∈ ingressSpec.services, "bs" = ingressSpec.backendSetFor r ∧
          (([] : List Target) = [] ↔
            r.filterByEndpoints = true ∧ (Idle hostnameOnly r ∨ Stranded hostnameOnly r))) :=
  ⟨hostname_reflects, hostname_drained, pushed_without_targets_iff hostname_reflects hostname_drained⟩

/-- A push without targets does not tell that no address is ready. -/
theorem not_idle_of_push_without_targets :
    ¬ ∀ (content : Content) (s : Spec) (kind : Cloud.Kind) (trace : Trace interface) (backendSet : String),
      Reflects content trace → (register s kind).run.Asks trace (.push backendSet []) →
        ∃ r ∈ s.services, backendSet = s.backendSetFor r ∧ r.filterByEndpoints = true ∧ Idle content r := by
  intro claim
  obtain ⟨r, member, _, _, endpoints, found, idle⟩ := claim _ _ _ _ _ hostname_reflects hostname_drained
  obtain rfl := List.mem_singleton.mp member
  cases found
  have none : ["10.1.0.7"] = [] := idle _ (List.mem_singleton.mpr rfl)
  cases none

end HostnameOnly

end BackendRegistrar.Registration
