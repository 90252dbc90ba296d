import BackendRegistrar.Proofs.References
import BackendRegistrar.Proofs.Trigger

/-! What a registration depends on. It reads the endpoints of no service but those that it filters on, so a change of
any others alters neither its pushes nor what comes of them, and whoever a change concerns is reset for it. -/

namespace BackendRegistrar
open Program Cluster

variable {ns name : String} {r : ServiceReference} {s : Spec}

theorem ServiceReference.endpoints_mem_reads :
    Read.endpoints ns name ∈ r.reads ↔ (r.filterByEndpoints && r.targets ns name) = true := by
  cases filters : r.filterByEndpoints with
  | false => simp [reads, filters]
  | true => simp [reads, filters, targets, eq_comm (a := ns), eq_comm (a := name)]

/-- Just the endpoints that are filtered on can be read. -/
theorem Spec.endpoints_mem_reads : Read.endpoints ns name ∈ s.reads ↔ s.filtersOnEndpointsOf ns name = true := by
  simp [reads, filtersOnEndpointsOf, ServiceReference.endpoints_mem_reads]

namespace Registration

variable {kind : Cloud.Kind} {chosen : Op → Bool}

theorem pushReported_times {backendSet : String} {targets : List Target}
    (pushes : ∀ backendSet targets, chosen (.push backendSet targets) = false) :
    (pushReported backendSet targets).run.Times (I := interface) chosen 0 :=
  Times.attempt_never (.passed (pushes _ _) fun _ => .done _) fun _ => .done _

theorem registerAll_times {rs : List ServiceReference}
    (others : ∀ r ∈ rs, ∀ asked ∈ r.reads, chosen (.read asked) = false)
    (pushes : ∀ backendSet targets, chosen (.push backendSet targets) = false) :
    (registerAll s kind rs).run.Times (I := interface) chosen 0 := by
  induction rs with
  | nil => exact .done _
  | cons r rest ih =>
    have first : (registerReference s kind r).run.Times (I := interface) chosen 0 := by
      rw [registerReference_eq]
      apply Times.attempt_never (targetsFor_times (others r List.mem_cons_self))
      intro targets
      unfold pushFor
      split
      · exact .done _
      · exact pushReported_times pushes
    apply first.attempt_never
    intro report
    apply Times.attempt_never (ih fun other member => others other (List.mem_cons_of_mem _ member))
    exact fun reports => .done _

/-- A registration asks for nothing but readings that the specification leads to, and pushes. -/
theorem register_times (others : ∀ asked ∈ s.reads, chosen (.read asked) = false)
    (pushes : ∀ backendSet targets, chosen (.push backendSet targets) = false) :
    (register s kind).run.Times (I := interface) chosen 0 := by
  unfold register
  split
  · apply registerAll_times _ pushes
    exact fun r among asked member => others asked (Spec.mem_reads (List.mem_append_right _ among) member)
  · rw [registerSingle_eq]
    apply Times.attempt_never
    · exact (singleTargets_times others).attempt_never fun targets => pushReported_times pushes
    · exact fun report => .done _

/-- The endpoints of this name are read. -/
def Op.consults (ns name : String) : Op → Bool
  | read asked => decide (asked = .endpoints ns name)
  | push _ _ => false

def Op.push? : Op → Option (String × List Target)
  | read _ => none
  | push backendSet targets => some (backendSet, targets)

/-- A cluster of this content, beside a load balancer that answers pushes from its state. -/
def against (content : Content) (balancer : String → List Target → σ → Except CloudError Unit × σ) :
    (op : Op) → σ → op.Answer × σ
  | .read asked, b => (content asked, b)
  | .push backendSet targets, b => balancer backendSet targets b

/-- The pushes of a registration in order, what comes of it, and what it leaves of the load balancer. -/
def effect (s : Spec) (kind : Cloud.Kind) (content : Content)
    (balancer : String → List Target → σ → Except CloudError Unit × σ) (b : σ) :
    List (String × List Target) × Except Error (List Report) × σ :=
  (gathered Op.push? ((register s kind).run.played (against content balancer) b),
    (register s kind).run.run (against content balancer) b)

section Contents

variable {first second : Content}

theorem effect_congr (agree : ∀ asked, asked ≠ .endpoints ns name → first asked = second asked)
    (apart : s.filtersOnEndpointsOf ns name = false)
    (balancer : String → List Target → σ → Except CloudError Unit × σ) (b : σ) :
    effect s kind first balancer b = effect s kind second balancer b := by
  have never : (register s kind).run.Times (I := interface) (Op.consults ns name) 0 := by
    apply register_times _ fun _ _ => rfl
    rintro asked member
    refine decide_eq_false ?_
    rintro rfl
    rw [Spec.endpoints_mem_reads, apart] at member
    cases member
  have same (op : Op) (b : σ) (quiet : op.consults ns name = false) :
      against first balancer op b = against second balancer op b := by
    cases op with
    | read asked => exact congrArg (·, b) (agree asked (of_decide_eq_false quiet))
    | push backendSet targets => rfl
  obtain ⟨ends, plays⟩ := never.run_congr same b
  rw [effect, plays, ends, effect]

end Contents

/-- Contents of a cluster that agree on everything but the endpoints of one name are alike to a registration that does
not filter on these. So of the registrars that were registering or ready, a refresh for these endpoints writes each
that would push something else, or with another end. -/
theorem filter_complete (ns name : String) (first second : Content)
    (agree : ∀ asked, asked ≠ .endpoints ns name → first asked = second asked) :
    (∀ (s : Spec) (kind : Cloud.Kind), s.filtersOnEndpointsOf ns name = false →
      ∀ {σ : Type} (balancer : String → List Target → σ → Except CloudError Unit × σ) (b : σ),
        effect s kind first balancer b = effect s kind second balancer b) ∧
    ∀ (seen : List Registrar), ∀ r ∈ seen, r.phase.needsReset = true →
      (∃ (kind : Cloud.Kind) (σ : Type) (balancer : String → List Target → σ → Except CloudError Unit × σ) (b : σ),
        effect r.spec kind first balancer b ≠ effect r.spec kind second balancer b) →
      ∀ trace count, (Trigger.refreshForEndpoints seen ns name).Completes trace count →
        ∃ x ∈ trace, x.op = .writeStatus r.name (.reset .pending r) := by
  refine ⟨fun s kind apart σ balancer b => effect_congr agree apart balancer b, ?_⟩
  rintro seen r member needed ⟨kind, σ, balancer, b, differs⟩ trace count completes
  have filters : r.spec.filtersOnEndpointsOf ns name = true :=
    eq_true_of_ne_false fun apart => differs (effect_congr agree apart balancer b)
  obtain ⟨x, inside, written⟩ :=
    Trigger.resetCounted_completes completes (List.mem_filter.mpr ⟨member, filters⟩) needed
  rw [Trigger.resetWrite, Trigger.next_of_needsReset needed (.inr rfl)] at written
  exact ⟨x, inside, written⟩

section Awaited

/-! Endpoints that were missing and appear. Only a registrar that follows them pushes on account of that. -/

def awaitedCluster (found : Except Failure Endpoints) : Content
  | .nodes => .ok [⟨named "node-a", [⟨"InternalIP", "10.0.0.1"⟩]⟩]
  | .pods _ => .ok [⟨named "pod-a", some "node-a", some "10.1.0.7", []⟩]
  | .service _ name => .ok ⟨named name, some "NodePort", [⟨none, 80, some 30080⟩]⟩
  | .endpoints ns name => if ns = "web" ∧ name = "ingress" then found else .error (.refused 404 "NotFound" name)
  | .secret _ name => .error (.refused 404 "NotFound" name)

def withoutEndpoints : Content := awaitedCluster (.error (.refused 404 "NotFound" "ingress"))

def withEndpoints : Content := awaitedCluster (.ok ⟨named "ingress", [⟨["10.1.0.7"], []⟩]⟩)

def openSpec : Spec := { ingressSpec with services := [{ ingress with filterByEndpoints := false }] }

def waitingRegistrars : List Registrar :=
  [⟨named "open", openSpec, some ⟨.ready, none⟩⟩, ⟨named "waiting", ingressSpec, some ⟨.registering, none⟩⟩]

/-- A load balancer that takes everything, and counts. -/
def counting (_ : String) (_ : List Target) (count : Nat) : Except CloudError Unit × Nat := (.ok (), count + 1)

private theorem awaited_agree {found other : Except Failure Endpoints} {asked : Read}
    (elsewhere : asked ≠ .endpoints "web" "ingress") : awaitedCluster found asked = awaitedCluster other asked := by
  cases asked with
  | endpoints ns name =>
    have apart : ¬ (ns = "web" ∧ name = "ingress") := by
      rintro ⟨rfl, rfl⟩
      exact elsewhere rfl
    simp only [awaitedCluster, if_neg apart]
  | nodes | pods | service | secret => rfl

private theorem awaited_pushes :
    effect ingressSpec .classic withoutEndpoints counting 0 ≠ effect ingressSpec .classic withEndpoints counting 0 := by
  have before : (effect ingressSpec .classic withoutEndpoints counting 0).1 = [] := rfl
  have after : (effect ingressSpec .classic withEndpoints counting 0).1 = [("bs", [⟨"10.0.0.1", 30080, 1⟩])] := rfl
  intro same
  rw [same, after] at before
  cases before

theorem awaited_endpoints_noticed :
    (∀ asked, asked ≠ .endpoints "web" "ingress" → withoutEndpoints asked = withEndpoints asked) ∧
    openSpec.filtersOnEndpointsOf "web" "ingress" = false ∧
    effect openSpec .network withoutEndpoints counting 0 = effect openSpec .network withEndpoints counting 0 ∧
    effect ingressSpec .classic withoutEndpoints counting 0 ≠ effect ingressSpec .classic withEndpoints counting 0 ∧
    ∀ trace count, (Trigger.refreshForEndpoints waitingRegistrars "web" "ingress").Completes trace count →
      ∃ x ∈ trace, x.op = .writeStatus "waiting" ⟨.pending, none, none⟩ := by
  have agree (asked : Read) (elsewhere : asked ≠ .endpoints "web" "ingress") :
      withoutEndpoints asked = withEndpoints asked := awaited_agree elsewhere
  obtain ⟨unnoticed, reset⟩ := filter_complete "web" "ingress" withoutEndpoints withEndpoints agree
  refine ⟨agree, by decide, unnoticed openSpec .network (by decide) counting 0, awaited_pushes, ?_⟩
  exact reset waitingRegistrars _ (List.mem_cons_of_mem _ (List.mem_singleton.mpr rfl)) rfl
    ⟨.classic, Nat, counting, 0, awaited_pushes⟩

end Awaited

end Registration

end BackendRegistrar
