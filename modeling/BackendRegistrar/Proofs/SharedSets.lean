import BackendRegistrar.Proofs.Effects

/-! What a load balancer holds once a list was registered. A set keeps what the last reference aims at
that names it, so references which share a set are all registered only if they aim at the same. -/

namespace BackendRegistrar
open Program
open Cloud (Balancer)
open Environment (Serves)
open Registration (Content Does aimed pushOf registered)

variable {config : Config} {r : Registrar} {content : Content} {ref last : ServiceReference} {b t : Balancer}
  {trace : Trace environment}

namespace Registrar

def balancerKind (r : Registrar) : Cloud.Kind := Cloud.Kind.detect r.spec.loadBalancerId

/-- What a reference of the list aims at, by the content of the cluster. -/
def aim (content : Content) (r : Registrar) (ref : ServiceReference) : Except Error (List Target) :=
  Registration.aim content r.spec r.balancerKind ref

/-- The set of a reference has exactly the backends that the reference aims at. -/
def Holds (content : Content) (r : Registrar) (t : Balancer) (ref : ServiceReference) : Prop :=
  ∃ set, t.shown? r.balancerKind (r.spec.backendSetFor ref) = some set ∧ r.aim content ref = .ok set.targets

/-- The last reference of the list that names the set. -/
def lastNaming (r : Registrar) (name : String) : Option ServiceReference :=
  (r.spec.services.filter fun ref => r.spec.backendSetFor ref = name).getLast?

/-- References that share a set aim at the same. -/
def Agree (content : Content) (r : Registrar) : Prop :=
  ∀ ref ∈ r.spec.services, ∀ other ∈ r.spec.services, r.spec.backendSetFor other = r.spec.backendSetFor ref →
    r.aim content other = r.aim content ref

def pushes (content : Content) (r : Registrar) : List (String × List Target) :=
  r.spec.services.map (pushOf content r.spec r.balancerKind)

theorem lastNaming_eq_some {name : String} (found : r.lastNaming name = some ref) :
    ref ∈ r.spec.services ∧ r.spec.backendSetFor ref = name := by
  simpa using List.mem_of_getLast? found

theorem lastNaming_of_mem (member : ref ∈ r.spec.services) :
    ∃ last, r.lastNaming (r.spec.backendSetFor ref) = some last := by
  have among : ref ∈ r.spec.services.filter fun other => r.spec.backendSetFor other = r.spec.backendSetFor ref := by
    simpa using member
  exact ⟨_, List.getLast?_eq_some_getLast (List.ne_nil_of_mem among)⟩

/-- Of the pushes for a list, the last for a set is that for the last reference that names it. -/
theorem lastFor_pushes (name : String) :
    Balancer.lastFor name (r.pushes content) = (r.lastNaming name).map (aimed content r.spec r.balancerKind) := by
  unfold Balancer.lastFor pushes lastNaming
  rw [← List.getLast?_map]
  congr 1
  induction r.spec.services with
  | nil => rfl
  | cons other rest ih => by_cases named : r.spec.backendSetFor other = name <;> simp [pushOf, named, ih]

/-- A set that is given what its references aim at, one after another, ends with what the last aims at. -/
theorem shown?_pushes (content : Content) {name : String} {first : Cloud.BackendSet}
    (shown : b.shown? r.balancerKind name = some first)
    (found : r.lastNaming name = some last) :
    ∃ set, (b.giveAll r.balancerKind (r.pushes content)).shown? r.balancerKind name = some set ∧
      set.targets = aimed content r.spec r.balancerKind last := by
  have later := Balancer.shown?_giveAll shown (r.pushes content)
  rw [lastFor_pushes, found] at later
  exact ⟨_, later, Cloud.BackendSetUpdate.described_targets _⟩

/-- Once all references were registered, the set of each holds what the last reference aims at that
names this set. -/
theorem holds_iff
    (carries : Carries (Does r.balancerKind) b (r.spec.services.flatMap (registered content r.spec r.balancerKind)) t)
    (aims : ∀ ref ∈ r.spec.services, r.aim content ref = .ok (aimed content r.spec r.balancerKind ref))
    (member : ref ∈ r.spec.services) :
    r.Holds content t ref ↔
      ∃ last, r.lastNaming (r.spec.backendSetFor ref) = some last ∧ r.aim content ref = r.aim content last := by
  obtain ⟨rfl, each⟩ := Registration.all_registered_give carries
  obtain ⟨first, shown⟩ := each ref member
  obtain ⟨last, found⟩ := lastNaming_of_mem member
  obtain ⟨set, holds, same⟩ := shown?_pushes content shown found
  have lastAims : r.aim content last = .ok set.targets := by
    rw [same]
    exact aims last (lastNaming_eq_some found).1
  constructor
  · intro ⟨other, shows, aims⟩
    obtain rfl : set = other := Option.some.inj (holds.symm.trans shows)
    exact ⟨last, found, aims.trans lastAims.symm⟩
  · intro ⟨other, named, agrees⟩
    obtain rfl : last = other := Option.some.inj (found.symm.trans named)
    exact ⟨set, holds, agrees.trans lastAims⟩

/-- All sets hold what their references aim at just if references that share a set agree. -/
theorem all_hold_iff
    (each : ∀ ref ∈ r.spec.services, r.Holds content t ref ↔
      ∃ last, r.lastNaming (r.spec.backendSetFor ref) = some last ∧ r.aim content ref = r.aim content last) :
    (∀ ref ∈ r.spec.services, r.Holds content t ref) ↔ r.Agree content := by
  constructor
  · intro all ref member other among shares
    obtain ⟨last, found, agrees⟩ := (each ref member).mp (all ref member)
    obtain ⟨again, same, alike⟩ := (each other among).mp (all other among)
    rw [shares, found] at same
    cases same
    rw [alike, agrees]
  · intro agree ref member
    obtain ⟨last, found⟩ := lastNaming_of_mem member
    obtain ⟨among, shares⟩ := lastNaming_eq_some found
    exact (each ref member).mpr ⟨last, found, (agree ref member last among shares).symm⟩

end Registrar

theorem connect_kind {connection : Connection} (completes : (connect config r).run.Completes trace (.ok connection)) :
    connection.kind = r.balancerKind := by
  obtain ⟨_, _, pem, _, _, later⟩ := succeeds_bind.mp completes
  obtain ⟨_, _, signer, _, _, last⟩ := succeeds_bind.mp later
  obtain ⟨_, _, _, _, _, ending⟩ := succeeds_bind.mp last
  obtain ⟨_, same⟩ := completes_done.mp ending
  cases same
  rfl

/-- To find out how to reach a service, no service is asked. -/
theorem connect_keeps {result : Except Error Connection} {id : String}
    (completes : (connect config r).run.Completes trace result) (carries : Carries (Serves id) b trace t) : t = b := by
  have never : (connect config r).run.Times (I := environment) Environment.Op.asksCloud 0 :=
    connect_times config r (fun _ => rfl) rfl
  exact Environment.unchanged carries (never.none completes)

namespace Pass

/-- Once a pass has registered a list, the set of each reference holds what the last reference aims at
that names this set. So all are registered if and only if references that share a set aim at the same. -/
theorem handleRegistering_holds_iff {outcome : Outcome} (listed : r.spec.services ≠ [])
    (completes : (handleRegistering config r).Completes trace outcome)
    (synced : outcome.occurrence = some .backendsSynced) (reflects : Environment.Reflects content trace)
    (carries : Carries (Serves r.spec.loadBalancerId) b trace t) :
    (∀ ref ∈ r.spec.services, r.Holds content t ref ↔
      ∃ last, r.lastNaming (r.spec.backendSetFor ref) = some last ∧ r.aim content ref = r.aim content last) ∧
    ((∀ ref ∈ r.spec.services, r.Holds content t ref) ↔ r.Agree content) := by
  rcases handleRegistering_completes completes with ⟨o, context, e, failed, rfl⟩ | ⟨reports, rfl, ran⟩
  · cases synced
    rcases failed with impossible | impossible <;> cases impossible
  · obtain ⟨_, connecting, registering, connection, short, rfl, connects, inside, spelled, _⟩ := ran
    obtain ⟨middle, before, after⟩ := carries_append.mp carries
    obtain rfl := connect_keeps connects before
    have does := Registration.does_of_spelled spelled after
    rw [connect_kind connects] at inside does
    rw [Registration.register_list listed] at inside
    have read := reflects.append.2.short spelled
    obtain ⟨done, rest, last, progress⟩ := Registration.registerAll_completes read inside
    obtain ⟨rfl, _, aims⟩ := progress.all
    have each := fun ref (member : ref ∈ r.spec.services) => Registrar.holds_iff does aims member
    exact ⟨each, Registrar.all_hold_iff each⟩

section SharedSet

/-! Two services without sets of their own: the second takes the set from the first. -/

def sharedShop : Registrar := Registration.shopRegistrar none

def sharedRun : Outcome × Balancer :=
  (handleRegistering .standard sharedShop).run
    (Environment.serve Registration.shopCluster sharedShop.spec.loadBalancerId fun _ => false) Registration.shopSets

private theorem shared_ends : sharedRun.1.occurrence = some .backendsSynced ∧
    (sharedRun.2.shown? sharedShop.balancerKind "bs").map Cloud.BackendSet.targets = some [⟨"10.0.0.1", 30443, 1⟩] := by
  decide +kernel

private theorem shared_ran :
    ∃ trace, (handleRegistering .standard sharedShop).Completes trace sharedRun.1 ∧
      Environment.Reflects Registration.shopCluster trace ∧
      Carries (Serves sharedShop.spec.loadBalancerId) Registration.shopSets trace sharedRun.2 :=
  Environment.serve_run (Prod.eta sharedRun).symm

theorem shared_holds_iff :
    ∃ trace outcome t, sharedShop.spec.services ≠ [] ∧
      (handleRegistering .standard sharedShop).Completes trace outcome ∧
      outcome.occurrence = some .backendsSynced ∧ Environment.Reflects Registration.shopCluster trace ∧
      Carries (Serves sharedShop.spec.loadBalancerId) Registration.shopSets trace t ∧
      (∀ ref ∈ sharedShop.spec.services, sharedShop.Holds Registration.shopCluster t ref ↔
        ∃ last, sharedShop.lastNaming (sharedShop.spec.backendSetFor ref) = some last ∧
          sharedShop.aim Registration.shopCluster ref = sharedShop.aim Registration.shopCluster last) ∧
      ((∀ ref ∈ sharedShop.spec.services, sharedShop.Holds Registration.shopCluster t ref) ↔
        sharedShop.Agree Registration.shopCluster) := by
  obtain ⟨trace, completes, reflects, carries⟩ := shared_ran
  have listed : sharedShop.spec.services ≠ [] := List.cons_ne_nil _ _
  exact ⟨trace, _, _, listed, completes, shared_ends.1, reflects, carries,
    handleRegistering_holds_iff listed completes shared_ends.1 reflects carries⟩

/-- That a pass has registered all references does not tell that their sets hold what they aim at. -/
theorem not_holds_of_registered :
    ¬ ∀ (config : Config) (r : Registrar) (content : Content) (b t : Balancer) (trace : Trace environment)
      (outcome : Outcome), r.spec.services ≠ [] → (handleRegistering config r).Completes trace outcome →
        outcome.occurrence = some .backendsSynced → Environment.Reflects content trace →
        Carries (Serves r.spec.loadBalancerId) b trace t → ∀ ref ∈ r.spec.services, r.Holds content t ref := by
  intro claim
  obtain ⟨trace, completes, reflects, carries⟩ := shared_ran
  have holds := claim _ _ _ _ _ _ _ (List.cons_ne_nil _ _) completes shared_ends.1 reflects carries
  obtain ⟨set, shown, same⟩ := holds Registration.shop List.mem_cons_self
  have aims : sharedShop.aim Registration.shopCluster Registration.shop = .ok [⟨"10.0.0.1", 30080, 1⟩] := rfl
  have shows := shared_ends.2
  change sharedRun.2.shown? sharedShop.balancerKind "bs" = some set at shown
  rw [shown, Option.map_some, Except.ok.inj (same.symm.trans aims)] at shows
  exact absurd shows (by decide)

end SharedSet

end Pass

end BackendRegistrar
